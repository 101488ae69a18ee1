import ServerLauncher.Proofs.Acquisition

/-!
# What an acquisition decides

The four ways of determining the path of the server exclude one another, and which of them is taken
depends only on the configuration, the platform and the files as they are at the beginning.  But for
the one download that is made in the third way, an acquisition does nothing that could be seen
outside: it only adds to the records.

A configured path is never lost on the way: a reference whose variable is missing or empty stays as
it is written, so that a text with at least one character stands for one with at least one.

## Main definitions

* `Machine.Tells`: a machine has got more records and is otherwise as it was.
* `Acquirer.Overrides`, `Acquirer.found`, `Acquirer.Downloads`: when the configured path counts,
  which candidate is the first acceptable one, and when a download is made.
* `Acquirer.Goes`: how an acquisition goes.
* `Acquirer.Returns`: an acquisition returns a path from a source.

## Main statements

* `Template.resolve_ne_empty`: a configured path never disappears.
* `Acquirer.searchOn_fst`: the search finds the first acceptable path.
* `Acquirer.acquire_goes`: how each acquisition goes.
* `Acquirer.acquire_decides`: which path an acquisition returns, and what it does.
-/

namespace ServerLauncher

open MachineAction

/-! ## Templates -/

namespace Template

theorem pieces_ne_nil {s : List Char} (h : s ≠ []) : pieces s ≠ [] := by
  cases s with
  | nil => exact absurd rfl h
  | cons c rest =>
    rw [pieces]
    split <;> simp

theorem Piece.written_ne_nil (form : Form) (name : List Char) :
    (reference form name).written ≠ [] := by
  cases form <;> simp [written]

/-- Whatever the variables are, each piece stands for at least one character. -/
theorem Piece.expand_ne_nil (environment : Environment) (piece : Piece) :
    piece.expand environment ≠ [] := by
  cases piece with
  | literal c => simp [expand]
  | reference form name =>
    rw [expand]
    rcases environment.get? (String.ofList name) with _ | value
    · exact written_ne_nil form name
    · by_cases hempty : value.isEmpty
      · simpa [hempty] using written_ne_nil form name
      · have hne : value.toList ≠ [] := by
          simpa [String.isEmpty_iff] using hempty
        simpa [hempty] using hne

/-- A text with at least one character stands for one with at least one. -/
theorem resolve_ne_empty (environment : Environment) {template : String} (h : template ≠ "") :
    resolve environment template ≠ "" := by
  have hpieces : pieces template.toList ≠ [] := pieces_ne_nil (by simpa using h)
  obtain ⟨piece, rest, heq⟩ := List.exists_cons_of_ne_nil hpieces
  rw [resolve, heq, List.flatMap_cons]
  have hpiece := piece.expand_ne_nil environment
  simp [hpiece]

theorem pieces_nil : pieces [] = [] := by
  rw [pieces]
  rfl

theorem resolve_empty (environment : Environment) : resolve environment "" = "" := by
  rw [resolve, String.toList_empty, pieces_nil]
  rfl

end Template

/-! ## Records -/

/-- A machine has got more records and is otherwise as it was. -/
def Machine.Tells (m m' : Machine) : Prop :=
  ∃ records, m'.toWorld = { m.toWorld with records := m.records ++ records }

/-- What is recorded of an acquisition. -/
def Acquisition.told (result : Acquisition) : List Record :=
  result.diagnostics.map (⟨.info, .acquirer, ·⟩) ++
    if result.source = .fallback then
      [⟨.warning, .acquirer,
        "Could not find capnp-ls executable. Make sure it is installed and in your PATH."⟩]
    else []

namespace Machine.Tells

variable {m m' m'' : Machine}

theorem refl (m : Machine) : m.Tells m := ⟨[], by simp⟩

theorem trans (h : m.Tells m') (h' : m'.Tells m'') : m.Tells m'' := by
  obtain ⟨records, heq⟩ := h
  obtain ⟨records', heq'⟩ := h'
  exact ⟨records ++ records', by rw [heq', heq]; simp⟩

theorem files_eq (h : m.Tells m') : m'.files = m.files := by
  obtain ⟨records, heq⟩ := h
  rw [heq]

theorem current_eq (h : m.Tells m') : m'.current = m.current := by
  obtain ⟨records, heq⟩ := h
  rw [heq]

theorem environment_eq (h : m.Tells m') : m'.environment = m.environment := by
  obtain ⟨records, heq⟩ := h
  rw [heq]

theorem location_eq (h : m.Tells m') : m'.location = m.location :=
  congrArg FileTree.locate h.current_eq

theorem events_eq (h : m.Tells m') : m'.events = m.events := by
  obtain ⟨records, heq⟩ := h
  rw [heq]

theorem started_eq (h : m.Tells m') : m'.started = m.started := by
  obtain ⟨records, heq⟩ := h
  rw [heq]

end Machine.Tells

theorem MachineAction.record_tells (level : Level) (source : Source) (message : String)
    (m : Machine) : m.Tells (record level source message m).2 := ⟨_, rfl⟩

namespace Acquirer

variable {a : Acquirer} {config : Config} {searchPath : Option String} {m : Machine}

theorem report_toWorld (result : Acquisition) (m : Machine) : (report result m).2.toWorld =
    { m.toWorld with records := m.records ++ result.told } := by
  unfold report Acquisition.told
  rw [change_bind_apply, foldl_record]
  split_ifs
  · simp [MachineAction.record, Machine.record]
  · simp

theorem report_tells (result : Acquisition) (m : Machine) : m.Tells (report result m).2 :=
  ⟨result.told, report_toWorld result m⟩

/-! ## The configured path -/

/-- The configured path, seen from the installation directory. -/
def configuredPath (a : Acquirer) (config : Config) (m : Machine) : String :=
  Path.join a.installDir (Template.resolve (m.bindings a.bindings) config.serverPath)

/-- The configured path counts: there is one, and it need not or does exist. -/
def Overrides (a : Acquirer) (config : Config) (m : Machine) : Prop :=
  config.serverPath ≠ "" ∧
    (config.policy = .strict ∨ m.files.exists m.location (a.configuredPath config m))

instance (a : Acquirer) (config : Config) (m : Machine) : Decidable (a.Overrides config m) :=
  inferInstanceAs (Decidable (_ ∧ _))

theorem overrideOn?_eq (a : Acquirer) (config : Config) (m : Machine) : a.overrideOn? config m =
    if config.serverPath = "" then none else some (a.configuredPath config m) := by
  unfold overrideOn? override? configuredPath
  by_cases hempty : config.serverPath = ""
  · simp [hempty, Template.resolve_empty]
  · have hne := Template.resolve_ne_empty (m.bindings a.bindings) hempty
    simp [hempty, String.isEmpty_iff, hne]

/-! ## The search -/

/-- A path is acceptable: it leads to a file that is executable, as far as that matters. -/
def accepts (a : Acquirer) (m : Machine) (path : String) : Bool :=
  m.files.isFile m.location path &&
    (m.files.isExecutable m.location path || a.ignoresPermissions)

/-- The first acceptable path among those to try. -/
def found (a : Acquirer) (searchPath : Option String) (m : Machine) : Option String :=
  (a.candidates searchPath m).find? (a.accepts m)

/-- The search finds the first acceptable path. -/
theorem searchOn_fst (a : Acquirer) (paths : List String) (m : Machine) :
    (a.searchOn paths m).1 = paths.find? (a.accepts m) := by
  unfold searchOn
  induction paths with
  | nil => rfl
  | cons path rest ih =>
    rw [search, List.find?_cons, accepts]
    by_cases hfile : m.files.isFile m.location path
    · by_cases hexecutable : m.files.isExecutable m.location path
      · simp [hfile, hexecutable]
      · by_cases hignored : a.ignoresPermissions
        · simp [hfile, hexecutable, hignored]
        · simpa [hfile, hexecutable, hignored] using ih
    · simpa [hfile] using ih

/-! ## The course -/

/-- A download of a release is made: the configured path does not count, no path is acceptable, and
there is a prebuilt server that may be downloaded. -/
structure Downloads (a : Acquirer) (config : Config) (searchPath : Option String) (m : Machine)
    (spec : DownloadSpec) : Prop where
  not_overrides : ¬a.Overrides config m
  not_found : a.found searchPath m = none
  enabled : config.downloadEnabled
  artifact : ∃ platform file, a.platform = some platform ∧ platform.artifact? = some file ∧
    spec = {
      version := config.serverVersion
      platform
      target := Path.join a.installDir a.binaryName
      url := releaseUrl config.serverVersion file }

theorem forPlatform_eq_some {spec : DownloadSpec} :
    DownloadSpec.forPlatform config.serverVersion a.platform a.installDir = some spec ↔
      ∃ platform file, a.platform = some platform ∧ platform.artifact? = some file ∧
        spec = {
          version := config.serverVersion
          platform
          target := Path.join a.installDir a.binaryName
          url := releaseUrl config.serverVersion file } := by
  unfold DownloadSpec.forPlatform binaryName
  rcases a.platform with _ | platform
  · simp
  · rcases hfile : platform.artifact? with _ | file
    · simp [hfile]
    · simp [hfile, eq_comm]

/-- The attempt to download a release, with the version and the time of the configuration. -/
def attempt (a : Acquirer) (config : Config) (spec : DownloadSpec) (m : Machine) :
    Except Fault FetchOutcome × Machine :=
  a.downloader.download spec.url spec.target config.downloadTimeout (announced spec m)

/-- How an acquisition goes.  The conditions exclude one another, and one of them always holds. -/
inductive Goes (a : Acquirer) (config : Config) (searchPath : Option String) (m : Machine) :
    Except Fault Acquisition → Machine → Prop where
  /-- The configured path counts. -/
  | override (ds : List String) {m' : Machine} (h : a.Overrides config m) (htells : m.Tells m') :
      Goes a config searchPath m (.ok ⟨a.configuredPath config m, .override, ds⟩) m'
  /-- A candidate is found. -/
  | candidate (path : String) (ds : List String) {m' : Machine} (h : ¬a.Overrides config m)
      (hfound : a.found searchPath m = some path) (htells : m.Tells m') :
      Goes a config searchPath m (.ok ⟨path, .candidate, ds⟩) m'
  /-- A download succeeds. -/
  | downloaded {spec : DownloadSpec} (n : Nat) (ds : List String) {m₁ m' : Machine}
      (h : a.Downloads config searchPath m spec)
      (hattempt : a.attempt config spec m = (.ok (.succeeded n), m₁)) (htells : m₁.Tells m') :
      Goes a config searchPath m (.ok ⟨spec.target, .download, ds⟩) m'
  /-- A download fails. -/
  | failed {spec : DownloadSpec} (problem : Problem) (cause : Option Fault) (ds : List String)
      {m₁ m' : Machine} (h : a.Downloads config searchPath m spec)
      (hattempt : a.attempt config spec m = (.ok (.failed problem cause), m₁))
      (htells : m₁.Tells m') : Goes a config searchPath m (.ok ⟨a.binaryName, .fallback, ds⟩) m'
  /-- A download has no outcome, and neither has the acquisition. -/
  | escaped {spec : DownloadSpec} (e : Fault) {m' : Machine}
      (h : a.Downloads config searchPath m spec)
      (hattempt : a.attempt config spec m = (.error e, m')) :
      Goes a config searchPath m (.error e) m'
  /-- Nothing is found and nothing is tried. -/
  | fallback (ds : List String) {m' : Machine} (h : ¬a.Overrides config m)
      (hfound : a.found searchPath m = none)
      (hnone : ∀ spec, ¬a.Downloads config searchPath m spec) (htells : m.Tells m') :
      Goes a config searchPath m (.ok ⟨a.binaryName, .fallback, ds⟩) m'

theorem report_eq (result : Acquisition) (m : Machine) :
    report result m = (.ok result, (report result m).2) := Prod.ext (report_fst result m) rfl

theorem downloadOr_goes (h : ¬a.Overrides config m) (hfound : a.found searchPath m = none)
    (ds : List String) : a.Goes config searchPath m (a.downloadOr config ds m).1
      (a.downloadOr config ds m).2 := by
  unfold downloadOr
  rcases hspec : DownloadSpec.forPlatform config.serverVersion a.platform a.installDir with _ | spec
  · refine .fallback _ h hfound ?_ (report_tells _ m)
    rintro spec ⟨-, -, -, hartifact⟩
    rw [← forPlatform_eq_some, hspec] at hartifact
    cases hartifact
  dsimp only
  by_cases henabled : config.downloadEnabled
  · have hdownloads : a.Downloads config searchPath m spec :=
      ⟨h, hfound, henabled, forPlatform_eq_some.mp hspec⟩
    have hfetch := fetch_apply a.downloader spec config.downloadTimeout m
    rw [if_neg (by simp [henabled])]
    rcases hattempt : a.attempt config spec m with ⟨fault | ⟨n⟩ | ⟨problem, cause⟩, m₁⟩
    · rw [bind_of_error (hfetch.trans hattempt)]
      exact .escaped fault hdownloads hattempt
    · rw [bind_of_ok (hfetch.trans hattempt)]
      dsimp only [FetchOutcome.fault?]
      rw [report_eq]
      exact .downloaded n _ hdownloads hattempt (report_tells _ m₁)
    · rw [bind_of_ok (hfetch.trans hattempt)]
      dsimp only [FetchOutcome.fault?]
      rw [fallBack, report_eq]
      exact .failed problem cause _ hdownloads hattempt (report_tells _ m₁)
  · rw [if_pos (by simpa using henabled), fallBack, report_eq]
    exact .fallback _ h hfound (fun spec hspec => henabled hspec.enabled) (report_tells _ m)

theorem searchOr_goes (h : ¬a.Overrides config m) (ds : List String) :
    a.Goes config searchPath m (a.searchOr config searchPath ds m).1
      (a.searchOr config searchPath ds m).2 := by
  unfold searchOr
  rw [observe_bind_apply]
  have hfst := a.searchOn_fst (a.candidates searchPath m) m
  rcases hsearch : a.searchOn (a.candidates searchPath m) m with ⟨_ | path, more⟩
  · rw [hsearch] at hfst
    exact downloadOr_goes h hfst.symm _
  · rw [hsearch] at hfst
    dsimp only
    rw [report_eq]
    exact .candidate path _ h hfst.symm (report_tells _ m)

/-- How each acquisition goes. -/
theorem acquire_goes (a : Acquirer) (config : Config) (searchPath : Option String) (m : Machine) :
    a.Goes config searchPath m (a.acquire config searchPath m).1
      (a.acquire config searchPath m).2 := by
  unfold acquire
  rw [observe_bind_apply, overrideOn?_eq]
  by_cases hempty : config.serverPath = ""
  · rw [if_pos hempty]
    exact searchOr_goes (fun h => h.1 hempty) []
  rw [if_neg hempty]
  dsimp only
  rw [pathExists, observe_bind_apply]
  by_cases hmissing : config.policy = .fallback ∧
      m.files.exists m.location (a.configuredPath config m) = false
  · rw [if_pos (by simp [hmissing.1, hmissing.2])]
    refine searchOr_goes ?_ _
    rintro ⟨-, hstrict | hexists⟩
    · rw [hmissing.1] at hstrict
      cases hstrict
    · rw [hmissing.2] at hexists
      cases hexists
  · rw [if_neg (by simpa using hmissing), report_eq]
    refine .override _ ⟨hempty, ?_⟩ (report_tells _ m)
    rcases hpolicy : config.policy with _ | _
    · exact .inl rfl
    · right
      simpa [hpolicy] using hmissing

/-! ## The decision -/

/-- An acquisition returns a path from a source. -/
def Returns (result : Except Fault Acquisition) (source : AcquisitionSource) (path : String) :
    Prop :=
  ∃ ds, result = .ok ⟨path, source, ds⟩

/-- What an acquisition returns and what it does, in terms of the configuration and of the machine
as it is at the beginning. -/
structure Decides (a : Acquirer) (config : Config) (searchPath : Option String) (m : Machine)
    (result : Except Fault Acquisition) (m' : Machine) : Prop where
  override (path : String) : Returns result .override path ↔
    a.Overrides config m ∧ path = a.configuredPath config m
  candidate (path : String) : Returns result .candidate path ↔
    ¬a.Overrides config m ∧ a.found searchPath m = some path
  download (path : String) : Returns result .download path ↔
    ∃ spec n, a.Downloads config searchPath m spec ∧ path = spec.target ∧
      (a.attempt config spec m).1 = .ok (.succeeded n)
  fallback (path : String) : Returns result .fallback path ↔
    path = a.binaryName ∧ ¬a.Overrides config m ∧ a.found searchPath m = none ∧
      ∀ spec, a.Downloads config searchPath m spec →
        ∃ problem cause, (a.attempt config spec m).1 = .ok (.failed problem cause)
  /-- An acquisition returns nothing only if its download does. -/
  escape (e : Fault) : result = .error e ↔
    ∃ spec, a.Downloads config searchPath m spec ∧ (a.attempt config spec m).1 = .error e
  /-- The one attempt that is made does everything that is done. -/
  attempted (spec : DownloadSpec) (h : a.Downloads config searchPath m spec) :
    (a.attempt config spec m).2.Tells m'
  untouched (h : ∀ spec, ¬a.Downloads config searchPath m spec) : m.Tells m'

theorem Downloads.unique {spec spec' : DownloadSpec} (h : a.Downloads config searchPath m spec)
    (h' : a.Downloads config searchPath m spec') : spec = spec' := by
  have hspec := forPlatform_eq_some.mpr h.artifact
  have hspec' := forPlatform_eq_some.mpr h'.artifact
  rw [hspec] at hspec'
  exact Option.some.inj hspec'

theorem Downloads.target_eq {spec : DownloadSpec} (h : a.Downloads config searchPath m spec) :
    spec.target = Path.join a.installDir a.binaryName := by
  obtain ⟨platform, file, -, -, rfl⟩ := h.artifact
  rfl

namespace Goes

variable {result : Except Fault Acquisition} {m' : Machine}

theorem override_iff (h : a.Goes config searchPath m result m') (path : String) :
    Returns result .override path ↔ a.Overrides config m ∧ path = a.configuredPath config m := by
  constructor
  · rintro ⟨ds, heq⟩
    cases h with
    | override _ hoverrides _ =>
      cases heq
      exact ⟨hoverrides, rfl⟩
    | _ => cases heq
  · rintro ⟨hoverrides, rfl⟩
    cases h with
    | override ds _ _ => exact ⟨ds, rfl⟩
    | candidate _ _ hnot => exact absurd hoverrides hnot
    | downloaded _ _ hdownloads => exact absurd hoverrides hdownloads.not_overrides
    | failed _ _ _ hdownloads => exact absurd hoverrides hdownloads.not_overrides
    | escaped _ hdownloads => exact absurd hoverrides hdownloads.not_overrides
    | fallback _ hnot => exact absurd hoverrides hnot

theorem candidate_iff (h : a.Goes config searchPath m result m') (path : String) :
    Returns result .candidate path ↔
      ¬a.Overrides config m ∧ a.found searchPath m = some path := by
  constructor
  · rintro ⟨ds, heq⟩
    cases h with
    | candidate _ _ hnot hfound _ =>
      cases heq
      exact ⟨hnot, hfound⟩
    | _ => cases heq
  · rintro ⟨hnot, hfound⟩
    have hsome : a.found searchPath m ≠ none := by simp [hfound]
    cases h with
    | override _ hoverrides _ => exact absurd hoverrides hnot
    | candidate path' ds _ hfound' _ =>
      rw [hfound] at hfound'
      cases hfound'
      exact ⟨ds, rfl⟩
    | downloaded _ _ hdownloads => exact absurd hdownloads.not_found hsome
    | failed _ _ _ hdownloads => exact absurd hdownloads.not_found hsome
    | escaped _ hdownloads => exact absurd hdownloads.not_found hsome
    | fallback _ _ hnone => exact absurd hnone hsome

/-- Where a download is made, the attempt settles what is returned. -/
theorem of_downloads (h : a.Goes config searchPath m result m') {spec : DownloadSpec}
    (hdownloads : a.Downloads config searchPath m spec) :
    (a.attempt config spec m).2.Tells m' ∧
      ((∃ n, (a.attempt config spec m).1 = .ok (.succeeded n) ∧
          Returns result .download spec.target) ∨
        (∃ problem cause, (a.attempt config spec m).1 = .ok (.failed problem cause) ∧
          Returns result .fallback a.binaryName) ∨
        ∃ e, (a.attempt config spec m).1 = .error e ∧ result = .error e) := by
  cases h with
  | override _ hoverrides _ => exact absurd hoverrides hdownloads.not_overrides
  | candidate _ _ _ hfound _ =>
    rw [hdownloads.not_found] at hfound
    cases hfound
  | downloaded n ds hdownloads' hattempt htells =>
    cases hdownloads.unique hdownloads'
    rw [hattempt]
    exact ⟨htells, .inl ⟨n, rfl, ds, rfl⟩⟩
  | failed problem cause ds hdownloads' hattempt htells =>
    cases hdownloads.unique hdownloads'
    rw [hattempt]
    exact ⟨htells, .inr (.inl ⟨problem, cause, rfl, ds, rfl⟩)⟩
  | escaped e hdownloads' hattempt =>
    cases hdownloads.unique hdownloads'
    rw [hattempt]
    exact ⟨.refl _, .inr (.inr ⟨e, rfl, rfl⟩)⟩
  | fallback _ _ _ hnone _ => exact absurd hdownloads (hnone spec)

theorem download_iff (h : a.Goes config searchPath m result m') (path : String) :
    Returns result .download path ↔
      ∃ spec n, a.Downloads config searchPath m spec ∧ path = spec.target ∧
        (a.attempt config spec m).1 = .ok (.succeeded n) := by
  constructor
  · rintro ⟨ds, heq⟩
    cases h with
    | downloaded n _ hdownloads hattempt _ =>
      cases heq
      exact ⟨_, n, hdownloads, rfl, congrArg Prod.fst hattempt⟩
    | _ => cases heq
  · rintro ⟨spec, n, hdownloads, rfl, hsucceeded⟩
    obtain ⟨-, ⟨-, -, hreturns⟩ | ⟨problem, cause, hfailed, -⟩ | ⟨e, he, -⟩⟩ :=
      h.of_downloads hdownloads
    · exact hreturns
    · rw [hsucceeded] at hfailed
      cases hfailed
    · rw [hsucceeded] at he
      cases he

theorem fallback_iff (h : a.Goes config searchPath m result m') (path : String) :
    Returns result .fallback path ↔
      path = a.binaryName ∧ ¬a.Overrides config m ∧ a.found searchPath m = none ∧
        ∀ spec, a.Downloads config searchPath m spec →
          ∃ problem cause, (a.attempt config spec m).1 = .ok (.failed problem cause) := by
  constructor
  · rintro ⟨ds, heq⟩
    cases h with
    | failed problem cause _ hdownloads hattempt _ =>
      cases heq
      refine ⟨rfl, hdownloads.not_overrides, hdownloads.not_found, fun spec hspec => ?_⟩
      cases hdownloads.unique hspec
      exact ⟨problem, cause, congrArg Prod.fst hattempt⟩
    | fallback _ hnot hfound hnone _ =>
      cases heq
      exact ⟨rfl, hnot, hfound, fun spec hspec => absurd hspec (hnone spec)⟩
    | _ => cases heq
  · rintro ⟨rfl, hnot, hfound, hfails⟩
    cases h with
    | override _ hoverrides _ => exact absurd hoverrides hnot
    | candidate _ _ _ hfound' _ =>
      rw [hfound] at hfound'
      cases hfound'
    | downloaded n _ hdownloads hattempt _ =>
      obtain ⟨problem, cause, hfailed⟩ := hfails _ hdownloads
      rw [hattempt] at hfailed
      cases hfailed
    | failed _ _ ds => exact ⟨ds, rfl⟩
    | escaped e hdownloads hattempt =>
      obtain ⟨problem, cause, hfailed⟩ := hfails _ hdownloads
      rw [hattempt] at hfailed
      cases hfailed
    | fallback ds => exact ⟨ds, rfl⟩

theorem escape_iff (h : a.Goes config searchPath m result m') (e : Fault) :
    result = .error e ↔
      ∃ spec, a.Downloads config searchPath m spec ∧ (a.attempt config spec m).1 = .error e := by
  constructor
  · intro heq
    cases h with
    | escaped _ hdownloads hattempt =>
      cases heq
      exact ⟨_, hdownloads, congrArg Prod.fst hattempt⟩
    | _ => cases heq
  · rintro ⟨spec, hdownloads, hattempt⟩
    obtain ⟨-, ⟨n, hsucceeded, -⟩ | ⟨problem, cause, hfailed, -⟩ | ⟨e', he', heq⟩⟩ :=
      h.of_downloads hdownloads
    · rw [hattempt] at hsucceeded
      cases hsucceeded
    · rw [hattempt] at hfailed
      cases hfailed
    · rw [hattempt] at he'
      cases he'
      exact heq

theorem untouched (h : a.Goes config searchPath m result m')
    (hnone : ∀ spec, ¬a.Downloads config searchPath m spec) : m.Tells m' := by
  cases h with
  | override _ _ htells => exact htells
  | candidate _ _ _ _ htells => exact htells
  | downloaded _ _ hdownloads => exact absurd hdownloads (hnone _)
  | failed _ _ _ hdownloads => exact absurd hdownloads (hnone _)
  | escaped _ hdownloads => exact absurd hdownloads (hnone _)
  | fallback _ _ _ _ htells => exact htells

theorem decides (h : a.Goes config searchPath m result m') :
    a.Decides config searchPath m result m' where
  override := h.override_iff
  candidate := h.candidate_iff
  download := h.download_iff
  fallback := h.fallback_iff
  escape := h.escape_iff
  attempted _ hdownloads := (h.of_downloads hdownloads).1
  untouched := h.untouched

end Goes

/-- Under the strict policy the files do not matter for a configured path. -/
theorem acquire_of_strict (hconfigured : config.serverPath ≠ "") (hstrict : config.policy = .strict)
    (searchPath : Option String) : ∃ ds records, ∀ files : FileTree,
      (a.acquire config searchPath { m with files }).1 =
        .ok ⟨a.configuredPath config m, .override, ds⟩ ∧
      (a.acquire config searchPath { m with files }).2.toWorld =
        { m.toWorld with files, records := m.records ++ records } := by
  set path := a.configuredPath config m
  set result : Acquisition := ⟨path, .override, ["Using configured server path: " ++ path]⟩
  refine ⟨result.diagnostics, result.told, fun files => ?_⟩
  unfold acquire
  rw [observe_bind_apply, overrideOn?_eq, if_neg hconfigured]
  dsimp only
  rw [pathExists, observe_bind_apply, if_neg (by simp [hstrict]), report_eq]
  exact ⟨rfl, report_toWorld _ _⟩

/-- The path of the server is the configured one if that counts, or else the first acceptable
candidate, or else that of the one download if it succeeds, or else the bare name.  Nothing but the
download is done; and for a configured path under the strict policy the files are not looked at. -/
theorem acquire_decides (a : Acquirer) (config : Config) (searchPath : Option String)
    (m : Machine) :
    a.Decides config searchPath m (a.acquire config searchPath m).1
      (a.acquire config searchPath m).2 ∧
    (config.serverPath ≠ "" →
      (∀ environment, Template.resolve environment config.serverPath ≠ "") ∧
      (config.policy = .strict → ∃ ds records, ∀ files : FileTree,
        (a.acquire config searchPath { m with files }).1 =
          .ok ⟨a.configuredPath config m, .override, ds⟩ ∧
        (a.acquire config searchPath { m with files }).2.toWorld =
          { m.toWorld with files, records := m.records ++ records })) := by
  refine ⟨(a.acquire_goes config searchPath m).decides, fun hconfigured => ⟨?_, ?_⟩⟩
  · exact fun environment => Template.resolve_ne_empty environment hconfigured
  · exact fun hstrict => acquire_of_strict hconfigured hstrict searchPath

/-- A variable that is not set stands for itself, and the configured path is returned though there
are no files. -/
theorem acquire_decides_unset :
    let a : Acquirer := { installDir := "/i", platform := none }
    let config : Config := { serverPath := "$SERVER" }
    (config.serverPath ≠ "" ∧ config.policy = .strict) ∧
      Returns (a.acquire config none {}).1 .override "/i/$SERVER" ∧
      ∀ files, ∃ ds, (a.acquire config none { files }).1 = .ok ⟨"/i/$SERVER", .override, ds⟩ := by
  intro a config
  obtain ⟨hdecides, hconfigured⟩ := a.acquire_decides config none {}
  have hne : config.serverPath ≠ "" := by decide
  have hpath : a.configuredPath config {} = "/i/$SERVER" := by decide +kernel
  obtain ⟨ds, records, hall⟩ := (hconfigured hne).2 rfl
  have hoverride := (hdecides.override _).mpr ⟨⟨hne, .inl rfl⟩, hpath.symm⟩
  refine ⟨⟨hne, rfl⟩, hoverride, fun files => ⟨ds, ?_⟩⟩
  rw [← hpath]
  exact (hall files).1

end Acquirer

end ServerLauncher
