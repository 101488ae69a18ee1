import ServerLauncher.Proofs.Acquisition
import ServerLauncher.Proofs.Artifact
import ServerLauncher.Proofs.Cleanup

/-!
# The integrity of the installed server

A file that was downloaded in part never becomes executable.  The search has rejected whatever lay
at the target, opening it keeps its permissions, and they are changed last, when nothing can fail
any more.  So the file in an installation directory is complete whenever it is executable, over any
number of acquisitions.

## Main definitions

* `World.IsSound`: an executable file holds the whole body of one of some answers.
* `Acquirer.Reaches`: the machines that any number of acquisitions lead to.

## Main statements

* `Attempt.perform_moments`: the target becomes executable at the end of a successful attempt.
* `Downloader.download_moments`: what lies at the target during a download.
* `Acquirer.create_installDir`: installation directories are absolute and normalized.
* `Acquirer.Reaches.sound`, `Acquirer.server_is_complete`: an installed server that is executable is
  complete.
-/

namespace ServerLauncher

open MachineAction World StepKind

/-! ## Soundness -/

/-- Bytes that are the whole body of one of some answers, which has status 200. -/
def IsBodyOf (rs : List Response) (content : ByteArray) : Prop :=
  ∃ r ∈ rs, r.status = 200 ∧ (∀ chunk ∈ r.chunks, ∃ bytes, chunk.content = .ok bytes) ∧
    content = bytesOf r.chunks

/-- A file at a location that is executable holds the whole body of one of some answers. -/
def World.IsSound (w : World) (l : Location) (rs : List Response) : Prop :=
  ∀ content mode, w.files.get? l = some (.file content mode) → mode &&& executeBits ≠ 0 →
    IsBodyOf rs content

namespace World.IsSound

variable {w w' : World} {l : Location} {rs rs' : List Response}

theorem mono (h : w.IsSound l rs) (hrs : rs ⊆ rs') : w.IsSound l rs' := by
  intro content mode hentry hmode
  obtain ⟨r, hr, hbody⟩ := h content mode hentry hmode
  exact ⟨r, hrs hr, hbody⟩

theorem of_get?_eq (h : w.IsSound l rs) (hsame : w'.files.get? l = w.files.get? l) :
    w'.IsSound l rs := by
  intro content mode hentry
  rw [hsame] at hentry
  exact h content mode hentry

theorem of_lacksExecution (h : w.LacksExecution l) : w.IsSound l rs :=
  fun content mode hentry hmode => absurd (h content mode hentry) hmode

end World.IsSound

/-! ## Attempts -/

/-- What lies at a location lies in directories. -/
def FileTree.IsRooted (t : FileTree) (l : Location) : Prop :=
  t.get? l ≠ none → ∀ n < l.length, t.get? (l.take n) = some .directory

/-- All steps but those that change permissions. -/
def StepKind.keeping : Set StepKind := {k | ∀ l, k ≠ .permission l}

namespace Attempt

variable {a : Attempt} {m : Machine} {w : World}

/-- The stages end with a change of permissions and succeed, or they make none. -/
theorem run_permits (a : Attempt) (m : Machine) : m.Leads (StepOf keeping) (a.run m).2 ∨
    ∃ m₁ files n, m.Leads (StepOf keeping) m₁ ∧
      a.run m = (.ok n, { m₁.onward with files }) := by
  have hdelivering : m.Leads (StepOf keeping) (a.deliver m).2 :=
    (a.deliver_makes m).of_subset fun k hk l => (hk l).1
  unfold run
  rcases hm : a.deliver m with ⟨e | _, m₁⟩
  · rw [bind_of_error hm]
    rw [hm] at hdelivering
    exact .inl hdelivering
  rw [bind_of_ok hm]
  rw [hm] at hdelivering
  have hfinishing : finishing ⊆ keeping := by simp [finishing, keeping, Set.insert_subset_iff]
  rcases a.makeExecutable_cases m₁ with ⟨hleads, e, he⟩ | ⟨-, ⟨-, heq⟩ |
    ⟨-, m₂, size, mode, files, hleads, -, -, heq⟩⟩
  · rw [bind_of_error (Prod.ext he rfl)]
    exact .inl (hdelivering.trans (hleads.of_subset hfinishing))
  · rw [bind_of_ok heq]
    exact .inl hdelivering
  · rw [bind_of_ok heq]
    exact .inr ⟨m₂, files, _, hdelivering.trans (hleads.of_subset hfinishing), rfl⟩

/-- The target becomes executable in the last change of the files of a successful attempt, or not at
all. -/
theorem perform_moments (hw : w ∈ a.perform.moments m) :
    (∀ l, m.LacksExecution l → w.LacksExecution l) ∨
      ∃ n, (a.perform m).1 = .ok (.succeeded n) ∧ w.files = (a.perform m).2.files := by
  unfold moments at hw
  rw [perform_apply] at hw ⊢
  dsimp only at hw ⊢
  rcases a.run_permits m with hleads | ⟨m₁, files, n, hleads, heq⟩
  · have hclearing : clearing Set.univ ⊆ keeping := by
      refine Set.union_subset ?_ ?_
      · simp [keeping, Set.insert_subset_iff]
      · rintro k ⟨l', -, rfl⟩
        simp [keeping]
    have hafter := a.afterRun_leads (Path.leadsInto_univ a.target) (a.run m).1 (a.run m).2
    have hall := hleads.trans (hafter.of_subset hclearing)
    obtain ⟨m₂, h₂, -, rfl⟩ := hall.of_mem_momentsSince hw
    exact .inl fun l => h₂.lacksExecution (by simp [keeping])
  · rw [heq] at hw ⊢
    dsimp only at hw ⊢
    set m₂ : Machine := { m₁.onward with files }
    have hchange : m.Leads (fun _ _ => True) m₂ :=
      (hleads.mono fun _ _ _ => trivial).trans (.step rfl trivial)
    have hafter := a.afterRun_ok_leads (n := n) m₂
    have hfiles : ∀ {m₃ : Machine}, m₂.Leads (StepOf {.note, .alarm}) m₃ → m₃.files = m₂.files :=
      fun h => h.files_eq (by simp [location?])
    rcases hchange.mem_momentsSince_or hafter hw with hw | hw
    · rw [hleads.momentsSince_step rfl, List.mem_append, List.mem_singleton] at hw
      rcases hw with hw | rfl
      · obtain ⟨m₃, h₃, -, rfl⟩ := hleads.of_mem_momentsSince hw
        exact .inl fun l => h₃.lacksExecution (by simp [keeping])
      · exact .inr ⟨n, rfl, (hfiles hafter).symm⟩
    · obtain ⟨m₃, h₃, -, rfl⟩ := hafter.of_mem_momentsSince hw
      exact .inr ⟨n, rfl, (hfiles h₃).trans (hfiles hafter).symm⟩

/-! ### The target -/

section Target

variable {slashes : List Char} {components : List (List Char)}

/-- At each moment the target is as it was, or is not executable, or is complete, if it was not
executable before.  If its path cannot be opened at all it need not be known what was there. -/
theorem target_moments (h : Path.Spells slashes components a.target) (hne : components ≠ [])
    (hopened : m.transfer.hasOpened = false)
    (hlacks : Path.holdsNull a.target = false → m.LacksExecution (FileTree.locate a.target))
    (hw : w ∈ a.perform.moments m) :
    w.files.get? (FileTree.locate a.target) = m.files.get? (FileTree.locate a.target) ∨
      w.LacksExecution (FileTree.locate a.target) ∨
      ∃ n, (a.perform m).1 = .ok (.succeeded n) ∧ w.files = (a.perform m).2.files := by
  rcases a.run_cases (makeDirectoryFor_makes_above h hne) h.leadsInto m with
    ⟨hleads, e, he⟩ | ⟨m₁, l, m₂, hbefore, hopens, -⟩
  · left
    have hall := a.perform_leads_of_not_opened hopened hleads he
    obtain ⟨m₃, h₃, -, rfl⟩ := hall.of_mem_momentsSince hw
    exact get?_eq_of_not_opened h hne h₃
  · right
    have hpath := (h.walk_eq_ok.mp hopens.walk).1
    exact (perform_moments hw).imp_left fun hkeeps => hkeeps _ (hlacks hpath)

/-- The target lies in directories after the attempt if it did before. -/
theorem perform_isRooted (h : Path.Spells slashes components a.target) (hne : components ≠ [])
    (hopened : m.transfer.hasOpened = false)
    (hrooted : m.files.IsRooted (FileTree.locate a.target)) :
    (a.perform m).2.files.IsRooted (FileTree.locate a.target) := by
  intro hthere n hn
  rcases a.run_cases (makeDirectoryFor_makes_above h hne) h.leadsInto m with
    ⟨hleads, e, he⟩ | ⟨m₁, l, m₂, -, hopens, hafter⟩
  · have hall := a.perform_leads_of_not_opened hopened hleads he
    rw [get?_eq_of_not_opened h hne hall] at hthere
    exact hall.precedes.directories _ (hrooted hthere n hn)
  · obtain ⟨-, rfl, hdirectories⟩ := h.walk_eq_ok.mp hopens.walk
    have hopening : m₂.Leads (StepOf {.opening}) (afterOpening m₂) :=
      afterOpening_leads (by simp) m₂
    have hclearing := a.afterRun_leads h.leadsInto (a.run m).1 (a.run m).2
    have hlater := hopens.leads.precedes.trans
      (hopening.precedes.trans (hafter.precedes.trans hclearing.precedes))
    rw [perform_apply]
    exact hlater.directories _ (hdirectories n hn)

end Target

end Attempt

/-! ## Downloads -/

namespace Downloader

variable {d : Downloader} {url target : String} {timeout : Double} {m : Machine} {w : World}
  {slashes : List Char} {components : List (List Char)}

/-- At each moment of a download the target is as it was, or is not executable, or is complete, if
it was not executable before. -/
theorem download_moments (h : Path.Spells slashes components target) (hne : components ≠ [])
    (hlacks : Path.holdsNull target = false → m.LacksExecution (FileTree.locate target))
    (hw : w ∈ (d.download url target timeout).moments m) :
    w.files.get? (FileTree.locate target) = m.files.get? (FileTree.locate target) ∨
      w.LacksExecution (FileTree.locate target) ∨
      ∃ n, (d.download url target timeout m).1 = .ok (.succeeded n) ∧
        w.files = (d.download url target timeout m).2.files := by
  unfold moments at hw
  rw [download_apply] at hw ⊢
  set a := d.attemptOn url target timeout m
  have hfiles := a.begin_files m
  have hopened : (a.begin m).2.transfer.hasOpened = false := rfl
  have hbegin : m.Leads (fun w w' => w'.files = w.files) (a.begin m).2 :=
    a.begin_leads (R := fun w w' => w'.files = w.files) (fun _ => rfl) (fun _ _ => rfl) m
  generalize (a.begin m).2 = m₀ at *
  rcases hbegin.mem_momentsSince_or (a.perform_leads h hne m₀) hw with hw | hw
  · obtain ⟨n, hn, -, rfl⟩ := hbegin.of_mem_momentsSince hw
    have hsame : n.files = m.files := hn.keeps (S := fun w w' => w'.files = w.files)
      (fun _ => rfl) (fun _ _ _ h h' => h'.trans h) fun _ _ h => h
    exact .inl (by rw [hsame])
  · have hlacks' : Path.holdsNull target = false → m₀.LacksExecution (FileTree.locate target) := by
      intro hpath
      rw [LacksExecution, hfiles]
      exact hlacks hpath
    have hmoments := Attempt.target_moments h hne hopened hlacks' hw
    rw [hfiles] at hmoments
    exact hmoments

/-- At each moment of a download the target is complete if it is executable. -/
theorem download_isSound {rs : List Response} (h : Path.Spells slashes components target)
    (hne : components ≠ [])
    (hlacks : Path.holdsNull target = false → m.LacksExecution (FileTree.locate target))
    (hsound : m.IsSound (FileTree.locate target) rs)
    (hdone : ∀ n r, (d.download url target timeout m).1 = .ok (.succeeded n) →
      (d.download url target timeout m).2.HasReadAll r → r ∈ rs)
    (hw : w ∈ (d.download url target timeout).moments m) :
    w.IsSound (FileTree.locate target) rs := by
  rcases download_moments h hne hlacks hw with hsame | hlacking | ⟨n, hn, hlast⟩
  · exact hsound.of_get?_eq hsame
  · exact .of_lacksExecution hlacking
  · rcases hx : d.download url target timeout m with ⟨result, m'⟩
    rw [hx] at hn hlast hdone
    subst hn
    rw [download_apply] at hx
    obtain ⟨l, r, hcomplete⟩ := Attempt.perform_eq_succeeded (by rw [Attempt.begin_transfer]) hx
    obtain ⟨hwalk, hcontent⟩ := FileTree.find_eq_ok.mp hcomplete.file
    obtain ⟨-, rfl, -⟩ := h.walk_eq_ok.mp hwalk
    intro content mode hentry _
    rw [hlast] at hentry
    have heq := hcontent.symm.trans hentry
    cases heq
    exact ⟨r, hdone n r rfl hcomplete.read, hcomplete.status, hcomplete.whole, rfl⟩

theorem download_isRooted (h : Path.Spells slashes components target) (hne : components ≠ [])
    (hrooted : m.files.IsRooted (FileTree.locate target)) :
    (d.download url target timeout m).2.files.IsRooted (FileTree.locate target) := by
  rw [download_apply]
  set a := d.attemptOn url target timeout m
  have hfiles := a.begin_files m
  have hopened : (a.begin m).2.transfer.hasOpened = false := rfl
  generalize (a.begin m).2 = m₀ at *
  rw [← hfiles] at hrooted
  exact Attempt.perform_isRooted h hne hopened hrooted

end Downloader

/-! ## Acquisitions -/

/-- What lies where a path points to is found by the path if it lies in directories. -/
theorem Path.Spells.find_of_isRooted {slashes : List Char} {components : List (List Char)}
    {path : String} (h : Path.Spells slashes components path) {t : FileTree} {e : Entry}
    (hpath : Path.holdsNull path = false) (hrooted : t.IsRooted (FileTree.locate path))
    (hentry : t.get? (FileTree.locate path) = some e) (current : Location) :
    t.find current path = .ok (FileTree.locate path, e) := by
  refine FileTree.find_eq_ok.mpr ⟨h.walk_eq_ok.mpr ⟨hpath, rfl, hrooted ?_⟩, hentry⟩
  simp [hentry]

namespace Acquirer

/-- Where the server lies in an installation directory. -/
def serverLocation (dir : String) : Location := FileTree.locate (Path.join dir commandName)

/-- The answer that an acquisition has made the server of, if it has downloaded it: the last one
received. -/
def downloaded (x : Except Fault Acquisition × Machine) : List Response :=
  if hasDownloaded x.1 then (x.2.network.connections.getLast?.map (·.response)).toList else []

/-- The machines that any number of acquisitions into a directory lead to, with the answers that
were downloaded.  In between anything may happen that leaves the server as it is. -/
inductive Reaches (dir : String) : Machine → List Response → Prop where
  /-- At first there is no executable server.  What is there lies in directories. -/
  | start (m : Machine) (hrooted : m.files.IsRooted (serverLocation dir))
      (hlacks : m.LacksExecution (serverLocation dir)) : Reaches dir m []
  | acquire (m : Machine) (rs : List Response) (h : Reaches dir m rs) (a : Acquirer)
      (config : Config) (searchPath : Option String) (hdir : a.installDir = dir)
      (hplatform : a.platform = some .linuxX64) :
      Reaches dir (a.acquire config searchPath m).2
        (rs ++ downloaded (a.acquire config searchPath m))
  | elsewhere (m m' : Machine) (rs : List Response) (h : Reaches dir m rs)
      (hentry : m'.files.get? (serverLocation dir) = m.files.get? (serverLocation dir))
      (hrooted : m'.files.IsRooted (serverLocation dir)) : Reaches dir m' rs

variable {a : Acquirer} {config : Config} {searchPath : Option String} {m m' : Machine} {w : World}
  {rs : List Response} {slashes : List Char} {components : List (List Char)}

/-- The installation directory of a new acquirer is absolute and normalized. -/
theorem create_installDir (hcurrent : Path.isAbsolute m.current) (dir : String)
    (bindings : Option Environment) (downloader : Downloader) (platform : Option PlatformId) :
    let a := create dir bindings downloader platform m
    Path.isAbsolute a.installDir ∧ Path.normalize a.installDir = a.installDir := by
  obtain ⟨_, _, hspells⟩ := Path.absolute_spells hcurrent dir
  exact ⟨hspells.isAbsolute, hspells.normalize_eq⟩

theorem ignoresPermissions_of_linux (hplatform : a.platform = some .linuxX64) :
    a.ignoresPermissions = false := by
  rw [ignoresPermissions, hplatform]
  rfl

theorem binaryName_of_linux (hplatform : a.platform = some .linuxX64) :
    a.binaryName = commandName := by
  rw [binaryName, hplatform]
  rfl

/-- A search that finds nothing has rejected what lies in the installation directory. -/
theorem lacksExecution_of_search (hplatform : a.platform = some .linuxX64)
    (h : Path.Spells slashes components (Path.join a.installDir commandName))
    (hrooted : m.files.IsRooted (serverLocation a.installDir))
    (hmissing : (a.searchOn (a.candidates searchPath m) m).1 = none)
    (hpath : Path.holdsNull (Path.join a.installDir commandName) = false) :
    m.LacksExecution (serverLocation a.installDir) := by
  intro content mode hentry
  have hfind := h.find_of_isRooted hpath hrooted hentry m.location
  obtain ⟨hfile, hexecutable⟩ := FileTree.isExecutable_of_file hfind
  have hmem := a.mem_candidates searchPath m
  rw [binaryName_of_linux hplatform] at hmem
  have hrejected := search_eq_none hmissing _ hmem hfile
  rw [hexecutable] at hrejected
  simpa using hrejected

theorem target_of_linux (hplatform : a.platform = some .linuxX64) {version : String}
    {spec : DownloadSpec}
    (hspec : DownloadSpec.forPlatform version a.platform a.installDir = some spec) :
    spec.target = Path.join a.installDir commandName := by
  rw [hplatform] at hspec
  cases hspec
  rfl

theorem mem_downloaded {result : Except Fault Acquisition} {r : Response}
    (hdone : hasDownloaded result) (hread : m.toWorld.HasReadAll r) :
    r ∈ downloaded (result, m) := by
  obtain ⟨c, hlast, rfl, -⟩ := hread
  rw [downloaded, if_pos hdone, hlast]
  exact List.mem_cons_self

/-- At each moment of an acquisition the server is complete if it is executable. -/
theorem acquire_isSound (hplatform : a.platform = some .linuxX64)
    (h : Path.Spells slashes components (Path.join a.installDir commandName))
    (hne : components ≠ []) (hrooted : m.files.IsRooted (serverLocation a.installDir))
    (hsound : m.IsSound (serverLocation a.installDir) rs)
    (hw : w ∈ (a.acquire config searchPath).moments m) :
    w.IsSound (serverLocation a.installDir)
      (rs ++ downloaded (a.acquire config searchPath m)) := by
  unfold moments at hw
  have hcourse := a.acquire_course config searchPath m
  generalize a.acquire config searchPath m = x at hw hcourse ⊢
  obtain ⟨result, m'⟩ := x
  have hnoted : ∀ {m₁ m₂ : Machine} {rs' : List Response}, m₁.Leads (StepOf {.note}) m₂ →
      m₁.IsSound (serverLocation a.installDir) rs' → w ∈ m₁.momentsSince m₂ →
      w.IsSound (serverLocation a.installDir) rs' := by
    intro m₁ m₂ rs' hleads hsound hw
    obtain ⟨n, hn, -, rfl⟩ := hleads.of_mem_momentsSince hw
    exact hsound.of_get?_eq (hn.get?_eq (by simp [location?]))
  have hbase := hsound.mono (List.subset_append_left rs (downloaded (result, m')))
  cases hcourse with
  | told _ _ hleads => exact hnoted hleads hbase hw
  | fetched _ spec m₁ _ hspec hmissing hbefore hafter hresult _ =>
    rw [target_of_linux hplatform hspec] at hafter hresult
    have hfiles : m₁.files = m.files := hbefore.files_eq (by simp [location?])
    have hfirst : m₁.IsSound (serverLocation a.installDir) (rs ++ downloaded (result, m')) :=
      hbase.of_get?_eq (by rw [hfiles])
    have hlacks : Path.holdsNull (Path.join a.installDir commandName) = false →
        m₁.LacksExecution (serverLocation a.installDir) := by
      intro hpath
      rw [LacksExecution, hfiles]
      exact lacksExecution_of_search hplatform h hrooted hmissing hpath
    have hdownload := a.downloader.download_spares spec.url (Path.join a.installDir commandName)
      config.downloadTimeout m₁
    have hdone : ∀ n r, (a.downloader.download spec.url (Path.join a.installDir commandName)
        config.downloadTimeout m₁).1 = .ok (.succeeded n) →
        (a.downloader.download spec.url (Path.join a.installDir commandName)
          config.downloadTimeout m₁).2.HasReadAll r → r ∈ rs ++ downloaded (result, m') := by
      intro n r hn hread
      refine List.mem_append_right _ (mem_downloaded (hresult.mpr ⟨n, hn⟩) ?_)
      exact hread.leads hafter (by simp)
    have hduring := fun u hu => Downloader.download_isSound (w := u) h hne hlacks hfirst hdone hu
    have hrest := hdownload.trans (hafter.mono fun _ _ => StepOf.spares)
    rcases hbefore.mem_momentsSince_or hrest hw with hw | hw
    · exact hnoted hbefore hbase hw
    rcases hdownload.mem_momentsSince_or hafter hw with hw | hw
    · exact hduring w hw
    · exact hnoted hafter (hduring _ hdownload.last_mem_momentsSince) hw

/-- An acquisition does nothing to programs. -/
theorem acquire_spares (a : Acquirer) (config : Config) (searchPath : Option String) (m : Machine) :
    m.Leads Spares (a.acquire config searchPath m).2 := by
  have hcourse := a.acquire_course config searchPath m
  generalize a.acquire config searchPath m = x at hcourse ⊢
  obtain ⟨result, m'⟩ := x
  cases hcourse with
  | told _ _ hleads => exact hleads.mono fun _ _ => StepOf.spares
  | fetched _ spec m₁ _ _ _ hbefore hafter _ _ =>
    have hdownload := a.downloader.download_spares spec.url spec.target config.downloadTimeout m₁
    exact (hbefore.mono fun _ _ => StepOf.spares).trans
      (hdownload.trans (hafter.mono fun _ _ => StepOf.spares))

theorem acquire_isRooted (hplatform : a.platform = some .linuxX64)
    (h : Path.Spells slashes components (Path.join a.installDir commandName))
    (hne : components ≠ []) (hrooted : m.files.IsRooted (serverLocation a.installDir)) :
    (a.acquire config searchPath m).2.files.IsRooted (serverLocation a.installDir) := by
  have hcourse := a.acquire_course config searchPath m
  generalize a.acquire config searchPath m = x at hcourse ⊢
  obtain ⟨result, m'⟩ := x
  have hnoted : ∀ {m₁ m₂ : Machine}, m₁.Leads (StepOf {.note}) m₂ → m₂.files = m₁.files :=
    fun hleads => hleads.files_eq (by simp [location?])
  cases hcourse with
  | told _ _ hleads =>
    dsimp only
    rw [hnoted hleads]
    exact hrooted
  | fetched _ spec m₁ _ hspec hmissing hbefore hafter _ _ =>
    rw [target_of_linux hplatform hspec] at hafter
    rw [← hnoted hbefore] at hrooted
    dsimp only
    rw [hnoted hafter]
    exact Downloader.download_isRooted h hne hrooted

/-- A candidate in the installation directory is an executable file. -/
theorem executable_of_candidate (hplatform : a.platform = some .linuxX64) {acquired : Acquisition}
    {l : Location} {e : Entry} (hacquire : a.acquire config searchPath m = (.ok acquired, m'))
    (hsource : acquired.source = .candidate)
    (hfind : m'.files.find m'.location acquired.path = .ok (l, e)) :
    ∃ content mode, e = .file content mode ∧ m.files.get? l = some e ∧
      mode &&& executeBits ≠ 0 := by
  have hcourse := a.acquire_course config searchPath m
  rw [hacquire] at hcourse
  cases hcourse with
  | told _ _ hleads hfound _ =>
    have hfiles : m'.files = m.files := hleads.files_eq (by simp [location?])
    rw [hfiles, hleads.precedes.location_eq] at hfind
    obtain ⟨hfile, hexecutable⟩ :=
      search_eq_some (ignoresPermissions_of_linux hplatform) (hfound hsource)
    rcases e with _ | ⟨content, mode⟩
    · rw [FileTree.isFile, hfind] at hfile
      cases hfile
    · rw [(FileTree.isExecutable_of_file hfind).2] at hexecutable
      exact ⟨content, mode, rfl, (FileTree.find_eq_ok.mp hfind).2, by simpa using hexecutable⟩
  | fetched _ _ _ _ _ _ _ _ _ hnot => exact absurd hsource (hnot acquired rfl)

/-! ### Any number of acquisitions -/

theorem isName_commandName : Path.IsName commandName.toList :=
  ⟨by decide +kernel, by decide +kernel, by decide +kernel, by decide +kernel⟩

theorem Reaches.sound {dir : String}
    (h : Path.Spells slashes components (Path.join dir commandName)) (hne : components ≠ [])
    (hreaches : Reaches dir m rs) :
    m.files.IsRooted (serverLocation dir) ∧ m.IsSound (serverLocation dir) rs := by
  induction hreaches with
  | start m hrooted hlacks => exact ⟨hrooted, .of_lacksExecution hlacks⟩
  | acquire m rs _ a config searchPath hdir hplatform ih =>
    subst hdir
    obtain ⟨hrooted, hsound⟩ := ih
    refine ⟨acquire_isRooted hplatform h hne hrooted, ?_⟩
    exact acquire_isSound hplatform h hne hrooted hsound
      (a.acquire_spares config searchPath m).last_mem_momentsSince
  | elsewhere m m' rs _ hentry hrooted ih => exact ⟨hrooted, ih.2.of_get?_eq hentry⟩

/-- Over any number of acquisitions into one directory, a server that is executable holds the whole
body of an answer with status 200 that was downloaded.  That is so at each moment of a further
acquisition, too, and a further acquisition finds the server only if it is complete. -/
theorem server_is_complete {dir : String} (habsolute : Path.isAbsolute dir)
    (hnormal : Path.normalize dir = dir) (hreaches : Reaches dir m rs) :
    m.IsSound (serverLocation dir) rs ∧
    ∀ (a : Acquirer) (config : Config) (searchPath : Option String), a.installDir = dir →
      a.platform = some .linuxX64 →
      (∀ w ∈ (a.acquire config searchPath).moments m,
        w.IsSound (serverLocation dir) (rs ++ downloaded (a.acquire config searchPath m))) ∧
      ∀ acquired m' e, a.acquire config searchPath m = (.ok acquired, m') →
        acquired.source = .candidate →
        m'.files.find m'.location acquired.path = .ok (serverLocation dir, e) →
        ∃ content mode, e = .file content mode ∧ IsBodyOf rs content := by
  obtain ⟨slashes, components, hspells⟩ := Path.normalize_spells habsolute
  rw [hnormal] at hspells
  have hserver := hspells.join isName_commandName
  have hne : components ++ [commandName.toList] ≠ [] := by simp
  obtain ⟨hrooted, hsound⟩ := hreaches.sound hserver hne
  refine ⟨hsound, ?_⟩
  intro a config searchPath hdir hplatform
  subst hdir
  refine ⟨fun w hw => acquire_isSound hplatform hserver hne hrooted hsound hw, ?_⟩
  intro acquired m' e hacquire hsource hfind
  obtain ⟨content, mode, rfl, hentry, hmode⟩ :=
    executable_of_candidate hplatform hacquire hsource hfind
  exact ⟨content, mode, rfl, hsound content mode hentry hmode⟩

/-- An acquirer for a directory that does not exist yet. -/
def freshAcquirer : Acquirer := { installDir := "/i", platform := some .linuxX64 }

/-- The first change of permissions fails, and so does the first removal. -/
def refusingMachine : Machine :=
  { Machine.answering {} [(releaseUrl "v0.0.1" "capnp-ls-linux-x86_64",
      { chunks := [{ content := .ok ⟨#[1, 2]⟩ }, { content := .ok ⟨#[3]⟩ }] })] with
    disturbances := [{ operation := .chmod, errno := some 13 },
      { operation := .remove, errno := some 13 }] }

/-- The first acquisition leaves a file behind that is not executable; the second one downloads the
server once more. -/
theorem server_is_complete_refused :
    let first := freshAcquirer.acquire {} none refusingMachine
    let second := freshAcquirer.acquire {} none first.2
    ((first.2.contentAt (serverLocation "/i")).isSome ∧ downloaded first = []) ∧
      ∃ content mode, second.2.files.get? (serverLocation "/i") = some (.file content mode) ∧
        mode &&& executeBits ≠ 0 ∧ IsBodyOf (downloaded second) content := by
  intro first second
  have hnothing : refusingMachine.files.get? (serverLocation "/i") = none := by decide +kernel
  have hstart : Reaches "/i" refusingMachine [] := by
    refine .start _ (fun hthere => absurd hnothing hthere) ?_
    intro content mode hentry
    rw [hnothing] at hentry
    cases hentry
  have hfirst : (hasDownloaded first.1) = false := by decide +kernel
  have hnone : downloaded first = [] := by rw [downloaded, hfirst]; rfl
  refine ⟨⟨by decide +kernel, hnone⟩, ?_⟩
  have hreaches : Reaches "/i" second.2 ([] ++ downloaded first ++ downloaded second) :=
    .acquire _ _ (.acquire _ _ hstart freshAcquirer {} none rfl rfl) freshAcquirer {} none rfl rfl
  rw [hnone] at hreaches
  obtain ⟨hsound, -⟩ := server_is_complete (by decide +kernel) (by decide +kernel) hreaches
  obtain ⟨mode, hentry⟩ : ∃ mode, second.2.files.get? (serverLocation "/i") =
      some (.file ⟨#[1, 2, 3]⟩ mode) := World.contentAt_eq_some.mp (by decide +kernel)
  have hwalk : second.2.files.walk [] "/i/capnp-ls" = .ok (serverLocation "/i") := by
    decide +kernel
  have hexecutable : second.2.files.isExecutable [] "/i/capnp-ls" := by decide +kernel
  rw [(FileTree.isExecutable_of_file (FileTree.find_eq_ok.mpr ⟨hwalk, hentry⟩)).2] at hexecutable
  have hmode : mode &&& executeBits ≠ 0 := by simpa using hexecutable
  exact ⟨_, mode, hentry, hmode, hsound _ mode hentry hmode⟩

end Acquirer

end ServerLauncher
