import ServerLauncher.Proofs.Histories
import ServerLauncher.Proofs.Resolving

/-!
# What a server is launched with

However the server has been acquired, its command can be run from anywhere: it is an absolute path,
or the bare name, which is looked up when it is started.  The directory that it runs in is absolute
in both cases.

Its environment is that of the machine with the extra variables.  Several keys of the extra
variables may have the same text, such as a number and the text of that number.  Then they stand for
one variable, and the last of them counts.

## Main definitions

* `Environment.names`: the variables of an environment.
* `Config.lastNamed?`: the extra variable that counts for a name.
* `Acquisition.IsPlaced`: an acquisition leads to an absolute path, or to the bare name.
* `Session.purpose`: what a session is made for, which it keeps.
* `Session.Suits`: how the server of a session is launched.

## Main statements

* `Environment.get?_set`, `Environment.get?_update`: what setting variables does.
* `Config.get?_processEnvironment`: the value of each extra variable.
* `Acquirer.acquire_isPlaced`: every acquisition is placed.
* `Session.launchInfo_suits`: what is found out by the first call for the launch that succeeds.
-/

namespace ServerLauncher

open MachineAction World StepKind

/-! ## Environments -/

namespace Environment

variable {e : Environment} {name value n : String}

/-- The names of the variables, in their order. -/
def names (e : Environment) : List String := e.map (·.1)

theorem get?_nil (n : String) : get? [] n = none := rfl

theorem get?_cons (entry : String × String) (e : Environment) (n : String) :
    get? (entry :: e) n = if n = entry.1 then some entry.2 else e.get? n := by
  unfold get?
  rw [List.lookup_cons]
  by_cases hn : n = entry.1
  · simp [hn]
  · rw [beq_false_of_ne hn, if_neg hn]

theorem names_cons (entry : String × String) (e : Environment) :
    names (entry :: e) = entry.1 :: e.names := rfl

theorem get?_append (e e' : Environment) (n : String) :
    get? (e ++ e') n = (e.get? n).or (e'.get? n) := List.lookup_append

theorem get?_isSome_iff : (e.get? n).isSome ↔ n ∈ e.names := by
  induction e with
  | nil => simp [get?_nil, names]
  | cons entry rest ih =>
    rw [get?_cons, names_cons, List.mem_cons]
    by_cases hn : n = entry.1
    · simp [hn]
    · simp [hn, ih]

theorem get?_eq_none (h : n ∉ e.names) : e.get? n = none := by
  rwa [← get?_isSome_iff, Option.not_isSome_iff_eq_none] at h

theorem any_name_iff : e.any (·.1 == name) = true ↔ name ∈ e.names := by
  simp [names]

theorem names_set (e : Environment) (name value : String) :
    (e.set name value).names = if name ∈ e.names then e.names else e.names ++ [name] := by
  unfold set
  rw [ite_cond_congr (propext any_name_iff)]
  split
  · unfold names
    rw [List.map_map]
    refine List.map_congr_left fun entry _ => ?_
    dsimp only [Function.comp_apply]
    split
    next heq => exact (beq_iff_eq.mp heq).symm
    next => rfl
  · simp [names]

/-- Setting a variable sets it and no other. -/
theorem get?_set (e : Environment) (name value n : String) :
    (e.set name value).get? n = if n = name then some value else e.get? n := by
  have hreplaced : get? (e.map fun entry => if entry.1 == name then (name, value) else entry) n =
      if n = name ∧ name ∈ e.names then some value else e.get? n := by
    induction e with
    | nil => simp [get?_nil, names]
    | cons entry rest ih =>
      rw [List.map_cons, get?_cons, get?_cons, ih, names_cons]
      by_cases hentry : entry.1 = name
      · by_cases hn : n = name
        · simp [hentry, hn]
        · simp [hentry, hn]
      · by_cases hn : n = name
        · simp [hentry, hn, Ne.symm hentry]
        · simp [hentry, hn]
  unfold set
  rw [ite_cond_congr (propext any_name_iff)]
  split
  next hmem =>
    rw [hreplaced]
    simp only [hmem, and_true]
  next hnew =>
    rw [get?_append, get?_cons, get?_nil]
    by_cases hn : n = name
    · simp [hn, get?_eq_none hnew]
    · simp [hn]

/-- Variables with different names are set beside each other. -/
theorem get?_update {changes : Environment} (hnodup : changes.names.Nodup) (e : Environment)
    (n : String) : (e.update changes).get? n = (changes.get? n).or (e.get? n) := by
  unfold update
  induction changes generalizing e with
  | nil => simp [get?_nil]
  | cons change rest ih =>
    obtain ⟨hnew, hrest⟩ := List.nodup_cons.mp hnodup
    rw [List.foldl_cons, ih hrest, get?_set, get?_cons]
    by_cases hn : n = change.1
    · rw [hn, get?_eq_none hnew]
      simp
    · simp [hn]

theorem nodup_names_set (h : e.names.Nodup) (name value : String) :
    (e.set name value).names.Nodup := by
  rw [names_set]
  split
  next => exact h
  next hnew =>
    refine List.nodup_append.mpr ⟨h, by simp, fun n hn n' hn' => ?_⟩
    rw [List.mem_singleton.mp hn']
    exact ne_of_mem_of_not_mem hn hnew

end Environment

/-! ## Extra variables -/

namespace Config

variable {entries : Entries} {environment extra : Environment} {n : String} {room : Nat}

/-- The extra variable that counts for a name: the last one whose key has it as its text. -/
def lastNamed? (room : Nat) (entries : Entries) (n : String) : Option (Value × Value) :=
  entries.reverse.find? fun entry => entry.1.text? room == some n

theorem lastNamed?_cons (room : Nat) (entry : Value × Value) (entries : Entries) (n : String) :
    lastNamed? room (entry :: entries) n =
      (lastNamed? room entries n).or
        (if entry.1.text? room = some n then some entry else none) := by
  unfold lastNamed?
  rw [List.reverse_cons, List.find?_append]
  by_cases hn : entry.1.text? room = some n
  · simp [hn]
  · simp [hn]

theorem lastNamed?_isSome_iff :
    (lastNamed? room entries n).isSome ↔ ∃ entry ∈ entries, entry.1.text? room = some n := by
  simp [lastNamed?]

/-- The variables of some entries, set in an environment one after the other. -/
theorem get?_foldlM_set {f : Environment → Value × Value → Except Fault Environment}
    (hf : f = fun environment entry => do
      let name ← textOf room entry.1
      let value ← textOf room entry.2
      return environment.set name value)
    (h : entries.foldlM f environment = .ok extra) (hnodup : environment.names.Nodup) :
    extra.names.Nodup ∧
      (∀ entry ∈ entries, (entry.1.text? room).isSome ∧ (entry.2.text? room).isSome) ∧
      ∀ n, extra.get? n = match lastNamed? room entries n with
        | some entry => entry.2.text? room
        | none => environment.get? n := by
  induction entries generalizing environment with
  | nil =>
    cases h
    exact ⟨hnodup, by simp, fun n => rfl⟩
  | cons entry rest ih =>
    rw [List.foldlM_cons, bind_eq_ok_iff] at h
    obtain ⟨environment', hset, hrest⟩ := h
    simp only [hf, bind_eq_ok_iff, textOf_eq_ok_iff, ← Value.text?_eq_some_iff] at hset
    obtain ⟨name, hname, value, hvalue, hset⟩ := hset
    cases hset
    obtain ⟨hextra, htexts, hget⟩ := ih hrest (Environment.nodup_names_set hnodup name value)
    refine ⟨hextra, ?_, fun n => ?_⟩
    · rw [List.forall_mem_cons]
      exact ⟨⟨by simp [hname], by simp [hvalue]⟩, htexts⟩
    · rw [hget, lastNamed?_cons, hname, Environment.get?_set]
      rcases lastNamed? room rest n with _ | last
      · by_cases hn : n = name
        · simp [hn, hvalue]
        · simp [hn, Ne.symm hn]
      · rfl

theorem get?_processEnvironment {config : Config}
    (h : config.processEnvironment? room = .ok extra) :
    extra.names.Nodup ∧
      (∀ entry ∈ config.extraEnv, (entry.1.text? room).isSome ∧ (entry.2.text? room).isSome) ∧
      ∀ n, extra.get? n = (lastNamed? room config.extraEnv n).bind (·.2.text? room) := by
  obtain ⟨hnodup, htexts, hget⟩ := get?_foldlM_set rfl h .nil
  refine ⟨hnodup, htexts, fun n => ?_⟩
  rw [hget]
  split
  next entry hlast => rw [hlast, Option.bind_some]
  next hnone => rw [hnone, Environment.get?_nil, Option.bind_none]

end Config

/-! ## Paths -/

theorem Text.dropTrailing_prefix (c : Char) (s : List Char) : dropTrailing c s <+: s := by
  rw [← List.reverse_suffix, dropTrailing, List.reverse_reverse]
  exact List.dropWhile_suffix _

theorem Text.cutFirst_of_notMem {c : Char} {s : List Char} (h : c ∉ s) : cutFirst c s = none := by
  induction s with
  | nil => rfl
  | cons d rest ih =>
    rw [List.mem_cons, not_or] at h
    rw [cutFirst, if_neg (Ne.symm h.1), ih h.2, Option.map_none]

theorem Text.cutLast_of_notMem {c : Char} {s : List Char} (h : c ∉ s) : cutLast c s = none := by
  rw [cutLast, cutFirst_of_notMem (by simpa using h), Option.map_none]

theorem Path.ne_empty_of_isAbsolute {path : String} (h : isAbsolute path) : path ≠ "" := by
  rintro rfl
  cases h

/-- The directory of an absolute path is absolute. -/
theorem Path.isAbsolute_directory {path : String} (h : isAbsolute path) :
    isAbsolute (directory path) := by
  unfold isAbsolute at h ⊢
  rw [decide_eq_true_eq] at h ⊢
  have hslash : '/' ∈ path.toList.reverse := List.mem_reverse.mpr (List.mem_of_head? h)
  obtain ⟨after, before, hreverse, hafter⟩ := List.eq_append_cons_of_mem hslash
  have hpath : path.toList = before.reverse ++ '/' :: after.reverse := by
    simpa using congrArg List.reverse hreverse
  have hhead : (before.reverse ++ ['/']).head? = some '/' := by
    rw [hpath] at h
    rcases hbefore : before.reverse with _ | ⟨c, rest⟩
    · rfl
    · simpa [hbefore] using h
  have hlast : '/' ∉ after.reverse := by simpa using hafter
  have hcut := Text.cutLast_append before.reverse hlast
  rw [directory, split, hpath, hcut]
  dsimp only
  rw [String.toList_ofList]
  split
  next => exact hhead
  next hrest =>
    -- What is left begins as the part up to the last slash does.
    obtain ⟨dropped, hdropped⟩ := Text.dropTrailing_prefix '/' (before.reverse ++ ['/'])
    rw [← hdropped, List.head?_append_of_ne_nil _ (by simpa using hrest)] at hhead
    exact hhead

/-- A bare name has no directory. -/
theorem Path.directory_of_isName {name : String} (h : IsName name.toList) :
    directory name = "" := by
  rw [directory, split, Text.cutLast_of_notMem h.not_slash]

/-! ## Acquisitions -/

/-- An acquisition leads to an absolute path, or to the bare name if nothing was found. -/
inductive Acquisition.IsPlaced (a : Acquirer) : Acquisition → Prop where
  | absolute (path : String) (source : AcquisitionSource) (ds : List String)
      (hsource : source ≠ .fallback) (hpath : Path.isAbsolute path) : IsPlaced a ⟨path, source, ds⟩
  | bare (ds : List String) : IsPlaced a ⟨a.binaryName, .fallback, ds⟩

theorem Machine.Leads.environment_eq {ks : Set StepKind} {m m' : Machine}
    (h : m.Leads (StepOf ks) m') : m'.environment = m.environment := by
  have hsame := h.keeps_eq (f := fun w => (w.environment, w.facts)) fun _ _ _ _ hs =>
    hs.surroundings_eq
  exact congrArg Prod.fst hsame

namespace Acquirer

variable {a : Acquirer} {config : Config} {searchPath : Option String} {m m' : Machine}
  {acquisition : Acquisition}

theorem isAbsolute_of_mem_candidates (hdir : Path.isAbsolute a.installDir)
    (hcurrent : Path.isAbsolute m.current) {path : String} (h : path ∈ a.candidates searchPath m) :
    Path.isAbsolute path := by
  unfold candidates candidatesFrom at h
  rw [mem_distinct, List.mem_cons, List.mem_map] at h
  rcases h with rfl | ⟨d, -, rfl⟩
  · exact Path.isAbsolute_join hdir _
  · obtain ⟨slashes, components, hspells⟩ := Path.absolute_spells hcurrent d
    exact Path.isAbsolute_join hspells.isAbsolute _

/-- Every acquisition is placed. -/
theorem acquire_isPlaced (hdir : Path.isAbsolute a.installDir)
    (hcurrent : Path.isAbsolute m.current)
    (h : a.acquire config searchPath m = (.ok acquisition, m')) :
    acquisition.IsPlaced a := by
  have hgoes := a.acquire_goes config searchPath m
  rw [h] at hgoes
  cases hgoes with
  | override ds => exact .absolute _ _ _ nofun (Path.isAbsolute_join hdir _)
  | candidate path ds _ hfound =>
    refine .absolute _ _ _ nofun ?_
    exact isAbsolute_of_mem_candidates hdir hcurrent (List.mem_of_find?_eq_some hfound)
  | downloaded n ds hdownloads =>
    obtain ⟨_, _, -, -, rfl⟩ := hdownloads.artifact
    exact .absolute _ _ _ nofun (Path.isAbsolute_join hdir _)
  | failed problem cause ds => exact .bare ds
  | fallback ds => exact .bare ds

/-- An acquisition leaves the environment as it is. -/
theorem acquire_environment (a : Acquirer) (config : Config) (searchPath : Option String)
    (m : Machine) : (a.acquire config searchPath m).2.environment = m.environment := by
  have hcourse := a.acquire_course config searchPath m
  generalize a.acquire config searchPath m = x at hcourse ⊢
  obtain ⟨result, m'⟩ := x
  cases hcourse with
  | told _ _ hleads => exact hleads.environment_eq
  | fetched _ spec m₁ _ _ _ hbefore hafter =>
    have hdownload :
        (a.downloader.download spec.url spec.target config.downloadTimeout m₁).2.environment =
          m₁.environment := by
      rw [Downloader.download_apply]
      exact (Attempt.perform_makes _ _).environment_eq
    exact hafter.environment_eq.trans (hdownload.trans hbefore.environment_eq)

end Acquirer

/-! ## The launch -/

namespace Session

open SessionAction

/-- How a server is launched: by the path that has been acquired, in a directory that is absolute,
and with the extra variables beside those of the machine. -/
structure Suits (s : Session) (environment : Environment) (acquisition : Acquisition)
    (info : LaunchInfo) : Prop where
  command : info.command = acquisition.path
  bare : acquisition.source = .fallback ↔ info.command = s.acquirer.binaryName
  absolute : acquisition.source ≠ .fallback ↔ Path.isAbsolute info.command
  directory : info.directory =
    if Path.isAbsolute info.command then Path.directory info.command else s.workspaceRoot
  directory_absolute : Path.isAbsolute info.directory
  value (n : String) : info.environment.get? n =
    match Config.lastNamed? s.room s.config.extraEnv n with
    | some entry => entry.2.text? s.room
    | none => environment.get? n
  name (n : String) : n ∈ info.environment.names ↔
    n ∈ environment.names ∨ ∃ entry ∈ s.config.extraEnv, entry.1.text? s.room = some n

variable {s : Session} {h h' : Host} {m : Machine} {acquisition : Acquisition}
  {extra : Environment} {info : LaunchInfo}

theorem binaryName_not_absolute (a : Acquirer) : Path.isAbsolute a.binaryName = false :=
  Path.isAbsolute_of_isName (Command.isName_binaryName a.platform)

/-- The value of a variable is that of the last extra variable of its name, if there is one. -/
theorem get?_update_extra (hextra : s.config.processEnvironment? s.room = .ok extra)
    (environment : Environment) (n : String) : (environment.update extra).get? n =
      match Config.lastNamed? s.room s.config.extraEnv n with
      | some entry => entry.2.text? s.room
      | none => environment.get? n := by
  obtain ⟨hnodup, htexts, hget⟩ := Config.get?_processEnvironment hextra
  rw [Environment.get?_update hnodup, hget]
  rcases hlast : Config.lastNamed? s.room s.config.extraEnv n with _ | entry
  · rfl
  · have hmem : entry ∈ s.config.extraEnv := List.mem_reverse.mp (List.mem_of_find?_eq_some hlast)
    obtain ⟨value, hvalue⟩ := Option.isSome_iff_exists.mp (htexts entry hmem).2
    simp [hvalue]

theorem mem_names_update_extra (hextra : s.config.processEnvironment? s.room = .ok extra)
    (environment : Environment) (n : String) : n ∈ (environment.update extra).names ↔
      n ∈ environment.names ∨ ∃ entry ∈ s.config.extraEnv, entry.1.text? s.room = some n := by
  have htexts := (Config.get?_processEnvironment hextra).2.1
  rw [← Config.lastNamed?_isSome_iff, ← Environment.get?_isSome_iff, ← Environment.get?_isSome_iff,
    get?_update_extra hextra]
  rcases hlast : Config.lastNamed? s.room s.config.extraEnv n with _ | entry
  · simp
  · have hmem : entry ∈ s.config.extraEnv := List.mem_reverse.mp (List.mem_of_find?_eq_some hlast)
    simpa using (htexts entry hmem).2

/-- A server that has been acquired is launched by an absolute path in the directory of that, or by
the bare name in the workspace. -/
theorem launchOf_suits (hroot : Path.isAbsolute s.workspaceRoot)
    (hplaced : acquisition.IsPlaced s.acquirer)
    (hextra : s.config.processEnvironment? s.room = .ok extra) (m : Machine) :
    s.Suits m.environment acquisition (s.launchOf m acquisition extra) := by
  have hbare := binaryName_not_absolute s.acquirer
  have hvalue := get?_update_extra hextra m.environment
  have hname := mem_names_update_extra hextra m.environment
  cases hplaced with
  | absolute path source ds hsource hpath =>
    have hdirectory := Path.isAbsolute_directory hpath
    have hchosen : s.directoryOf path = Path.directory path := by
      unfold directoryOf
      exact if_neg (by simpa using Path.ne_empty_of_isAbsolute hdirectory)
    refine ⟨rfl, ?_, iff_of_true hsource hpath, ?_, ?_, hvalue, hname⟩
    · refine iff_of_false hsource fun heq => ?_
      rw [← heq] at hbare
      exact Bool.false_ne_true (hbare.symm.trans hpath)
    · exact hchosen.trans (if_pos hpath).symm
    · rw [launchOf, hchosen]
      exact hdirectory
  | bare ds =>
    have hchosen : s.directoryOf s.acquirer.binaryName = s.workspaceRoot := by
      have hnone : Path.directory s.acquirer.binaryName = "" :=
        Path.directory_of_isName (Command.isName_binaryName s.acquirer.platform)
      rw [directoryOf, hnone]
      rfl
    refine ⟨rfl, iff_of_true rfl rfl, iff_of_false (· rfl) (by simp [launchOf, hbare]), ?_, ?_,
      hvalue, hname⟩
    · exact hchosen.trans (if_neg (by simp [launchOf, hbare])).symm
    · rw [launchOf, hchosen]
      exact hroot

/-- What a session is made for: its workspace, its configuration, what finds its server, and the
room for the texts of the extra environment. -/
def purpose (s : Session) : String × Config × Acquirer × Nat :=
  (s.workspaceRoot, s.config, s.acquirer, s.room)

theorem launchInfo_purpose (h : Host) :
    (launchInfo h).2.session.purpose = h.session.purpose := by
  have hgoes := launchInfo_goes h
  generalize launchInfo h = r at hgoes ⊢
  cases hgoes with
  | known => rfl
  | unacquired => rfl
  | unwritten => rfl
  | found => rfl

theorem turn_purpose (t : Turn) (h : Host) : (t.after h).session.purpose = h.session.purpose := by
  cases t with
  | launchInfo => exact launchInfo_purpose h
  | start =>
    show (start h).2.session.purpose = _
    rcases start_session h with ⟨-, hsame⟩ | ⟨-, hsession⟩
    · rw [hsame]
    · rw [hsession]
      exact launchInfo_purpose h
  | stop timeout =>
    show (stop timeout h).2.session.purpose = _
    rw [stop_session]
    rfl
  | change g => rfl

/-- Whatever is done with a session, it keeps its purpose. -/
theorem run_purpose (ts : List Turn) (h : Host) :
    (run ts h).session.purpose = h.session.purpose := by
  induction ts generalizing h with
  | nil => rfl
  | cons t ts ih => exact (ih (t.after h)).trans (turn_purpose t h)

/-- Only its purpose matters for how a server is launched. -/
theorem Suits.of_purpose {s' : Session} {environment : Environment}
    (hsuits : s.Suits environment acquisition info) (hpurpose : s'.purpose = s.purpose) :
    s'.Suits environment acquisition info := by
  simp only [purpose, Prod.mk.injEq] at hpurpose
  obtain ⟨hworkspace, hconfig, hacquirer, hroom⟩ := hpurpose
  refine ⟨hsuits.command, ?_, hsuits.absolute, ?_, hsuits.directory_absolute, ?_, ?_⟩
  · rw [hacquirer]
    exact hsuits.bare
  · rw [hworkspace]
    exact hsuits.directory
  · rw [hconfig, hroom]
    exact hsuits.value
  · rw [hconfig, hroom]
    exact hsuits.name

theorem create_eq_ok {workspaceRoot installDir : String} {config : Config}
    {acquirer : Option Acquirer} {bindings : Option Environment} {room : Nat}
    (hcreate : create workspaceRoot installDir config acquirer bindings room m = .ok s) :
    s.purpose = (m.absolute workspaceRoot, config,
      acquirer.getD (.create installDir bindings {} none m), room) := by
  unfold create at hcreate
  split at hcreate
  · cases hcreate
  · cases hcreate
    rfl

/-- Whatever is done with a new session, and however the machine changes meanwhile: the first call
for the launch that succeeds finds out a command that is absolute or the bare name, according to
how the server has been acquired, an absolute directory, and the environment of the machine with
the extra variables.  A given acquirer is one for an absolute installation directory, as every
acquirer is that is created. -/
theorem launchInfo_suits {workspaceRoot installDir : String} {config : Config}
    {acquirer : Option Acquirer} {bindings : Option Environment} {room : Nat}
    (hcreate : create workspaceRoot installDir config acquirer bindings room m = .ok s)
    (hcurrent : Path.isAbsolute m.current)
    (hgiven : ∀ a ∈ acquirer, Path.isAbsolute a.installDir) (ts : List Turn)
    (hthere : Path.isAbsolute (run ts ⟨m, s⟩).machine.current)
    (hfirst : (run ts ⟨m, s⟩).session.launch = none)
    (hinfo : launchInfo (run ts ⟨m, s⟩) = (.ok info, h')) :
    s.config = config ∧ s.workspaceRoot = m.absolute workspaceRoot ∧
    Path.IsName s.acquirer.binaryName.toList ∧
    ∃ acquisition, h'.session.acquisition = some acquisition ∧ h'.session.launch = some info ∧
      s.Suits (run ts ⟨m, s⟩).machine.environment acquisition info := by
  have hnew := create_eq_ok hcreate
  have hkept := run_purpose ts ⟨m, s⟩
  generalize run ts ⟨m, s⟩ = h at hthere hfirst hinfo hkept ⊢
  have habsolute (path : String) : Path.isAbsolute (m.absolute path) := by
    obtain ⟨_, _, hspells⟩ := Path.absolute_spells hcurrent path
    exact hspells.isAbsolute
  obtain ⟨hworkspace, hconfig, hacquirer, -⟩ : s.workspaceRoot = m.absolute workspaceRoot ∧
      s.config = config ∧ s.acquirer = acquirer.getD (.create installDir bindings {} none m) ∧
      s.room = room := by
    simpa [purpose] using hnew
  have hdir : Path.isAbsolute s.acquirer.installDir := by
    rw [hacquirer]
    cases acquirer with
    | none => exact habsolute installDir
    | some a => exact hgiven a rfl
  obtain ⟨hworkspace', -, hacquirer', -⟩ : h.session.workspaceRoot = s.workspaceRoot ∧
      h.session.config = s.config ∧ h.session.acquirer = s.acquirer ∧
      h.session.room = s.room := by
    simpa [purpose] using hkept
  refine ⟨hconfig, hworkspace, Command.isName_binaryName _, ?_⟩
  have hgoes := launchInfo_goes h
  rw [hinfo] at hgoes
  cases hgoes with
  | known _ hknown => exact nomatch hfirst.symm.trans hknown
  | found acquisition extra m₁ m' _ hacquire _ hextra =>
    have henvironment := h.session.acquirer.acquire_environment h.session.config none h.machine
    rw [hacquire] at henvironment
    have hplaced := Acquirer.acquire_isPlaced (hacquirer' ▸ hdir) hthere hacquire
    have hroot : Path.isAbsolute h.session.workspaceRoot := by
      rw [hworkspace', hworkspace]
      exact habsolute workspaceRoot
    have hsuits := launchOf_suits hroot hplaced hextra m₁
    rw [henvironment] at hsuits
    exact ⟨acquisition, rfl, rfl, hsuits.of_purpose hkept.symm⟩

/-- A machine with a server below its current directory. -/
def furnishedMachine : Machine :=
  { files := ({} : FileTree).plant ["work", "i", "capnp-ls"] (.file "x".toUTF8 0o755)
    environment := [("A", "x"), ("B", "y")] }

/-- Extra variables of which two have the same name. -/
def collidingConfig : Config :=
  { extraEnv := [(.integer 1, .text "a"), (.text "A", .integer 5), (.text "1", .truth true)] }

/-- A new session for relative paths. -/
def furnishedSession : Session :=
  { workspaceRoot := "/work/w", config := collidingConfig
    acquirer := { installDir := "/work/i", platform := some .linuxX64 } }

theorem launchInfo_suits_colliding :
    create "w" "i" collidingConfig none none 900 furnishedMachine = .ok furnishedSession ∧
    ∃ info h' acquisition, launchInfo ⟨furnishedMachine, furnishedSession⟩ = (.ok info, h') ∧
      acquisition.source = .candidate ∧
      furnishedSession.Suits furnishedMachine.environment acquisition info ∧
      (info.command, info.directory, info.environment) =
        ("/work/i/capnp-ls", "/work/i", [("A", "5"), ("B", "y"), ("1", "True")]) := by
  have hcreate :
      create "w" "i" collidingConfig none none 900 furnishedMachine = .ok furnishedSession := by
    rfl
  refine ⟨hcreate, ?_⟩
  have hvalues : ((launchInfo ⟨furnishedMachine, furnishedSession⟩).1.toOption.map fun info =>
      (info.command, info.directory, info.environment)) =
        some ("/work/i/capnp-ls", "/work/i", [("A", "5"), ("B", "y"), ("1", "True")]) := by
    decide +kernel
  have hsource : (launchInfo ⟨furnishedMachine, furnishedSession⟩).2.session.acquisition.map
      (·.source) = some .candidate := by
    decide +kernel
  rcases hinfo : launchInfo ⟨furnishedMachine, furnishedSession⟩ with ⟨e | info, h'⟩
  · rw [hinfo] at hvalues
    cases hvalues
  · obtain ⟨-, -, -, acquisition, hacquisition, -, hsuits⟩ :=
      launchInfo_suits hcreate rfl nofun [] rfl rfl hinfo
    rw [hinfo] at hvalues hsource
    rw [hacquisition] at hsource
    exact ⟨info, h', acquisition, rfl, Option.some_inj.mp hsource, hsuits,
      Option.some_inj.mp hvalues⟩

end Session

end ServerLauncher
