import ServerLauncher.Proofs.Decisions
import ServerLauncher.Proofs.Path

/-!
# The search for the server

A search tries the places where the server may lie, one after the other, until it comes upon an
acceptable file.  It says of every file that it passes over, and of the one that it takes, whether
that is executable; of anything else it says nothing.

Two entries of a search path may name the same directory in different ways.  A place that comes up
again is not tried again, so that nothing is said twice.

## Main definitions

* `Acquirer.KeepsFirst`: a list without the repetitions of another one.
* `Acquirer.HasEntries`, `Acquirer.places`: a search path, and where the server may lie by it.
* `Acquirer.refusals`: what is said of the files that are not executable.
* `Acquirer.Searches`: how an acquisition ends that searches some paths.

## Main statements

* `Acquirer.candidates_keepsFirst`: the paths that are tried are these places.
* `Acquirer.searchOn_of_first`, `Acquirer.searchOn_of_none`: what a search finds and says.
* `Acquirer.acquire_searches`: how every acquisition ends for which no configured path counts.
-/

namespace ServerLauncher

open MachineAction

namespace Acquirer

/-! ## The paths -/

/-- A list holds the elements of another one, each once and in the order of their first
occurrences. -/
structure KeepsFirst (xs ys : List String) : Prop where
  mem : ∀ x, x ∈ ys ↔ x ∈ xs
  nodup : ys.Nodup
  order : ys.Pairwise fun x y => xs.idxOf x < xs.idxOf y

theorem distinct_keepsFirst (xs : List String) : KeepsFirst xs (distinct xs) := by
  refine ⟨fun x => mem_distinct, ?_, ?_⟩
  · induction xs with
    | nil => exact .nil
    | cons x xs ih =>
      rw [distinct, List.nodup_cons]
      exact ⟨by simp, ih.filter _⟩
  · induction xs with
    | nil => exact .nil
    | cons x xs ih =>
      have hlater : ∀ y ∈ (distinct xs).filter (· ≠ x), (x :: xs).idxOf y = xs.idxOf y + 1 := by
        intro y hy
        have hne : x ≠ y := by
          rintro rfl
          simp at hy
        rw [List.idxOf_cons_ne xs hne]
      rw [distinct, List.pairwise_cons]
      refine ⟨fun y hy => ?_, ?_⟩
      · rw [hlater y hy, List.idxOf_cons_self]
        exact Nat.succ_pos _
      · refine (ih.filter _).imp_of_mem fun hy hz hlt => ?_
        rw [hlater _ hy, hlater _ hz]
        exact Nat.succ_lt_succ hlt

/-- The entries of a search path: the texts between its colons. -/
structure HasEntries (searchPath : String) (entries : List String) : Prop where
  text : ":".intercalate entries = searchPath
  uncut : ∀ e ∈ entries, ':' ∉ e.toList

/-- Where the server may lie: in the installation directory, and in the directories that the
entries of a search path name.  An empty entry names none. -/
def places (a : Acquirer) (current : String) (entries : List String) : List String :=
  Path.join a.installDir a.binaryName ::
    (entries.filter (· ≠ "")).map fun d => Path.join (Path.absolute current d) a.binaryName

theorem hasEntries_splitAt (searchPath : String) :
    HasEntries searchPath ((Text.splitAt ':' searchPath.toList).map String.ofList) := by
  refine ⟨Text.intercalate_splitAt ':' searchPath, fun e he => ?_⟩
  obtain ⟨piece, hpiece, rfl⟩ := List.mem_map.mp he
  rw [String.toList_ofList]
  exact Text.not_mem_of_mem_splitAt hpiece

variable {a : Acquirer} {config : Config} {searchPath : Option String} {m : Machine}
  {files : FileTree} {current : Location} {paths before : List String} {path : String}

/-- The paths that are searched are all these places, in this order. -/
theorem candidates_keepsFirst (a : Acquirer) (searchPath : Option String) (m : Machine) :
    ∃ entries, HasEntries (searchPath.getD ((m.environment.get? "PATH").getD "")) entries ∧
      KeepsFirst (a.places m.current entries) (a.candidates searchPath m) := by
  refine ⟨_, hasEntries_splitAt _, ?_⟩
  have hfilter : ∀ entries : List String,
      entries.filter (!·.isEmpty) = entries.filter (· ≠ "") := fun entries =>
    List.filter_congr fun e _ => by rw [Bool.eq_iff_iff]; simp
  unfold candidates candidatesFrom directories places
  rw [hfilter]
  exact distinct_keepsFirst _

/-! ## The search -/

/-- What is said of a file that is not executable. -/
def refusal (path : String) : String :=
  "Found language server at " ++ path ++ " but it's not executable"

/-- What is said of a file that is executable. -/
def discovery (path : String) : String := "Found language server at: " ++ path

/-- What is said of paths that have been tried, of which none is taken as an executable file. -/
def refusals (m : Machine) (paths : List String) : List String :=
  (paths.filter fun path => m.files.isFile m.location path &&
    !m.files.isExecutable m.location path).map refusal

theorem refusals_cons (m : Machine) (path : String) (paths : List String) :
    refusals m (path :: paths) = refusals m [path] ++ refusals m paths := by
  unfold refusals
  rw [← List.map_append, ← List.filter_append]
  rfl

theorem search_of_absent (hfile : files.isFile current path = false) (rest : List String) :
    a.search files current (path :: rest) = a.search files current rest := by
  rw [search, if_pos (by simp [hfile])]

theorem search_of_refused (hfile : files.isFile current path)
    (hexecutable : files.isExecutable current path = false) (rest : List String) :
    a.search files current (path :: rest) =
      if a.ignoresPermissions then (some path, [refusal path])
      else ((a.search files current rest).1, refusal path :: (a.search files current rest).2) := by
  rw [search, if_neg (by simp [hfile]), if_neg (by simp [hexecutable])]
  rfl

theorem search_of_executable (hfile : files.isFile current path)
    (hexecutable : files.isExecutable current path) (rest : List String) :
    a.search files current (path :: rest) = (some path, [discovery path]) := by
  rw [search, if_neg (by simp [hfile]), if_pos hexecutable]
  rfl

/-- What is said of the paths that are passed over. -/
theorem searchOn_append (hbefore : ∀ path ∈ before, a.accepts m path = false) :
    a.searchOn (before ++ paths) m =
      ((a.searchOn paths m).1, refusals m before ++ (a.searchOn paths m).2) := by
  induction before with
  | nil => rfl
  | cons path rest ih =>
    rw [List.forall_mem_cons] at hbefore
    obtain ⟨hpath, hrest⟩ := hbefore
    have hsearch := ih hrest
    unfold accepts at hpath
    unfold searchOn at hsearch ⊢
    rw [List.cons_append, refusals_cons, List.append_assoc]
    by_cases hfile : m.files.isFile m.location path
    · obtain ⟨hexecutable, hignored⟩ : m.files.isExecutable m.location path = false ∧
          a.ignoresPermissions = false := by simpa [hfile] using hpath
      rw [search_of_refused hfile hexecutable, hignored, hsearch]
      simp [refusals, hfile, hexecutable]
    · rw [Bool.not_eq_true] at hfile
      rw [search_of_absent hfile, hsearch]
      simp [refusals, hfile]

theorem searchOn_of_none (hnone : ∀ path ∈ paths, a.accepts m path = false) :
    a.searchOn paths m = (none, refusals m paths) := by
  have hsearch : a.searchOn (paths ++ []) m = _ := searchOn_append hnone
  rw [List.append_nil] at hsearch
  rw [hsearch, searchOn, search, List.append_nil]

/-- The first acceptable path is found, and it is called executable if it is. -/
theorem searchOn_of_first (hbefore : ∀ path ∈ before, a.accepts m path = false)
    (haccepts : a.accepts m path) (after : List String) :
    a.searchOn (before ++ path :: after) m = (some path, refusals m (before ++ [path]) ++
      if m.files.isExecutable m.location path then [discovery path] else []) := by
  have happend : refusals m (before ++ [path]) = refusals m before ++ refusals m [path] := by
    unfold refusals
    rw [List.filter_append, List.map_append]
  rw [searchOn_append hbefore, happend, List.append_assoc]
  unfold accepts at haccepts
  obtain ⟨hfile, hsuits⟩ := Bool.and_eq_true_iff.mp haccepts
  unfold searchOn
  by_cases hexecutable : m.files.isExecutable m.location path
  · rw [search_of_executable hfile hexecutable]
    simp [refusals, hexecutable]
  · rw [Bool.not_eq_true] at hexecutable
    have hignored : a.ignoresPermissions := by simpa [hexecutable] using hsuits
    rw [search_of_refused hfile hexecutable, hignored]
    simp [refusals, hfile, hexecutable]

/-! ## The acquisition -/

/-- What is said before a search: that the configured path leads to nothing, if there is one. -/
def preface (a : Acquirer) (config : Config) (m : Machine) : List String :=
  if config.serverPath = "" then []
  else ["Configured server path " ++ a.configuredPath config m ++
    " does not exist, searching for " ++ a.binaryName ++ " instead"]

/-- How an acquisition ends that searches some paths after something has been said. -/
inductive Searches (a : Acquirer) (m : Machine) (paths ds : List String) :
    Except Fault Acquisition → Prop where
  /-- The first acceptable path is returned. -/
  | found (before after : List String) (path : String) (hpaths : paths = before ++ path :: after)
      (haccepts : a.accepts m path) (hbefore : ∀ p ∈ before, a.accepts m p = false) :
      Searches a m paths ds (.ok ⟨path, .candidate, ds ++ (refusals m (before ++ [path]) ++
        if m.files.isExecutable m.location path then [discovery path] else [])⟩)
  /-- No path is acceptable, and none is returned as a candidate. -/
  | missed (result : Except Fault Acquisition) (hnone : ∀ p ∈ paths, a.accepts m p = false)
      (hresult : ∀ r, result = .ok r →
        r.source ≠ .candidate ∧ ds ++ refusals m paths <+: r.diagnostics) :
      Searches a m paths ds result

/-- What is said after a search comes after what has been said. -/
theorem downloadOr_begins (ds : List String) {r : Acquisition}
    (hr : (a.downloadOr config ds m).1 = .ok r) :
    r.source ≠ .candidate ∧ ds <+: r.diagnostics := by
  unfold downloadOr at hr
  rcases hspec : DownloadSpec.forPlatform config.serverVersion a.platform a.installDir with _ | spec
  · rw [hspec] at hr
    dsimp only at hr
    rw [fallBack, report_fst] at hr
    cases hr
    exact ⟨by simp, by simp⟩
  rw [hspec] at hr
  dsimp only at hr
  split_ifs at hr
  · rw [fallBack, report_fst] at hr
    cases hr
    exact ⟨by simp, by simp⟩
  rcases hattempt : a.downloader.fetch spec (.real config.downloadTimeout) m with
    ⟨fault | ⟨n⟩ | ⟨problem, cause⟩, m₁⟩
  · rw [bind_of_error hattempt] at hr
    cases hr
  · rw [bind_of_ok hattempt] at hr
    dsimp only [FetchOutcome.fault?] at hr
    rw [report_fst] at hr
    cases hr
    exact ⟨by simp, by simp⟩
  · rw [bind_of_ok hattempt] at hr
    dsimp only [FetchOutcome.fault?] at hr
    rw [fallBack, report_fst] at hr
    cases hr
    exact ⟨by simp, by simp⟩

theorem searchOr_searches (a : Acquirer) (config : Config) (searchPath : Option String)
    (m : Machine) (ds : List String) :
    Searches a m (a.candidates searchPath m) ds (a.searchOr config searchPath ds m).1 := by
  unfold searchOr
  rw [observe_bind_apply]
  rcases hfound : a.found searchPath m with _ | path
  · have hnone : ∀ p ∈ a.candidates searchPath m, a.accepts m p = false := by
      simpa [found] using hfound
    rw [searchOn_of_none hnone]
    exact .missed _ hnone fun r hr => downloadOr_begins _ hr
  · obtain ⟨haccepts, before, after, hpaths, hbefore⟩ := List.find?_eq_some_iff_append.mp hfound
    have hbefore' : ∀ p ∈ before, a.accepts m p = false := by simpa using hbefore
    rw [hpaths, searchOn_of_first hbefore' haccepts]
    dsimp only
    rw [report_fst]
    exact .found before after path rfl haccepts hbefore'

/-- If no configured path counts, the server in the installation directory and those in the
directories of the search path are tried, each path once and in this order.  The first one that is
acceptable is returned, and if there is none, no candidate is returned.  Of the files that have been
tried all those are named that are not executable, and then the one that is found, if it is.  A file
is executable if any of its execute bits is set, and the directories of the search path are seen
from a current directory that is there. -/
theorem acquire_searches (hnot : ¬a.Overrides config m) (searchPath : Option String) :
    (∃ entries, HasEntries (searchPath.getD ((m.environment.get? "PATH").getD "")) entries ∧
      KeepsFirst (a.places m.current entries) (a.candidates searchPath m)) ∧
    Searches a m (a.candidates searchPath m) (a.preface config m)
      (a.acquire config searchPath m).1 := by
  refine ⟨a.candidates_keepsFirst searchPath m, ?_⟩
  unfold acquire preface
  rw [observe_bind_apply, overrideOn?_eq]
  by_cases hempty : config.serverPath = ""
  · rw [if_pos hempty, if_pos hempty]
    exact searchOr_searches a config searchPath m []
  rw [if_neg hempty, if_neg hempty]
  dsimp only
  rw [pathExists, observe_bind_apply]
  have hmissing : config.policy = .fallback ∧
      m.files.exists m.location (a.configuredPath config m) = false := by
    rw [Overrides, not_and, not_or, Bool.not_eq_true] at hnot
    obtain ⟨hpolicy, hmissing⟩ := hnot hempty
    refine ⟨?_, hmissing⟩
    rcases hcase : config.policy with _ | _
    · exact absurd hcase hpolicy
    · rfl
  rw [if_pos (by simp [hmissing.1, hmissing.2])]
  exact searchOr_searches a config searchPath m _

/-- A machine with a server that is not executable in the installation directory, a directory of the
name of a server, and a server elsewhere. -/
def strewnMachine : Machine :=
  { files := ((({} : FileTree).plant ["i", "capnp-ls"] (.file "x".toUTF8 0o644)).plant
      ["a", "capnp-ls"] .directory).plant ["b", "capnp-ls"] (.file "y".toUTF8 0o755) }

/-- The last one is found, by a search path that names a directory three times. -/
theorem acquire_searches_strewn :
    let a : Acquirer := { installDir := "/i", platform := some .linuxX64 }
    let config : Config := { serverPath := "gone", policy := .fallback }
    let searchPath := some "/a::/b/../a:/b:/a"
    ¬a.Overrides config strewnMachine ∧
    a.candidates searchPath strewnMachine = ["/i/capnp-ls", "/a/capnp-ls", "/b/capnp-ls"] ∧
    (a.acquire config searchPath strewnMachine).1.toOption = some ⟨"/b/capnp-ls", .candidate,
      ["Configured server path /i/gone does not exist, searching for capnp-ls instead",
        "Found language server at /i/capnp-ls but it's not executable",
        "Found language server at: /b/capnp-ls"]⟩ ∧
    Searches a strewnMachine (a.candidates searchPath strewnMachine)
      (a.preface config strewnMachine) (a.acquire config searchPath strewnMachine).1 := by
  intro a config searchPath
  have hnot : ¬a.Overrides config strewnMachine := by decide +kernel
  exact ⟨hnot, by decide +kernel, by decide +kernel, (acquire_searches hnot searchPath).2⟩

end Acquirer

end ServerLauncher
