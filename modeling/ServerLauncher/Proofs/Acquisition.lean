import ServerLauncher.Acquirer
import ServerLauncher.Proofs.Steps

/-!
# The course of an acquisition

An acquisition either changes nothing but the records, or it makes one download after the search has
found nothing.

## Main definitions

* `Acquirer.hasDownloaded`: an acquisition has downloaded the server.
* `Acquirer.Course`: the ways in which an acquisition goes.

## Main statements

* `Acquirer.search_eq_some`, `Acquirer.search_eq_none`: what a search says about the files.
* `Acquirer.acquire_course`: an acquisition goes in one of these ways.
-/

namespace ServerLauncher

open MachineAction World StepKind

theorem FileTree.isExecutable_of_file {t : FileTree} {current l : Location} {path : String}
    {content : ByteArray} {mode : Nat} (h : t.find current path = .ok (l, .file content mode)) :
    t.isFile current path ∧ t.isExecutable current path = (mode &&& executeBits != 0) := by
  rw [isFile, isExecutable, h]
  exact ⟨rfl, rfl⟩

namespace Acquirer

variable {a : Acquirer} {files : FileTree} {current : Location} {paths : List String}
  {path : String}

/-! ## The search -/

/-- A path that is found leads to an executable file. -/
theorem search_eq_some (hpermissions : a.ignoresPermissions = false)
    (h : (a.search files current paths).1 = some path) :
    files.isFile current path ∧ files.isExecutable current path := by
  induction paths with
  | nil => cases h
  | cons first rest ih =>
    rw [search] at h
    split_ifs at h with hfile hexecutable hignored
    · exact ih h
    · cases h
      exact ⟨by simpa using hfile, hexecutable⟩
    · rw [hpermissions] at hignored
      cases hignored
    · exact ih h

/-- When nothing is found, no path leads to an executable file. -/
theorem search_eq_none (h : (a.search files current paths).1 = none) :
    ∀ path ∈ paths, files.isFile current path → files.isExecutable current path = false := by
  induction paths with
  | nil => simp
  | cons first rest ih =>
    rw [search] at h
    rw [List.forall_mem_cons]
    split_ifs at h with hfile hexecutable hignored
    · refine ⟨fun hthere => ?_, ih h⟩
      rw [hthere] at hfile
      cases hfile
    · exact ⟨fun _ => by simpa using hexecutable, ih h⟩

theorem mem_distinct {x : String} {xs : List String} : x ∈ distinct xs ↔ x ∈ xs := by
  induction xs with
  | nil => rfl
  | cons y ys ih =>
    rw [distinct, List.mem_cons, List.mem_cons, List.mem_filter, ih]
    by_cases hxy : x = y
    · simp [hxy]
    · simp [hxy]

/-- The installation directory is searched. -/
theorem mem_candidates (a : Acquirer) (searchPath : Option String) (m : Machine) :
    Path.join a.installDir a.binaryName ∈ a.candidates searchPath m := by
  unfold candidates candidatesFrom distinct
  exact List.mem_cons_self

/-! ## The course -/

theorem foldl_record (ds : List String) (m : Machine) :
    ds.foldl (fun m d => m.record .info .acquirer d) m =
      { m with records := m.records ++ ds.map fun d => ⟨.info, .acquirer, d⟩ } := by
  induction ds generalizing m with
  | nil => simp
  | cons d rest ih =>
    rw [List.foldl_cons, ih]
    simp [Machine.record]

theorem report_leads (result : Acquisition) (m : Machine) :
    m.Leads (StepOf {.note}) (report result m).2 := by
  have htold : m.Leads (StepOf {.note}) (change (fun m =>
      result.diagnostics.foldl (fun m d => m.record .info .acquirer d) m) m).2 := by
    rw [change_apply, foldl_record]
    have hstep := Step.note (w := m.toWorld) []
      (result.diagnostics.map fun d => ⟨.info, .acquirer, d⟩) (by simp)
    rw [List.append_nil] at hstep
    exact .step rfl (hstep.of (by simp))
  unfold report
  rw [change_bind_apply]
  refine htold.trans ?_
  rw [change_apply]
  split_ifs
  · exact record_makes (by simp) _ _ _ _
  · exact .refl _

theorem report_fst (result : Acquisition) (m : Machine) : (report result m).1 = .ok result := by
  unfold report
  rw [change_bind_apply]
  split_ifs <;> rfl

/-- An acquisition has downloaded the server. -/
def hasDownloaded : Except Fault Acquisition → Bool
  | .ok result => result.source = .download
  | .error _ => false

/-- The ways in which an acquisition goes. -/
inductive Course (a : Acquirer) (config : Config) (searchPath : Option String) (m : Machine) :
    Except Fault Acquisition → Machine → Prop where
  /-- Something is found, or nothing is tried. -/
  | told (result : Acquisition) (m' : Machine) (h : m.Leads (StepOf {.note}) m')
      (hfound : result.source = .candidate →
        (a.searchOn (a.candidates searchPath m) m).1 = some result.path)
      (hsource : result.source ≠ .download) : Course a config searchPath m (.ok result) m'
  /-- Nothing is found, and a download is made. -/
  | fetched (result : Except Fault Acquisition) (spec : DownloadSpec) (m₁ m' : Machine)
      (hspec : DownloadSpec.forPlatform config.serverVersion a.platform a.installDir = some spec)
      (hmissing : (a.searchOn (a.candidates searchPath m) m).1 = none)
      (hbefore : m.Leads (StepOf {.note}) m₁)
      (hafter : (a.downloader.download spec.url spec.target config.downloadTimeout m₁).2.Leads
        (StepOf {.note}) m')
      (hresult : hasDownloaded result ↔ ∃ n,
        (a.downloader.download spec.url spec.target config.downloadTimeout m₁).1 =
          .ok (.succeeded n))
      (hsource : ∀ acquired, result = .ok acquired → acquired.source ≠ .candidate) :
      Course a config searchPath m result m'

variable {config : Config} {searchPath : Option String} {m : Machine}

theorem Course.of_report {result : Acquisition}
    (hfound : result.source = .candidate →
      (a.searchOn (a.candidates searchPath m) m).1 = some result.path)
    (hsource : result.source ≠ .download) :
    Course a config searchPath m (report result m).1 (report result m).2 := by
  rw [report_fst]
  exact .told result _ (report_leads result m) hfound hsource

/-- The machine on which a download has been announced. -/
def announced (spec : DownloadSpec) (m : Machine) : Machine :=
  (record .info .download
    ("Downloading capnp-ls version " ++ spec.version ++ " for " ++ spec.platform.text) m).2

/-- A download of a release is a download that has been announced. -/
theorem fetch_apply (d : Downloader) (spec : DownloadSpec) (timeout : Double) (m : Machine) :
    d.fetch spec (.real timeout) m =
      d.download spec.url spec.target timeout (announced spec m) := by
  unfold Downloader.fetch Downloader.downloadWithin announced
  have hseconds : ∀ m', settle (secondsOf (.real timeout)) m' = (.ok timeout, m') := fun _ => rfl
  rw [record, change_bind_apply, bind_of_ok (hseconds _)]
  rfl

theorem announced_leads (spec : DownloadSpec) (m : Machine) :
    m.Leads (StepOf {.note}) (announced spec m) :=
  record_makes (by simp) _ _ _ m

theorem downloadOr_course (hmissing : (a.searchOn (a.candidates searchPath m) m).1 = none)
    (diagnostics : List String) :
    Course a config searchPath m (a.downloadOr config diagnostics m).1
      (a.downloadOr config diagnostics m).2 := by
  unfold downloadOr
  rcases hspec : DownloadSpec.forPlatform config.serverVersion a.platform a.installDir with _ | spec
  · exact .of_report (by simp) (by simp)
  dsimp only
  split_ifs
  · exact .of_report (by simp) (by simp)
  have hfetch := fetch_apply a.downloader spec config.downloadTimeout m
  have hbefore := announced_leads spec m
  set m₁ := announced spec m
  rcases hdownload : a.downloader.download spec.url spec.target config.downloadTimeout m₁ with
    ⟨fault | ⟨n⟩ | ⟨problem, cause⟩, m₂⟩
  · rw [bind_of_error (hfetch.trans hdownload)]
    refine .fetched _ spec m₁ _ hspec hmissing hbefore ?_ ?_ (by simp)
    · rw [hdownload]
      exact .refl m₂
    · rw [hdownload]
      simp [hasDownloaded]
  · rw [bind_of_ok (hfetch.trans hdownload)]
    dsimp only [FetchOutcome.fault?]
    rw [report_fst]
    refine .fetched _ spec m₁ _ hspec hmissing hbefore ?_ ?_ ?_
    · rw [hdownload]
      exact report_leads _ m₂
    · rw [hdownload]
      simp [hasDownloaded]
    · rintro _ ⟨⟩
      simp
  · rw [bind_of_ok (hfetch.trans hdownload)]
    dsimp only [FetchOutcome.fault?]
    rw [fallBack, report_fst]
    refine .fetched _ spec m₁ _ hspec hmissing hbefore ?_ ?_ ?_
    · rw [hdownload]
      exact report_leads _ m₂
    · rw [hdownload]
      simp [hasDownloaded]
    · rintro _ ⟨⟩
      simp

theorem searchOr_course (diagnostics : List String) :
    Course a config searchPath m (a.searchOr config searchPath diagnostics m).1
      (a.searchOr config searchPath diagnostics m).2 := by
  unfold searchOr
  rw [observe_bind_apply]
  rcases hsearch : a.searchOn (a.candidates searchPath m) m with ⟨_ | path, more⟩
  · exact downloadOr_course (by rw [hsearch]) _
  · exact .of_report (fun _ => by rw [hsearch]) (by simp)

/-- An acquisition changes nothing but the records, or makes one download. -/
theorem acquire_course (a : Acquirer) (config : Config) (searchPath : Option String) (m : Machine) :
    Course a config searchPath m (a.acquire config searchPath m).1
      (a.acquire config searchPath m).2 := by
  unfold acquire
  rw [observe_bind_apply]
  rcases a.overrideOn? config m with _ | path
  · exact searchOr_course []
  · dsimp only
    rw [MachineAction.pathExists, observe_bind_apply]
    split_ifs
    · exact searchOr_course _
    · exact .of_report (by simp) (by simp)

end Acquirer

end ServerLauncher
