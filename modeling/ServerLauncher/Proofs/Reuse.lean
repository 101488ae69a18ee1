import ServerLauncher.Proofs.Artifact
import ServerLauncher.Proofs.Decisions
import ServerLauncher.Proofs.Integrity

/-!
# A server that is found again

What one acquisition has found or downloaded the next one finds.  The download puts the server where
the search looks first and leaves it executable, whatever lay there before and with whatever
permissions.  A path that was configured or found is returned again because an acquisition that does
not download changes nothing that its decision depends on.

## Main definitions

* `Acquirer.Shares`: two acquirers look for the same server in the same directory.

## Main statements

* `Acquirer.candidates_eq`: the installation directory is searched first.
* `Acquirer.accepts_of_attempt`: what was downloaded is acceptable.
* `Acquirer.acquire_reuses`: what one acquisition returns the next one returns.
-/

namespace ServerLauncher

open MachineAction World StepKind

namespace Machine.Tells

variable {m m' : Machine}

theorem requests_eq (h : m.Tells m') : m'.requests = m.requests := by
  obtain ⟨records, heq⟩ := h
  rw [heq]
  rfl

end Machine.Tells

namespace Acquirer

variable {a b : Acquirer} {config : Config} {searchPath : Option String} {m m' : Machine}

/-! ## After records only -/

theorem configuredPath_of_tells (h : m.Tells m') (a : Acquirer) (config : Config) :
    a.configuredPath config m' = a.configuredPath config m := by
  unfold configuredPath Machine.bindings
  rw [h.environment_eq]

theorem overrides_of_tells (h : m.Tells m') (a : Acquirer) (config : Config) :
    a.Overrides config m' ↔ a.Overrides config m := by
  unfold Overrides
  rw [configuredPath_of_tells h, h.files_eq, h.location_eq]

theorem found_of_tells (h : m.Tells m') (a : Acquirer) (searchPath : Option String) :
    a.found searchPath m' = a.found searchPath m := by
  have haccepts : a.accepts m' = a.accepts m := by
    funext path
    rw [accepts, accepts, h.files_eq, h.location_eq]
  unfold found candidates
  rw [haccepts, h.current_eq, h.environment_eq]

/-! ## After a download -/

theorem eq_ok_of_hasDownloaded {result : Except Fault Acquisition} (h : hasDownloaded result) :
    ∃ acquired, result = .ok acquired ∧ acquired.source = .download := by
  cases result with
  | error e => cases h
  | ok acquired => exact ⟨acquired, rfl, by simpa [hasDownloaded] using h⟩

/-- Two acquirers look for the same server in the same directory. -/
structure Shares (a b : Acquirer) : Prop where
  installDir : b.installDir = a.installDir
  platform : b.platform = a.platform

theorem Shares.binaryName (h : a.Shares b) : b.binaryName = a.binaryName := by
  rw [Acquirer.binaryName, Acquirer.binaryName, h.platform]

/-- The installation directory is searched first. -/
theorem candidates_eq (a : Acquirer) (searchPath : Option String) (m : Machine) :
    ∃ rest, a.candidates searchPath m = Path.join a.installDir a.binaryName :: rest := by
  unfold candidates candidatesFrom distinct
  exact ⟨_, rfl⟩

theorem found_of_accepts (h : b.accepts m (Path.join b.installDir b.binaryName))
    (searchPath : Option String) :
    b.found searchPath m = some (Path.join b.installDir b.binaryName) := by
  obtain ⟨rest, hcandidates⟩ := b.candidates_eq searchPath m
  rw [found, hcandidates, List.find?_cons, h]

/-- A mode with all execute bits allows execution. -/
theorem executableMode_executes (mode : Nat) : executableMode false mode &&& executeBits ≠ 0 := by
  intro hzero
  have hbit := congrArg (Nat.testBit · 0) hzero
  simp [executableMode, executeBits] at hbit

/-- What was downloaded is acceptable, for every acquirer. -/
theorem accepts_of_attempt {spec : DownloadSpec} {n : Nat} (hbits : m.lacksExecuteBits = false)
    (h : a.attempt config spec m = (.ok (.succeeded n), m')) (b : Acquirer) :
    b.accepts m' spec.target := by
  obtain ⟨l, r, hcompletes⟩ := Downloader.download_completes h
  have hsame : (announced spec m).lacksExecuteBits = false := hbits
  have hfile : m'.files.find m'.location spec.target = .ok (l, .file (bytesOf r.chunks)
      (executableMode (announced spec m).lacksExecuteBits
        (Entry.openedMode ((announced spec m).files.get? l)))) := hcompletes.file
  rw [hsame] at hfile
  obtain ⟨hisFile, hexecutable⟩ := FileTree.isExecutable_of_file hfile
  have hmode := executableMode_executes (Entry.openedMode ((announced spec m).files.get? l))
  rw [accepts, hisFile, hexecutable]
  simp [hmode]

/-- What one acquisition has downloaded, every later one finds whose configured path does not
count. -/
theorem reuse_of_download (hbits : m.lacksExecuteBits = false) {acquired : Acquisition}
    (h : a.acquire config searchPath m = (.ok acquired, m')) (hsource : acquired.source = .download)
    (hshares : a.Shares b) {config' : Config} (hnot : ¬b.Overrides config' m')
    (searchPath' : Option String) :
    Returns (b.acquire config' searchPath' m').1 .candidate acquired.path ∧
      m'.Tells (b.acquire config' searchPath' m').2 := by
  have hgoes := a.acquire_goes config searchPath m
  rw [h] at hgoes
  cases hgoes with
  | @downloaded spec n ds m₁ _ hdownloads hattempt htells =>
    have htarget : spec.target = Path.join b.installDir b.binaryName := by
      rw [hdownloads.target_eq, hshares.installDir, hshares.binaryName]
    have haccepts : b.accepts m₁ (Path.join b.installDir b.binaryName) := by
      rw [← htarget]
      exact accepts_of_attempt hbits hattempt b
    have hfound : b.found searchPath' m' = some spec.target := by
      rw [found_of_tells htells, htarget]
      exact found_of_accepts haccepts searchPath'
    have hnext := (b.acquire_goes config' searchPath' m').decides
    refine ⟨(hnext.candidate _).mpr ⟨hnot, hfound⟩, hnext.untouched fun spec' hdownloads' => ?_⟩
    rw [hdownloads'.not_found] at hfound
    cases hfound
  | _ => cases hsource

/-- A path that was configured or found is returned again. -/
theorem reuse_of_found {acquired : Acquisition}
    (h : a.acquire config searchPath m = (.ok acquired, m'))
    (hsource : acquired.source = .override ∨ acquired.source = .candidate) :
    Returns (a.acquire config searchPath m').1 acquired.source acquired.path := by
  have hgoes := a.acquire_goes config searchPath m
  have hnext := (a.acquire_goes config searchPath m').decides
  rw [h] at hgoes
  cases hgoes with
  | override ds hoverrides htells =>
    exact (hnext.override _).mpr ⟨(overrides_of_tells htells a config).mpr hoverrides,
      (configuredPath_of_tells htells a config).symm⟩
  | candidate path ds hnot hfound htells =>
    refine (hnext.candidate _).mpr ⟨fun h => hnot ((overrides_of_tells htells a config).mp h), ?_⟩
    rw [found_of_tells htells]
    exact hfound
  | _ => rcases hsource with hsource | hsource <;> cases hsource

/-- An acquisition that follows another one returns the same path: what was downloaded it finds,
whatever else is configured and whoever acquires, and what was configured or found is so again.  To
find what was downloaded it asks for nothing and leaves the files as they are.  The download has set
all execute bits, and any of them is enough for a file to be executed; the current directory is
there at both times. -/
theorem acquire_reuses {acquired : Acquisition}
    (h : a.acquire config searchPath m = (.ok acquired, m')) :
    (acquired.source = .download → m.lacksExecuteBits = false →
      ∀ (b : Acquirer) (config' : Config) (searchPath' : Option String), a.Shares b →
        ¬b.Overrides config' m' →
        Returns (b.acquire config' searchPath' m').1 .candidate acquired.path ∧
          m'.Tells (b.acquire config' searchPath' m').2) ∧
    (acquired.source = .override ∨ acquired.source = .candidate →
      Returns (a.acquire config searchPath m').1 acquired.source acquired.path) :=
  ⟨fun hsource hbits _ _ searchPath' hshares hnot =>
    reuse_of_download hbits h hsource hshares hnot searchPath', reuse_of_found h⟩

/-- An old file that is not executable lies in the installation directory. -/
def outdatedMachine : Machine :=
  .answering ⟨[(["i"], .directory), (["i", "capnp-ls"], .file ⟨#[9]⟩ 0o600)]⟩
    [(releaseUrl "v0.0.1" "capnp-ls-linux-x86_64", { chunks := [{ content := .ok ⟨#[1, 2]⟩ }] })]

/-- The configured path does not exist, so that the server is downloaded, and then found although
downloads have been disabled. -/
theorem acquire_reuses_outdated :
    let config : Config := { serverPath := "none", policy := .fallback }
    let first := freshAcquirer.acquire config none outdatedMachine
    let second := freshAcquirer.acquire { config with downloadEnabled := false } (some "/b") first.2
    ∃ acquired, first = (.ok acquired, first.2) ∧ acquired.source = .download ∧
      Returns second.1 .candidate acquired.path ∧ first.2.Tells second.2 := by
  intro config first second
  have hdownloaded : hasDownloaded first.1 := by decide +kernel
  obtain ⟨acquired, hacquired, hsource⟩ := eq_ok_of_hasDownloaded hdownloaded
  have hfirst : first = (.ok acquired, first.2) := Prod.ext hacquired rfl
  have hnot : ¬freshAcquirer.Overrides { config with downloadEnabled := false } first.2 := by
    decide +kernel
  have hbits : outdatedMachine.lacksExecuteBits = false := rfl
  exact ⟨acquired, hfirst, hsource,
    (acquire_reuses hfirst).1 hsource hbits freshAcquirer _ _ ⟨rfl, rfl⟩ hnot⟩

end Acquirer

end ServerLauncher
