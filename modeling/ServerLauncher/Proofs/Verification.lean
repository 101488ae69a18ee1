import ServerLauncher.Proofs.Decisions

/-!
# Checking a configured path

Under the strict policy a configured path is returned whether anything lies there or not; the
check before a start is there to say so.  The check and the acquisition come to their decisions
separately, and they agree: the check fails just where the acquisition returns the configured path
with nothing there.

## Main definitions

* `Acquirer.Lacks`: the configured path has to exist and does not.
* `Acquirer.ReturnsMissing`: an acquisition returns a configured path that leads to nothing.

## Main statements

* `Acquirer.verifyOverride_apply`: what the check does.
* `Acquirer.returnsMissing_iff`: when an acquisition returns such a path.
* `Acquirer.verifyOverride_agrees`: the check and the acquisition agree.
-/

namespace ServerLauncher

open MachineAction

namespace Acquirer

variable {a : Acquirer} {config : Config} {searchPath : Option String} {m : Machine}

/-- The configured path has to exist and does not. -/
def Lacks (a : Acquirer) (config : Config) (m : Machine) : Prop :=
  config.serverPath ≠ "" ∧ config.policy = .strict ∧
    m.files.exists m.location (a.configuredPath config m) = false

instance (a : Acquirer) (config : Config) (m : Machine) : Decidable (a.Lacks config m) :=
  inferInstanceAs (Decidable (_ ∧ _ ∧ _))

/-- The check changes nothing.  It fails where the configured path has to exist and does not. -/
theorem verifyOverride_apply (a : Acquirer) (config : Config) (m : Machine) :
    a.verifyOverride config m =
      (if a.Lacks config m then .error (.problem (.serverMissing (a.configuredPath config m)) none)
       else .ok (), m) := by
  unfold verifyOverride
  rw [observe_bind_apply, overrideOn?_eq]
  by_cases hempty : config.serverPath = ""
  · have hfine : ¬a.Lacks config m := fun h => h.1 hempty
    rw [if_pos hempty, if_neg hfine]
    rfl
  rw [if_neg hempty]
  dsimp only
  rw [pathExists, observe_bind_apply]
  by_cases hlacks : a.Lacks config m
  · rw [if_pos hlacks, if_pos (by simp [hlacks.2.1, hlacks.2.2]), throw_apply]
  · have hfine : ¬(config.policy = .strict ∧
        m.files.exists m.location (a.configuredPath config m) = false) := fun h =>
      hlacks ⟨hempty, h⟩
    rw [if_neg hlacks, if_neg (by simpa using hfine), pure_apply]

theorem verifyOverride_eq_error {path : String} :
    (a.verifyOverride config m).1 = .error (.problem (.serverMissing path) none) ↔
      a.Lacks config m ∧ path = a.configuredPath config m := by
  rw [verifyOverride_apply]
  by_cases hlacks : a.Lacks config m
  · simp [hlacks, eq_comm]
  · simp [hlacks]

theorem verifyOverride_eq_ok : (a.verifyOverride config m).1 = .ok () ↔ ¬a.Lacks config m := by
  rw [verifyOverride_apply]
  by_cases hlacks : a.Lacks config m
  · simp [hlacks]
  · simp [hlacks]

/-- An acquisition returns a configured path that leads to nothing. -/
def ReturnsMissing (a : Acquirer) (config : Config) (m : Machine) (searchPath : Option String)
    (path : String) : Prop :=
  Returns (a.acquire config searchPath m).1 .override path ∧
    m.files.exists m.location path = false

/-- Only under the strict policy is a path returned that leads to nothing. -/
theorem returnsMissing_iff {path : String} : a.ReturnsMissing config m searchPath path ↔
    a.Lacks config m ∧ path = a.configuredPath config m := by
  unfold ReturnsMissing
  rw [(a.acquire_goes config searchPath m).override_iff]
  constructor
  · rintro ⟨⟨⟨hconfigured, hcounts⟩, rfl⟩, hmissing⟩
    have hstrict := hcounts.resolve_right (by rw [hmissing]; exact Bool.false_ne_true)
    exact ⟨⟨hconfigured, hstrict, hmissing⟩, rfl⟩
  · rintro ⟨⟨hconfigured, hstrict, hmissing⟩, rfl⟩
    exact ⟨⟨⟨hconfigured, .inl hstrict⟩, rfl⟩, hmissing⟩

/-- The check fails with a path just where an acquisition, with whatever search path, returns that
path as the configured one and it leads to nothing.  So where the check passes, every configured
path that is returned exists. -/
theorem verifyOverride_agrees (a : Acquirer) (config : Config) (m : Machine) :
    (∀ path, (a.verifyOverride config m).1 = .error (.problem (.serverMissing path) none) ↔
      ∀ searchPath, a.ReturnsMissing config m searchPath path) ∧
    ((∃ path, (a.verifyOverride config m).1 = .error (.problem (.serverMissing path) none)) ↔
      ∀ searchPath, ∃ path, a.ReturnsMissing config m searchPath path) ∧
    ((a.verifyOverride config m).1 = .ok () ↔ ∀ searchPath path,
      Returns (a.acquire config searchPath m).1 .override path →
        m.files.exists m.location path = true) ∧
    (a.verifyOverride config m).2 = m := by
  have hpath : ∀ path, (a.verifyOverride config m).1 =
      .error (.problem (.serverMissing path) none) ↔
        ∀ searchPath, a.ReturnsMissing config m searchPath path := by
    intro path
    rw [verifyOverride_eq_error]
    exact ⟨fun h _ => returnsMissing_iff.mpr h, fun h => returnsMissing_iff.mp (h none)⟩
  refine ⟨hpath, ⟨?_, fun h => ?_⟩, ⟨fun hpasses searchPath path hreturns => ?_, fun h => ?_⟩, ?_⟩
  · rintro ⟨path, hfails⟩ searchPath
    exact ⟨path, (hpath path).mp hfails searchPath⟩
  · obtain ⟨path, hmissing⟩ := h none
    exact ⟨path, verifyOverride_eq_error.mpr (returnsMissing_iff.mp hmissing)⟩
  · by_contra hmissing
    rw [Bool.not_eq_true] at hmissing
    have hreturned : a.ReturnsMissing config m searchPath path := ⟨hreturns, hmissing⟩
    exact verifyOverride_eq_ok.mp hpasses (returnsMissing_iff.mp hreturned).1
  · refine verifyOverride_eq_ok.mpr fun hlacks => ?_
    have hreturned : a.ReturnsMissing config m none (a.configuredPath config m) :=
      returnsMissing_iff.mpr ⟨hlacks, rfl⟩
    obtain ⟨hreturns, hmissing⟩ := hreturned
    rw [h none _ hreturns] at hmissing
    cases hmissing
  · rw [verifyOverride_apply]

end Acquirer

end ServerLauncher
