import ServerLauncher.Proofs.Breaks
import ServerLauncher.Proofs.Faults
import ServerLauncher.Proofs.Outcome

/-!
# The failures of an attempt

The setbacks of all stages, put together.  An attempt meets with one of them exactly when its stages
fail, and then they fail with the fault of that setback.  A download hands over what its stages
ended in: as a failed outcome if it is a problem, and as it is otherwise.

## Main definitions

* `Attempt.Fills`: the body has been written.
* `Attempt.DeliveryMeets`, `Attempt.Meets`: the setbacks up to the check of the file, and all of
  them.

## Main statements

* `Attempt.run_eq_error`: the stages fail of the setbacks that they meet with.
* `Downloader.download_eq_failed`, `Downloader.download_eq_error`: so does a download, with a failed
  outcome or without an outcome.
-/

namespace ServerLauncher

open MachineAction World StepKind

namespace Attempt

variable {a : Attempt} {m m' : Machine} {e : Fault}

/-! ## The file -/

theorem guarding_apply {α : Type} (problem : Problem) (x : MachineAction α) (m : Machine) :
    guarding problem x m = match x m with
      | (.ok result, m') => (.ok result, m')
      | (.error fault, m') => (.error (guardedFault problem fault), m') := by
  unfold guarding guardedFault
  rw [attempt_bind_apply]
  rcases x m with ⟨fault | result, m'⟩
  · rfl
  · rfl

/-- The check of the file fails if the file cannot be inspected or is empty. -/
theorem verify_eq_error : (a.verify m).1 = .error e ↔
    (∃ fault m₁, fileStatus a.target m = (.error fault, m₁) ∧
      guardedFault (.sizeUnknown a.target) fault = e) ∨
    ∃ mode m₁, fileStatus a.target m = (.ok (0, mode), m₁) ∧ .problem .emptyArtifact none = e := by
  have hguarding := guarding_apply (.sizeUnknown a.target) (fileStatus a.target) m
  unfold verify
  rcases hstatus : fileStatus a.target m with ⟨fault | ⟨size, mode⟩, m₁⟩
  · rw [hstatus] at hguarding
    rw [bind_of_error hguarding]
    simp
  · rw [hstatus] at hguarding
    rw [bind_of_ok hguarding]
    dsimp only
    by_cases hempty : size = 0
    · rw [if_pos hempty]
      simp [hempty]
    · rw [if_neg hempty]
      have hrecord : (record .info .download
          ("Downloaded file size: " ++ toString size ++ " bytes") m₁).1 = .ok () := rfl
      rw [hrecord]
      simp [hempty]

/-- The file is made executable unless the deadline has passed or its permissions cannot be set. -/
theorem makeExecutable_eq_error (hm : a.HasDeadlineOn m) : (a.makeExecutable m).1 = .error e ↔
    (a.isExpiredAt m.toWorld ∧ a.timeoutFault none = e) ∨
    (a.isExpiredAt m.toWorld = false ∧ m.lacksExecuteBits = false ∧ ∃ fault m₁,
      permitExecution a.target m = (.error fault, m₁) ∧
      guardedFault (.notExecutable a.target) fault = e) := by
  unfold makeExecutable
  by_cases hlate : a.isExpiredAt m.toWorld
  · rw [bind_of_error (a.remaining_of_isExpiredAt hlate)]
    simp [hlate]
  · rw [Bool.not_eq_true] at hlate
    rw [bind_of_ok (remaining_of_inTime hm hlate), observe_bind_apply]
    by_cases hlacks : m.lacksExecuteBits
    · rw [if_pos hlacks]
      simp [hlate, hlacks]
    · rw [if_neg hlacks, guarding_apply]
      rcases permitExecution a.target m with ⟨fault | _, m₁⟩
      · simp [hlate, hlacks]
      · simp [hlate, hlacks]

/-! ## The stages -/

/-- An answer that means success has been received, and its body has been written to the target. -/
def Fills (a : Attempt) (m m' : Machine) : Prop :=
  ∃ m₁ id r m₂, a.arm m = (.ok (), m₁) ∧ a.GoesBy m₁ id r m₂ ∧ r.status = 200 ∧
    a.stream id m₂ = (.ok (), m')

/-- The setbacks up to the check of the file. -/
inductive DeliveryMeets (a : Attempt) (m : Machine) : Setback → Prop where
  | late (h : a.isExpiredAt m.toWorld) : DeliveryMeets a m .late
  | request {m₁ : Machine} {s : Setback} (harm : a.arm m = (.ok (), m₁))
      (h : a.RequestMeets m₁ s) : DeliveryMeets a m s
  | body {m₁ m₂ : Machine} {id : Nat} {r : Response} {s : Setback} (harm : a.arm m = (.ok (), m₁))
      (hanswer : a.GoesBy m₁ id r m₂) (hstatus : r.status = 200) (h : a.StreamMeets id m₂ s) :
      DeliveryMeets a m s
  | size {m₁ m₂ : Machine} {fault : Fault} (hfills : a.Fills m m₁)
      (h : fileStatus a.target m₁ = (.error fault, m₂)) : DeliveryMeets a m (.size fault)
  | empty {m₁ m₂ : Machine} {mode : Nat} (hfills : a.Fills m m₁)
      (h : fileStatus a.target m₁ = (.ok (0, mode), m₂)) : DeliveryMeets a m .empty

/-- The setbacks of all stages. -/
inductive Meets (a : Attempt) (m : Machine) : Setback → Prop where
  | delivery {s : Setback} (h : a.DeliveryMeets m s) : Meets a m s
  | late {m₁ : Machine} (hdeliver : a.deliver m = (.ok (), m₁)) (h : a.isExpiredAt m₁.toWorld) :
      Meets a m .late
  | permission {m₁ m₂ : Machine} {fault : Fault} (hdeliver : a.deliver m = (.ok (), m₁))
      (hinTime : a.isExpiredAt m₁.toWorld = false) (hbits : m₁.lacksExecuteBits = false)
      (h : permitExecution a.target m₁ = (.error fault, m₂)) : Meets a m (.permission fault)

/-- An attempt that has been armed is in time, and asks as it would have asked before. -/
theorem arm_eq_ok (hm : a.HasDeadlineOn m) (h : a.arm m = (.ok (), m')) :
    a.HasDeadlineOn m' ∧ a.isExpiredAt m'.toWorld = false := by
  have hleads : m.Leads (StepOf {.alarm}) m' := (a.arm_makes (by simp)).leads h
  refine ⟨hm.leads hleads, ?_⟩
  rw [isExpiredAt_eq_of_leads hleads (by simp)]
  by_contra hlate
  rw [Bool.not_eq_false] at hlate
  have herror := (arm_eq_error hm).mpr ⟨hlate, rfl⟩
  rw [h] at herror
  cases herror

theorem GoesBy.connection? {id : Nat} {r : Response} (hm : a.HasDeadlineOn m)
    (hinTime : a.isExpiredAt m.toWorld = false) (h : a.GoesBy m id r m') :
    ∃ c, m'.network.connection? id = some c := by
  have hholds : ∃ c, m'.toWorld.HoldsAnswer id r c := by
    cases h with
    | first hreceives _ => exact (get_eq_ok ((get_eq_answer hm hinTime).mpr hreceives)).1
    | redirected hredirects hanswer =>
      exact (get_eq_ok
        ((get_eq_answer (hm.leads hredirects.leads) hredirects.inTime).mpr hanswer)).1
  obtain ⟨c, hc⟩ := hholds
  exact ⟨c, hc.connection?⟩

/-- The stages up to the check of the file fail of the setbacks that they meet with. -/
theorem deliver_eq_error (hm : a.HasDeadlineOn m) :
    (a.deliver m).1 = .error e ↔ ∃ s, a.DeliveryMeets m s ∧ s.fault a = e := by
  unfold deliver
  constructor
  · intro h
    rcases bind_fst_eq_error.mp h with harm | ⟨_, m₁, harm, h⟩
    · obtain ⟨hlate, hfault⟩ := (arm_eq_error hm).mp harm
      exact ⟨_, .late hlate, hfault⟩
    obtain ⟨hm₁, hinTime⟩ := arm_eq_ok hm harm
    rcases bind_fst_eq_error.mp h with hrequest | ⟨id, m₂, hrequest, h⟩
    · obtain ⟨s, hmeets, hfault⟩ := (request_eq_error hm₁ hinTime).mp hrequest
      exact ⟨s, .request harm hmeets, hfault⟩
    obtain ⟨r, hgoes, hstatus⟩ := (request_eq_answer hm₁ hinTime).mp hrequest
    obtain ⟨c, hc⟩ := hgoes.connection? hm₁ hinTime
    rcases bind_fst_eq_error.mp h with hstream | ⟨_, m₃, hstream, hverify⟩
    · obtain ⟨s, hmeets, hfault⟩ := (stream_eq_error hc).mp hstream
      exact ⟨s, .body harm hgoes hstatus hmeets, hfault⟩
    have hfills : a.Fills m m₃ := ⟨m₁, id, r, m₂, harm, hgoes, hstatus, hstream⟩
    rcases verify_eq_error.mp hverify with ⟨fault, m₄, h, hfault⟩ | ⟨mode, m₄, h, hfault⟩
    · exact ⟨_, .size hfills h, hfault⟩
    · exact ⟨_, .empty hfills h, hfault⟩
  · rintro ⟨s, hmeets, rfl⟩
    have hfilled : ∀ {m₃ : Machine}, a.Fills m m₃ → (a.verify m₃).1 = .error (s.fault a) →
        (a.deliver m).1 = .error (s.fault a) := by
      rintro m₃ ⟨m₁, id, r, m₂, harm, hgoes, hstatus, hstream⟩ hverify
      obtain ⟨hm₁, hinTime⟩ := arm_eq_ok hm harm
      have hrequest := (request_eq_answer hm₁ hinTime).mpr ⟨r, hgoes, hstatus⟩
      rw [deliver, bind_of_ok harm, bind_of_ok hrequest, bind_of_ok hstream, hverify]
    cases hmeets with
    | late h => exact bind_fst_eq_error.mpr (.inl ((arm_eq_error hm).mpr ⟨h, rfl⟩))
    | request harm h =>
      obtain ⟨hm₁, hinTime⟩ := arm_eq_ok hm harm
      rw [bind_of_ok harm]
      exact bind_fst_eq_error.mpr (.inl ((request_eq_error hm₁ hinTime).mpr ⟨s, h, rfl⟩))
    | body harm hgoes hstatus h =>
      obtain ⟨hm₁, hinTime⟩ := arm_eq_ok hm harm
      obtain ⟨c, hc⟩ := hgoes.connection? hm₁ hinTime
      rw [bind_of_ok harm, bind_of_ok ((request_eq_answer hm₁ hinTime).mpr ⟨_, hgoes, hstatus⟩)]
      exact bind_fst_eq_error.mpr (.inl ((stream_eq_error hc).mpr ⟨s, h, rfl⟩))
    | size hfills h => exact hfilled hfills (verify_eq_error.mpr (.inl ⟨_, _, h, rfl⟩))
    | empty hfills h => exact hfilled hfills (verify_eq_error.mpr (.inr ⟨_, _, h, rfl⟩))

/-- The stages fail of the setbacks that they meet with. -/
theorem run_eq_error (hm : a.HasDeadlineOn m) :
    (a.run m).1 = .error e ↔ ∃ s, a.Meets m s ∧ s.fault a = e := by
  have hdelivered : ∀ {m₁ : Machine}, a.deliver m = (.ok (), m₁) → a.HasDeadlineOn m₁ :=
    fun hdeliver => hm.leads (a.deliver_makes.leads hdeliver)
  unfold run
  constructor
  · intro h
    rcases bind_fst_eq_error.mp h with hdeliver | ⟨_, m₁, hdeliver, h⟩
    · obtain ⟨s, hmeets, hfault⟩ := (deliver_eq_error hm).mp hdeliver
      exact ⟨s, .delivery hmeets, hfault⟩
    rcases bind_fst_eq_error.mp h with hmake | ⟨_, m₂, -, h⟩
    · rcases (makeExecutable_eq_error (hdelivered hdeliver)).mp hmake with
        ⟨hlate, hfault⟩ | ⟨hinTime, hbits, fault, m₂, h, hfault⟩
      · exact ⟨_, .late hdeliver hlate, hfault⟩
      · exact ⟨_, .permission hdeliver hinTime hbits h, hfault⟩
    · cases h
  · rintro ⟨s, hmeets, rfl⟩
    cases hmeets with
    | delivery h => exact bind_fst_eq_error.mpr (.inl ((deliver_eq_error hm).mpr ⟨s, h, rfl⟩))
    | late hdeliver h =>
      rw [bind_of_ok hdeliver]
      exact bind_fst_eq_error.mpr (.inl ((makeExecutable_eq_error (hdelivered hdeliver)).mpr
        (.inl ⟨h, rfl⟩)))
    | permission hdeliver hinTime hbits h =>
      rw [bind_of_ok hdeliver]
      exact bind_fst_eq_error.mpr (.inl ((makeExecutable_eq_error (hdelivered hdeliver)).mpr
        (.inr ⟨hinTime, hbits, _, _, h, rfl⟩)))

/-! ## The outcome -/

theorem outcomeOf_eq_failed {result : Except Fault Nat} {problem : Problem}
    {cause : Option Fault} :
    outcomeOf result = .ok (.failed problem cause) ↔ result = .error (.problem problem cause) := by
  unfold outcomeOf
  split
  · simp
  · simp
  · next fault hnot => simpa using hnot problem cause

theorem outcomeOf_eq_error {result : Except Fault Nat} :
    outcomeOf result = .error e ↔ result = .error e ∧ e.isProblem = false := by
  rcases result with fault | n
  · cases fault with
    | problem problem cause =>
      constructor
      · intro h
        cases h
      · rintro ⟨heq, hproblem⟩
        cases heq
        cases hproblem
    | _ =>
      constructor
      · intro h
        cases h
        exact ⟨rfl, rfl⟩
      · rintro ⟨heq, -⟩
        cases heq
        rfl
  · simp [outcomeOf]

end Attempt

namespace Downloader

open Attempt

variable {d : Downloader} {url target : String} {timeout : Double} {m : Machine}

/-- The deadline of a download is computed when it begins. -/
theorem hasDeadlineOn_begin (d : Downloader) (url target : String) (timeout : Double)
    (m : Machine) : (d.attemptOn url target timeout m).HasDeadlineOn
      ((d.attemptOn url target timeout m).begin m).2 :=
  m.arithmetic.computes_plus _ _

/-- A download has a failed outcome if it meets with a setback that is a problem. -/
theorem download_eq_failed {problem : Problem} {cause : Option Fault} :
    (d.download url target timeout m).1 = .ok (.failed problem cause) ↔
      ∃ s, (d.attemptOn url target timeout m).Meets ((d.attemptOn url target timeout m).begin m).2 s
        ∧ s.fault (d.attemptOn url target timeout m) = .problem problem cause := by
  rw [download_apply, perform_apply, outcomeOf_eq_failed,
    run_eq_error (hasDeadlineOn_begin d url target timeout m)]

/-- A download has no outcome if it meets with a setback that is no problem. -/
theorem download_eq_error {e : Fault} :
    (d.download url target timeout m).1 = .error e ↔
      (∃ s, (d.attemptOn url target timeout m).Meets
        ((d.attemptOn url target timeout m).begin m).2 s ∧
          s.fault (d.attemptOn url target timeout m) = e) ∧ e.isProblem = false := by
  rw [download_apply, perform_apply, outcomeOf_eq_error,
    run_eq_error (hasDeadlineOn_begin d url target timeout m)]

end Downloader

end ServerLauncher
