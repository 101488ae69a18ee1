import ServerLauncher.Proofs.Failures

/-!
# The kinds of failed downloads

Which setback of an attempt ends in which kind of failure.  The families of errors overlap: a failed
request counts as an error of the operating system, too, and may count as a timeout, while an error
that is none of these may still have come after the deadline.  What decides is the setback and what
the clock shows when the error is looked at.

## Main definitions

* `Fault.transferCategory?`, `Fault.fileCategory?`: what errors of a transfer and of the files are
  reported as.
* `Setback.category?`: what setbacks are reported as.

## Main statements

* `Attempt.Meets.category?_eq`: an attempt ends in a problem of the category of its setback.
* `Downloader.download_failure_kind`: a download fails with a kind and a status exactly when its
  attempt meets with a setback of that kind and status.
-/

namespace ServerLauncher

open MachineAction

/-- What the error of a request or of its answer is reported as: out of time if it says so itself or
comes after the deadline, and otherwise as a failure of the network.  A problem that the network
raises stays what it is. -/
def Fault.transferCategory? (isLate : Bool) : Fault → Option Category
  | .problem p _ => some p.category
  | .request failure _ =>
    some (.download (if failure.isTimeout || isLate then .timeout else .networkError) none)
  | _ => none

/-- What an error of the operating system is reported as, unless it is the error of a request. -/
def Fault.fileCategory? (fault : Fault) : Option Category :=
  if fault.isSystem && !fault.isRequest then some (.download .filesystemError none) else none

/-- What a setback is reported as, if it is reported as a problem. -/
def Setback.category? : Setback → Option Category
  | late => some (.download .timeout none)
  | request _ fault isLate => fault.transferCategory? isLate
  | withoutLocation r => some (.download .redirectWithoutLocation (some r.status))
  | unreadable _ => none
  | unsuccessful r => some (.download .nonSuccessStatus (some r.status))
  | body _ fault isLate => (fault.transferCategory? isLate).or fault.fileCategory?
  | size fault | permission fault => fault.fileCategory?
  | empty => some (.download .emptyArtifact none)

/-- What a problem is about; other faults are about nothing. -/
def Fault.category? : Fault → Option Category
  | .problem p _ => some p.category
  | _ => none

theorem Fault.category?_eq_some {fault : Fault} {category : Category} :
    fault.category? = some category ↔
      ∃ problem cause, fault = .problem problem cause ∧ problem.category = category := by
  cases fault with
  | problem problem cause => simp [category?]
  | _ => simp [category?]

namespace Attempt

variable {a : Attempt} {m : Machine} {s : Setback} {fault : Fault}

theorem category?_requestFault (url : String) (isLate : Bool) (fault : Fault) :
    (a.requestFault url isLate fault).category? = fault.transferCategory? isLate := by
  cases fault with
  | request failure text =>
    simp only [requestFault, Fault.isRequest, Fault.isTimeout, Fault.transferCategory?]
    by_cases hlate : failure.isTimeout || isLate
    · simp [hlate, timeoutFault, Fault.category?, Problem.category]
    · simp [hlate, Fault.category?, Problem.category]
  | _ => rfl

theorem category?_bodyFault (url : String) (isLate : Bool) (fault : Fault) :
    (a.bodyFault url isLate fault).category? =
      (fault.transferCategory? isLate).or fault.fileCategory? := by
  cases fault with
  | request failure text =>
    simp only [bodyFault, Fault.isRequest, Fault.isTimeout, Fault.transferCategory?]
    by_cases hlate : failure.isTimeout || isLate
    · simp [hlate, timeoutFault, Fault.category?, Problem.category]
    · simp [hlate, Fault.category?, Problem.category]
  | transport failure text =>
    simp only [bodyFault, Fault.isRequest, Fault.isSystem, Fault.transferCategory?,
      Fault.fileCategory?]
    by_cases hsystem : failure.isSystem
    · simp [hsystem, Fault.category?, Problem.category]
    · simp [hsystem, Fault.category?]
  | _ => rfl

theorem category?_guardedFault {problem : Problem} {holdsNull : Prop}
    (hproblem : problem.category = .download .filesystemError none)
    (hfault : Fault.IsOfFiles holdsNull fault) :
    (guardedFault problem fault).category? = fault.fileCategory? := by
  cases hfault with
  | system errno path => exact congrArg some hproblem
  | null => rfl

/-- Setting permissions fails only as actions on files do. -/
theorem permitExecution_guarantees {I : Machine → Prop} (hI : Machine.Lasts I) (path : String) :
    Guarantees I (Fault.IsOfFiles (Path.holdsNull path)) (permitExecution path) :=
  .bind (fileStatus_guarantees hI id) fun _ => setMode_guarantees hI _ id

theorem Meets.isOfFiles_of_size (h : a.Meets m (.size fault)) :
    Fault.IsOfFiles (Path.holdsNull a.target) fault := by
  cases h with
  | delivery h =>
    cases h with
    | request _ h => cases h
    | body _ _ _ h => cases h
    | size _ h => exact (fileStatus_guarantees .true id _ trivial).2 _ (congrArg Prod.fst h)

theorem Meets.isOfFiles_of_permission (h : a.Meets m (.permission fault)) :
    Fault.IsOfFiles (Path.holdsNull a.target) fault := by
  cases h with
  | delivery h =>
    cases h with
    | request _ h => cases h
    | body _ _ _ h => cases h
  | permission _ _ _ h =>
    exact (permitExecution_guarantees .true _ _ trivial).2 _ (congrArg Prod.fst h)

/-- An attempt ends in a problem of the category of the setback that it meets with. -/
theorem Meets.category?_eq (h : a.Meets m s) : (s.fault a).category? = s.category? := by
  cases s with
  | request url fault isLate => exact category?_requestFault url isLate fault
  | body url fault isLate => exact category?_bodyFault url isLate fault
  | size fault => exact category?_guardedFault rfl h.isOfFiles_of_size
  | permission fault => exact category?_guardedFault rfl h.isOfFiles_of_permission
  | _ => rfl

end Attempt

/-- A download fails with a kind and a status exactly when its attempt meets with a setback that is
reported so.  What a setback is reported as, `Setback.category?` says, and when an attempt meets
with it, `Attempt.Meets`. -/
theorem Downloader.download_failure_kind (d : Downloader) (url target : String) (timeout : Double)
    (m : Machine) (category : Category) :
    (∃ problem cause, (d.download url target timeout m).1 = .ok (.failed problem cause) ∧
        problem.category = category) ↔
      ∃ s, (d.attemptOn url target timeout m).Meets
        ((d.attemptOn url target timeout m).begin m).2 s ∧ s.category? = some category := by
  constructor
  · rintro ⟨problem, cause, hfailed, hcategory⟩
    obtain ⟨s, hmeets, hfault⟩ := download_eq_failed.mp hfailed
    refine ⟨s, hmeets, ?_⟩
    rw [← hmeets.category?_eq]
    exact Fault.category?_eq_some.mpr ⟨problem, cause, hfault, hcategory⟩
  · rintro ⟨s, hmeets, hcategory⟩
    rw [← hmeets.category?_eq] at hcategory
    obtain ⟨problem, cause, hfault, hcategory⟩ := Fault.category?_eq_some.mp hcategory
    exact ⟨problem, cause, download_eq_failed.mpr ⟨s, hmeets, hfault⟩, hcategory⟩

/-- The connection is lost, and the file cannot be closed afterwards: only the latter is
reported. -/
example :
    let m : Machine := { Machine.answering {} [("http://h/a",
        { chunks := [{ content := .error (.request .connection "lost") }] })] with
      disturbances := [{ operation := .close, errno := some 5 }] }
    ((Downloader.download {} "http://h/a" "/x" (.infinite false) m).1.toOption.bind (·.kind?)) =
      some .filesystemError := by
  decide +kernel

end ServerLauncher
