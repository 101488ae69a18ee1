import ServerLauncher.Proofs.Frames

/-!
# Two runs of an action

An action is run on two machines that differ only in what it does not look at.  Its result is then
the same on both, and afterwards the machines still differ in nothing else.

What actions on files look at are the files, the current directory, and the disturbances of their
uses.  They also let time pass, by the delays of disturbances; whatever else is asked of the two
machines has to be kept by that.

## Main definitions

* `MachineAction.Agrees`: an action has the same result on any two machines that are related.
* `Machine.Relates`: a relation under which actions on files agree.

## Main statements

* `MachineAction.Agrees.bind`: actions in turn agree if each of them does.
* `MachineAction.makeDirectoryFor_agrees`, `MachineAction.openFile_agrees` and so on: the actions on
  files agree.
-/

namespace ServerLauncher

namespace MachineAction

/-- An action has the same result on any two machines that are related, and they stay related. -/
def Agrees {α : Type} (Q : Machine → Machine → Prop) (x : MachineAction α) : Prop :=
  ∀ m m', Q m m' → (x m').1 = (x m).1 ∧ Q (x m).2 (x m').2

namespace Agrees

variable {α β : Type} {Q : Machine → Machine → Prop} {x : MachineAction α}

/-- What succeeds on one machine has the same success on the other one. -/
theorem eq_ok {m m' m₁ : Machine} {v : α} (hx : Agrees Q x) (h : Q m m')
    (hok : x m = (.ok v, m₁)) : ∃ m₁', x m' = (.ok v, m₁') ∧ Q m₁ m₁' := by
  obtain ⟨hresult, hrelated⟩ := hx m m' h
  rw [hok] at hresult hrelated
  exact ⟨(x m').2, Prod.ext hresult rfl, hrelated⟩

theorem of_pure (a : α) : Agrees Q (pure a : MachineAction α) := fun _ _ h => ⟨rfl, h⟩

theorem of_throw (e : Fault) : Agrees Q (throw e : MachineAction α) := fun _ _ h => ⟨rfl, h⟩

theorem of_settle (r : Except Fault α) : Agrees Q (settle r) := fun _ _ h => ⟨rfl, h⟩

theorem of_observe {g : Machine → α} (hg : ∀ m m', Q m m' → g m' = g m) : Agrees Q (observe g) :=
  fun m m' h => ⟨congrArg Except.ok (hg m m' h), h⟩

theorem of_change {g : Machine → Machine} (hg : ∀ m m', Q m m' → Q (g m.onward) (g m'.onward)) :
    Agrees Q (change g) :=
  fun m m' h => ⟨rfl, hg m m' h⟩

theorem of_attempt (hx : Agrees Q x) : Agrees Q (attempt x) :=
  fun m m' h => ⟨congrArg Except.ok (hx m m' h).1, (hx m m' h).2⟩

theorem bind {f : α → MachineAction β} (hx : Agrees Q x) (hf : ∀ a, Agrees Q (f a)) :
    Agrees Q (x >>= f) := by
  intro m m' h
  obtain ⟨hresult, hrelated⟩ := hx m m' h
  rcases hm : x m with ⟨e | a, m₁⟩
  · rw [hm] at hresult hrelated
    have hm' : x m' = (.error e, (x m').2) := Prod.ext hresult rfl
    rw [bind_of_error hm, bind_of_error hm']
    exact ⟨rfl, hrelated⟩
  · rw [hm] at hresult hrelated
    have hm' : x m' = (.ok a, (x m').2) := Prod.ext hresult rfl
    rw [bind_of_ok hm, bind_of_ok hm']
    exact hf a m₁ _ hrelated

theorem ite {p : Prop} [Decidable p] {y : MachineAction α} (hx : Agrees Q x) (hy : Agrees Q y) :
    Agrees Q (if p then x else y) := by
  split
  · exact hx
  · exact hy

end Agrees

end MachineAction

/-- Related machines have the same files and the same trouble with them.  They stay related when
their files are changed alike, or opened or counted as used, and when time passes on both. -/
structure Machine.Relates (Q : Machine → Machine → Prop) : Prop where
  files {m m' : Machine} (h : Q m m') : m'.files = m.files
  current {m m' : Machine} (h : Q m m') : m'.current = m.current
  uses {m m' : Machine} (h : Q m m') : m'.uses = m.uses
  disturbances {m m' : Machine} (h : Q m m') : m'.disturbances = m.disturbances
  store {m m' : Machine} (h : Q m m') (f : FileTree → FileTree) :
    Q { m.onward with files := f m.files } { m'.onward with files := f m'.files }
  count {m m' : Machine} (h : Q m m') (f : (FileOperation → Nat) → FileOperation → Nat) :
    Q { m.onward with uses := f m.uses } { m'.onward with uses := f m'.uses }
  handle {m m' : Machine} (h : Q m m') (f : List Location → List Location) :
    Q { m.onward with opened := f m.opened } { m'.onward with opened := f m'.opened }
  delay {m m' : Machine} (h : Q m m') (micros : Nat) :
    Q (m.onward.advance micros) (m'.onward.advance micros)

namespace MachineAction

section Files

variable {Q : Machine → Machine → Prop} {path : String} (hQ : Machine.Relates Q)

include hQ

theorem location_eq {m m' : Machine} (h : Q m m') : m'.location = m.location := by
  unfold World.location
  rw [hQ.current h]

theorem suffer_agrees (used : Option String) (ds : List Disturbance) :
    Agrees Q (suffer used ds) := by
  induction ds with
  | nil => exact .of_pure _
  | cons d rest ih =>
    refine .bind (.of_change fun m m' h => hQ.delay h d.delay) fun _ => ?_
    cases d.errno with
    | none => exact ih
    | some errno => exact .of_throw _

theorem use_agrees (op : FileOperation) (used : Option String) : Agrees Q (use op used) := by
  refine .bind (.of_change fun m m' h => ?_) fun _ =>
    .bind (.of_observe fun m m' h => ?_) fun ds => suffer_agrees hQ used ds
  · exact hQ.count h fun uses o => if o = op then uses o + 1 else uses o
  · unfold disturbances
    rw [hQ.disturbances h, hQ.uses h]

theorem changeFiles_agrees {α : Type} (f : FileTree → Location → Except Nat (FileTree × α)) :
    Agrees Q (changeFiles path f) := by
  intro m m' h
  unfold changeFiles
  by_cases hnull : Path.holdsNull path
  · rw [if_pos hnull, if_pos hnull]
    exact ⟨rfl, h⟩
  · rw [if_neg hnull, if_neg hnull, hQ.files h, location_eq hQ h]
    rcases f m.files m.location with errno | ⟨files, a⟩
    · exact ⟨rfl, h⟩
    · exact ⟨rfl, hQ.store h fun _ => files⟩

theorem changing_agrees {α : Type} (op : FileOperation) (used : Option String)
    (f : FileTree → Location → Except Nat (FileTree × α)) :
    Agrees Q (use op used >>= fun _ => changeFiles path f) :=
  .bind (use_agrees hQ op used) fun _ => changeFiles_agrees hQ f

theorem makeDirectory_agrees : Agrees Q (makeDirectory path) :=
  changing_agrees hQ .mkdir (some path) _

theorem ensureDirectory_agrees : Agrees Q (ensureDirectory path) := by
  refine .bind (.of_attempt (makeDirectory_agrees hQ)) fun result => ?_
  cases result with
  | ok _ => exact .of_pure _
  | error fault =>
    refine .bind (.of_observe fun m m' h => ?_) fun _ => .ite (.of_pure _) (.of_throw _)
    rw [hQ.files h, location_eq hQ h]

omit hQ in
theorem toleratingExisting_agrees {x : MachineAction Unit} (hx : Agrees Q x) :
    Agrees Q (toleratingExisting x) := by
  refine .bind (.of_attempt hx) fun result => ?_
  cases result with
  | ok _ => exact .of_pure _
  | error fault => exact .ite (.of_pure _) (.of_throw _)

theorem makeDirectories_agrees (n : Nat) : ∀ path, Agrees Q (makeDirectories n path) := by
  induction n with
  | zero => exact fun _ => .of_pure _
  | succ n ih =>
    intro path
    have hrest : ∀ b : Prop, [Decidable b] →
        Agrees Q (if b then return () else ensureDirectory path) := fun b _ =>
      .ite (.of_pure _) (ensureDirectory_agrees hQ)
    unfold makeDirectories
    generalize lastComponent path = components
    obtain ⟨head, tail⟩ := components
    refine .bind (.of_observe fun m m' h => ?_) fun isThere => ?_
    · rw [hQ.files h, location_eq hQ h]
    · dsimp only
      split
      · exact .bind (toleratingExisting_agrees (ih _)) fun _ => hrest _
      · exact hrest _

theorem makeDirectoryFor_agrees : Agrees Q (makeDirectoryFor path) :=
  makeDirectories_agrees hQ _ _

theorem openFile_agrees : Agrees Q (openFile path) := by
  refine .bind (use_agrees hQ .open _) fun _ => .bind (changeFiles_agrees hQ _) fun l =>
    .bind (.of_change fun m m' h => ?_) fun _ => .of_pure _
  exact hQ.handle h (l :: ·)

theorem writeFile_agrees (l : Location) (bytes : ByteArray) : Agrees Q (writeFile l bytes) := by
  refine .bind (use_agrees hQ .write none) fun _ => .of_change fun m m' h => ?_
  exact hQ.store h (·.append l bytes)

theorem closeFile_agrees (l : Location) : Agrees Q (closeFile l) := by
  refine .bind (.of_change fun m m' h => ?_) fun _ => use_agrees hQ .close none
  exact hQ.handle h (·.erase l)

theorem fileStatus_agrees : Agrees Q (fileStatus path) :=
  changing_agrees hQ .stat (some path) _

theorem setMode_agrees (mode : Nat) : Agrees Q (setMode path mode) :=
  changing_agrees hQ .chmod (some path) _

end Files

end MachineAction

end ServerLauncher
