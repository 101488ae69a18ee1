import ServerLauncher.Download.Attempt
import ServerLauncher.Proofs.Frames

/-!
# The faults of actions on files

An action on files fails only with an error of the operating system, or because its path holds a
NUL, about which the operating system is not even asked.  What ends it is never a failed request.
What it does to the rest of the machine is to let time pass, by the delays of its disturbances, and
nothing else; so whatever lasts over these delays lasts over the action.

## Main definitions

* `Fault.IsOfFiles`: the faults of actions on files.
* `MachineAction.Guarantees`: an action fails only with some faults, and what is true of a machine
  stays so.
* `Machine.Lasts`: what is true of a machine stays so while files are used.

## Main statements

* `MachineAction.Guarantees.bind`: actions in turn guarantee what each of them does.
* `MachineAction.makeDirectoryFor_guarantees`, `MachineAction.fileStatus_guarantees` and so on: the
  faults of actions on files, and what lasts over them.
* `Attempt.save_guarantees`: the writing of a body guarantees what files and chunks do.
-/

namespace ServerLauncher

/-- The faults of actions on files.  Whether a NUL can be the reason depends on the path. -/
inductive Fault.IsOfFiles (holdsNull : Prop) : Fault → Prop where
  | system (errno : Nat) (path : Option String) : IsOfFiles holdsNull (.system errno path)
  | null (h : holdsNull) : IsOfFiles holdsNull .nullInPath

namespace Fault.IsOfFiles

variable {holdsNull : Prop} {fault : Fault}

theorem isRequest (h : IsOfFiles holdsNull fault) : fault.isRequest = false := by
  cases h <;> rfl

/-- Without a NUL it is the operating system that reports the error. -/
theorem isSystem (h : IsOfFiles holdsNull fault) (hpath : ¬holdsNull) : fault.isSystem := by
  cases h with
  | system => rfl
  | null hnull => exact absurd hnull hpath

end Fault.IsOfFiles

/-! ## Paths -/

namespace Text

variable {c separator : Char} {s before after : List Char}

theorem mem_of_cutFirst (h : cutFirst separator s = some (before, after)) :
    (c ∈ before → c ∈ s) ∧ (c ∈ after → c ∈ s) := by
  induction s generalizing before with
  | nil => cases h
  | cons d rest ih =>
    rw [cutFirst] at h
    by_cases hd : d = separator
    · rw [if_pos hd] at h
      cases h
      exact ⟨by simp, List.mem_cons_of_mem d⟩
    · rw [if_neg hd] at h
      rcases hrest : cutFirst separator rest with _ | ⟨before', after'⟩
      · rw [hrest] at h
        cases h
      · rw [hrest] at h
        cases h
        obtain ⟨hbefore, hafter⟩ := ih hrest
        refine ⟨fun hmem => ?_, fun hmem => List.mem_cons_of_mem d (hafter hmem)⟩
        rcases List.mem_cons.mp hmem with rfl | hmem
        · exact List.mem_cons_self
        · exact List.mem_cons_of_mem d (hbefore hmem)

theorem mem_of_cutLast (h : cutLast separator s = some (before, after)) :
    (c ∈ before → c ∈ s) ∧ (c ∈ after → c ∈ s) := by
  unfold cutLast at h
  rcases hfirst : cutFirst separator s.reverse with _ | ⟨after', before'⟩
  · rw [hfirst] at h
    cases h
  · rw [hfirst] at h
    cases h
    simpa [and_comm] using mem_of_cutFirst (c := c) hfirst

theorem mem_of_dropTrailing {d : Char} (h : c ∈ dropTrailing d s) : c ∈ s := by
  unfold dropTrailing at h
  rw [List.mem_reverse] at h
  exact List.mem_reverse.mp ((List.dropWhile_sublist _).mem h)

end Text

namespace Path

/-- What comes before the last slash of a path holds a NUL only if the path does. -/
theorem holdsNull_of_split {path : String} (h : holdsNull (split path).1) : holdsNull path := by
  unfold holdsNull at h ⊢
  rw [List.contains_iff_mem] at h ⊢
  unfold split at h
  rcases hcut : Text.cutLast '/' path.toList with _ | ⟨before, after⟩
  · rw [hcut] at h
    simp at h
  · rw [hcut] at h
    have hbefore : '\x00' ∈ before ++ ['/'] := by
      dsimp only at h
      rw [String.toList_ofList] at h
      split_ifs at h
      · exact h
      · exact Text.mem_of_dropTrailing h
    refine (Text.mem_of_cutLast hcut).1 ?_
    simpa using hbefore

end Path

namespace MachineAction

/-! ## Actions -/

/-- On each machine of which something is true an action fails only with faults of a given kind, and
what was true of the machine is so afterwards, too. -/
def Guarantees {α : Type} (I : Machine → Prop) (Q : Fault → Prop) (x : MachineAction α) : Prop :=
  ∀ m, I m → I (x m).2 ∧ ∀ e, (x m).1 = .error e → Q e

namespace Guarantees

variable {α β : Type} {I : Machine → Prop} {P Q : Fault → Prop} {x : MachineAction α}

theorem mono (h : Guarantees I P x) (hPQ : ∀ e, P e → Q e) : Guarantees I Q x :=
  fun m hm => ⟨(h m hm).1, fun e he => hPQ e ((h m hm).2 e he)⟩

theorem of_pure (a : α) : Guarantees I Q (pure a : MachineAction α) :=
  fun _ hm => ⟨hm, fun _ h => nomatch h⟩

theorem of_throw {e : Fault} (he : Q e) : Guarantees I Q (throw e : MachineAction α) := by
  refine fun m hm => ⟨hm, fun e' h => ?_⟩
  cases h
  exact he

theorem of_get : Guarantees I Q (MonadState.get : MachineAction Machine) :=
  fun _ hm => ⟨hm, fun _ h => nomatch h⟩

theorem of_observe (g : Machine → α) : Guarantees I Q (observe g) :=
  fun _ hm => ⟨hm, fun _ h => nomatch h⟩

theorem of_change {g : Machine → Machine} (hg : ∀ m, I m → I (g m.onward)) :
    Guarantees I Q (change g) :=
  fun m hm => ⟨hg m hm, fun _ h => nomatch h⟩

theorem bind {f : α → MachineAction β} (hx : Guarantees I Q x)
    (hf : ∀ a, Guarantees I Q (f a)) : Guarantees I Q (x >>= f) := by
  intro m hm
  obtain ⟨hkept, hfails⟩ := hx m hm
  rcases hrun : x m with ⟨e | a, m'⟩
  · rw [bind_of_error hrun]
    rw [hrun] at hkept hfails
    refine ⟨hkept, fun e' he' => ?_⟩
    cases he'
    exact hfails e rfl
  · rw [bind_of_ok hrun]
    rw [hrun] at hkept
    exact hf a m' hkept

/-- What follows an action whose result is looked at may pass its fault on. -/
theorem bind_attempt {f : Except Fault α → MachineAction β} (hx : Guarantees I Q x)
    (hok : ∀ a, Guarantees I Q (f (.ok a)))
    (herror : ∀ e, Q e → Guarantees I Q (f (.error e))) : Guarantees I Q (attempt x >>= f) := by
  intro m hm
  obtain ⟨hkept, hfails⟩ := hx m hm
  rw [attempt_bind_apply]
  rcases hrun : x m with ⟨e | a, m'⟩
  · rw [hrun] at hkept hfails
    exact herror e (hfails e rfl) m' hkept
  · rw [hrun] at hkept
    exact hok a m' hkept

theorem ite {p : Prop} [Decidable p] {y : MachineAction α} (hx : Guarantees I Q x)
    (hy : Guarantees I Q y) : Guarantees I Q (if p then x else y) := by
  split
  · exact hx
  · exact hy

end Guarantees

end MachineAction

/-! ## What lasts while files are used -/

/-- What of a machine has nothing to do with files. -/
def Machine.course (m : Machine) : Nat × Arithmetic × List Disturbance × Network × Transfer :=
  (m.now, m.arithmetic, m.disturbances, m.network,
    { m.transfer with hasOpened := false, written := 0 })

/-- What is true of a machine stays so while its files are used. -/
structure Machine.Lasts (I : Machine → Prop) : Prop where
  elsewhere {m m' : Machine} (h : m'.course = m.course) : I m → I m'
  delay {m : Machine} {d : Disturbance} (h : d ∈ m.disturbances) :
    I m → I (m.onward.advance d.delay)

theorem Machine.Lasts.true : Lasts fun _ => True := ⟨fun _ _ => trivial, fun _ _ => trivial⟩

namespace MachineAction

section Files

variable {I : Machine → Prop} {holdsNull : Prop} {path : String} (hI : Machine.Lasts I)

include hI

theorem suffer_keeps (used : Option String) (ds : List Disturbance) (m : Machine)
    (hds : ∀ d ∈ ds, d ∈ m.disturbances) (hm : I m) : I (suffer used ds m).2 := by
  induction ds generalizing m with
  | nil => exact hm
  | cons d rest ih =>
    have hpass : m.Leads (World.StepOf {.clock}) (pass d.delay m).2 := pass_makes (by simp) _ m
    have hd : I (pass d.delay m).2 := hI.delay (hds d List.mem_cons_self) hm
    have hrest : ∀ d' ∈ rest, d' ∈ (pass d.delay m).2.disturbances := by
      intro d' hd'
      rw [hpass.precedes.disturbances]
      exact hds d' (List.mem_cons_of_mem _ hd')
    have hdone : pass d.delay m = (.ok (), (pass d.delay m).2) := rfl
    rw [suffer, bind_of_ok hdone]
    cases d.errno with
    | none => exact ih _ hrest hd
    | some errno => exact hd

theorem use_guarantees (op : FileOperation) (used : Option String) :
    Guarantees I (Fault.IsOfFiles holdsNull) (use op used) := by
  refine fun m hm => ⟨?_, fun e h => ?_⟩
  · unfold use
    rw [change_bind_apply, observe_bind_apply]
    refine suffer_keeps hI used _ _ (fun d hd => (List.mem_filter.mp hd).1) ?_
    exact hI.elsewhere (m := m) rfl hm
  · rcases use_cases op used m with ⟨_, -, -, -, errno, -, hfails⟩ | hok
    · rw [h] at hfails
      cases hfails
      exact .system errno used
    · rw [h] at hok
      cases hok

theorem changeFiles_guarantees {α : Type} {f : FileTree → Location → Except Nat (FileTree × α)}
    (hpath : Path.holdsNull path → holdsNull) :
    Guarantees I (Fault.IsOfFiles holdsNull) (changeFiles path f) := by
  refine fun m hm => ⟨?_, fun e h => ?_⟩
  · rcases changeFiles_cases path f m with ⟨e, heq⟩ | ⟨files, a, -, heq⟩
    · rw [heq]
      exact hm
    · rw [heq]
      exact hI.elsewhere (m := m) rfl hm
  · unfold changeFiles at h
    by_cases hnull : Path.holdsNull path
    · rw [if_pos hnull] at h
      cases h
      exact .null (hpath hnull)
    · rw [if_neg hnull] at h
      rcases hf : f m.files m.location with errno | ⟨files, a⟩
      · rw [hf] at h
        cases h
        exact .system errno (some path)
      · rw [hf] at h
        cases h

theorem changing_guarantees {α : Type} {f : FileTree → Location → Except Nat (FileTree × α)}
    (op : FileOperation) (used : Option String) (hpath : Path.holdsNull path → holdsNull) :
    Guarantees I (Fault.IsOfFiles holdsNull) (use op used >>= fun _ => changeFiles path f) :=
  .bind (use_guarantees hI op used) fun _ => changeFiles_guarantees hI hpath

theorem makeDirectory_guarantees (hpath : Path.holdsNull path → holdsNull) :
    Guarantees I (Fault.IsOfFiles holdsNull) (makeDirectory path) :=
  changing_guarantees hI .mkdir (some path) hpath

theorem ensureDirectory_guarantees (hpath : Path.holdsNull path → holdsNull) :
    Guarantees I (Fault.IsOfFiles holdsNull) (ensureDirectory path) :=
  .bind_attempt (makeDirectory_guarantees hI hpath) (fun _ => .of_pure _) fun _ he =>
    .bind (.of_observe _) fun _ => .ite (.of_pure _) (.of_throw he)

omit hI in
theorem toleratingExisting_guarantees {P : Fault → Prop} {x : MachineAction Unit}
    (hx : Guarantees I P x) : Guarantees I P (toleratingExisting x) :=
  .bind_attempt hx (fun _ => .of_pure _) fun _ he => .ite (.of_pure _) (.of_throw he)

omit hI in
theorem holdsNull_of_lastComponent (h : Path.holdsNull (lastComponent path).1) :
    Path.holdsNull path := by
  unfold lastComponent at h
  dsimp only at h
  split_ifs at h
  · exact Path.holdsNull_of_split (Path.holdsNull_of_split h)
  · exact Path.holdsNull_of_split h

theorem makeDirectories_guarantees (n : Nat) : ∀ {path : String},
    (Path.holdsNull path → holdsNull) →
      Guarantees I (Fault.IsOfFiles holdsNull) (makeDirectories n path) := by
  induction n with
  | zero => exact fun _ => .of_pure _
  | succ n ih =>
    intro path hpath
    have hhead : Path.holdsNull (lastComponent path).1 → holdsNull :=
      fun h => hpath (holdsNull_of_lastComponent h)
    have hrest : ∀ b : Prop, [Decidable b] → Guarantees I (Fault.IsOfFiles holdsNull)
        (if b then return () else ensureDirectory path) := fun b _ =>
      .ite (.of_pure _) (ensureDirectory_guarantees hI hpath)
    unfold makeDirectories
    generalize lastComponent path = components at hhead ⊢
    obtain ⟨head, tail⟩ := components
    refine .bind (.of_observe _) fun isThere => ?_
    dsimp only at hhead ⊢
    split
    · exact .bind (toleratingExisting_guarantees (ih hhead)) fun _ => hrest _
    · exact hrest _

theorem makeDirectoryFor_guarantees (hpath : Path.holdsNull path → holdsNull) :
    Guarantees I (Fault.IsOfFiles holdsNull) (makeDirectoryFor path) := by
  unfold makeDirectoryFor
  refine makeDirectories_guarantees hI _ fun h => ?_
  split_ifs at h
  · exact absurd h (by decide)
  · exact hpath (Path.holdsNull_of_split h)

theorem openFile_guarantees (hpath : Path.holdsNull path → holdsNull) :
    Guarantees I (Fault.IsOfFiles holdsNull) (openFile path) :=
  .bind (use_guarantees hI .open _) fun _ => .bind (changeFiles_guarantees hI hpath) fun _ =>
    .bind (.of_change fun _ => hI.elsewhere rfl) fun _ => .of_pure _

theorem writeFile_guarantees (l : Location) (bytes : ByteArray) :
    Guarantees I (Fault.IsOfFiles holdsNull) (writeFile l bytes) :=
  .bind (use_guarantees hI .write none) fun _ => .of_change fun _ => hI.elsewhere rfl

theorem closeFile_guarantees (l : Location) :
    Guarantees I (Fault.IsOfFiles holdsNull) (closeFile l) :=
  .bind (.of_change fun _ => hI.elsewhere rfl) fun _ => use_guarantees hI .close none

theorem fileStatus_guarantees (hpath : Path.holdsNull path → holdsNull) :
    Guarantees I (Fault.IsOfFiles holdsNull) (fileStatus path) :=
  changing_guarantees hI .stat (some path) hpath

theorem setMode_guarantees (mode : Nat) (hpath : Path.holdsNull path → holdsNull) :
    Guarantees I (Fault.IsOfFiles holdsNull) (setMode path mode) :=
  changing_guarantees hI .chmod (some path) hpath

theorem removeFile_guarantees (hpath : Path.holdsNull path → holdsNull) :
    Guarantees I (Fault.IsOfFiles holdsNull) (removeFile path) :=
  changing_guarantees hI .remove (some path) hpath

end Files

end MachineAction

/-! ## The body -/

namespace Attempt

open MachineAction

section Body

variable {a : Attempt} {I : Machine → Prop} {Q : Fault → Prop} {id : Nat}

theorem checkDeadline_guarantees (hlate : Q (a.timeoutFault none)) :
    Guarantees I Q a.checkDeadline :=
  .bind (.of_observe _) fun _ => .ite (.of_throw hlate) (.of_pure _)

variable (hI : Machine.Lasts I)
  (hfiles : ∀ e, Fault.IsOfFiles (Path.holdsNull a.target) e → Q e)

include hI hfiles

theorem writeChunk_guarantees (l : Location) (reported : Nat) (bytes : ByteArray) :
    Guarantees I Q (writeChunk l reported bytes) :=
  .bind ((writeFile_guarantees hI l bytes).mono hfiles) fun _ =>
    .bind (.of_change fun _ => hI.elsewhere rfl) fun _ => .bind .of_get fun _ =>
    .ite (.bind (.of_change fun _ => hI.elsewhere rfl) fun _ => .of_pure _) (.of_pure _)

variable (hlate : Q (a.timeoutFault none)) (hnext : Guarantees I Q (nextChunk id))

include hlate hnext

/-- The loop over the chunks. -/
theorem copy_guarantees (l : Location) (n : Nat) :
    ∀ reported, Guarantees I Q (a.copy id l n reported) := by
  induction n with
  | zero => exact fun _ => .of_pure _
  | succ n ih =>
    refine fun reported => .bind hnext fun chunk => ?_
    rcases chunk with _ | bytes
    · exact checkDeadline_guarantees hlate
    · exact .bind (checkDeadline_guarantees hlate) fun _ =>
        .ite (ih reported) (.bind (writeChunk_guarantees hI hfiles l reported bytes) ih)

theorem pour_guarantees (l : Location) : Guarantees I Q (a.pour id l) := by
  refine .bind (.of_observe _) fun c => ?_
  rcases c with _ | c
  · exact .of_pure _
  · exact .bind (.of_change fun _ => hI.elsewhere rfl) fun _ => .bind (.of_observe _) fun n =>
      copy_guarantees hI hfiles hlate hnext l _ 0

theorem fill_guarantees (l : Location) : Guarantees I Q (a.fill id l) := by
  have hclose : Guarantees I Q (closeFile l) := (closeFile_guarantees hI l).mono hfiles
  exact .bind (.of_change fun _ => hI.elsewhere rfl) fun _ =>
    .bind_attempt (pour_guarantees hI hfiles hlate hnext l)
      (fun _ => .bind hclose fun _ => .of_pure _) fun _ he => .bind hclose fun _ => .of_throw he

/-- The writing of a body guarantees what using files and reading chunks do. -/
theorem save_guarantees : Guarantees I Q (a.save id) :=
  .bind ((makeDirectoryFor_guarantees hI fun h => h).mono hfiles) fun _ =>
    .bind ((openFile_guarantees hI fun h => h).mono hfiles) fun l =>
      fill_guarantees hI hfiles hlate hnext l

end Body

end Attempt

end ServerLauncher
