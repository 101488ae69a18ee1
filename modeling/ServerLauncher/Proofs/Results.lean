import Mathlib.Data.List.Basic

/-!
# Results and their errors

A computation that goes through several steps, or through the elements of a list, ends with the
error of the first one that fails.

## Main definitions

* `errorOf?`: the error of a result.
* `FirstOf`: the first element of a list that is related to anything.

## Main statements

* `errorOf?_bind`, `errorOf?_mapM`: the first step that fails decides the error.
* `findSome?_eq_some_iff_firstOf`: a search finds the first element that it accepts.
-/

namespace ServerLauncher

section Results

variable {ε α β : Type} {x : Except ε α} {f : α → Except ε β} {e : ε}

theorem bind_eq_ok_iff {b : β} : (x >>= f) = .ok b ↔ ∃ a, x = .ok a ∧ f a = .ok b := by
  rcases x with fault | a
  · simp [bind, Except.bind]
  · simp [bind, Except.bind]

theorem bind_eq_error_iff :
    (x >>= f) = .error e ↔ x = .error e ∨ ∃ a, x = .ok a ∧ f a = .error e := by
  rcases x with fault | a
  · simp [bind, Except.bind]
  · simp [bind, Except.bind]

theorem map_eq_ok_iff {g : α → β} {b : β} : x.map g = .ok b ↔ ∃ a, x = .ok a ∧ g a = b := by
  rcases x with e | a
  · simp [Except.map]
  · simp [Except.map]

/-- The error of a result. -/
def errorOf? : Except ε α → Option ε
  | .ok _ => none
  | .error e => some e

@[simp]
theorem errorOf?_ok (a : α) : errorOf? (.ok a : Except ε α) = none := rfl

@[simp]
theorem errorOf?_error (e : ε) : errorOf? (.error e : Except ε α) = some e := rfl

theorem errorOf?_eq_some_iff : errorOf? x = some e ↔ x = .error e := by
  cases x with
  | ok a => simp
  | error e' => simp

theorem errorOf?_map (g : α → β) (x : Except ε α) : errorOf? (x.map g) = errorOf? x := by
  cases x with
  | ok a => rfl
  | error e => rfl

/-- A step that fails decides the error; otherwise what follows does, if it does not depend on the
result of the step how that fails. -/
theorem errorOf?_bind {e? : Option ε} (hf : ∀ a, errorOf? (f a) = e?) :
    errorOf? (x >>= f) = (errorOf? x).or e? := by
  cases x with
  | ok a => exact hf a
  | error e => rfl

/-- What never fails decides no error. -/
theorem errorOf?_bind_of_none (hf : ∀ a, errorOf? (f a) = none) :
    errorOf? (x >>= f) = errorOf? x := (errorOf?_bind hf).trans Option.or_none

/-- The first element for which a step fails decides the error. -/
theorem errorOf?_mapM (f : α → Except ε β) (as : List α) :
    errorOf? (as.mapM f) = as.findSome? fun a => errorOf? (f a) := by
  induction as with
  | nil => rfl
  | cons a as ih =>
    have hrest : ∀ b, errorOf? (as.mapM f >>= fun bs => pure (b :: bs)) = errorOf? (as.mapM f) :=
      fun _ => errorOf?_bind_of_none fun _ => rfl
    rw [List.mapM_cons, List.findSome?_cons, errorOf?_bind hrest, ih]
    cases errorOf? (f a) with
    | none => rfl
    | some e => rfl

end Results

section First

variable {α β : Type} {related : α → β → Prop} {as : List α} {b : β}

/-- The first element of a list that is related to anything is related to `b`. -/
def FirstOf (related : α → β → Prop) (as : List α) (b : β) : Prop :=
  ∃ before a after, as = before ++ a :: after ∧ related a b ∧
    ∀ earlier ∈ before, ∀ b', ¬related earlier b'

theorem firstOf_congr {related' : α → β → Prop}
    (h : ∀ a ∈ as, ∀ b, related a b ↔ related' a b) :
    FirstOf related as b ↔ FirstOf related' as b := by
  unfold FirstOf
  refine exists_congr fun before => exists_congr fun a => exists_congr fun after =>
    and_congr_right fun has => ?_
  have ha : a ∈ as := has ▸ List.mem_append_right _ List.mem_cons_self
  refine and_congr (h a ha b) (forall₂_congr fun earlier hearlier => forall_congr' fun b' => ?_)
  exact not_congr (h earlier (has ▸ List.mem_append_left _ hearlier) b')

/-- A search finds the first element that it accepts. -/
theorem findSome?_eq_some_iff_firstOf {f : α → Option β}
    (h : ∀ a ∈ as, ∀ b, f a = some b ↔ related a b) :
    as.findSome? f = some b ↔ FirstOf related as b := by
  rw [← firstOf_congr h, List.findSome?_eq_some_iff, FirstOf]
  simp only [Option.eq_none_iff_forall_ne_some, ne_eq]

end First

end ServerLauncher
