import Mathlib.Data.List.Basic
import Mathlib.Tactic.Set
import ServerLauncher.Value.Slots

/-!
# Items in the order of their slots

The items of a set show in the order of the slots of a table, which is an order that nobody chose.
But nothing is lost on the way, and nothing comes up twice: as long as a table has a free slot, an
item is put into one, and before the last one is taken the items move to a larger table.

## Main definitions

* `SlotTable.HasRoom`: a table has a free slot.

## Main statements

* `SlotTable.seek_isFree`: the slot that is found for an item is free.
* `SlotTable.seat_entries`, `SlotTable.seatGrowing_entries`: a table with one more item.
* `Value.inGrowingSlots_perm`: all items show in the order of their slots.
-/

namespace ServerLauncher

namespace SlotTable

variable {t : SlotTable} {entry : UInt64 × Value} {slot n size : Nat}

/-- A table has a free slot. -/
def HasRoom (t : SlotTable) : Prop := t.entries.length < t.size

theorem isFree_iff (h : slot < t.size) : t.isFree slot = true ↔ t[slot]? = some none := by
  rw [isFree, Array.getD, dif_pos h, Option.isNone_iff_eq_none, Array.getElem?_eq_getElem h,
    Option.some_inj]
  rfl

theorem entries_empty (slots : Nat) : entries (empty slots) = [] := by
  unfold entries empty
  rw [Array.toList_replicate]
  simp

theorem size_seat : (t.seat entry).size = t.size := by
  rw [seat, Array.size_setIfInBounds]

/-! ## The free slot for an item -/

/-- A table has as many entries as slots only if no slot is free. -/
theorem exists_free (h : t.HasRoom) : ∃ o ∈ t, o = none := by
  by_contra hfull
  have hall : ∀ o ∈ t.toList, (id o).isSome = true := fun o ho =>
    Option.isSome_iff_ne_none.mpr fun hnone => hfull ⟨o, Array.mem_toList_iff.mp ho, hnone⟩
  have hlength : t.entries.length = t.size :=
    (List.filterMap_length_eq_length.mpr hall).trans Array.length_toList
  exact Nat.ne_of_lt h hlength

/-- The slot that is found for an item is free, wherever the search begins. -/
theorem seek_isFree (h : t.HasRoom) (hslot : slot < t.size) (digits : UInt64) (fuel : Nat) :
    t[t.seek slot digits fuel]? = some none := by
  induction fuel generalizing slot digits with
  | zero =>
    obtain ⟨o, ho, rfl⟩ := exists_free h
    have hsome : (t.findIdx? (·.isNone)).isSome := by
      rw [Array.findIdx?_isSome, Array.any_eq_true']
      exact ⟨none, ho, rfl⟩
    obtain ⟨i, hi⟩ := Option.isSome_iff_exists.mp hsome
    obtain ⟨hlt, hfree, -⟩ := Array.findIdx?_eq_some_iff_getElem.mp hi
    rw [seek, hi, Option.getD_some, Array.getElem?_eq_getElem hlt]
    exact congrArg some (Option.isNone_iff_eq_none.mp hfree)
  | succ fuel ih =>
    -- Only slots of the table are tried: ten of them, or the first one alone.
    have hnear : ∀ k < (if slot + 9 < t.size then 10 else 1), slot + k < t.size := by
      intro k hk
      split at hk <;> omega
    unfold seek
    generalize (if slot + 9 < t.size then 10 else 1) = near at hnear ⊢
    dsimp only
    split
    next k hk =>
      have hfree := List.find?_some hk
      have hlt := hnear k (List.mem_range.mp (List.mem_of_find?_eq_some hk))
      exact (isFree_iff hlt).mp hfree
    next => exact ih (Nat.mod_lt _ (by omega)) _

/-! ## Tables with one more item -/

/-- An entry at a free place of a list of slots. -/
theorem filterMap_set_perm {α : Type} {slots : List (Option α)} {i : Nat}
    (hfree : slots[i]? = some none) (a : α) :
    ((slots.set i (some a)).filterMap id).Perm (a :: slots.filterMap id) := by
  obtain ⟨hi, hfree⟩ := List.getElem?_eq_some_iff.mp hfree
  have hsplit : slots = slots.take i ++ none :: slots.drop (i + 1) := by
    rw [← hfree, List.getElem_cons_drop, List.take_append_drop]
  rw [List.set_eq_take_append_cons_drop, if_pos hi]
  conv_rhs => rw [hsplit]
  simp only [List.filterMap_append, List.filterMap_cons, id]
  exact List.perm_middle

theorem seat_entries (h : t.HasRoom) (entry : UInt64 × Value) :
    (t.seat entry).entries.Perm (entry :: t.entries) := by
  have hsize : 0 < t.size := Nat.zero_lt_of_lt h
  have hfree := seek_isFree h (Nat.mod_lt entry.1.toNat hsize) entry.1 (t.size + 64)
  rw [entries, seat, Array.toList_setIfInBounds]
  exact filterMap_set_perm (by rwa [Array.getElem?_toList]) entry

/-- Steps that add an entry each, to a table that has room for all of them. -/
theorem foldl_seat_entries (entries : List (UInt64 × Value))
    (h : t.entries.length + entries.length ≤ t.size) :
    (entries.foldl seat t).entries.Perm (t.entries ++ entries) ∧
      (entries.foldl seat t).size = t.size := by
  induction entries generalizing t with
  | nil => exact ⟨by simp, rfl⟩
  | cons entry rest ih =>
    rw [List.length_cons] at h
    have hseat : (t.seat entry).entries.Perm (entry :: t.entries) :=
      seat_entries (by unfold HasRoom; omega) entry
    obtain ⟨hperm, hsize⟩ := ih (t := t.seat entry) (by
      rw [hseat.length_eq, List.length_cons, size_seat]
      omega)
    refine ⟨?_, hsize.trans size_seat⟩
    calc (rest.foldl seat (t.seat entry)).entries
        |>.Perm ((t.seat entry).entries ++ rest) := hperm
      _ |>.Perm (entry :: t.entries ++ rest) := hseat.append_right rest
      _ |>.Perm (t.entries ++ entry :: rest) := List.perm_middle.symm

/-! ## Larger tables -/

theorem lt_sizeAbove {fuel : Nat} (h : n < size * 2 ^ fuel) : n < sizeAbove n size fuel := by
  induction fuel generalizing size with
  | zero => simpa [sizeAbove] using h
  | succ fuel ih =>
    rw [sizeAbove]
    split
    next hlt => exact hlt
    next =>
      have hdouble : size * 2 ^ (fuel + 1) = 2 * size * 2 ^ fuel := by
        rw [Nat.pow_succ, Nat.mul_comm (2 ^ fuel), ← Nat.mul_assoc, Nat.mul_comm size]
      exact ih (hdouble ▸ h)

/-- A table for a number of items has more slots. -/
theorem lt_sizeFor (n : Nat) : n < sizeFor n := by
  refine lt_sizeAbove ?_
  have hpow : n < 2 ^ n := Nat.lt_two_pow_self
  omega

theorem hasRoom_of_not_crowded (h : isCrowded t.entries.length t.size = false) : t.HasRoom := by
  rw [isCrowded, decide_eq_false_iff_not] at h
  unfold HasRoom
  omega

/-- A table that grows takes one more item, and has room for the next one. -/
theorem seatGrowing_entries (h : t.HasRoom) (entry : UInt64 × Value) :
    (t.seatGrowing entry).entries.Perm (entry :: t.entries) ∧ (t.seatGrowing entry).HasRoom := by
  have hseat := seat_entries h entry
  unfold seatGrowing
  dsimp only
  split
  next =>
    set es := (t.seat entry).entries
    set factor := if 50000 < es.length then 2 else 4
    have hfactor : es.length ≤ factor * es.length := by
      refine Nat.le_mul_of_pos_left _ ?_
      unfold factor
      split <;> decide
    have hroom : es.length < sizeFor (factor * es.length) :=
      Nat.lt_of_le_of_lt hfactor (lt_sizeFor _)
    have hsize : (empty (sizeFor (factor * es.length))).size = sizeFor (factor * es.length) :=
      Array.size_replicate
    obtain ⟨hperm, hkept⟩ :=
      foldl_seat_entries (t := empty (sizeFor (factor * es.length))) es (by
        rw [entries_empty, hsize, List.length_nil, Nat.zero_add]
        exact Nat.le_of_lt hroom)
    rw [entries_empty, List.nil_append] at hperm
    exact ⟨hperm.trans hseat, by rwa [HasRoom, hperm.length_eq, hkept, hsize]⟩
  next hcrowded => exact ⟨hseat, hasRoom_of_not_crowded ((Bool.not_eq_true _).mp hcrowded)⟩

theorem foldl_seatGrowing_entries (h : t.HasRoom) (entries : List (UInt64 × Value)) :
    (entries.foldl seatGrowing t).entries.Perm (t.entries ++ entries) := by
  induction entries generalizing t with
  | nil => simp
  | cons entry rest ih =>
    obtain ⟨hseat, hroom⟩ := seatGrowing_entries h entry
    calc (rest.foldl seatGrowing (t.seatGrowing entry)).entries
        |>.Perm ((t.seatGrowing entry).entries ++ rest) := ih hroom
      _ |>.Perm (entry :: t.entries ++ rest) := hseat.append_right rest
      _ |>.Perm (t.entries ++ entry :: rest) := List.perm_middle.symm

end SlotTable

namespace Value

variable {items : List Value}

theorem length_slotNumbers? {numbers : List UInt64} (h : slotNumbers? items = some numbers) :
    numbers.length = items.length := by
  induction items generalizing numbers with
  | nil =>
    cases h
    rfl
  | cons item items ih =>
    unfold slotNumbers? at h
    split at h
    next n ns _ hns =>
      cases h
      rw [List.length_cons, List.length_cons, ih hns]
    next => cases h

/-- All items show in the order of their slots, each once. -/
theorem inGrowingSlots_perm (items : List Value) : (inGrowingSlots items).Perm items := by
  unfold inGrowingSlots
  split
  next => rfl
  next numbers hnumbers =>
    have hroom : SlotTable.HasRoom (.empty 8) := by
      rw [SlotTable.HasRoom, SlotTable.entries_empty]
      decide
    have hperm := SlotTable.foldl_seatGrowing_entries hroom (numbers.zip items)
    rw [SlotTable.entries_empty, List.nil_append] at hperm
    have hitems : (numbers.zip items).map (·.2) = items :=
      List.map_snd_zip (Nat.le_of_eq (length_slotNumbers? hnumbers).symm)
    exact (hperm.map (·.2)).trans (.of_eq hitems)

end Value

end ServerLauncher
