import Mathlib.Data.List.Basic
import ServerLauncher.Proofs.Clock
import ServerLauncher.Proofs.Layouts
import ServerLauncher.Proofs.Results

/-!
# Plain values

The values that are built from null, truth values, numbers and texts by lists and mappings.

A plain value is written part by part.  It has no text if one of its parts is an integer with too
many digits, or lies in more collections than there is room for; the first such part says which of
the two is reported.  The items of a plain value, its entries and the number it stands for can be
told from its constructor.

## Main definitions

* `Double.overflowBound`: where the range of the numbers ends for an integer.
* `Value.IsPlain`: the values in question.
* `Value.parts`, `Value.Obstructs`, `Value.LacksText`: what has no text, and why.
* `Value.HasItems`, `Value.NoNumber`: the items of a value, and which values are no numbers.

## Main statements

* `Double.ofInt?_eq_none_iff`: which integers are beyond the range of the numbers.
* `Value.IsPlain.toText_eq_error_iff`: which plain values have no text.
* `Value.lookup_entriesOf`: of the pairs of a mapping under one text the last counts.
-/

namespace ServerLauncher

/-! ## Integers beyond the range of the numbers -/

namespace Double

/-- The least whole number that is rounded beyond the largest finite number. -/
def overflowBound : Nat := 2 ^ 1024 - 2 ^ 970

theorem quantaLimit_le_iff (n : Nat) :
    quantaLimit ≤ roundSignificand (n * quantaPerUnit) 1 ↔ overflowBound ≤ n := by
  have hbound : quantaLimit ≤ roundSignificand (overflowBound * quantaPerUnit) 1 := by
    decide +kernel
  have hbelow : roundSignificand ((overflowBound - 1) * quantaPerUnit) 1 < quantaLimit := by
    decide +kernel
  constructor
  · intro h
    refine Nat.le_of_not_lt fun hlt => ?_
    have hle : n * quantaPerUnit ≤ (overflowBound - 1) * quantaPerUnit :=
      Nat.mul_le_mul_right _ (Nat.le_sub_one_of_lt hlt)
    exact absurd (h.trans (roundSignificand_mono 1 hle)) (Nat.not_le.mpr hbelow)
  · exact fun h => hbound.trans (roundSignificand_mono 1 (Nat.mul_le_mul_right _ h))

theorem finite?_ofQuanta_eq_none_iff (negative : Bool) (quanta : Nat) :
    (ofQuanta negative quanta).finite? = none ↔ quantaLimit ≤ quanta := by
  unfold ofQuanta
  split
  next h => exact iff_of_true rfl h
  next h => exact iff_of_false nofun h

theorem ofInt?_eq_none_iff (n : Int) : ofInt? n = none ↔ overflowBound ≤ n.natAbs := by
  rw [ofInt?, ofRatio, finite?_ofQuanta_eq_none_iff, quantaLimit_le_iff]

end Double

/-! ## Plain values -/

namespace Value

/-- A value is built from null, truth values, numbers and texts by lists and mappings. -/
inductive IsPlain : Value → Prop where
  | null : IsPlain null
  | truth (b : Bool) : IsPlain (truth b)
  | integer (n : Int) : IsPlain (integer n)
  | real (x : Double) : IsPlain (real x)
  | text (s : String) : IsPlain (text s)
  | list (items : List Value) (hitems : ∀ v ∈ items, IsPlain v) : IsPlain (list items)
  | mapping (entries : List (Value × Value)) (hkeys : ∀ entry ∈ entries, IsPlain entry.1)
      (hvalues : ∀ entry ∈ entries, IsPlain entry.2) : IsPlain (mapping entries)

variable {v : Value} {items : List Value} {entries pairs : List (Value × Value)} {s : String}
  {room : Nat} {issue : TextIssue}

/-! ## Texts -/

mutual

/-- The parts of a value in the order in which they are written, each with the number of collections
around it, if the value itself lies in some. -/
def partsAt (depth : Nat) : Value → List (Nat × Value)
  | list items => (depth, list items) :: partsOfItems (depth + 1) items
  | mapping entries => (depth, mapping entries) :: partsOfEntries (depth + 1) entries
  | v => [(depth, v)]

/-- The parts of several values. -/
def partsOfItems (depth : Nat) : List Value → List (Nat × Value)
  | [] => []
  | v :: vs => partsAt depth v ++ partsOfItems depth vs

/-- The parts of the keys and the values of a mapping. -/
def partsOfEntries (depth : Nat) : List (Value × Value) → List (Nat × Value)
  | [] => []
  | (k, v) :: rest => partsAt depth k ++ (partsAt depth v ++ partsOfEntries depth rest)

end

/-- The parts of a value, itself first, each with the number of collections around it. -/
def parts (v : Value) : List (Nat × Value) := partsAt 0 v

/-- A part cannot be written: it is an integer with too many digits, or lies too deep. -/
inductive Obstructs (room : Nat) : Nat × Value → TextIssue → Prop where
  | tooLong {depth : Nat} {n : Int} (hroom : depth ≤ room) (hlong : 10 ^ digitLimit ≤ n.natAbs) :
      Obstructs room (depth, integer n) .tooLong
  | tooDeep {depth : Nat} {v : Value} (hdeep : room < depth) : Obstructs room (depth, v) .tooDeep

/-- The first part that cannot be written is the reason why a value has no text. -/
def LacksText (room : Nat) (v : Value) (issue : TextIssue) : Prop :=
  FirstOf (Obstructs room) v.parts issue

/-- Why a value cannot be written for its own sake. -/
def ownIssue? : Value → Option TextIssue
  | integer n => errorOf? (integerText n)
  | _ => none

/-- Why a part cannot be written. -/
def obstruction? (room : Nat) (part : Nat × Value) : Option TextIssue :=
  if room < part.1 then some .tooDeep else part.2.ownIssue?

theorem errorOf?_integerText (n : Int) : errorOf? (integerText n) =
    if 10 ^ digitLimit ≤ n.natAbs then some .tooLong else none := by
  unfold integerText
  split
  · rfl
  · rfl

theorem obstruction?_eq_some_iff (part : Nat × Value) :
    obstruction? room part = some issue ↔ Obstructs room part issue := by
  obtain ⟨depth, v⟩ := part
  unfold obstruction?
  split
  next hdeep =>
    rw [Option.some_inj]
    constructor
    · rintro rfl
      exact .tooDeep hdeep
    · intro h
      cases h with
      | tooLong hroom => exact absurd hdeep (Nat.not_lt.mpr hroom)
      | tooDeep => rfl
  next hroom =>
    constructor
    · intro h
      cases v with
      | integer n =>
        rw [ownIssue?, errorOf?_integerText] at h
        split at h
        next hlong =>
          cases h
          exact .tooLong (Nat.not_lt.mp hroom) hlong
        next => cases h
      | _ => cases h
    · intro h
      cases h with
      | tooLong _ hlong => rw [ownIssue?, errorOf?_integerText, if_pos hlong]
      | tooDeep hdeep => exact absurd hdeep hroom

theorem lacksText_iff :
    v.LacksText room issue ↔ v.parts.findSome? (obstruction? room) = some issue :=
  (findSome?_eq_some_iff_firstOf fun part _ _ => obstruction?_eq_some_iff part).symm

/-- A value comes before the parts inside it. -/
theorem exists_partsAt (depth : Nat) (v : Value) :
    ∃ inner, partsAt depth v = (depth, v) :: inner := by
  cases v <;> exact ⟨_, partsAt.eq_def depth _⟩

/-- Where there is no room left the first part is too deep. -/
theorem findSome?_partsAt_tooDeep {depth : Nat} (hdeep : room < depth) (v : Value)
    (others : List (Nat × Value)) :
    (partsAt depth v ++ others).findSome? (obstruction? room) = some .tooDeep := by
  obtain ⟨inner, hinner⟩ := exists_partsAt depth v
  rw [hinner, List.cons_append, List.findSome?_cons, obstruction?, if_pos hdeep]

/-- Whether a value can be written is decided part by part: the collections around it and the room
below it are together the room for the parts. -/
def IsWrittenInParts (v : Value) : Prop :=
  ∀ (inside : List Nat) (depth room : Nat), errorOf? (shownIn inside room v) =
    (partsAt depth v).findSome? (obstruction? (depth + room))

/-- Inside a collection the room is one less. -/
theorem IsWrittenInParts.inner (h : v.IsWrittenInParts) (inside : List Nat) (depth room : Nat) :
    errorOf? (shownIn inside room v) =
      (partsAt (depth + 1) v).findSome? (obstruction? (depth + (room + 1))) := by
  rw [h inside (depth + 1), Nat.add_right_comm, Nat.add_assoc]

theorem errorOf?_shownItems (hitems : ∀ v ∈ items, IsWrittenInParts v) (inside : List Nat)
    (depth room : Nat) : errorOf? (shownItems inside room items) =
      (partsOfItems (depth + 1) items).findSome? (obstruction? (depth + room)) := by
  induction items with
  | nil => rfl
  | cons v vs ih =>
    obtain ⟨hv, hvs⟩ := List.forall_mem_cons.mp hitems
    rw [shownItems, partsOfItems]
    rcases room with _ | room
    · exact (findSome?_partsAt_tooDeep (Nat.lt_succ_self depth) v _).symm
    · rw [if_neg (Nat.succ_ne_zero room), Nat.add_sub_cancel, List.findSome?_append, ← ih hvs,
        ← hv.inner inside]
      exact errorOf?_bind fun part => errorOf?_bind_of_none fun _ => rfl

theorem errorOf?_shownEntries
    (hentries : ∀ entry ∈ entries, IsWrittenInParts entry.1 ∧ IsWrittenInParts entry.2)
    (inside : List Nat) (depth room : Nat) : errorOf? (shownEntries inside room entries) =
      (partsOfEntries (depth + 1) entries).findSome? (obstruction? (depth + room)) := by
  induction entries with
  | nil => rfl
  | cons entry rest ih =>
    obtain ⟨⟨hkey, hvalue⟩, hrest⟩ := List.forall_mem_cons.mp hentries
    rw [shownEntries, partsOfEntries]
    rcases room with _ | room
    · exact (findSome?_partsAt_tooDeep (Nat.lt_succ_self depth) entry.1 _).symm
    · rw [if_neg (Nat.succ_ne_zero room), Nat.add_sub_cancel, List.findSome?_append,
        List.findSome?_append, ← ih hrest, ← hkey.inner inside, ← hvalue.inner inside]
      exact errorOf?_bind fun key => errorOf?_bind fun value => errorOf?_bind_of_none fun _ => rfl

/-- Where its collections have come to be written a part is in the way only for its own sake. -/
theorem obstruction?_of_own (depth room : Nat) (v : Value) :
    obstruction? (depth + room) (depth, v) = v.ownIssue? :=
  if_neg (Nat.not_lt.mpr (Nat.le_add_right depth room))

theorem isWrittenInParts_of_leaf (hparts : ∀ depth, partsAt depth v = [(depth, v)])
    (herror : ∀ inside room, errorOf? (shownIn inside room v) = v.ownIssue?) :
    v.IsWrittenInParts := by
  intro inside depth room
  rw [herror, hparts, List.findSome?_singleton, obstruction?_of_own]

/-- A plain value is written part by part. -/
theorem IsPlain.isWrittenInParts (h : v.IsPlain) : v.IsWrittenInParts := by
  induction h with
  | null => exact isWrittenInParts_of_leaf (fun _ => rfl) fun _ _ => rfl
  | truth b => exact isWrittenInParts_of_leaf (fun _ => rfl) fun _ _ => rfl
  | integer n => exact isWrittenInParts_of_leaf (fun _ => rfl) fun _ _ => rfl
  | real x => exact isWrittenInParts_of_leaf (fun _ => rfl) fun _ _ => rfl
  | text s => exact isWrittenInParts_of_leaf (fun _ => rfl) fun _ _ => rfl
  | list items hitems ih =>
    intro inside depth room
    rw [shownIn, errorOf?_map, errorOf?_shownItems ih, partsAt, List.findSome?_cons,
      obstruction?_of_own, ownIssue?]
    rintro n ⟨⟩
  | mapping entries hkeys hvalues ihkeys ihvalues =>
    intro inside depth room
    have hentries entry (hentry : entry ∈ entries) :=
      And.intro (ihkeys entry hentry) (ihvalues entry hentry)
    rw [shownIn, errorOf?_map, errorOf?_shownEntries hentries, partsAt, List.findSome?_cons,
      obstruction?_of_own, ownIssue?]
    rintro n ⟨⟩

/-- A plain value has no text exactly for the sake of its first part that cannot be written. -/
theorem IsPlain.toText_eq_error_iff (h : v.IsPlain) :
    v.toText room = .error issue ↔ v.LacksText room issue := by
  have hshown : errorOf? (v.shown room) = v.parts.findSome? (obstruction? room) := by
    rw [shown, h.isWrittenInParts [] 0 room, Nat.zero_add, parts]
  rw [lacksText_iff, ← hshown, errorOf?_eq_some_iff]
  cases h with
  | text s => exact iff_of_false nofun nofun
  | null => rfl
  | truth b => rfl
  | integer n => rfl
  | real x => rfl
  | list items => rfl
  | mapping entries => rfl

/-! ## Items and entries -/

/-- The items of a value: a text is one item, a mapping has its keys as items. -/
inductive HasItems : Value → List Value → Prop where
  | text (s : String) : HasItems (text s) [text s]
  | list (items : List Value) : HasItems (list items) items
  | mapping (entries : List (Value × Value)) : HasItems (mapping entries) (entries.map (·.1))

theorem HasItems.isPlain (hitems : v.HasItems items) (h : v.IsPlain) :
    ∀ item ∈ items, item.IsPlain := by
  cases hitems with
  | text s => exact List.forall_mem_singleton.mpr h
  | list =>
    cases h with
    | list _ hitems => exact hitems
  | mapping entries =>
    cases h with
    | mapping _ hkeys => exact List.forall_mem_map.mpr hkeys

theorem IsPlain.entries?_eq_some_iff (h : v.IsPlain) :
    v.entries? = some entries ↔ v = .mapping entries := by
  cases h with
  | mapping entries' => simp [entries?, opened]
  | _ => simp [entries?, opened]

theorem IsPlain.entries?_eq_none_iff (h : v.IsPlain) : v.entries? = none ↔ v.kind ≠ .mapping := by
  cases h with
  | mapping entries' => simp [entries?, opened, kind]
  | _ => simp [entries?, opened, kind]

/-! ## Pairs of a mapping -/

/-- A text has the value that was inserted last under it. -/
theorem lookup_insertEntry (entries : List (Value × Value)) (key value : Value) (s : String) :
    lookup (insertEntry entries key value) (.text s) =
      if key.same (.text s) then some value else lookup entries (.text s) := by
  unfold insertEntry
  by_cases hany : entries.any fun entry => entry.1.same key
  · rw [if_pos hany, lookup_replaced]
    by_cases hkey : key.same (.text s)
    · obtain ⟨entry, hentry, hsame⟩ := List.any_eq_true.mp hany
      rw [same_text_iff.mp hkey] at hsame
      have hsome : lookup entries (.text s) ≠ none := fun hnone =>
        lookup_text_eq_none_iff.mp hnone entry hentry (same_text_iff.mp hsame)
      obtain ⟨value', hvalue'⟩ := Option.ne_none_iff_exists'.mp hsome
      rw [if_pos hkey, if_pos hkey, hvalue', Option.map_some]
    · rw [if_neg hkey, if_neg hkey]
  · rw [if_neg hany]
    unfold lookup
    rw [List.find?_append, Option.map_or]
    by_cases hkey : key.same (.text s)
    · rw [same_text_iff.mp hkey, Bool.not_eq_true, List.any_eq_false] at hany
      rw [List.find?_eq_none.mpr hany]
      simp [hkey]
    · simp [hkey]

/-- Of the pairs under a text the last counts. -/
theorem lookup_entriesOf (pairs : List (Value × Value)) (s : String) :
    lookup (entriesOf pairs) (.text s) =
      (pairs.reverse.find? fun pair => pair.1.same (.text s)).map (·.2) := by
  suffices hbehind : ∀ before : List (Value × Value),
      lookup (pairs.foldl (fun es pair => insertEntry es pair.1 pair.2) before) (.text s) =
        ((pairs.reverse.find? fun pair => pair.1.same (.text s)).map (·.2)).or
          (lookup before (.text s)) by
    exact (hbehind []).trans Option.or_none
  induction pairs with
  | nil => exact fun before => rfl
  | cons pair pairs ih =>
    intro before
    rw [List.foldl_cons, ih, lookup_insertEntry, List.reverse_cons, List.find?_append,
      Option.map_or, Option.or_assoc]
    congr 1
    by_cases hsame : pair.1.same (.text s)
    · simp [hsame]
    · simp [hsame]

/-- The entries of a mapping have their keys and their values from its pairs. -/
theorem entriesOf_forall {P Q : Value → Prop} (h : ∀ pair ∈ pairs, P pair.1 ∧ Q pair.2) :
    ∀ entry ∈ entriesOf pairs, P entry.1 ∧ Q entry.2 := by
  suffices hbehind : ∀ before : List (Value × Value), (∀ entry ∈ before, P entry.1 ∧ Q entry.2) →
      ∀ entry ∈ pairs.foldl (fun es pair => insertEntry es pair.1 pair.2) before,
        P entry.1 ∧ Q entry.2 from
    hbehind [] nofun
  induction pairs with
  | nil => exact fun before hbefore => hbefore
  | cons pair pairs ih =>
    rw [List.forall_mem_cons] at h
    intro before hbefore
    refine ih h.2 _ fun entry hentry => ?_
    dsimp only [insertEntry] at hentry
    split at hentry
    · obtain ⟨old, hold, rfl⟩ := List.mem_map.mp hentry
      split
      · exact ⟨(hbefore old hold).1, h.1.2⟩
      · exact hbefore old hold
    · rcases List.mem_append.mp hentry with hold | hnew
      · exact hbefore entry hold
      · rw [List.mem_singleton.mp hnew]
        exact h.1

/-! ## Numbers -/

/-- A plain value is no number if it is a collection, a text that says none, or beyond the range of
the numbers. -/
inductive NoNumber : Value → NumberIssue → Prop where
  | null : NoNumber null (.wrongKind .null)
  | list (items : List Value) : NoNumber (list items) (.wrongKind .list)
  | mapping (entries : List (Value × Value)) : NoNumber (mapping entries) (.wrongKind .mapping)
  | text (s : String) (h : Double.read? s = none) :
      NoNumber (text s) (.unreadable (Text.quoted s))
  | integer (n : Int) (h : Double.overflowBound ≤ n.natAbs) : NoNumber (integer n) .tooLarge

theorem IsPlain.toDouble_eq_error_iff (h : v.IsPlain) {issue : NumberIssue} :
    v.toDouble = .error issue ↔ v.NoNumber issue := by
  cases h with
  | null =>
    constructor
    · rintro ⟨⟩
      exact .null
    · rintro ⟨⟩
      rfl
  | truth b => exact iff_of_false nofun nofun
  | real x => exact iff_of_false nofun nofun
  | list items hitems =>
    constructor
    · rintro ⟨⟩
      exact .list items
    · rintro ⟨⟩
      rfl
  | mapping entries hkeys hvalues =>
    constructor
    · rintro ⟨⟩
      exact .mapping entries
    · rintro ⟨⟩
      rfl
  | text s =>
    rw [toDouble]
    rcases hread : Double.read? s with _ | x
    · constructor
      · rintro ⟨⟩
        exact .text s hread
      · rintro ⟨⟩
        rfl
    · exact iff_of_false nofun fun | .text _ hnone => nomatch hread.symm.trans hnone
  | integer n =>
    have hbound := Double.ofInt?_eq_none_iff n
    rw [toDouble, doubleOfInt]
    generalize Double.ofInt? n = x? at hbound ⊢
    rcases x? with _ | x
    · constructor
      · rintro ⟨⟩
        exact .integer n (hbound.mp rfl)
      · rintro ⟨⟩
        rfl
    · exact iff_of_false nofun fun | .integer _ hlarge => nomatch hbound.mpr hlarge

end Value

end ServerLauncher
