/-!
# Splitting and joining text

Paths, search paths and web addresses are texts cut at separators.

## Main definitions

* `Text.splitAt`: the pieces of a text between the occurrences of a separator.
* `Text.joinWith`: the inverse.
* `Text.cutFirst`: a text cut at the first occurrence of a separator.
-/

namespace ServerLauncher.Text

/-- The pieces between the separators; one more than there are separators. -/
def splitAt (separator : Char) : List Char → List (List Char)
  | [] => [[]]
  | c :: rest =>
    if c = separator then [] :: splitAt separator rest
    else match splitAt separator rest with
      | [] => [[c]]
      | piece :: pieces => (c :: piece) :: pieces

/-- The pieces with a separator between each two. -/
def joinWith (separator : List Char) : List (List Char) → List Char
  | [] => []
  | [piece] => piece
  | piece :: pieces => piece ++ separator ++ joinWith separator pieces

/-- What stands before and after the first separator, if there is one. -/
def cutFirst (separator : Char) : List Char → Option (List Char × List Char)
  | [] => none
  | c :: rest =>
    if c = separator then some ([], rest)
    else (cutFirst separator rest).map fun (before, after) => (c :: before, after)

/-- What stands before and after the last separator, if there is one. -/
def cutLast (separator : Char) (s : List Char) : Option (List Char × List Char) :=
  (cutFirst separator s.reverse).map fun (after, before) => (before.reverse, after.reverse)

/-- The text without the trailing occurrences of a character. -/
def dropTrailing (c : Char) (s : List Char) : List Char :=
  (s.reverse.dropWhile (· = c)).reverse

theorem splitAt_ne_nil (separator : Char) (s : List Char) : splitAt separator s ≠ [] := by
  cases s with
  | nil => simp [splitAt]
  | cons c rest =>
    simp only [splitAt]
    split
    · simp
    · split <;> simp

theorem joinWith_splitAt (separator : Char) (s : List Char) :
    joinWith [separator] (splitAt separator s) = s := by
  induction s with
  | nil => rfl
  | cons c rest ih =>
    simp only [splitAt]
    have hne := splitAt_ne_nil separator rest
    split
    · next h =>
      subst h
      cases hs : splitAt c rest with
      | nil => exact absurd hs hne
      | cons piece pieces =>
        rw [hs] at ih
        simp [joinWith, ih]
    · next h =>
      cases hs : splitAt separator rest with
      | nil => exact absurd hs hne
      | cons piece pieces =>
        rw [hs] at ih
        cases pieces with
        | nil => simp [joinWith] at ih ⊢; exact ih
        | cons second pieces => simp [joinWith] at ih ⊢; exact ih

theorem joinWith_eq_intercalate (separator : List Char) (pieces : List (List Char)) :
    joinWith separator pieces = separator.intercalate pieces := by
  induction pieces with
  | nil => rfl
  | cons piece pieces ih =>
    cases pieces with
    | nil => simp [joinWith]
    | cons second pieces =>
      rw [joinWith, ih, List.intercalate_cons_cons, List.append_assoc]
      simp

/-- The pieces of a text, with the separator between each two, are the text again. -/
theorem intercalate_splitAt (separator : Char) (s : String) :
    (String.singleton separator).intercalate
      ((splitAt separator s.toList).map String.ofList) = s := by
  have htexts : ((splitAt separator s.toList).map String.ofList).map String.toList =
      splitAt separator s.toList := by
    simp [Function.comp_def]
  rw [← String.toList_inj, String.toList_intercalate, htexts, String.toList_singleton,
    ← joinWith_eq_intercalate, joinWith_splitAt]

end ServerLauncher.Text
