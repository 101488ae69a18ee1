import ServerLauncher.Text.Split

/-!
# Control sequences of terminals

What is written for a person may hold sequences that change colours or move the cursor of a
terminal: an escape character, a bracket, numbers, and a letter.  They are left out where the output
is no terminal.

## Main definitions

* `Text.withoutSequences`: a text without such sequences.
-/

namespace ServerLauncher.Text

/-- The characters between the bracket and the letter of a sequence. -/
def isSequenceParameter (c : Char) : Bool := c.isDigit || c = ';' || c = '?'

/-- What follows the rest of a sequence whose escape character and bracket have been read. -/
def behindSequence? : List Char → Option (List Char)
  | [] => none
  | c :: rest =>
    if isSequenceParameter c then behindSequence? rest
    else if c.isAlpha then some rest else none

theorem length_behindSequence? {s rest : List Char} (h : behindSequence? s = some rest) :
    rest.length < s.length := by
  induction s with
  | nil => simp [behindSequence?] at h
  | cons c s ih =>
    simp only [behindSequence?] at h
    split at h
    · have := ih h
      simp only [List.length_cons]
      omega
    · split at h
      · simp_all
      · simp at h

/-- The characters of a text that belong to no sequence. -/
def plainChars : List Char → List Char
  | [] => []
  | '\x1b' :: '[' :: s =>
    match _h : behindSequence? s with
    | some rest => plainChars rest
    | none => '\x1b' :: '[' :: plainChars s
  | c :: s => c :: plainChars s
termination_by s => s.length
decreasing_by
  · have := length_behindSequence? _h
    simp only [List.length_cons]
    omega
  · simp only [List.length_cons]
    omega
  · simp only [List.length_cons]
    omega

/-- A text without the sequences that control a terminal. -/
def withoutSequences (s : String) : String := String.ofList (plainChars s.toList)

end ServerLauncher.Text
