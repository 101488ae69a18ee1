import ServerLauncher.Text.Quoted

/-!
# JSON text

Texts, lists and objects in JSON, indented by two columns a level.  Characters beyond ASCII are
written as escapes of their UTF-16 units.

## Main definitions

* `JsonText`: what is written.
* `JsonText.render`: its text.
-/

namespace ServerLauncher

/-- What is written as JSON: a text, a list, or an object with its keys in order. -/
inductive JsonText where
  | text (s : String)
  | list (items : List JsonText)
  | object (fields : List (String × JsonText))
deriving Repr

namespace JsonText

/-- A UTF-16 unit as an escape. -/
def unitEscape (unit : Nat) : List Char := '\\' :: 'u' :: Text.hex 4 unit

/-- A character inside quotes. -/
def escaped (c : Char) : List Char :=
  match c with
  | '"' => ['\\', '"']
  | '\\' => ['\\', '\\']
  | '\n' => ['\\', 'n']
  | '\r' => ['\\', 'r']
  | '\t' => ['\\', 't']
  | '\x08' => ['\\', 'b']
  | '\x0c' => ['\\', 'f']
  | c =>
    let n := c.toNat
    if 0x20 ≤ n ∧ n < 0x7f then [c]
    else if n < 0x10000 then unitEscape n
    else
      let rest := n - 0x10000
      unitEscape (0xd800 + rest / 0x400) ++ unitEscape (0xdc00 + rest % 0x400)

/-- A text in quotes. -/
def quoted (s : String) : String := String.ofList ('"' :: (s.toList.flatMap escaped ++ ['"']))

/-- A new line at some depth. -/
def newline (depth : Nat) : String := "\n" ++ String.ofList (List.replicate (2 * depth) ' ')

mutual

/-- The text of what is written, from a given depth on. -/
def renderAt (depth : Nat) : JsonText → String
  | text s => quoted s
  | list [] => "[]"
  | list (item :: items) =>
    "[" ++ newline (depth + 1) ++ renderAt (depth + 1) item ++ renderItems (depth + 1) items ++
      newline depth ++ "]"
  | object [] => "\x7b\x7d"
  | object ((key, value) :: fields) =>
    "\x7b" ++ newline (depth + 1) ++ quoted key ++ ": " ++ renderAt (depth + 1) value ++
      renderFields (depth + 1) fields ++ newline depth ++ "\x7d"

/-- The items of a list after the first. -/
def renderItems (depth : Nat) : List JsonText → String
  | [] => ""
  | item :: items => "," ++ newline depth ++ renderAt depth item ++ renderItems depth items

/-- The fields of an object after the first. -/
def renderFields (depth : Nat) : List (String × JsonText) → String
  | [] => ""
  | (key, value) :: fields =>
    "," ++ newline depth ++ quoted key ++ ": " ++ renderAt depth value ++ renderFields depth fields

end

/-- The text of what is written. -/
def render (j : JsonText) : String := renderAt 0 j

/-- A list of texts. -/
def ofTexts (items : List String) : JsonText := list (items.map text)

end JsonText

end ServerLauncher
