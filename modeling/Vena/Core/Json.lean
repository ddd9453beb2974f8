import Mathlib.Data.List.Basic

/-!
# JSON Values

What a JSON text stands for once it is decoded, and the checked casts of a
decoder that reads fields out of an object. An object is the list of its
members; of two members with one name the last one counts.

## Main definitions

* `Json`: A decoded value.
* `Json.get`: A member of an object, `null` if there is none.
* `Json.asString`, `Json.asOptString`, `Json.asOptInt`, `Json.asArray`,
  `Json.asObject`: The casts, `none` for a value of another type.
-/

namespace Vena

inductive Json where
  | null
  | bool (b : Bool)
  | int (n : Int)
  | str (s : String)
  | arr (items : List Json)
  | obj (members : List (String × Json))

namespace Json

/-- The last member of the name, or `null`. -/
def get : List (String × Json) → String → Json
  | [], _ => .null
  | m :: ms, name =>
    if m.1 = name ∧ ∀ m' ∈ ms, m'.1 ≠ name then m.2 else get ms name

/-- `containsKey`. -/
def has (members : List (String × Json)) (name : String) : Bool :=
  members.any (fun m => m.1 = name)

def asString : Json → Option String
  | .str s => some s
  | _ => none

def asOptString : Json → Option (Option String)
  | .null => some none
  | .str s => some (some s)
  | _ => none

def asOptInt : Json → Option (Option Int)
  | .null => some none
  | .int n => some (some n)
  | _ => none

def asArray : Json → Option (List Json)
  | .arr items => some items
  | _ => none

def asObject : Json → Option (List (String × Json))
  | .obj members => some members
  | _ => none

end Json

end Vena
