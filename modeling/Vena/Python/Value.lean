import Vena.Python.Binary64
import Vena.Python.IntOfStr

/-!
# Values and Exceptions

The values `json.loads` produces and the exceptions the modelled code can meet,
with the subclass relation as far as an `except` clause of it looks at them.

## Main definitions

* `Exc`: The exception classes.
* `PyVal`: The values.
* `setItem`, `getItem`: A dictionary as the list of its items.
* `intOf`: The constructor `int(value)`.
-/

namespace Vena

namespace Python

inductive Exc where
  | jsonDecodeError
  | unicodeDecodeError
  | valueError
  | osError
  | overflowError
  | typeError
  | attributeError
  | recursionError
  | databaseError
  | timeoutError
  deriving DecidableEq, Repr

/-- `issubclass(exc, ValueError)`. -/
def Exc.isValueError : Exc → Bool
  | .jsonDecodeError | .unicodeDecodeError | .valueError => true
  | _ => false

inductive PyVal where
  | none
  | bool (b : Bool)
  | int (n : Int)
  | float (x : PyFloat)
  | str (s : PyStr)
  | list (items : List PyVal)
  | dict (items : List (PyStr × PyVal))

/-- `d[key] = value`. -/
def setItem (items : List (PyStr × PyVal)) (key : PyStr) (value : PyVal) :
    List (PyStr × PyVal) :=
  if items.any (fun item => item.1 = key) then
    items.map (fun item => if item.1 = key then (key, value) else item)
  else items ++ [(key, value)]

/-- `d.get(key)`. -/
def getItem (items : List (PyStr × PyVal)) (key : PyStr) : PyVal :=
  match items.find? (fun item => item.1 = key) with
  | some item => item.2
  | none => .none

/-- `int(value)`. -/
def intOf : PyVal → Except Exc Int
  | .bool b => .ok (if b then 1 else 0)
  | .int n => .ok n
  | .float .nan => .error .valueError
  | .float (.inf _) => .error .overflowError
  | .float (.finite negative m e) => .ok (PyFloat.trunc negative m e)
  | .str s => match intOfStr 10 s with
    | some n => .ok n
    | none => .error .valueError
  | .none | .list _ | .dict _ => .error .typeError

end Python

end Vena
