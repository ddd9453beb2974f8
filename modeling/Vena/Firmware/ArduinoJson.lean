import Mathlib.Algebra.Order.Field.Rat
import Mathlib.Data.List.TakeWhile
import Vena.Core.Utf8

/-!
# ArduinoJson

What the firmware relies on of the library it parses JSON with. The parser
itself is not part of the repository, so it is a parameter here, together with
the representation of numbers, what a number stands for, and what `as<float>()`
makes of a value. The casts and the lookups of the firmware are written on the
values it delivers.

Texts are bytes. `String(const char*)` ends at the first zero byte.

## Main definitions

* `JsonVariant`: A parsed value.
* `ArduinoJson`: The parser and the conversion.
* `ReadsNumbers`: `as<float>()` of a number is that number.
* `JsonVariant.member`, `JsonVariant.containsKey`, `JsonVariant.isNumber`,
  `JsonVariant.numberOf`: What is asked of a value.
* `arduinoString`: The bytes that a C string carries.
-/

namespace Vena

namespace Firmware

inductive JsonVariant (ν : Type) where
  | null
  | boolean (b : Bool)
  | number (n : ν)
  | string (bytes : List Nat)
  | array (items : List (JsonVariant ν))
  | object (members : List (List Nat × JsonVariant ν))

namespace JsonVariant

variable {ν : Type}

/-- `doc[key]`, which is null for a key that is not there and for a value that
    is no object. -/
def member (doc : JsonVariant ν) (key : String) : JsonVariant ν :=
  match doc with
  | .object members => match members.find? (fun m => m.1 = Utf8.encode key) with
    | some m => m.2
    | none => .null
  | _ => .null

/-- `doc.containsKey(key)`. -/
def containsKey (doc : JsonVariant ν) (key : String) : Bool :=
  match doc with
  | .object members => members.any (fun m => m.1 = Utf8.encode key)
  | _ => false

def isNumber : JsonVariant ν → Bool
  | .number _ => true
  | _ => false

/-- The number that the value is. -/
def numberOf : JsonVariant ν → Option ν
  | .number n => some n
  | _ => none

theorem numberOf_of_not_isNumber (v : JsonVariant ν) (h : v.isNumber = false) :
    v.numberOf = none := by
  cases v with
  | number n => cases h
  | _ => rfl

theorem eq_number (v : JsonVariant ν) (h : v.isNumber = true) : ∃ n, v = .number n := by
  cases v with
  | number n => exact ⟨n, rfl⟩
  | _ => cases h

theorem member_nil (key : String) : (object [] : JsonVariant ν).member key = .null := rfl

theorem member_cons_self (key : String) (v : JsonVariant ν)
    (members : List (List Nat × JsonVariant ν)) :
    (object ((Utf8.encode key, v) :: members)).member key = v := by
  simp only [member, List.find?_cons_of_pos, decide_true]

theorem member_cons_of_ne (key key' : String) (v : JsonVariant ν)
    (members : List (List Nat × JsonVariant ν)) (hne : Utf8.encode key' ≠ Utf8.encode key) :
    (object ((Utf8.encode key', v) :: members)).member key = (object members).member key := by
  simp only [member, hne, decide_false, Bool.false_eq_true, not_false_eq_true,
    List.find?_cons_of_neg]

end JsonVariant

/-- The parser, `none` for an error, the float a number is, and `as<float>()`,
    which has an answer for every value. The floats are rational numbers, as in
    the controller. Members come with distinct keys. -/
structure ArduinoJson (ν : Type) where
  deserializeJson : List Nat → Option (JsonVariant ν)
  valueOf : ν → ℚ
  asFloat : JsonVariant ν → ℚ

/-- `as<float>()` of a number is that number. -/
def ReadsNumbers {ν : Type} (json : ArduinoJson ν) : Prop :=
  ∀ n, json.asFloat (.number n) = json.valueOf n

/-- `String(const char*)`. -/
def arduinoString (bytes : List Nat) : List Nat := bytes.takeWhile (fun b => b ≠ 0)

theorem arduinoString_of_no_zero (bytes : List Nat) (h : 0 ∉ bytes) :
    arduinoString bytes = bytes :=
  List.takeWhile_eq_self_iff.mpr (fun _ hb => decide_eq_true (fun hzero => h (hzero ▸ hb)))

end Firmware

end Vena
