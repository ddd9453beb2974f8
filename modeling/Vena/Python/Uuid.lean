import Vena.Python.IntOfStr
import Mathlib.Algebra.Ring.Int.Defs

/-!
# UUIDs

A `uuid.UUID` is a 128-bit integer; its text is the 32 hexadecimal digits in
five groups. The constructor is more generous than that: it drops the prefixes
`urn:` and `uuid:` wherever they occur, braces at both ends and every hyphen,
and hands the 32 characters that have to be left to `int`.

## Main definitions

* `Uuid`: The integer.
* `Uuid.hex`, `Uuid.str`: `UUID.hex` and `str(uuid)`.
* `removeAll`: `str.replace` with the empty string.
* `Uuid.ofStr`: The constructor.
-/

namespace Vena

namespace Python

/-- The integer value of a `uuid.UUID`. -/
abbrev Uuid := Nat

/-- `s.replace(pattern, '')`. The counter says how much of an occurrence is
    still to be dropped. -/
def removeAll (pattern : PyStr) : Nat → PyStr → PyStr
  | _, [] => []
  | 0, c :: cs =>
    if pattern.isPrefixOf (c :: cs) then removeAll pattern (pattern.length - 1) cs
    else c :: removeAll pattern 0 cs
  | k + 1, _ :: cs => removeAll pattern k cs

/-- `s.strip(chars)`. -/
def strip (chars : List Nat) (s : PyStr) : PyStr :=
  ((s.dropWhile chars.contains).reverse.dropWhile chars.contains).reverse

namespace Uuid

/-- `'%032x' % self.int`. -/
def hex (u : Uuid) : List Char :=
  let digits := Nat.toDigits 16 u
  List.replicate (32 - digits.length) '0' ++ digits

/-- `str(uuid)`. -/
def str (u : Uuid) : String :=
  let hex := u.hex
  String.ofList (hex.take 8 ++ '-' :: (hex.drop 8).take 4 ++ '-' :: (hex.drop 12).take 4 ++
    '-' :: (hex.drop 16).take 4 ++ '-' :: hex.drop 20)

/-- `uuid.UUID(text)`, with `none` for `ValueError`. -/
def ofStr (text : PyStr) : Option Uuid :=
  let hex := removeAll (PyStr.ofString "uuid:") 0 (removeAll (PyStr.ofString "urn:") 0 text)
  let hex := removeAll (PyStr.ofString "-") 0 (strip (PyStr.ofString "{}") hex)
  if hex.length ≠ 32 then none
  else match intOfStr 16 hex with
    | none => none
    | some n => if 0 ≤ n ∧ n < 2 ^ 128 then some n.toNat else none

example : str 0x12345678123456781234567812345678 = "12345678-1234-5678-1234-567812345678" := by
  decide

example : ofStr (PyStr.ofString "\x7b12345678-1234-5678-1234-567812345678\x7d") =
    some 0x12345678123456781234567812345678 := by
  decide

end Uuid

end Python

end Vena
