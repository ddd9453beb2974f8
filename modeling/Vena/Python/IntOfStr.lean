import Mathlib.Data.Int.Notation

/-!
# Integers from Text

The constructor `int(text, base)` on a string, as CPython 3.11 implements it.
A string is the list of its code points, since a Python string may hold
surrogates. `none` stands for `ValueError`.

A string with a character outside ASCII is first folded: Unicode spaces become
blanks, decimal digits of any script their ASCII digits, and the first other
character a question mark that ends the string. Then blanks around the number,
one sign, the prefix of base 16 and single underscores between digits are
accepted. A number in base 10 has at most 4300 digits.

## Main definitions

* `PyStr`: The code points of a string.
* `decimalDigit`, `foldToAscii`: The digits of every script, and the folding.
* `scanDigits`: The digits with their underscores.
* `intOfStr`: The constructor.
-/

namespace Vena

namespace Python

/-- A Python string, by its code points. -/
abbrev PyStr := List Nat

def PyStr.ofString (s : String) : PyStr :=
  s.toList.map Char.toNat

def isAsciiSpace (c : Nat) : Bool :=
  (9 ≤ c && c ≤ 13) || c = 32

/-- `str.isspace` outside ASCII. -/
def isUnicodeSpace (c : Nat) : Bool :=
  c = 0x85 || c = 0xA0 || c = 0x1680 || (0x2000 ≤ c && c ≤ 0x200A) || c = 0x2028 || c = 0x2029 ||
    c = 0x202F || c = 0x205F || c = 0x3000

/-- The zeros of the decimal digits of every script, Unicode 14. -/
def decimalZeros : List Nat :=
  [0x30, 0x660, 0x6F0, 0x7C0, 0x966, 0x9E6, 0xA66, 0xAE6, 0xB66, 0xBE6, 0xC66, 0xCE6, 0xD66, 0xDE6,
    0xE50, 0xED0, 0xF20, 0x1040, 0x1090, 0x17E0, 0x1810, 0x1946, 0x19D0, 0x1A80, 0x1A90, 0x1B50,
    0x1BB0, 0x1C40, 0x1C50, 0xA620, 0xA8D0, 0xA900, 0xA9D0, 0xA9F0, 0xAA50, 0xABF0, 0xFF10, 0x104A0,
    0x10D30, 0x11066, 0x110F0, 0x11136, 0x111D0, 0x112F0, 0x11450, 0x114D0, 0x11650, 0x116C0,
    0x11730, 0x118E0, 0x11950, 0x11C50, 0x11D50, 0x11DA0, 0x16A60, 0x16AC0, 0x16B50, 0x1D7CE,
    0x1D7D8, 0x1D7E2, 0x1D7EC, 0x1D7F6, 0x1E140, 0x1E2F0, 0x1E950, 0x1FBF0]

/-- `unicodedata.decimal`. -/
def decimalDigit (c : Nat) : Option Nat :=
  (decimalZeros.find? (fun z => z ≤ c && c < z + 10)).map (fun z => c - z)

def foldTail : PyStr → PyStr
  | [] => []
  | c :: cs =>
    if c < 127 then c :: foldTail cs
    else if isUnicodeSpace c then 32 :: foldTail cs
    else match decimalDigit c with
      | some d => (0x30 + d) :: foldTail cs
      | none => [0x3F]

/-- `_PyUnicode_TransformDecimalAndSpaceToASCII`. -/
def foldToAscii (s : PyStr) : PyStr :=
  if s.all (fun c => c < 128) then s else foldTail s

/-- The value of an ASCII digit or letter. -/
def digitValue (c : Nat) : Option Nat :=
  if 0x30 ≤ c && c ≤ 0x39 then some (c - 0x30)
  else if 0x41 ≤ c && c ≤ 0x5A then some (c - 0x41 + 10)
  else if 0x61 ≤ c && c ≤ 0x7A then some (c - 0x61 + 10)
  else none

/-- The digits at the start of the string, with single underscores between
    them, and the rest. `afterUnderscore` says that the previous character was
    an underscore. -/
def scanDigits (base : Nat) : Bool → PyStr → Option (List Nat × PyStr)
  | afterUnderscore, [] => if afterUnderscore then none else some ([], [])
  | afterUnderscore, c :: cs =>
    if c = 0x5F then
      if afterUnderscore then none else scanDigits base true cs
    else match digitValue c with
      | none => if afterUnderscore then none else some ([], c :: cs)
      | some d =>
        if d < base then (scanDigits base false cs).map (fun r => (d :: r.1, r.2))
        else if afterUnderscore then none else some ([], c :: cs)

def digitsToNat (base : Nat) (digits : List Nat) : Nat :=
  digits.foldl (fun n d => n * base + d) 0

/-- `sys.int_info.default_max_str_digits`. -/
def maxStrDigits : Nat := 4300

/-- The limit applies to bases that are no power of two. -/
def tooManyDigits (base : Nat) (digits : List Nat) : Bool :=
  base = 10 && maxStrDigits < digits.length

/-- The digits after the sign, and what may follow them. -/
def magnitudeOfStr (base : Nat) (s : PyStr) : Option Nat :=
  let s := match s with
    | 0x30 :: x :: rest =>
      if base = 16 && (x = 0x78 || x = 0x58) then
        match rest with
        | 0x5F :: rest' => rest'
        | _ => rest
      else s
    | _ => s
  match s with
  | 0x5F :: _ => none
  | _ => match scanDigits base false s with
    | none => none
    | some (digits, rest) =>
      if digits = [] || tooManyDigits base digits || !rest.all isAsciiSpace then none
      else some (digitsToNat base digits)

/-- `int(text, base)`. -/
def intOfStr (base : Nat) (text : PyStr) : Option Int :=
  match (foldToAscii text).dropWhile isAsciiSpace with
  | 0x2B :: s => (magnitudeOfStr base s).map Int.ofNat
  | 0x2D :: s => (magnitudeOfStr base s).map (fun n => -Int.ofNat n)
  | s => (magnitudeOfStr base s).map Int.ofNat

example : intOfStr 10 (PyStr.ofString " -1_000\n") = some (-1000) := by decide

example : intOfStr 10 (PyStr.ofString "1.5") = none := by decide

end Python

end Vena
