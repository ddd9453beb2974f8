import Vena.Python.IntOfStr
import Mathlib.Data.List.Basic

/-!
# Splitting and Stripping Strings

`str.split` with a separator of one character and `str.strip`, on strings
without surrogates.

## Main definitions

* `split`: The parts between the separators, empty ones included.
* `stripSpace`: The string without the white space around it.
-/

namespace Vena

namespace Python

/-- `s.split(sep)`. -/
def split (sep : Char) (s : String) : List String :=
  (s.toList.splitOn sep).map String.ofList

example : split '/' "vena//telemetry" = ["vena", "", "telemetry"] := by decide

/-- `str.isspace` of one character. -/
def isSpace (c : Char) : Bool :=
  isAsciiSpace c.toNat || (0x1C ≤ c.toNat && c.toNat ≤ 0x1F) || isUnicodeSpace c.toNat

/-- `s.strip()`. -/
def stripSpace (s : String) : String :=
  String.ofList ((s.toList.dropWhile isSpace).reverse.dropWhile isSpace).reverse

end Python

end Vena
