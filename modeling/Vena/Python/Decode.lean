import Vena.Python.IntOfStr

/-!
# Text from Bytes

`bytes.decode(json.detect_encoding(b), 'surrogatepass')`: the encoding is
guessed from a byte order mark or from where the zero bytes are among the first
four, and the error handler lets surrogates through that stand alone. `none`
stands for `UnicodeDecodeError`.

## Main definitions

* `decodeUtf8`, `decodeUtf16`, `decodeUtf32`: The codecs.
* `Encoding`, `detectEncoding`: The guess.
* `decodeBytes`: The text.
-/

namespace Vena

namespace Python

def isTail (b : Nat) : Bool :=
  0x80 ≤ b && b ≤ 0xBF

/-- UTF-8, with surrogates in three bytes. -/
def decodeUtf8 : List Nat → Option PyStr
  | [] => some []
  | a :: rest =>
    if a < 0x80 then (decodeUtf8 rest).map (a :: ·)
    else match rest with
      | [] => none
      | b :: rest =>
        if !isTail b then none
        else if 0xC2 ≤ a && a ≤ 0xDF then
          (decodeUtf8 rest).map (((a - 0xC0) * 64 + (b - 0x80)) :: ·)
        else match rest with
          | [] => none
          | c :: rest =>
            if !isTail c then none
            else if 0xE0 ≤ a && a ≤ 0xEF then
              let code := (a - 0xE0) * 4096 + (b - 0x80) * 64 + (c - 0x80)
              if code < 0x800 then none else (decodeUtf8 rest).map (code :: ·)
            else match rest with
              | [] => none
              | d :: rest =>
                if !isTail d then none
                else if 0xF0 ≤ a && a ≤ 0xF4 then
                  let code := (a - 0xF0) * 262144 + (b - 0x80) * 4096 + (c - 0x80) * 64 + (d - 0x80)
                  if code < 0x10000 || 0x10FFFF < code then none
                  else (decodeUtf8 rest).map (code :: ·)
                else none

def isHighSurrogate (c : Nat) : Bool :=
  0xD800 ≤ c && c ≤ 0xDBFF

def isLowSurrogate (c : Nat) : Bool :=
  0xDC00 ≤ c && c ≤ 0xDFFF

def joinSurrogates (high low : Nat) : Nat :=
  0x10000 + (high - 0xD800) * 1024 + (low - 0xDC00)

/-- The code units of UTF-16; `none` for an odd byte at the end. -/
def units16 (bigEndian : Bool) : List Nat → Option (List Nat)
  | [] => some []
  | [_] => none
  | a :: b :: rest =>
    (units16 bigEndian rest).map ((if bigEndian then a * 256 + b else b * 256 + a) :: ·)

/-- Pairs of surrogates become one character, others stay. -/
def joinUnits : List Nat → PyStr
  | [] => []
  | [u] => [u]
  | u :: v :: rest =>
    if isHighSurrogate u && isLowSurrogate v then joinSurrogates u v :: joinUnits rest
    else u :: joinUnits (v :: rest)

def decodeUtf16 (bigEndian : Bool) (bytes : List Nat) : Option PyStr :=
  (units16 bigEndian bytes).map joinUnits

def decodeUtf32 (bigEndian : Bool) : List Nat → Option PyStr
  | [] => some []
  | a :: b :: c :: d :: rest =>
    let code :=
      if bigEndian then a * 16777216 + b * 65536 + c * 256 + d
      else d * 16777216 + c * 65536 + b * 256 + a
    if 0x10FFFF < code then none else (decodeUtf32 bigEndian rest).map (code :: ·)
  | _ => none

/-- The encodings `detect_encoding` knows; `skip` is the length of the mark the
    codec drops. -/
inductive Encoding where
  | utf8 (skip : Nat)
  | utf16 (bigEndian : Bool) (skip : Nat)
  | utf32 (bigEndian : Bool) (skip : Nat)
  deriving DecidableEq, Repr

/-- `json.detect_encoding`. -/
def detectEncoding : List Nat → Encoding
  | 0x00 :: 0x00 :: 0xFE :: 0xFF :: _ => .utf32 true 4
  | 0xFF :: 0xFE :: 0x00 :: 0x00 :: _ => .utf32 false 4
  | 0xFE :: 0xFF :: _ => .utf16 true 2
  | 0xFF :: 0xFE :: _ => .utf16 false 2
  | 0xEF :: 0xBB :: 0xBF :: _ => .utf8 3
  | a :: b :: c :: d :: _ =>
    if a = 0 then (if b = 0 then .utf32 true 0 else .utf16 true 0)
    else if b = 0 then (if c = 0 && d = 0 then .utf32 false 0 else .utf16 false 0)
    else .utf8 0
  | [a, b] => if a = 0 then .utf16 true 0 else if b = 0 then .utf16 false 0 else .utf8 0
  | _ => .utf8 0

/-- `b.decode(detect_encoding(b), 'surrogatepass')`. -/
def decodeBytes (bytes : List Nat) : Option PyStr :=
  match detectEncoding bytes with
  | .utf8 skip => decodeUtf8 (bytes.drop skip)
  | .utf16 bigEndian skip => decodeUtf16 bigEndian (bytes.drop skip)
  | .utf32 bigEndian skip => decodeUtf32 bigEndian (bytes.drop skip)

example : decodeBytes [0xFF, 0xFE, 0x3D, 0xD8, 0x00, 0xDE] = some [0x1F600] := by decide

example : decodeBytes [0xED, 0xA0, 0x80, 0xFF] = none := by decide

end Python

end Vena
