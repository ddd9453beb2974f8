import Mathlib.Data.List.Basic

/-!
# jsonDecode

The decoder of `dart:convert`, as a machine that is given one code unit of the
text after the other and keeps the open lists and maps on a stack. A Dart
string is a sequence of UTF-16 code units, so an escaped surrogate is a unit
like any other and need not find its other half.

A number is over only when the unit behind it arrives. A literal that could
end there is a value, and the unit is looked at again.

## Main definitions

* `JsonValue`: What is decoded.
* `Mode`, `Decoder`: Where the machine is.
* `Decoder.step`: One code unit.
* `jsonDecode`: The whole text, `none` for a `FormatException`.
* `JsonValue.asMap`, `JsonValue.asString`, `lookup`: The casts and the index
  operator of the decoded value.
-/

namespace Vena

namespace Mobile

/-- A Dart string, by its UTF-16 code units. -/
abbrev DartString := List Nat

def utf16Units (c : Char) : DartString :=
  if c.toNat < 0x10000 then [c.toNat]
  else [0xD800 + (c.toNat - 0x10000) / 0x400, 0xDC00 + (c.toNat - 0x10000) % 0x400]

def dartString (s : String) : DartString := s.toList.flatMap utf16Units

/-- A decoded value. A number is kept as it was written, and a map as the list of
    its members, the last of which counts where two have one key. -/
inductive JsonValue where
  | null
  | bool (b : Bool)
  | number (literal : DartString)
  | string (s : DartString)
  | list (items : List JsonValue)
  | map (members : List (DartString × JsonValue))

/-- An open list, or an open map with the key of the value it is waiting for.
    What is done is kept in reverse. -/
inductive Frame where
  | list (items : List JsonValue)
  | map (members : List (DartString × JsonValue)) (key : DartString)

/-- How far a number has come: behind its sign, its leading zero, its digits, the
    point, digits of the fraction, the `e`, the sign of the exponent, digits of
    the exponent. -/
inductive NumberPart where
  | sign
  | zero
  | digits
  | point
  | fraction
  | exponent
  | exponentSign
  | exponentDigits
  deriving DecidableEq, Repr

/-- A number may end here. -/
def NumberPart.complete : NumberPart → Bool
  | .zero => true
  | .digits => true
  | .fraction => true
  | .exponentDigits => true
  | _ => false

/-- What the next unit may be: the beginning of a value, an item or the end of
    a list that has just begun, likewise of a map, a key, the colon, what comes
    after a value, or some way into a string, an escape, a number or a word.
    `members` is what a map holds if the string is a key in it. -/
inductive Mode where
  | value
  | firstItem
  | firstKey
  | key (members : List (DartString × JsonValue))
  | colon (members : List (DartString × JsonValue)) (key : DartString)
  | after (v : JsonValue)
  | string (members : Option (List (DartString × JsonValue))) (units : DartString)
  | escape (members : Option (List (DartString × JsonValue))) (units : DartString)
  | hex (members : Option (List (DartString × JsonValue))) (units : DartString)
      (digits value : Nat)
  | number (part : NumberPart) (literal : DartString)
  | word (letters : DartString) (v : JsonValue)

structure Decoder where
  mode : Mode
  stack : List Frame

namespace Decoder

def isSpace (c : Nat) : Bool := c = 0x20 || c = 0x09 || c = 0x0A || c = 0x0D

def isDigit (c : Nat) : Bool := 0x30 ≤ c && c ≤ 0x39

def hexValue (c : Nat) : Option Nat :=
  if isDigit c then some (c - 0x30)
  else if 0x41 ≤ c && c ≤ 0x46 then some (c - 0x41 + 10)
  else if 0x61 ≤ c && c ≤ 0x66 then some (c - 0x61 + 10)
  else none

/-- The unit that a letter behind a backslash stands for. -/
def escapedUnit (c : Nat) : Option Nat :=
  if c = 0x22 || c = 0x5C || c = 0x2F then some c
  else if c = 0x62 then some 0x08
  else if c = 0x66 then some 0x0C
  else if c = 0x6E then some 0x0A
  else if c = 0x72 then some 0x0D
  else if c = 0x74 then some 0x09
  else none

/-- A number that goes on with this unit. -/
def numberPart (part : NumberPart) (c : Nat) : Option NumberPart :=
  match part with
  | .sign => if c = 0x30 then some .zero else if isDigit c then some .digits else none
  | .zero =>
    if c = 0x2E then some .point
    else if c = 0x65 || c = 0x45 then some .exponent
    else none
  | .digits =>
    if isDigit c then some .digits
    else if c = 0x2E then some .point
    else if c = 0x65 || c = 0x45 then some .exponent
    else none
  | .point => if isDigit c then some .fraction else none
  | .fraction =>
    if isDigit c then some .fraction
    else if c = 0x65 || c = 0x45 then some .exponent
    else none
  | .exponent =>
    if isDigit c then some .exponentDigits
    else if c = 0x2B || c = 0x2D then some .exponentSign
    else none
  | .exponentSign => if isDigit c then some .exponentDigits else none
  | .exponentDigits => if isDigit c then some .exponentDigits else none

/-- The first unit of a value. -/
def beginValue (stack : List Frame) (c : Nat) : Option Decoder :=
  if c = 0x22 then some ⟨.string none [], stack⟩
  else if c = 0x5B then some ⟨.firstItem, stack⟩
  else if c = 0x7B then some ⟨.firstKey, stack⟩
  else if c = 0x2D then some ⟨.number .sign [c], stack⟩
  else if c = 0x30 then some ⟨.number .zero [c], stack⟩
  else if isDigit c then some ⟨.number .digits [c], stack⟩
  else if c = 0x6E then some ⟨.word (dartString "ull") .null, stack⟩
  else if c = 0x74 then some ⟨.word (dartString "rue") (.bool true), stack⟩
  else if c = 0x66 then some ⟨.word (dartString "alse") (.bool false), stack⟩
  else none

/-- A unit behind the value `v`: a comma, or what closes the innermost frame. -/
def afterValue (stack : List Frame) (v : JsonValue) (c : Nat) : Option Decoder :=
  if isSpace c then some ⟨.after v, stack⟩
  else match stack with
    | [] => none
    | .list items :: frames =>
      if c = 0x2C then some ⟨.value, .list (v :: items) :: frames⟩
      else if c = 0x5D then some ⟨.after (.list (v :: items).reverse), frames⟩
      else none
    | .map members key :: frames =>
      if c = 0x2C then some ⟨.key ((key, v) :: members), frames⟩
      else if c = 0x7D then some ⟨.after (.map ((key, v) :: members).reverse), frames⟩
      else none

/-- The string is over: a key, or a value. -/
def endString (stack : List Frame) (members : Option (List (DartString × JsonValue)))
    (units : DartString) : Decoder :=
  match members with
  | none => ⟨.after (.string units.reverse), stack⟩
  | some members => ⟨.colon members units.reverse, stack⟩

/-- One code unit. -/
def step (d : Decoder) (c : Nat) : Option Decoder :=
  match d.mode with
  | .value => if isSpace c then some d else beginValue d.stack c
  | .firstItem =>
    if isSpace c then some d
    else if c = 0x5D then some ⟨.after (.list []), d.stack⟩
    else beginValue (.list [] :: d.stack) c
  | .firstKey =>
    if isSpace c then some d
    else if c = 0x7D then some ⟨.after (.map []), d.stack⟩
    else if c = 0x22 then some ⟨.string (some []) [], d.stack⟩
    else none
  | .key members =>
    if isSpace c then some d
    else if c = 0x22 then some ⟨.string (some members) [], d.stack⟩
    else none
  | .colon members key =>
    if isSpace c then some d
    else if c = 0x3A then some ⟨.value, .map members key :: d.stack⟩
    else none
  | .after v => afterValue d.stack v c
  | .string members units =>
    if c = 0x22 then some (endString d.stack members units)
    else if c = 0x5C then some ⟨.escape members units, d.stack⟩
    -- Control characters have to be escaped.
    else if c < 0x20 then none
    else some ⟨.string members (c :: units), d.stack⟩
  | .escape members units =>
    if c = 0x75 then some ⟨.hex members units 0 0, d.stack⟩
    else (escapedUnit c).map (fun e => ⟨.string members (e :: units), d.stack⟩)
  | .hex members units digits value =>
    (hexValue c).map (fun h =>
      if digits = 3 then ⟨.string members ((value * 16 + h) :: units), d.stack⟩
      else ⟨.hex members units (digits + 1) (value * 16 + h), d.stack⟩)
  | .number part literal => match numberPart part c with
    | some part => some ⟨.number part (c :: literal), d.stack⟩
    | none =>
      if part.complete then afterValue d.stack (.number literal.reverse) c else none
  | .word letters v => match letters with
    | [] => none
    | l :: letters =>
      if c ≠ l then none
      else if letters = [] then some ⟨.after v, d.stack⟩
      else some ⟨.word letters v, d.stack⟩

/-- The text is over. -/
def finish (d : Decoder) : Option JsonValue :=
  match d.mode, d.stack with
  | .after v, [] => some v
  | .number part literal, [] => if part.complete then some (.number literal.reverse) else none
  | _, _ => none

def feed : Decoder → DartString → Option Decoder
  | d, [] => some d
  | d, c :: cs => match step d c with
    | none => none
    | some d => feed d cs

end Decoder

def jsonDecode (source : DartString) : Option JsonValue :=
  (Decoder.feed ⟨.value, []⟩ source).bind Decoder.finish

namespace JsonValue

/-- `as Map<String, dynamic>`. -/
def asMap : JsonValue → Option (List (DartString × JsonValue))
  | .map members => some members
  | _ => none

/-- `as String`. -/
def asString : JsonValue → Option DartString
  | .string s => some s
  | _ => none

end JsonValue

/-- `payload[key]`, which is `null` for a key that is not there. -/
def lookup (members : List (DartString × JsonValue)) (key : DartString) : JsonValue :=
  match members.reverse.find? (fun m => m.1 = key) with
  | some m => m.2
  | none => .null

end Mobile

end Vena
