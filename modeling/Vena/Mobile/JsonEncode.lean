import Vena.Mobile.JsonDecode

/-!
# jsonEncode

The other half of `dart:convert`, for what the app puts into its outbox: maps of
strings. Quotes, backslashes and control characters are escaped, and so is a
surrogate without its other half. What is written is read back, whatever the
strings are. Aliases are typed in by somebody, and device ids come out of a QR
code.

## Main definitions

* `escapeUnit`, `writeStringContent`: The escapes.
* `jsonEncode`: A map of strings.

## Theorems

* `feed_escapeUnit`: The decoder reads back one unit.
* `feed_member`: It reads back a key and its value.
* `decode_encode`: It reads back the map.
-/

namespace Vena

namespace Mobile

namespace Encoder

def hexDigit (x : Nat) : Nat := if x < 10 then 0x30 + x else 0x57 + x

/-- The surrogates that begin a pair. -/
def isHigh (c : Nat) : Bool := c / 0x400 = 0x36

/-- The surrogates that end one. -/
def isLow (c : Nat) : Bool := c / 0x400 = 0x37

/-- A surrogate between units that do not complete the pair. -/
def lone (before : Option Nat) (c : Nat) (next : Option Nat) : Bool :=
  (isHigh c && !next.any isLow) || (isLow c && !before.any isHigh)

/-- The control characters with an escape of their own. -/
def controlLetter (c : Nat) : Option Nat :=
  if c = 0x08 then some 0x62
  else if c = 0x09 then some 0x74
  else if c = 0x0A then some 0x6E
  else if c = 0x0C then some 0x66
  else if c = 0x0D then some 0x72
  else none

/-- What is written for a unit, given the ones next to it. -/
def escapeUnit (before : Option Nat) (c : Nat) (next : Option Nat) : DartString :=
  if 0x5C < c then
    if lone before c next then
      [0x5C, 0x75, 0x64, hexDigit (c / 0x100 % 16), hexDigit (c / 0x10 % 16), hexDigit (c % 16)]
    else [c]
  else if c < 0x20 then match controlLetter c with
    | some letter => [0x5C, letter]
    | none => [0x5C, 0x75, 0x30, 0x30, hexDigit (c / 0x10 % 16), hexDigit (c % 16)]
  else if c = 0x22 ∨ c = 0x5C then [0x5C, c]
  else [c]

def writeStringContent (before : Option Nat) : DartString → DartString
  | [] => []
  | c :: s => escapeUnit before c s.head? ++ writeStringContent (some c) s

def writeString (s : DartString) : DartString := 0x22 :: (writeStringContent none s ++ [0x22])

/-- The members of `writeMap` and the closing brace. -/
def writeMembers (separator : DartString) : List (DartString × DartString) → DartString
  | [] => [0x7D]
  | (key, value) :: members =>
    separator ++ (writeString key ++ 0x3A :: (writeString value ++ writeMembers [0x2C] members))

end Encoder

def jsonEncode (members : List (DartString × DartString)) : DartString :=
  0x7B :: Encoder.writeMembers [] members

namespace Encoder

open Decoder

theorem feed_append (s t : DartString) : ∀ d : Decoder,
    feed d (s ++ t) = (feed d s).bind (fun d' => feed d' t) := by
  induction s with
  | nil => exact fun d => rfl
  | cons c s ih =>
      intro d
      rw [List.cons_append, feed, feed]
      cases step d c with
      | none => rfl
      | some d' => exact ih d'

theorem feed_cons (d d' : Decoder) (c : Nat) (cs : DartString) (h : step d c = some d') :
    feed d (c :: cs) = feed d' cs := by
  rw [feed, h]

theorem hexValue_hexDigit (x : Nat) (h : x < 16) : hexValue (hexDigit x) = some x := by
  have hall : ∀ x < 16, hexValue (hexDigit x) = some x := by decide
  exact hall x h

section Strings

variable (members : Option (List (DartString × JsonValue))) (units : DartString)
  (stack : List Frame)

theorem step_backslash : step ⟨.string members units, stack⟩ 0x5C =
    some ⟨.escape members units, stack⟩ := rfl

theorem step_unicode : step ⟨.escape members units, stack⟩ 0x75 =
    some ⟨.hex members units 0 0, stack⟩ := rfl

theorem step_escaped (letter c : Nat) (hne : letter ≠ 0x75) (hunit : escapedUnit letter = some c) :
    step ⟨.escape members units, stack⟩ letter = some ⟨.string members (c :: units), stack⟩ := by
  rw [step]
  dsimp only
  rw [if_neg hne, hunit]
  rfl

theorem step_hex (digits value x : Nat) (hx : x < 16) (hdigits : digits ≠ 3) :
    step ⟨.hex members units digits value, stack⟩ (hexDigit x) =
      some ⟨.hex members units (digits + 1) (value * 16 + x), stack⟩ := by
  rw [step]
  dsimp only
  rw [hexValue_hexDigit x hx, Option.map_some, if_neg hdigits]

theorem step_lastHex (value x : Nat) (hx : x < 16) :
    step ⟨.hex members units 3 value, stack⟩ (hexDigit x) =
      some ⟨.string members ((value * 16 + x) :: units), stack⟩ := by
  rw [step]
  dsimp only
  rw [hexValue_hexDigit x hx, Option.map_some, if_pos rfl]

/-- Four digits are one unit. -/
theorem feed_hex (a b c d : Nat) (ha : a < 16) (hb : b < 16) (hc : c < 16) (hd : d < 16) :
    feed ⟨.string members units, stack⟩
        [0x5C, 0x75, hexDigit a, hexDigit b, hexDigit c, hexDigit d] =
      some ⟨.string members ((((a * 16 + b) * 16 + c) * 16 + d) :: units), stack⟩ := by
  rw [feed_cons _ _ _ _ (step_backslash members units stack),
    feed_cons _ _ _ _ (step_unicode members units stack),
    feed_cons _ _ _ _ (step_hex members units stack 0 0 a ha (by decide)),
    feed_cons _ _ _ _ (step_hex members units stack 1 _ b hb (by decide)),
    feed_cons _ _ _ _ (step_hex members units stack 2 _ c hc (by decide)),
    feed_cons _ _ _ _ (step_lastHex members units stack _ d hd), feed, Nat.zero_mul, Nat.zero_add]

/-- A letter behind a backslash. -/
theorem feed_escaped (letter c : Nat) (hne : letter ≠ 0x75) (hunit : escapedUnit letter = some c) :
    feed ⟨.string members units, stack⟩ [0x5C, letter] =
      some ⟨.string members (c :: units), stack⟩ := by
  rw [feed_cons _ _ _ _ (step_backslash members units stack),
    feed_cons _ _ _ _ (step_escaped members units stack letter c hne hunit), feed]

/-- A unit that stands for itself. -/
theorem feed_plain (c : Nat) (hspace : 0x20 ≤ c) (hquote : c ≠ 0x22) (hbackslash : c ≠ 0x5C) :
    feed ⟨.string members units, stack⟩ [c] = some ⟨.string members (c :: units), stack⟩ := by
  have hstep : step ⟨.string members units, stack⟩ c =
      some ⟨.string members (c :: units), stack⟩ := by
    rw [step]
    dsimp only
    rw [if_neg hquote, if_neg hbackslash, if_neg (Nat.not_lt.mpr hspace)]
  rw [feed_cons _ _ _ _ hstep, feed]

theorem surrogate_of_lone (before next : Option Nat) (c : Nat) (h : lone before c next = true) :
    c / 0x1000 = 13 := by
  simp only [lone, isHigh, isLow, Bool.or_eq_true, Bool.and_eq_true, decide_eq_true_eq] at h
  rcases h with ⟨hhigh, _⟩ | ⟨hlow, _⟩
  · omega
  · omega

theorem feed_lone (c : Nat) (h : c / 0x1000 = 13) :
    feed ⟨.string members units, stack⟩ [0x5C, 0x75, 0x64, hexDigit (c / 0x100 % 16),
      hexDigit (c / 0x10 % 16), hexDigit (c % 16)] =
      some ⟨.string members (c :: units), stack⟩ := by
  have hvalue : ((13 * 16 + c / 0x100 % 16) * 16 + c / 0x10 % 16) * 16 + c % 16 = c := by omega
  have hfeed := feed_hex members units stack 13 (c / 0x100 % 16) (c / 0x10 % 16) (c % 16)
    (by decide) (Nat.mod_lt _ (by decide)) (Nat.mod_lt _ (by decide)) (Nat.mod_lt _ (by decide))
  rw [hvalue] at hfeed
  exact hfeed

theorem feed_control (c : Nat) (h : c < 0x20) :
    feed ⟨.string members units, stack⟩ (match controlLetter c with
      | some letter => [0x5C, letter]
      | none => [0x5C, 0x75, 0x30, 0x30, hexDigit (c / 0x10 % 16), hexDigit (c % 16)]) =
      some ⟨.string members (c :: units), stack⟩ := by
  cases hletter : controlLetter c with
  | some letter =>
      have hall : ∀ c < 0x20, ∀ letter ∈ controlLetter c, letter ≠ 0x75 ∧
          escapedUnit letter = some c := by decide
      rcases hall c h letter hletter with ⟨hne, hunit⟩
      exact feed_escaped members units stack letter c hne hunit
  | none =>
      have hvalue : ((0 * 16 + 0) * 16 + c / 0x10 % 16) * 16 + c % 16 = c := by omega
      have hfeed := feed_hex members units stack 0 0 (c / 0x10 % 16) (c % 16) (by decide)
        (by decide) (Nat.mod_lt _ (by decide)) (Nat.mod_lt _ (by decide))
      rw [hvalue] at hfeed
      exact hfeed

/-- The decoder reads back one unit. -/
theorem feed_escapeUnit (before next : Option Nat) (c : Nat) :
    feed ⟨.string members units, stack⟩ (escapeUnit before c next) =
      some ⟨.string members (c :: units), stack⟩ := by
  unfold escapeUnit
  by_cases hhigh : 0x5C < c
  · rw [if_pos hhigh]
    by_cases hlone : lone before c next = true
    · rw [if_pos hlone]
      exact feed_lone members units stack c (surrogate_of_lone before next c hlone)
    · rw [if_neg hlone]
      exact feed_plain members units stack c (by omega) (by omega) (by omega)
  · rw [if_neg hhigh]
    by_cases hcontrol : c < 0x20
    · rw [if_pos hcontrol]
      exact feed_control members units stack c hcontrol
    · rw [if_neg hcontrol]
      by_cases hquoted : c = 0x22 ∨ c = 0x5C
      · rw [if_pos hquoted]
        have hunit : c ≠ 0x75 ∧ escapedUnit c = some c := by
          rcases hquoted with rfl | rfl
          · decide
          · decide
        exact feed_escaped members units stack c c hunit.1 hunit.2
      · rw [if_neg hquoted]
        exact feed_plain members units stack c (by omega) (fun h => hquoted (Or.inl h))
          (fun h => hquoted (Or.inr h))

end Strings

/-- The units of a string are read one after the other, whatever was before. -/
theorem feed_writeStringContent (members : Option (List (DartString × JsonValue)))
    (stack : List Frame) (s : DartString) : ∀ (before : Option Nat) (units : DartString),
      feed ⟨.string members units, stack⟩ (writeStringContent before s) =
        some ⟨.string members (s.reverse ++ units), stack⟩ := by
  induction s with
  | nil => exact fun before units => rfl
  | cons c s ih =>
      intro before units
      rw [writeStringContent, feed_append, feed_escapeUnit, Option.bind_some, ih,
        List.reverse_cons, List.append_assoc]
      rfl

/-- From behind the opening quote to behind the closing one. -/
theorem feed_string (members : Option (List (DartString × JsonValue))) (stack : List Frame)
    (s rest : DartString) :
    feed ⟨.string members [], stack⟩ (writeStringContent none s ++ 0x22 :: rest) =
      feed (endString stack members s.reverse) rest := by
  have hstep : step ⟨.string members s.reverse, stack⟩ 0x22 =
      some (endString stack members s.reverse) := rfl
  rw [feed_append, feed_writeStringContent, Option.bind_some, List.append_nil,
    feed_cons _ _ _ _ hstep]

/-- The decoder reads back a key and its value. -/
theorem feed_member (members : List (DartString × JsonValue)) (stack : List Frame)
    (key value rest : DartString) :
    feed ⟨.string (some members) [], stack⟩
        (writeStringContent none key ++ 0x22 :: 0x3A :: (writeString value ++ rest)) =
      feed ⟨.after (.string value), .map members key :: stack⟩ rest := by
  have hcolon : step ⟨.colon members key, stack⟩ 0x3A =
      some ⟨.value, .map members key :: stack⟩ := rfl
  have hquote : step ⟨.value, .map members key :: stack⟩ 0x22 =
      some ⟨.string none [], .map members key :: stack⟩ := rfl
  rw [feed_string, endString, List.reverse_reverse, feed_cons _ _ _ _ hcolon, writeString,
    List.cons_append, feed_cons _ _ _ _ hquote, List.append_assoc, List.singleton_append,
    feed_string, endString, List.reverse_reverse]

/-- The decoded member. -/
def decoded (m : DartString × DartString) : DartString × JsonValue := (m.1, .string m.2)

/-- Behind a value, the rest of the members and the closing brace. -/
theorem feed_members (rest : List (DartString × DartString)) :
    ∀ (members : List (DartString × JsonValue)) (key value : DartString),
      feed ⟨.after (.string value), [.map members key]⟩ (writeMembers [0x2C] rest) =
        some ⟨.after (.map (((key, .string value) :: members).reverse ++ rest.map decoded)),
          []⟩ := by
  induction rest with
  | nil =>
      intro members key value
      rw [List.map_nil, List.append_nil]
      rfl
  | cons m rest ih =>
      intro members key value
      have hcomma : step ⟨.after (.string value), [.map members key]⟩ 0x2C =
          some ⟨.key ((key, .string value) :: members), []⟩ := rfl
      have hquote : step ⟨.key ((key, .string value) :: members), []⟩ 0x22 =
          some ⟨.string (some ((key, .string value) :: members)) [], []⟩ := rfl
      rw [writeMembers, List.singleton_append, feed_cons _ _ _ _ hcomma, writeString,
        List.cons_append, feed_cons _ _ _ _ hquote, List.append_assoc, List.singleton_append,
        feed_member, ih, List.map_cons, List.reverse_cons, List.append_assoc]
      rfl

end Encoder

open Encoder Decoder

/-- The decoder reads back the map. -/
theorem decode_encode (members : List (DartString × DartString)) :
    jsonDecode (jsonEncode members) = some (.map (members.map decoded)) := by
  have hbrace : step ⟨.value, []⟩ 0x7B = some ⟨.firstKey, []⟩ := rfl
  rw [jsonDecode, jsonEncode, feed_cons _ _ _ _ hbrace]
  cases members with
  | nil => rfl
  | cons m members =>
      have hquote : step ⟨.firstKey, []⟩ 0x22 = some ⟨.string (some []) [], []⟩ := rfl
      rw [writeMembers, List.nil_append, writeString, List.cons_append,
        feed_cons _ _ _ _ hquote, List.append_assoc, List.singleton_append, feed_member,
        feed_members]
      rfl

end Mobile

end Vena
