import Vena.Backend.Jwt
import Vena.Core.Base64
import Vena.Core.Utf8
import Vena.Python.PrintedJson
import Vena.Python.UuidText

/-!
# Tokens as Text

What `jose.jwt.encode` makes of the claims: the dictionary as `json.dumps` writes
it between the separators `,` and `:`, in base64 without padding, between the
header and the signature. The timestamps were made integers before. Header and
signature are those of the library, about which nothing is assumed but that they
are bytes.

`json.dumps` writes ASCII only. Whatever else is in a string, an id for instance,
is escaped by its UTF-16 units.

## Main definitions

* `dumpsString`, `dumpsItems`, `dumpsMembers`: What `json.dumps` writes.
* `claimsDict`: The dictionary of the claims.
* `Compact`: What a signed token looks like.

## Theorems

* `ascii_dumps`: The text of a dictionary is ASCII.
-/

namespace Vena

namespace Backend

open Python Utf8

/-- `\\u{0:04x}`. -/
def escapeUnit (n : Nat) : List Nat :=
  [0x5C, 0x75, hexCode (n / 0x1000), hexCode (n / 0x100 % 16), hexCode (n / 0x10 % 16),
    hexCode (n % 16)]

/-- The letter behind the backslash, for the characters of `ESCAPE_DCT`. -/
def escapeLetter (c : Nat) : Option Nat :=
  if c = 0x5C then some 0x5C
  else if c = 0x22 then some 0x22
  else if c = 0x08 then some 0x62
  else if c = 0x0C then some 0x66
  else if c = 0x0A then some 0x6E
  else if c = 0x0D then some 0x72
  else if c = 0x09 then some 0x74
  else none

/-- One character in the text of `py_encode_basestring_ascii`. -/
def escapeAscii (c : Nat) : List Nat :=
  match escapeLetter c with
  | some letter => [0x5C, letter]
  | none =>
    if 0x20 ≤ c ∧ c ≤ 0x7E then [c]
    else if c < 0x10000 then escapeUnit c
    else
      escapeUnit (0xD800 + (c - 0x10000) / 0x400) ++ escapeUnit (0xDC00 + (c - 0x10000) % 0x400)

/-- A string, with the closing quote but without the opening one. -/
def dumpsContent (s : String) : List Nat := s.toList.flatMap (fun c => escapeAscii c.toNat)

def dumpsString (s : String) : List Nat := 0x22 :: (dumpsContent s ++ [0x22])

/-- The items of a list of strings and the closing bracket. -/
def dumpsItems (separator : List Nat) : List String → List Nat
  | [] => [0x5D]
  | s :: items => separator ++ (dumpsString s ++ dumpsItems [0x2C] items)

/-- What a claim is. -/
inductive ClaimValue where
  | text (s : String)
  | texts (items : List String)
  | number (n : Int)
  deriving DecidableEq, Repr

def ClaimValue.dumps : ClaimValue → List Nat
  | .text s => dumpsString s
  | .texts items => 0x5B :: dumpsItems [] items
  | .number n => Literal.intText n

/-- The members of a dictionary and the closing brace. -/
def dumpsMembers (separator : List Nat) : List (String × ClaimValue) → List Nat
  | [] => [0x7D]
  | (key, v) :: members =>
    separator ++ (dumpsString key ++ 0x3A :: (v.dumps ++ dumpsMembers [0x2C] members))

/-- `json.dumps(payload, separators=(",", ":"))`. -/
def dumps (members : List (String × ClaimValue)) : List Nat := 0x7B :: dumpsMembers [] members

/-- The payload of a token. Every kind of it has its claims in this order. -/
def claimsDict (c : Claims) : List (String × ClaimValue) :=
  (c.sub.map (fun s => ("sub", ClaimValue.text s))).toList ++
    ((c.email.map (fun s => ("email", ClaimValue.text s))).toList ++
      ((c.scope.map (fun s => ("scope", ClaimValue.text s))).toList ++
        ((c.devices.map (fun ids => ("devices", ClaimValue.texts ids))).toList ++
          ((c.deviceId.map (fun s => ("device_id", ClaimValue.text s))).toList ++
            [("iat", .number c.iat), ("exp", .number c.exp)]))))

/-- The signer writes tokens in the compact serialization of RFC 7515. -/
structure Compact (encode : Claims → String) : Prop where
  serialized : ∀ c, ∃ header signature : List Nat,
    (∀ b ∈ header, b < 256) ∧ (∀ b ∈ signature, b < 256) ∧
    PyStr.ofString (encode c) = Base64.encode header ++ 0x2E ::
      (Base64.encode (dumps (claimsDict c)) ++ 0x2E :: Base64.encode signature)

theorem ascii_escapeUnit (n : Nat) (h : n < 0x10000) : Ascii (escapeUnit n) := by
  have hhex : ∀ d < 16, 0 < hexCode d ∧ hexCode d < 0x80 := by decide
  have hdigits : ∀ b ∈ escapeUnit n, 0 < b ∧ b < 0x80 := by
    intro b hb
    simp only [escapeUnit, List.mem_cons, List.not_mem_nil, or_false] at hb
    rcases hb with rfl | rfl | rfl | rfl | rfl | rfl
    · decide
    · decide
    · exact hhex _ (by omega)
    · exact hhex _ (by omega)
    · exact hhex _ (by omega)
    · exact hhex _ (by omega)
  exact hdigits

theorem escapeLetter_lt (c letter : Nat) (h : escapeLetter c = some letter) : c < 0x80 := by
  by_contra hge
  simp only [escapeLetter] at h
  split_ifs at h
  all_goals omega

theorem ascii_escapeAscii (c : Char) : Ascii (escapeAscii c.toNat) := by
  -- There are few letters behind a backslash.
  have hletter : ∀ n < 0x80, ∀ letter ∈ escapeLetter n, Ascii [0x5C, letter] := by decide
  have hchar : c.toNat < 0x110000 := by
    have hvalid := c.valid
    rcases hvalid with hvalid | hvalid
    · exact Nat.lt_trans hvalid (by decide)
    · exact hvalid.2
  rw [escapeAscii]
  split
  · next letter h => exact hletter c.toNat (escapeLetter_lt _ _ h) letter h
  · split
    · next hplain => exact ascii_cons _ _ (by omega) ascii_nil
    · split
      · next hbmp => exact ascii_escapeUnit _ hbmp
      · exact ascii_append _ _ (ascii_escapeUnit _ (by omega)) (ascii_escapeUnit _ (by omega))

theorem ascii_dumpsString (s : String) : Ascii (dumpsString s) := by
  have hcontent : Ascii (dumpsContent s) := by
    intro b hb
    rcases List.mem_flatMap.mp hb with ⟨c, _, hc⟩
    exact ascii_escapeAscii c b hc
  exact ascii_cons _ _ (by decide) (ascii_append _ _ hcontent (by decide))

theorem ascii_dumpsItems (items : List String) :
    ∀ separator, Ascii separator → Ascii (dumpsItems separator items) := by
  induction items with
  | nil => exact fun _ _ => ascii_cons _ _ (by decide) ascii_nil
  | cons s items ih =>
      intro separator h
      exact ascii_append _ _ h (ascii_append _ _ (ascii_dumpsString s) (ih _ (by decide)))

theorem ascii_value (v : ClaimValue) : Ascii v.dumps := by
  cases v with
  | text s => exact ascii_dumpsString s
  | texts items => exact ascii_cons _ _ (by decide) (ascii_dumpsItems items _ ascii_nil)
  | number n =>
      have hdigits := Decimal.ascii_numeral _ (Decimal.numeral_digits n.natAbs)
      rw [ClaimValue.dumps, Literal.intText]
      split
      · exact ascii_cons _ _ (by decide) hdigits
      · exact hdigits

theorem ascii_dumpsMembers (members : List (String × ClaimValue)) :
    ∀ separator, Ascii separator → Ascii (dumpsMembers separator members) := by
  induction members with
  | nil => exact fun _ _ => ascii_cons _ _ (by decide) ascii_nil
  | cons m members ih =>
      intro separator h
      exact ascii_append _ _ h (ascii_append _ _ (ascii_dumpsString m.1)
        (ascii_cons _ _ (by decide) (ascii_append _ _ (ascii_value m.2) (ih _ (by decide)))))

/-- The text of a dictionary is ASCII. -/
theorem ascii_dumps (members : List (String × ClaimValue)) : Ascii (dumps members) :=
  ascii_cons _ _ (by decide) (ascii_dumpsMembers members _ ascii_nil)

end Backend

end Vena
