import Vena.Core.Utf8
import Vena.Mobile.JsonEncode
import Vena.Python.Decode

/-!
# utf8.encode

The bytes of a Dart string. A pair of surrogates is one code point, and a
surrogate without its other half becomes U+FFFD. What `jsonEncode` writes for
texts is a text again, since it escapes every half that stands alone, so nothing
is lost in its bytes.

## Main definitions

* `runes`: The code points of a string.
* `utf8Encode`: Its bytes.
* `IsText`: A string that is the UTF-16 of a text.

## Theorems

* `utf8Encode_dartString`: The bytes of a text.
* `length_dartString_le`: There are no fewer bytes than units.
* `decodeUtf8_encode`: The bytes of a text determine it.
* `isText_jsonEncode`: `jsonEncode` writes texts.
-/

namespace Vena

namespace Mobile

open Encoder

def runes : DartString → List Nat
  | [] => []
  | [u] => [u]
  | u :: v :: rest =>
    if isHigh u && isLow v then (0x10000 + (u - 0xD800) * 0x400 + (v - 0xDC00)) :: runes rest
    else u :: runes (v :: rest)

def utf8Encode (s : DartString) : List Nat :=
  (runes s).flatMap (fun c => Utf8.bytes (if isHigh c || isLow c then 0xFFFD else c))

example : utf8Encode [0x61, 0xD83D, 0xDE00, 0xDC00] =
    [0x61, 0xF0, 0x9F, 0x98, 0x80, 0xEF, 0xBF, 0xBD] := by decide

section Characters

variable (c : Char)

/-- A character is no surrogate. -/
theorem char_bounds : c.toNat < 0xD800 ∨ (0xDFFF < c.toNat ∧ c.toNat < 0x110000) := c.valid

theorem isHigh_toNat : isHigh c.toNat = false := by
  have hbounds := char_bounds c
  rw [isHigh, decide_eq_false_iff_not]
  omega

theorem isLow_toNat : isLow c.toNat = false := by
  have hbounds := char_bounds c
  rw [isLow, decide_eq_false_iff_not]
  omega

/-- The units of a character: itself, or a pair of surrogates. -/
inductive UnitsCases : Prop where
  | one (hc : c.toNat < 0x10000) (h : utf16Units c = [c.toNat])
  | pair (high low : Nat) (h : utf16Units c = [high, low]) (hhigh : isHigh high = true)
      (hlow : isLow low = true) (hc : 0x10000 ≤ c.toNat)
      (hvalue : 0x10000 + (high - 0xD800) * 0x400 + (low - 0xDC00) = c.toNat)

theorem units_cases : UnitsCases c := by
  have hbounds := char_bounds c
  by_cases hc : c.toNat < 0x10000
  · exact .one hc (by rw [utf16Units, if_pos hc])
  · refine .pair _ _ (by rw [utf16Units, if_neg hc]) ?_ ?_ (Nat.le_of_not_lt hc) ?_
    · rw [isHigh, decide_eq_true_eq]
      omega
    · rw [isLow, decide_eq_true_eq]
      omega
    · omega

theorem runes_units (rest : DartString) : runes (utf16Units c ++ rest) = c.toNat :: runes rest := by
  cases units_cases c with
  | one _ h =>
      rw [h]
      cases rest with
      | nil => rfl
      | cons v rest =>
          rw [List.singleton_append, runes, isHigh_toNat, Bool.false_and, if_neg Bool.false_ne_true]
  | pair high low h hhigh hlow _ hvalue =>
      rw [h, List.cons_append, List.singleton_append, runes, hhigh, hlow, Bool.and_self, if_pos rfl,
        hvalue]

theorem length_units_le : (utf16Units c).length ≤ (Utf8.bytes c.toNat).length := by
  cases units_cases c with
  | one _ h =>
      rw [h]
      exact List.length_pos_iff.mpr (Utf8.bytes_ne_nil c.toNat)
  | pair high low h _ _ hc _ =>
      cases Utf8.bytes_cases c.toNat with
      | four _ hbytes =>
          rw [h, hbytes]
          show 2 ≤ 4
          decide
      | one hlt _ => omega
      | two hlt _ => omega
      | three hlt _ => omega

end Characters

theorem runes_dartString (s : String) : runes (dartString s) = s.toList.map Char.toNat := by
  unfold dartString
  induction s.toList with
  | nil => rfl
  | cons c cs ih => rw [List.flatMap_cons, runes_units, ih, List.map_cons]

/-- The bytes of a text. -/
theorem utf8Encode_dartString (s : String) : utf8Encode (dartString s) = Utf8.encode s := by
  rw [utf8Encode, runes_dartString, List.flatMap_map, Utf8.encode]
  refine List.flatMap_congr (fun c _ => ?_)
  rw [isHigh_toNat, isLow_toNat, Bool.or_self, if_neg Bool.false_ne_true]

/-- There are no fewer bytes than units. -/
theorem length_dartString_le (s : String) : (dartString s).length ≤ (Utf8.encode s).length := by
  unfold dartString Utf8.encode
  induction s.toList with
  | nil => exact Nat.le_refl 0
  | cons c cs ih =>
      rw [List.flatMap_cons, List.flatMap_cons, List.length_append, List.length_append]
      exact Nat.add_le_add (length_units_le c) ih

theorem utf8Encode_cons_ne_nil (u : Nat) (s : DartString) : utf8Encode (u :: s) ≠ [] := by
  have hrunes : ∃ c cs, runes (u :: s) = c :: cs := by
    cases s with
    | nil => exact ⟨u, [], rfl⟩
    | cons v s =>
        rw [runes]
        split
        · exact ⟨_, _, rfl⟩
        · exact ⟨_, _, rfl⟩
  obtain ⟨c, cs, hrunes⟩ := hrunes
  rw [utf8Encode, hrunes, List.flatMap_cons]
  exact List.append_ne_nil_of_left_ne_nil (Utf8.bytes_ne_nil _) _

section Decoding

open Python

/-- A decoder gets one character back. -/
theorem decodeUtf8_bytes (c : Nat) (hc : c < 0x110000) (rest : List Nat) :
    decodeUtf8 (Utf8.bytes c ++ rest) = (decodeUtf8 rest).map (c :: ·) := by
  have htail : ∀ n, isTail (0x80 + n % 64) = true := by
    intro n
    simp only [isTail, Bool.and_eq_true, decide_eq_true_eq]
    omega
  -- In each length the lead byte is in its own range, and the six bits of the
  -- tail bytes put the character together again.
  cases Utf8.bytes_cases c with
  | one hlt h =>
      rw [h, List.singleton_append, decodeUtf8.eq_def]
      simp only [if_pos hlt]
  | two hlt h =>
      have hvalue : (0xC0 + c / 64 - 0xC0) * 64 + (0x80 + c % 64 - 0x80) = c := by omega
      have hlead : (0xC2 ≤ 0xC0 + c / 64 && 0xC0 + c / 64 ≤ 0xDF) = true := by
        simp only [Bool.and_eq_true, decide_eq_true_eq]
        omega
      rw [h, List.cons_append, List.singleton_append, decodeUtf8.eq_def]
      simp only [if_neg (show ¬ 0xC0 + c / 64 < 0x80 by omega), htail, Bool.not_true,
        Bool.false_eq_true, if_false, hlead, if_true, hvalue]
  | three hlt h =>
      have hvalue : (0xE0 + c / 4096 - 0xE0) * 4096 + (0x80 + c / 64 % 64 - 0x80) * 64 +
          (0x80 + c % 64 - 0x80) = c := by omega
      have hlead : (0xC2 ≤ 0xE0 + c / 4096 && 0xE0 + c / 4096 ≤ 0xDF) = false := by
        simp only [Bool.and_eq_false_iff, decide_eq_false_iff_not]
        omega
      have hlead' : (0xE0 ≤ 0xE0 + c / 4096 && 0xE0 + c / 4096 ≤ 0xEF) = true := by
        simp only [Bool.and_eq_true, decide_eq_true_eq]
        omega
      rw [h, List.cons_append, List.cons_append, List.singleton_append, decodeUtf8.eq_def]
      simp only [if_neg (show ¬ 0xE0 + c / 4096 < 0x80 by omega), htail, Bool.not_true,
        Bool.false_eq_true, if_false, hlead, hlead', if_true, hvalue,
        if_neg (show ¬ c < 0x800 by omega)]
  | four hlt h =>
      have hvalue : (0xF0 + c / 262144 - 0xF0) * 262144 + (0x80 + c / 4096 % 64 - 0x80) * 4096 +
          (0x80 + c / 64 % 64 - 0x80) * 64 + (0x80 + c % 64 - 0x80) = c := by omega
      have hlead : (0xC2 ≤ 0xF0 + c / 262144 && 0xF0 + c / 262144 ≤ 0xDF) = false := by
        simp only [Bool.and_eq_false_iff, decide_eq_false_iff_not]
        omega
      have hlead' : (0xE0 ≤ 0xF0 + c / 262144 && 0xF0 + c / 262144 ≤ 0xEF) = false := by
        simp only [Bool.and_eq_false_iff, decide_eq_false_iff_not]
        omega
      have hlead'' : (0xF0 ≤ 0xF0 + c / 262144 && 0xF0 + c / 262144 ≤ 0xF4) = true := by
        simp only [Bool.and_eq_true, decide_eq_true_eq]
        omega
      have hrange : (c < 0x10000 || 0x10FFFF < c) = false := by
        simp only [Bool.or_eq_false_iff, decide_eq_false_iff_not]
        omega
      rw [h, List.cons_append, List.cons_append, List.cons_append, List.singleton_append,
        decodeUtf8.eq_def]
      simp only [if_neg (show ¬ 0xF0 + c / 262144 < 0x80 by omega), htail,
        Bool.not_true, Bool.false_eq_true, if_false, hlead, hlead', hlead'', if_true, hvalue,
        hrange]

/-- The bytes of a text determine it. -/
theorem decodeUtf8_encode (s : String) :
    decodeUtf8 (Utf8.encode s) = some (s.toList.map Char.toNat) := by
  unfold Utf8.encode
  induction s.toList with
  | nil => rfl
  | cons c cs ih =>
      have hc : c.toNat < 0x110000 := by
        have hbounds := char_bounds c
        omega
      rw [List.flatMap_cons, decodeUtf8_bytes c.toNat hc, ih]
      rfl

end Decoding

section Texts

/-- A string that is the UTF-16 of a text. -/
def IsText (s : DartString) : Prop := ∃ t : String, s = dartString t

theorem isText_append (s t : DartString) (hs : IsText s) (ht : IsText t) : IsText (s ++ t) := by
  obtain ⟨s, rfl⟩ := hs
  obtain ⟨t, rfl⟩ := ht
  exact ⟨s ++ t, by rw [dartString, dartString, dartString, String.toList_append,
    List.flatMap_append]⟩

theorem isText_ascii (s : DartString) (h : ∀ u ∈ s, u < 0x80) : IsText s := by
  induction s with
  | nil => exact ⟨"", rfl⟩
  | cons u s ih =>
      have hu := h u List.mem_cons_self
      have hall : ∀ u < 0x80, (Char.ofNat u).toNat = u := by decide
      have hchar := hall u hu
      refine isText_append [u] s ⟨String.singleton (Char.ofNat u), ?_⟩
        (ih (fun v hv => h v (List.mem_cons_of_mem _ hv)))
      rw [dartString, String.toList_singleton, List.flatMap_singleton, utf16Units, hchar,
        if_pos (by omega)]

theorem isText_units (c : Char) : IsText (utf16Units c) :=
  ⟨String.singleton c, by rw [dartString, String.toList_singleton, List.flatMap_singleton]⟩

theorem hexDigit_lt (x : Nat) (h : x < 16) : hexDigit x < 0x80 := by
  have hall : ∀ x < 16, hexDigit x < 0x80 := by decide
  exact hall x h

/-- What is written for a unit that is no surrogate. -/
theorem isText_escapeUnit (before next : Option Nat) (c : Char) (hc : c.toNat < 0x10000) :
    IsText (escapeUnit before c.toNat next) := by
  have hself : IsText [c.toNat] := by
    have hunits := isText_units c
    rwa [utf16Units, if_pos hc] at hunits
  have hlone : lone before c.toNat next = false := by
    rw [lone, isHigh_toNat, isLow_toNat, Bool.false_and, Bool.false_and, Bool.or_self]
  unfold escapeUnit
  by_cases hhigh : 0x5C < c.toNat
  · rw [if_pos hhigh, hlone, if_neg Bool.false_ne_true]
    exact hself
  rw [if_neg hhigh]
  by_cases hcontrol : c.toNat < 0x20
  · rw [if_pos hcontrol]
    cases hletter : controlLetter c.toNat with
    | some letter =>
        have hall : ∀ c < 0x20, ∀ letter ∈ controlLetter c, letter < 0x80 := by decide
        have hlt := hall c.toNat hcontrol letter hletter
        refine isText_ascii _ (fun u hu => ?_)
        simp only [List.mem_cons, List.not_mem_nil, or_false] at hu
        omega
    | none =>
        have hd1 := hexDigit_lt (c.toNat / 0x10 % 16) (Nat.mod_lt _ (by decide))
        have hd2 := hexDigit_lt (c.toNat % 16) (Nat.mod_lt _ (by decide))
        refine isText_ascii _ (fun u hu => ?_)
        simp only [List.mem_cons, List.not_mem_nil, or_false] at hu
        omega
  rw [if_neg hcontrol]
  by_cases hquoted : c.toNat = 0x22 ∨ c.toNat = 0x5C
  · rw [if_pos hquoted]
    exact isText_append [0x5C] _ (isText_ascii _ (by decide)) hself
  · rw [if_neg hquoted]
    exact hself

/-- The two halves of a pair are written as they are. -/
theorem escapeUnit_pair (before next : Option Nat) (high low : Nat) (hhigh : isHigh high = true)
    (hlow : isLow low = true) : escapeUnit before high (some low) = [high] ∧
      escapeUnit (some high) low next = [low] := by
  have hnothigh : isHigh low = false := by
    simp only [isHigh, isLow, decide_eq_true_eq, decide_eq_false_iff_not] at *
    omega
  have hnotlow : isLow high = false := by
    simp only [isHigh, isLow, decide_eq_true_eq, decide_eq_false_iff_not] at *
    omega
  have hbig : 0x5C < high ∧ 0x5C < low := by
    simp only [isHigh, isLow, decide_eq_true_eq] at *
    omega
  constructor
  · rw [escapeUnit, if_pos hbig.1, lone, hhigh, hnotlow, Option.any_some, hlow]
    rfl
  · rw [escapeUnit, if_pos hbig.2, lone, hnothigh, hlow, Option.any_some, hhigh]
    rfl

theorem isText_writeStringContent (s : String) :
    ∀ before, IsText (writeStringContent before (dartString s)) := by
  unfold dartString
  induction s.toList with
  | nil => exact fun _ => ⟨"", rfl⟩
  | cons c cs ih =>
      intro before
      rw [List.flatMap_cons]
      cases units_cases c with
      | one hc h =>
          rw [h, List.singleton_append, writeStringContent]
          exact isText_append _ _ (isText_escapeUnit before _ c hc) (ih _)
      | pair high low h hhigh hlow _ _ =>
          have hpair := escapeUnit_pair before ((cs.flatMap utf16Units).head?) high low hhigh hlow
          rw [h, List.cons_append, List.singleton_append, writeStringContent, writeStringContent,
            List.head?_cons, hpair.1, hpair.2, ← List.append_assoc, List.singleton_append, ← h]
          exact isText_append _ _ (isText_units c) (ih _)

theorem isText_writeString (s : String) : IsText (writeString (dartString s)) :=
  isText_append [0x22] _ (isText_ascii _ (by decide))
    (isText_append _ _ (isText_writeStringContent s none) (isText_ascii [0x22] (by decide)))

/-- The members as `jsonEncode` takes them. -/
def unitsOf (m : String × String) : DartString × DartString := (dartString m.1, dartString m.2)

theorem isText_writeMembers (members : List (String × String)) :
    ∀ separator, (∀ u ∈ separator, u < 0x80) →
      IsText (writeMembers separator (members.map unitsOf)) := by
  induction members with
  | nil => exact fun _ _ => isText_ascii [0x7D] (by decide)
  | cons m members ih =>
      intro separator hseparator
      rw [List.map_cons, unitsOf, writeMembers]
      refine isText_append _ _ (isText_ascii separator hseparator) ?_
      refine isText_append _ _ (isText_writeString m.1) ?_
      refine isText_append [0x3A] _ (isText_ascii _ (by decide)) ?_
      exact isText_append _ _ (isText_writeString m.2) (ih [0x2C] (by decide))

/-- `jsonEncode` of texts is a text. -/
theorem isText_jsonEncode (members : List (String × String)) :
    IsText (jsonEncode (members.map unitsOf)) :=
  isText_append [0x7B] _ (isText_ascii _ (by decide))
    (isText_writeMembers members [] (fun _ hu => absurd hu List.not_mem_nil))

end Texts

end Mobile

end Vena
