import Mathlib.Algebra.Group.Nat.Defs
import Vena.Python.Uuid

/-!
# The Text of a UUID

`uuid.UUID(str(u))` is `u` again. The text has lower case digits and hyphens
only, so that none of the allowances the constructor makes applies, and the
hyphens are dropped.

## Main definitions

* `hexCode`: The code point of a digit.

## Theorems

* `intOfStr_hex`: `int(text, 16)` reads digits as they are written.
* `Uuid.ofStr_str`: The round trip.
-/

namespace Vena

namespace Python

/-- The code point of a hexadecimal digit. -/
def hexCode (d : Nat) : Nat := (Nat.digitChar d).toNat

/-- What the constructors ask about a character, answered for the digits. -/
theorem hexCode_spec : ∀ d < 16, digitValue (hexCode d) = some d ∧ hexCode d < 128 ∧
    isAsciiSpace (hexCode d) = false ∧
    hexCode d ∉ [0x2B, 0x2D, 0x5F, 0x58, 0x78, 0x75, 0x7B, 0x7D] := by
  decide

theorem hexCode_ne (d c : Nat) (hd : d < 16)
    (hc : c ∈ [0x2B, 0x2D, 0x5F, 0x58, 0x78, 0x75, 0x7B, 0x7D]) : hexCode d ≠ c := by
  intro heq
  exact (hexCode_spec d hd).2.2.2 (heq ▸ hc)

/-- Digits are scanned to the end. -/
theorem scanDigits_hex (ds : List Nat) (h : ∀ d ∈ ds, d < 16) :
    scanDigits 16 false (ds.map hexCode) = some (ds, []) := by
  induction ds with
  | nil => rfl
  | cons d ds ih =>
      rw [List.forall_mem_cons] at h
      have hunderscore : hexCode d ≠ 0x5F := hexCode_ne d 0x5F h.1 (by decide)
      rw [List.map_cons, scanDigits, if_neg hunderscore, (hexCode_spec d h.1).1]
      simp only [h.1, if_true, ih h.2, Option.map_some]

theorem magnitudeOfStr_hex (ds : List Nat) (hne : ds ≠ []) (h : ∀ d ∈ ds, d < 16) :
    magnitudeOfStr 16 (ds.map hexCode) = some (digitsToNat 16 ds) := by
  have hscan := scanDigits_hex ds h
  have hnil :
      (decide (ds = []) || tooManyDigits 16 ds || !([] : PyStr).all isAsciiSpace) = false := by
    rw [decide_eq_false hne]
    rfl
  have hinitial : ∀ x rest, ds.map hexCode = 0x30 :: x :: rest →
      (16 = 16 && (decide (x = 0x78) || decide (x = 0x58))) = false := by
    intro x rest hlist
    have hx : x ∈ ds.map hexCode := by
      rw [hlist]
      exact List.mem_cons_of_mem _ List.mem_cons_self
    rcases List.mem_map.mp hx with ⟨d, hd, rfl⟩
    rw [decide_eq_false (hexCode_ne d 0x78 (h d hd) (by decide)),
      decide_eq_false (hexCode_ne d 0x58 (h d hd) (by decide))]
    rfl
  have hfirst : ∀ rest, ds.map hexCode ≠ 0x5F :: rest := by
    intro rest hlist
    have hx : 0x5F ∈ ds.map hexCode := by
      rw [hlist]
      exact List.mem_cons_self
    rcases List.mem_map.mp hx with ⟨d, hd, heq⟩
    exact hexCode_ne d 0x5F (h d hd) (by decide) heq
  unfold magnitudeOfStr
  split
  -- A zero and a digit are no prefix of base 16.
  · next x rest hlist =>
      rw [if_neg (by rw [hinitial x rest hlist]; exact Bool.false_ne_true)]
      dsimp only
      split
      · next rest hlist => exact absurd hlist (hfirst rest)
      · simp only [hscan, hnil, Bool.false_eq_true, if_false]
  · dsimp only
    split
    · next rest hlist => exact absurd hlist (hfirst rest)
    · simp only [hscan, hnil, Bool.false_eq_true, if_false]

/-- `int(text, 16)` of digits. -/
theorem intOfStr_hex (ds : List Nat) (hne : ds ≠ []) (h : ∀ d ∈ ds, d < 16) :
    intOfStr 16 (ds.map hexCode) = some (digitsToNat 16 ds : Int) := by
  have hascii : (ds.map hexCode).all (fun c => c < 128) = true := by
    rw [List.all_map, List.all_eq_true]
    exact fun d hd => decide_eq_true (hexCode_spec d (h d hd)).2.1
  have hspace : (ds.map hexCode).dropWhile isAsciiSpace = ds.map hexCode := by
    cases ds with
    | nil => rfl
    | cons d ds =>
        rw [List.map_cons, List.dropWhile_cons_of_neg]
        rw [(hexCode_spec d (h d List.mem_cons_self)).2.2.1]
        exact Bool.false_ne_true
  have hsign : ∀ c rest, ds.map hexCode = c :: rest → c ≠ 0x2B ∧ c ≠ 0x2D := by
    intro c rest hlist
    have hc : c ∈ ds.map hexCode := hlist ▸ List.mem_cons_self
    rcases List.mem_map.mp hc with ⟨d, hd, rfl⟩
    exact ⟨hexCode_ne d 0x2B (h d hd) (by decide), hexCode_ne d 0x2D (h d hd) (by decide)⟩
  rw [intOfStr, foldToAscii, if_pos hascii, hspace]
  split
  · next rest hlist => exact absurd rfl (hsign _ rest hlist).1
  · next rest hlist => exact absurd rfl (hsign _ rest hlist).2
  · rw [magnitudeOfStr_hex ds hne h]
    rfl

theorem digitsToNat_append (base : Nat) (xs : List Nat) (d : Nat) :
    digitsToNat base (xs ++ [d]) = digitsToNat base xs * base + d := by
  rw [digitsToNat, List.foldl_append]
  rfl

/-- Leading zeros do not count. -/
theorem digitsToNat_zeros (base n : Nat) (ds : List Nat) :
    digitsToNat base (List.replicate n 0 ++ ds) = digitsToNat base ds := by
  induction n with
  | zero => rfl
  | succ n ih =>
      rw [List.replicate_succ, List.cons_append, ← ih, digitsToNat, List.foldl_cons, Nat.zero_mul]
      rfl

/-- The digits of a number. -/
theorem toDigits_hex (n : Nat) : ∃ ds, Nat.toDigits 16 n = ds.map Nat.digitChar ∧
    (∀ d ∈ ds, d < 16) ∧ digitsToNat 16 ds = n := by
  induction n using Nat.strongRecOn with
  | ind n ih =>
      rw [Nat.toDigits_eq_if (by decide)]
      by_cases hlt : n < 16
      · rw [if_pos hlt]
        refine ⟨[n], rfl, List.forall_mem_singleton.mpr hlt, ?_⟩
        simp only [digitsToNat, List.foldl_cons, List.foldl_nil, Nat.zero_mul, Nat.zero_add]
      · rw [if_neg hlt]
        have hsmall : n / 16 < n := by omega
        rcases ih (n / 16) hsmall with ⟨ds, hds, hall, hvalue⟩
        refine ⟨ds ++ [n % 16], ?_, ?_, ?_⟩
        · rw [hds, List.map_append]
          rfl
        · exact List.forall_mem_append.mpr
            ⟨hall, List.forall_mem_singleton.mpr (Nat.mod_lt n (by decide))⟩
        · rw [digitsToNat_append, hvalue]
          exact Nat.div_add_mod' n 16

/-- The 32 digits of a UUID. -/
theorem Uuid.hex_spec (u : Uuid) (h : u < 2 ^ 128) : ∃ ds, u.hex = ds.map Nat.digitChar ∧
    (∀ d ∈ ds, d < 16) ∧ digitsToNat 16 ds = u ∧ ds.length = 32 := by
  rcases toDigits_hex u with ⟨ds, hds, hall, hvalue⟩
  have hlength : ds.length ≤ 32 := by
    have hle := (Nat.length_toDigits_le_iff (by decide) (by decide)).mpr
      (show u < 16 ^ 32 from Nat.lt_of_lt_of_eq h (by decide))
    rwa [hds, List.length_map] at hle
  refine ⟨List.replicate (32 - ds.length) 0 ++ ds, ?_, ?_, ?_, ?_⟩
  · rw [Uuid.hex, hds, List.length_map, List.map_append, List.map_replicate]
    rfl
  · refine List.forall_mem_append.mpr ⟨fun d hd => ?_, hall⟩
    rw [(List.mem_replicate.mp hd).2]
    decide
  · rw [digitsToNat_zeros, hvalue]
  · rw [List.length_append, List.length_replicate]
    omega

/-- A pattern whose first character does not occur is not found. -/
theorem removeAll_absent (c : Nat) (pattern s : PyStr) (h : c ∉ s) :
    removeAll (c :: pattern) 0 s = s := by
  induction s with
  | nil => rfl
  | cons x s ih =>
      rw [List.mem_cons, not_or] at h
      have hno : (c :: pattern).isPrefixOf (x :: s) = false := by
        rw [List.isPrefixOf, beq_eq_false_iff_ne.mpr h.1, Bool.false_and]
      rw [removeAll, hno, if_neg Bool.false_ne_true, ih h.2]

/-- A single character is dropped wherever it occurs. -/
theorem removeAll_char (c : Nat) (s : PyStr) :
    removeAll [c] 0 s = s.filter (fun x => x ≠ c) := by
  induction s with
  | nil => rfl
  | cons x s ih =>
      rw [removeAll, List.filter_cons, List.isPrefixOf, List.isPrefixOf, Bool.and_true]
      by_cases hx : x = c
      · rw [hx, beq_self_eq_true, if_pos rfl, if_neg (by simp only [ne_eq, not_true_eq_false,
          decide_false, Bool.false_eq_true, not_false_eq_true])]
        exact ih
      · rw [beq_eq_false_iff_ne.mpr (Ne.symm hx), if_neg Bool.false_ne_true, ih,
          if_pos (decide_eq_true hx)]

theorem dropWhile_absent (p : Nat → Bool) (s : PyStr) (h : ∀ c ∈ s, p c = false) :
    s.dropWhile p = s := by
  cases s with
  | nil => rfl
  | cons c s =>
      rw [List.dropWhile_cons_of_neg]
      rw [h c List.mem_cons_self]
      exact Bool.false_ne_true

/-- Characters that do not occur are not stripped. -/
theorem strip_absent (chars s : PyStr) (h : ∀ c ∈ s, c ∉ chars) : strip chars s = s := by
  have hno : ∀ c ∈ s, chars.contains c = false := by
    intro c hc
    rw [List.contains_eq_mem]
    exact decide_eq_false (h c hc)
  rw [strip, dropWhile_absent _ s hno,
    dropWhile_absent _ s.reverse (fun c hc => hno c (List.mem_reverse.mp hc)), List.reverse_reverse]

/-- The code points of the text: digits, but for the hyphens. -/
theorem Uuid.mem_str (u : Uuid) (ds : List Nat) (hds : u.hex = ds.map Nat.digitChar) :
    ∀ c ∈ PyStr.ofString u.str, c = 0x2D ∨ c ∈ ds.map hexCode := by
  intro c hc
  have hcodes : ∀ x ∈ u.hex, x.toNat ∈ ds.map hexCode := by
    intro x hx
    rw [hds] at hx
    rcases List.mem_map.mp hx with ⟨d, hd, rfl⟩
    exact List.mem_map_of_mem hd
  rw [PyStr.ofString, Uuid.str, String.toList_ofList] at hc
  rcases List.mem_map.mp hc with ⟨x, hx, rfl⟩
  simp only [List.mem_append, List.mem_cons] at hx
  rcases hx with ((((hx | rfl | hx) | rfl | hx) | rfl | hx) | rfl | hx)
  · exact Or.inr (hcodes x (List.mem_of_mem_take hx))
  · exact Or.inl rfl
  · exact Or.inr (hcodes x (List.mem_of_mem_drop (List.mem_of_mem_take hx)))
  · exact Or.inl rfl
  · exact Or.inr (hcodes x (List.mem_of_mem_drop (List.mem_of_mem_take hx)))
  · exact Or.inl rfl
  · exact Or.inr (hcodes x (List.mem_of_mem_drop (List.mem_of_mem_take hx)))
  · exact Or.inl rfl
  · exact Or.inr (hcodes x (List.mem_of_mem_drop hx))

theorem take_groups {α : Type} (l : List α) :
    l.take 8 ++ (l.drop 8).take 4 ++ (l.drop 12).take 4 ++ (l.drop 16).take 4 ++ l.drop 20 = l := by
  have htwelve : l.take 12 = l.take 8 ++ (l.drop 8).take 4 := by rw [← List.take_add]
  have hsixteen : l.take 16 = l.take 12 ++ (l.drop 12).take 4 := by rw [← List.take_add]
  have htwenty : l.take 20 = l.take 16 ++ (l.drop 16).take 4 := by rw [← List.take_add]
  rw [← htwelve, ← hsixteen, ← htwenty, List.take_append_drop]

/-- Without its hyphens the text is the digits. -/
theorem Uuid.filter_str (u : Uuid) (ds : List Nat) (hds : u.hex = ds.map Nat.digitChar)
    (hall : ∀ d ∈ ds, d < 16) :
    (PyStr.ofString u.str).filter (fun c => c ≠ 0x2D) = ds.map hexCode := by
  have hkeep : ∀ xs : List Char, (∀ x ∈ xs, x ∈ u.hex) →
      (xs.map Char.toNat).filter (fun c => c ≠ 0x2D) = xs.map Char.toNat := by
    intro xs hxs
    rw [List.filter_eq_self]
    intro c hc
    rcases List.mem_map.mp hc with ⟨x, hx, rfl⟩
    have hin := hxs x hx
    rw [hds] at hin
    rcases List.mem_map.mp hin with ⟨d, hd, rfl⟩
    exact decide_eq_true (hexCode_ne d 0x2D (hall d hd) (by decide))
  have hdash : ∀ xs : List Nat, (('-'.toNat) :: xs).filter (fun c => c ≠ 0x2D) =
      xs.filter (fun c => c ≠ 0x2D) := fun xs => rfl
  rw [PyStr.ofString, Uuid.str, String.toList_ofList]
  simp only [List.map_append, List.map_cons, List.filter_append, hdash]
  rw [hkeep _ (fun x hx => List.mem_of_mem_take hx),
    hkeep _ (fun x hx => List.mem_of_mem_drop (List.mem_of_mem_take hx)),
    hkeep _ (fun x hx => List.mem_of_mem_drop (List.mem_of_mem_take hx)),
    hkeep _ (fun x hx => List.mem_of_mem_drop (List.mem_of_mem_take hx)),
    hkeep _ (fun x hx => List.mem_of_mem_drop hx)]
  rw [← List.map_append, ← List.map_append, ← List.map_append, ← List.map_append, take_groups, hds,
    List.map_map]
  rfl

/-- The text of a UUID is read back as the UUID. -/
theorem Uuid.ofStr_str (u : Uuid) (h : u < 2 ^ 128) :
    Uuid.ofStr (PyStr.ofString u.str) = some u := by
  rcases Uuid.hex_spec u h with ⟨ds, hds, hall, hvalue, hlength⟩
  -- Hex digits and dashes have no `u` and no brace, so nothing but the dashes is
  -- removed.
  have habsent : ∀ c ∈ PyStr.ofString u.str, c ≠ 0x75 ∧ c ≠ 0x7B ∧ c ≠ 0x7D := by
    intro c hin
    rcases Uuid.mem_str u ds hds c hin with rfl | hcode
    · decide
    · rcases List.mem_map.mp hcode with ⟨d, hd, rfl⟩
      exact ⟨hexCode_ne d _ (hall d hd) (by decide), hexCode_ne d _ (hall d hd) (by decide),
        hexCode_ne d _ (hall d hd) (by decide)⟩
  have hnou : 0x75 ∉ PyStr.ofString u.str := fun hin => (habsent _ hin).1 rfl
  have hnobrace : ∀ c ∈ PyStr.ofString u.str, c ∉ PyStr.ofString "\x7b\x7d" := by
    intro c hin hbrace
    rw [show PyStr.ofString "\x7b\x7d" = [0x7B, 0x7D] by decide, List.mem_cons,
      List.mem_singleton] at hbrace
    rcases hbrace with rfl | rfl
    · exact (habsent _ hin).2.1 rfl
    · exact (habsent _ hin).2.2 rfl
  have hurn : removeAll (PyStr.ofString "urn:") 0 (PyStr.ofString u.str) = PyStr.ofString u.str :=
    removeAll_absent 0x75 [0x72, 0x6E, 0x3A] _ hnou
  have huuid : removeAll (PyStr.ofString "uuid:") 0 (PyStr.ofString u.str) =
      PyStr.ofString u.str := removeAll_absent 0x75 [0x75, 0x69, 0x64, 0x3A] _ hnou
  have hdash : removeAll (PyStr.ofString "-") 0 (PyStr.ofString u.str) = ds.map hexCode :=
    (removeAll_char 0x2D _).trans (Uuid.filter_str u ds hds hall)
  have hne : ds ≠ [] := List.ne_nil_of_length_eq_add_one hlength
  have hread := intOfStr_hex ds hne hall
  rw [hvalue] at hread
  have hrange : (0 : Int) ≤ (u : Int) ∧ (u : Int) < 2 ^ 128 :=
    ⟨Int.natCast_nonneg u, by exact_mod_cast h⟩
  have hnot : ¬(ds.map hexCode).length ≠ 32 := by
    rw [List.length_map, hlength]
    exact not_not.mpr rfl
  unfold Uuid.ofStr
  simp only [hurn, huuid, strip_absent _ _ hnobrace, hdash]
  rw [if_neg hnot, hread]
  simp only [hrange, and_self, if_true, Int.toNat_natCast]

end Python

end Vena
