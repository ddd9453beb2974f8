import Vena.Python.Decode
import Vena.Python.Value
import Mathlib.Data.List.TakeWhile

/-!
# json.loads

The decoder of CPython's `json` module on bytes: the scanner of `_json.c`, with
its deviations from the JSON grammar (`NaN`, `Infinity`, lone surrogates, the
last of two equal keys) and its ways to fail. Besides `JSONDecodeError` there
are three: bytes that are no text, an integer of more than 4300 digits, and
more open brackets than the interpreter has stack left, which is `depth`.

The scanner recurses on that depth. Inside one array or object it loops, and
the loop's fuel is the length of the text; `scanItems_fuel` says that more would
change nothing.

## Main definitions

* `scanString`, `scanNumber`: `scanstring_unicode` and `_match_number_unicode`.
* `scanItems`: The loop of `_parse_array_unicode` and `_parse_object_unicode`.
* `scanOnce`: `scan_once_unicode`.
* `loads`: `json.loads`.

## Theorems

* `scanOnce_shorter`: A value takes up text.
* `scanItems_fuel`: The loop never runs out of fuel.
-/

namespace Vena

namespace Python

def isJsonSpace (c : Nat) : Bool :=
  c = 0x20 || c = 0x09 || c = 0x0A || c = 0x0D

def skipWs (s : PyStr) : PyStr :=
  s.dropWhile isJsonSpace

def isDigit (c : Nat) : Bool :=
  0x30 ≤ c && c ≤ 0x39

def hexDigit (c : Nat) : Option Nat :=
  (digitValue c).bind (fun d => if d < 16 then some d else none)

/-- Four hexadecimal digits. -/
def hex4 (a b c d : Nat) : Option Nat :=
  match hexDigit a, hexDigit b, hexDigit c, hexDigit d with
  | some w, some x, some y, some z => some (((w * 16 + x) * 16 + y) * 16 + z)
  | _, _, _, _ => none

/-- The character after a backslash that is no `u`. -/
def escaped (c : Nat) : Option Nat :=
  if c = 0x22 || c = 0x5C || c = 0x2F then some c
  else if c = 0x62 then some 0x08
  else if c = 0x66 then some 0x0C
  else if c = 0x6E then some 0x0A
  else if c = 0x72 then some 0x0D
  else if c = 0x74 then some 0x09
  else none

/-- The string after its opening quote, and the rest. `high` is the character
    before this one if it was an escaped high surrogate, which is not yet in the
    result: an escaped low surrogate joins it, anything else lets it stand. -/
def scanString : Option Nat → PyStr → Option (PyStr × PyStr)
  | _, [] => none
  | high, 0x22 :: rest => some (high.toList, rest)
  | high, 0x5C :: 0x75 :: a :: b :: c :: d :: rest =>
    match hex4 a b c d, high with
    | none, _ => none
    -- A pair of escapes is one character; a high surrogate without its low one stands.
    | some u, some h =>
      if isLowSurrogate u then
        (scanString none rest).map (fun r => (joinSurrogates h u :: r.1, r.2))
      else if isHighSurrogate u then (scanString (some u) rest).map (fun r => (h :: r.1, r.2))
      else (scanString none rest).map (fun r => (h :: u :: r.1, r.2))
    | some u, none =>
      if isHighSurrogate u then scanString (some u) rest
      else (scanString none rest).map (fun r => (u :: r.1, r.2))
  | high, 0x5C :: c :: rest =>
    match escaped c with
    | none => none
    | some e => (scanString none rest).map (fun r => (high.toList ++ e :: r.1, r.2))
  | high, c :: rest =>
    -- Control characters are refused, as is a backslash at the end of the text.
    if c ≤ 0x1F || c = 0x5C then none
    else (scanString none rest).map (fun r => (high.toList ++ c :: r.1, r.2))

/-- The number nearest to a decimal literal: `digits * 10 ^ exponent`. -/
def decimalFloat (negative : Bool) (digits : PyStr) (exponent : Int) : PyFloat :=
  let n := digitsToNat 10 (digits.map (fun c => c - 0x30))
  if n = 0 || exponent + digits.length < -400 then .finite negative 0 0
  -- Exponents far outside the range are settled before any power is taken.
  else if 400 < exponent then .inf negative
  else PyFloat.ofRatio negative (n * 10 ^ exponent.toNat) (10 ^ (-exponent).toNat)

/-- The digits after a decimal point, if the point is part of the number. -/
def scanFraction : PyStr → Option (PyStr × PyStr)
  | 0x2E :: c :: rest =>
    if isDigit c then some ((c :: rest).takeWhile isDigit, (c :: rest).dropWhile isDigit) else none
  | _ => none

/-- Whether the exponent is negative, and the rest. -/
def exponentSign : PyStr → Bool × PyStr
  | 0x2B :: rest => (false, rest)
  | 0x2D :: rest => (true, rest)
  | rest => (false, rest)

/-- The exponent, if there is one. -/
def scanExponent : PyStr → Option (Int × PyStr)
  | e :: rest =>
    if e = 0x65 || e = 0x45 then
      let digits := (exponentSign rest).2.takeWhile isDigit
      if digits = [] then none
      else
        let n := (digitsToNat 10 (digits.map (fun c => c - 0x30)) : Int)
        some (if (exponentSign rest).1 then -n else n, (exponentSign rest).2.dropWhile isDigit)
    else none
  | [] => none

/-- The digits before the point: a zero, or any that do not begin with one. -/
def wholeDigits : PyStr → PyStr × PyStr
  | 0x30 :: rest => ([0x30], rest)
  | s => (s.takeWhile isDigit, s.dropWhile isDigit)

/-- The number after its digits before the point. -/
def scanTail (negative : Bool) (whole rest : PyStr) : Except Exc (PyVal × PyStr) :=
  match scanFraction rest with
  -- Neither point nor exponent: an integer, whose length is limited.
  | none => match scanExponent rest with
    | none =>
      if tooManyDigits 10 whole then .error .valueError
      else
        let n := (digitsToNat 10 (whole.map (fun c => c - 0x30)) : Int)
        .ok (.int (if negative then -n else n), rest)
    | some (exponent, rest) => .ok (.float (decimalFloat negative whole exponent), rest)
  | some (frac, rest) => match scanExponent rest with
    | none => .ok (.float (decimalFloat negative (whole ++ frac) (-frac.length)), rest)
    | some (exponent, rest) =>
      .ok (.float (decimalFloat negative (whole ++ frac) (exponent - frac.length)), rest)

/-- The number after its sign. -/
def scanMagnitude (negative : Bool) (s : PyStr) : Except Exc (PyVal × PyStr) :=
  if (wholeDigits s).1 = [] then .error .jsonDecodeError
  else scanTail negative (wholeDigits s).1 (wholeDigits s).2

def scanNumber : PyStr → Except Exc (PyVal × PyStr)
  | 0x2D :: rest => scanMagnitude true rest
  | s => scanMagnitude false s

/-- The items of an array or object, from the first one to the closing bracket. -/
def scanItems {β : Type} (item : PyStr → Except Exc (β × PyStr)) (close : Nat) :
    Nat → PyStr → Except Exc (List β × PyStr)
  | 0, _ => .error .jsonDecodeError
  | fuel + 1, s =>
    match item s with
    | .error exc => .error exc
    | .ok (v, rest) => match skipWs rest with
      | [] => .error .jsonDecodeError
      | c :: rest =>
        if c = close then .ok ([v], rest)
        else if c = 0x2C then match scanItems item close fuel (skipWs rest) with
          | .error exc => .error exc
          | .ok (vs, rest) => .ok (v :: vs, rest)
        else .error .jsonDecodeError

/-- A key, the colon and the value. -/
def scanMember (scan : PyStr → Except Exc (PyVal × PyStr)) :
    PyStr → Except Exc ((PyStr × PyVal) × PyStr)
  | 0x22 :: s => match scanString none s with
    | none => .error .jsonDecodeError
    | some (key, rest) => match skipWs rest with
      | 0x3A :: rest => match scan (skipWs rest) with
        | .error exc => .error exc
        | .ok (v, rest) => .ok ((key, v), rest)
      | _ => .error .jsonDecodeError
  | _ => .error .jsonDecodeError

/-- `_parse_array_unicode`, after the bracket. -/
def scanArray (scan : PyStr → Except Exc (PyVal × PyStr)) (s : PyStr) :
    Except Exc (PyVal × PyStr) :=
  match skipWs s with
  | 0x5D :: rest => .ok (.list [], rest)
  | s => match scanItems scan 0x5D (s.length + 1) s with
    | .error exc => .error exc
    | .ok (vs, rest) => .ok (.list vs, rest)

/-- `_parse_object_unicode`, after the brace. -/
def scanObject (scan : PyStr → Except Exc (PyVal × PyStr)) (s : PyStr) :
    Except Exc (PyVal × PyStr) :=
  match skipWs s with
  | 0x7D :: rest => .ok (.dict [], rest)
  | s => match scanItems (scanMember scan) 0x7D (s.length + 1) s with
    | .error exc => .error exc
    | .ok (members, rest) =>
      .ok (.dict (members.foldl (fun items m => setItem items m.1 m.2) []), rest)

/-- The named constants. -/
def constants : List (String × PyVal) :=
  [("null", .none), ("true", .bool true), ("false", .bool false), ("NaN", .float .nan),
    ("Infinity", .float (.inf false)), ("-Infinity", .float (.inf true))]

/-- The constant the text begins with. -/
def scanConstant (s : PyStr) : Option (PyVal × PyStr) :=
  (constants.find? (fun c => (PyStr.ofString c.1).isPrefixOf s)).map
    (fun c => (c.2, s.drop c.1.length))

/-- A value without brackets. -/
def scanScalar (s : PyStr) : Except Exc (PyVal × PyStr) :=
  match s with
  | [] => .error .jsonDecodeError
  | 0x22 :: rest => match scanString none rest with
    | none => .error .jsonDecodeError
    | some (text, rest') => .ok (.str text, rest')
  | _ => match scanConstant s with
    | some r => .ok r
    | none => scanNumber s

/-- `scan_once_unicode`. -/
def scanOnce : Nat → PyStr → Except Exc (PyVal × PyStr)
  | 0, 0x7B :: _ => .error .recursionError
  | 0, 0x5B :: _ => .error .recursionError
  | depth + 1, 0x7B :: rest => scanObject (scanOnce depth) rest
  | depth + 1, 0x5B :: rest => scanArray (scanOnce depth) rest
  | _, s => scanScalar s

/-- `json.loads(payload)` with `depth` levels of recursion left. -/
def loads (depth : Nat) (payload : List UInt8) : Except Exc PyVal :=
  match decodeBytes (payload.map UInt8.toNat) with
  | none => .error .unicodeDecodeError
  | some s => match scanOnce depth (skipWs s) with
    | .error exc => .error exc
    | .ok (v, rest) => if skipWs rest = [] then .ok v else .error .jsonDecodeError

theorem length_skipWs (s : PyStr) : (skipWs s).length ≤ s.length :=
  List.length_dropWhile_le _ _

theorem map_shorter (r : Option (PyStr × PyStr)) (f : PyStr × PyStr → PyStr) (n : Nat)
    (ih : ∀ t rest, r = some (t, rest) → rest.length < n) (t rest : PyStr)
    (h : r.map (fun r => (f r, r.2)) = some (t, rest)) : rest.length < n := by
  rcases Option.map_eq_some_iff.mp h with ⟨⟨t', rest'⟩, hr, heq⟩
  rw [Prod.mk.injEq] at heq
  rw [← heq.2]
  exact ih t' rest' hr

theorem scanString_shorter (high : Option Nat) (s : PyStr) :
    ∀ t rest, scanString high s = some (t, rest) → rest.length < s.length := by
  fun_induction scanString high s with
  -- The branches that find no string.
  | case1 | case3 | case9 | case11 =>
      intro t rest h
      exact absurd h (by simp only [reduceCtorEq, not_false_eq_true])
  | case2 =>
      intro t rest h
      rw [Option.some.injEq, Prod.mk.injEq] at h
      rw [← h.2]
      exact Nat.lt_succ_self _
  -- A high surrogate is held back, so nothing is added to the result yet.
  | case7 _ _ _ _ _ _ _ _ ih =>
      intro t rest h
      have hlt := ih t rest h
      simp only [List.length_cons]
      omega
  | case4 _ _ _ _ _ _ _ _ _ ih | case5 _ _ _ _ _ _ _ _ _ _ ih | case6 _ _ _ _ _ _ _ _ _ _ ih
  | case8 _ _ _ _ _ _ _ _ ih | case10 _ _ _ _ _ _ ih | case12 _ _ _ _ _ _ _ ih =>
      intro t rest h
      have hlt := map_shorter _ _ _ ih t rest h
      simp only [List.length_cons]
      omega

theorem scanFraction_shorter (s frac rest : PyStr) (h : scanFraction s = some (frac, rest)) :
    rest.length ≤ s.length := by
  unfold scanFraction at h
  split at h
  · split at h
    · rw [Option.some.injEq, Prod.mk.injEq] at h
      rw [← h.2]
      exact Nat.le_succ_of_le (List.length_dropWhile_le _ _)
    · exact absurd h (by simp only [reduceCtorEq, not_false_eq_true])
  · exact absurd h (by simp only [reduceCtorEq, not_false_eq_true])

theorem exponentSign_shorter (s : PyStr) : (exponentSign s).2.length ≤ s.length := by
  unfold exponentSign
  split
  · exact Nat.le_succ _
  · exact Nat.le_succ _
  · exact Nat.le_refl _

theorem scanExponent_shorter (s rest : PyStr) (n : Int) (h : scanExponent s = some (n, rest)) :
    rest.length ≤ s.length := by
  unfold scanExponent at h
  split at h
  · next e tail =>
      split at h
      · dsimp only at h
        split at h
        · exact absurd h (by simp only [reduceCtorEq, not_false_eq_true])
        · rw [Option.some.injEq, Prod.mk.injEq] at h
          rw [← h.2]
          have hsign := exponentSign_shorter tail
          have hdrop := List.length_dropWhile_le isDigit (exponentSign tail).2
          simp only [List.length_cons]
          omega
      · exact absurd h (by simp only [reduceCtorEq, not_false_eq_true])
  · exact absurd h (by simp only [reduceCtorEq, not_false_eq_true])

theorem wholeDigits_shorter (s : PyStr) (h : (wholeDigits s).1 ≠ []) :
    (wholeDigits s).2.length < s.length := by
  unfold wholeDigits at h ⊢
  split at h
  · exact Nat.lt_succ_self _
  · have hsplit := congrArg List.length (List.takeWhile_append_dropWhile (p := isDigit) (l := s))
    have hpos := List.length_pos_iff.mpr h
    rw [List.length_append] at hsplit
    simp only at hpos ⊢
    omega

theorem scanTail_shorter (negative : Bool) (whole s rest : PyStr) (v : PyVal)
    (h : scanTail negative whole s = .ok (v, rest)) : rest.length ≤ s.length := by
  unfold scanTail at h
  split at h
  · split at h
    · split at h
      · exact absurd h (by simp only [reduceCtorEq, not_false_eq_true])
      · rw [Except.ok.injEq, Prod.mk.injEq] at h
        rw [h.2]
    · next hexp =>
        rw [Except.ok.injEq, Prod.mk.injEq] at h
        rw [← h.2]
        exact scanExponent_shorter _ _ _ hexp
  · next hfrac =>
      have hle := scanFraction_shorter _ _ _ hfrac
      split at h
      · rw [Except.ok.injEq, Prod.mk.injEq] at h
        rw [← h.2]
        exact hle
      · next hexp =>
          rw [Except.ok.injEq, Prod.mk.injEq] at h
          rw [← h.2]
          exact Nat.le_trans (scanExponent_shorter _ _ _ hexp) hle

theorem scanMagnitude_shorter (negative : Bool) (s rest : PyStr) (v : PyVal)
    (h : scanMagnitude negative s = .ok (v, rest)) : rest.length < s.length := by
  unfold scanMagnitude at h
  split at h
  · exact absurd h (by simp only [reduceCtorEq, not_false_eq_true])
  · next hne =>
      exact Nat.lt_of_le_of_lt (scanTail_shorter _ _ _ _ _ h) (wholeDigits_shorter s hne)

theorem scanNumber_shorter (s rest : PyStr) (v : PyVal) (h : scanNumber s = .ok (v, rest)) :
    rest.length < s.length := by
  unfold scanNumber at h
  split at h
  · exact Nat.lt_succ_of_lt (scanMagnitude_shorter _ _ _ _ h)
  · exact scanMagnitude_shorter _ _ _ _ h

theorem scanConstant_shorter (s rest : PyStr) (v : PyVal) (h : scanConstant s = some (v, rest)) :
    rest.length < s.length := by
  rcases Option.map_eq_some_iff.mp h with ⟨c, hfind, heq⟩
  have hbegins : (PyStr.ofString c.1).isPrefixOf s = true :=
    List.find?_some (p := fun c : String × PyVal => (PyStr.ofString c.1).isPrefixOf s) hfind
  have hpre := (List.isPrefixOf_iff_prefix.mp hbegins).length_le
  have hlen : 0 < c.1.length ∧ (PyStr.ofString c.1).length = c.1.length := by
    refine ⟨?_, by rw [PyStr.ofString, List.length_map, String.length_toList]⟩
    have hall : ∀ c ∈ constants, 0 < c.1.length := by decide
    exact hall c (List.mem_of_find?_eq_some hfind)
  rw [Prod.mk.injEq] at heq
  rw [← heq.2, List.length_drop]
  omega

/-- A scanner that takes up text whenever it finds something. -/
def Shortens {β : Type} (scan : PyStr → Except Exc (β × PyStr)) : Prop :=
  ∀ s v rest, scan s = .ok (v, rest) → rest.length < s.length

theorem scanScalar_shorter : Shortens scanScalar := by
  intro s v rest h
  unfold scanScalar at h
  split at h
  · exact absurd h (by simp only [reduceCtorEq, not_false_eq_true])
  · split at h
    · exact absurd h (by simp only [reduceCtorEq, not_false_eq_true])
    · next hstr =>
        rw [Except.ok.injEq, Prod.mk.injEq] at h
        rw [← h.2]
        exact Nat.lt_succ_of_lt (scanString_shorter _ _ _ _ hstr)
  · split at h
    · next hconst =>
        rw [Except.ok.injEq] at h
        rw [h] at hconst
        exact scanConstant_shorter _ _ _ hconst
    · exact scanNumber_shorter _ _ _ h

theorem scanItems_shorter {β : Type} (item : PyStr → Except Exc (β × PyStr)) (close : Nat)
    (hitem : Shortens item) (fuel : Nat) : Shortens (scanItems item close fuel) := by
  induction fuel with
  | zero =>
      intro s vs rest h
      exact absurd h (by simp only [scanItems, reduceCtorEq, not_false_eq_true])
  | succ fuel ih =>
      intro s vs rest h
      rw [scanItems] at h
      rcases hs : item s with exc | ⟨v, s₁⟩
      · rw [hs] at h
        exact absurd h (by simp only [reduceCtorEq, not_false_eq_true])
      · have hv := hitem s v s₁ hs
        have hws := length_skipWs s₁
        simp only [hs] at h
        split at h
        · exact absurd h (by simp only [reduceCtorEq, not_false_eq_true])
        · next c s₂ hcons =>
            rw [hcons, List.length_cons] at hws
            split at h
            · rw [Except.ok.injEq, Prod.mk.injEq] at h
              rw [← h.2]
              omega
            · split at h
              · have hws₂ := length_skipWs s₂
                split at h
                · exact absurd h (by simp only [reduceCtorEq, not_false_eq_true])
                · next hrest =>
                    rw [Except.ok.injEq, Prod.mk.injEq] at h
                    have hlt := ih _ _ _ hrest
                    rw [← h.2]
                    omega
              · exact absurd h (by simp only [reduceCtorEq, not_false_eq_true])

/-- The loop never runs out of fuel: more than the length of the text changes
    nothing. -/
theorem scanItems_fuel {β : Type} (item : PyStr → Except Exc (β × PyStr)) (close : Nat)
    (hitem : Shortens item) (fuel more : Nat) : ∀ (s : PyStr), s.length ≤ fuel + 1 →
    scanItems item close (fuel + 1 + more) s = scanItems item close (fuel + 1) s := by
  induction fuel with
  | zero =>
      intro s hle
      rw [Nat.zero_add, Nat.add_comm, scanItems, scanItems]
      rcases hs : item s with exc | ⟨v, s₁⟩
      · rfl
      -- With one unit of fuel the text is at most one character, and the item takes it.
      · have hv := hitem s v s₁ hs
        have hnil : s₁ = [] := List.eq_nil_of_length_eq_zero (by omega)
        rw [hnil]
        rfl
  | succ fuel ih =>
      intro s hle
      rw [Nat.add_right_comm, scanItems, scanItems]
      rcases hs : item s with exc | ⟨v, s₁⟩
      · rfl
      · have hv := hitem s v s₁ hs
        have hws := length_skipWs s₁
        simp only
        split
        · rfl
        · next c s₂ hcons =>
            rw [hcons, List.length_cons] at hws
            have hws₂ := length_skipWs s₂
            -- The item and the comma have taken up two characters.
            rw [ih (skipWs s₂) (by omega)]

theorem scanMember_shorter (scan : PyStr → Except Exc (PyVal × PyStr)) (hscan : Shortens scan) :
    Shortens (scanMember scan) := by
  intro s m rest h
  unfold scanMember at h
  split at h
  · split at h
    · exact absurd h (by simp only [reduceCtorEq, not_false_eq_true])
    · next s₀ _ key s₁ hkey =>
        have hstr := scanString_shorter _ _ _ _ hkey
        have hws := length_skipWs s₁
        split at h
        · next s₂ hcolon =>
            rw [hcolon, List.length_cons] at hws
            have hws₂ := length_skipWs s₂
            split at h
            · exact absurd h (by simp only [reduceCtorEq, not_false_eq_true])
            · next hv =>
                rw [Except.ok.injEq, Prod.mk.injEq] at h
                have hlt := hscan _ _ _ hv
                rw [← h.2, List.length_cons]
                omega
        · exact absurd h (by simp only [reduceCtorEq, not_false_eq_true])
  · exact absurd h (by simp only [reduceCtorEq, not_false_eq_true])

theorem scanArray_shorter (scan : PyStr → Except Exc (PyVal × PyStr)) (hscan : Shortens scan) :
    Shortens (scanArray scan) := by
  intro s v rest h
  have hws := length_skipWs s
  unfold scanArray at h
  split at h
  · next hend =>
      rw [Except.ok.injEq, Prod.mk.injEq] at h
      rw [hend, List.length_cons] at hws
      rw [← h.2]
      omega
  · split at h
    · exact absurd h (by simp only [reduceCtorEq, not_false_eq_true])
    · next hitems =>
        rw [Except.ok.injEq, Prod.mk.injEq] at h
        rw [← h.2]
        exact Nat.lt_of_lt_of_le (scanItems_shorter _ _ hscan _ _ _ _ hitems) hws

theorem scanObject_shorter (scan : PyStr → Except Exc (PyVal × PyStr)) (hscan : Shortens scan) :
    Shortens (scanObject scan) := by
  intro s v rest h
  have hws := length_skipWs s
  unfold scanObject at h
  split at h
  · next hend =>
      rw [Except.ok.injEq, Prod.mk.injEq] at h
      rw [hend, List.length_cons] at hws
      rw [← h.2]
      omega
  · split at h
    · exact absurd h (by simp only [reduceCtorEq, not_false_eq_true])
    · next hitems =>
        rw [Except.ok.injEq, Prod.mk.injEq] at h
        rw [← h.2]
        exact Nat.lt_of_lt_of_le
          (scanItems_shorter _ _ (scanMember_shorter scan hscan) _ _ _ _ hitems) hws

/-- A value takes up text, whatever the depth. -/
theorem scanOnce_shorter (depth : Nat) : Shortens (scanOnce depth) := by
  induction depth with
  | zero =>
      intro s v rest h
      unfold scanOnce at h
      split at h
      · exact absurd h (by simp only [reduceCtorEq, not_false_eq_true])
      · exact absurd h (by simp only [reduceCtorEq, not_false_eq_true])
      · contradiction
      · contradiction
      · exact scanScalar_shorter _ _ _ h
  | succ depth ih =>
      intro s v rest h
      unfold scanOnce at h
      split at h
      · contradiction
      · contradiction
      · next hdepth =>
          rw [← Nat.succ.inj hdepth] at h
          exact Nat.lt_succ_of_lt (scanObject_shorter _ ih _ _ _ h)
      · next hdepth =>
          rw [← Nat.succ.inj hdepth] at h
          exact Nat.lt_succ_of_lt (scanArray_shorter _ ih _ _ _ h)
      · exact scanScalar_shorter _ _ _ h

end Python

end Vena
