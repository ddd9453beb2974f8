import Vena.Backend.Ingest

/-!
# Which Messages Are Handled

`_parse` and `_handle_meta` let through every exception they do not name.
`Handled` says, from the topic and the value `json.loads` returns, which
messages raise none and lead to nothing the database refuses.

## Main definitions

* `TsOk`, `PayloadOk`, `MetaOk`, `Handled`: The condition on a message.
* `Absorbed`: What it is there for, read off `decode`.

## Theorems

* `tsOk_iff`: The values of `ts` whose exceptions are caught.
* `handled_iff`: The condition is exact.
-/

namespace Vena

namespace Backend

namespace Ingest

open Python

/-- The milliseconds `fromtimestamp` takes, or refuses with an exception that is
    caught: their thousandth part is a `time_t`. -/
def InRange (n : Int) : Prop :=
  -9223372036854776832000 ≤ n ∧ n < 9223372036854775296000

/-- The values of `ts` that raise nothing, or something that is caught. -/
def TsOk : PyVal → Prop
  | .none | .bool _ | .float .nan => True
  | .int n => InRange n
  | .float (.finite negative m e) => InRange (PyFloat.trunc negative m e)
  | .str s => ∀ n, intOfStr 10 s = some n → InRange n
  | .float (.inf _) | .list _ | .dict _ => False

/-- The payloads on a `telemetry` topic that end with a row the database stores,
    or with none. -/
def PayloadOk (env : Env) (deviceId : String) (payload : List UInt8) : Prop :=
  loads env.depth payload = .error .jsonDecodeError ∨
  ∃ data, loads env.depth payload = .ok (.dict data) ∧
    TsOk (getItem data (PyStr.ofString "ts")) ∧
    ∀ ts, timeOf (getItem data (PyStr.ofString "ts")) = .ok ts →
      env.storable (rowOf deviceId ts data) = true

/-- The payloads on a `meta` topic that end with a document the database stores,
    or with none. -/
def MetaOk (env : Env) (deviceId : String) (payload : List UInt8) : Prop :=
  loads env.depth payload = .error .jsonDecodeError ∨
  ∃ data, loads env.depth payload = .ok data ∧ env.metaStorable deviceId data = true

def Handled (env : Env) (m : Message) : Prop :=
  match parseTopic m.topic with
  | none => True
  | some (deviceId, msgType) =>
    (msgType = "telemetry" → PayloadOk env deviceId m.payload) ∧
    (msgType = "meta" → MetaOk env deviceId m.payload)

/-- The `except` clause around the conversion of `ts`. -/
def Caught (exc : Exc) : Prop := (exc.isValueError || decide (exc = .osError)) = true

instance : DecidablePred Caught := fun _ => inferInstanceAs (Decidable (_ = true))

theorem fromMillis_error (n : Int) (exc : Exc) (h : fromMillis n = .error exc) :
    exc = .overflowError ∨ Caught exc := by
  unfold fromMillis at h
  split at h
  -- The division fails for integers beyond the range of a float.
  · next hdiv =>
      unfold trueDiv at hdiv
      split at hdiv
      · rw [Except.error.injEq] at hdiv h
        exact Or.inl (h.symm.trans hdiv.symm)
      · exact absurd hdiv (by simp only [reduceCtorEq, not_false_eq_true])
  -- `fromtimestamp` fails with an overflow, or with a `ValueError`, which is caught.
  · unfold fromtimestamp at h
    split at h
    · rw [Except.error.injEq] at h
      exact Or.inr (h ▸ rfl)
    · rw [Except.error.injEq] at h
      exact Or.inl h.symm
    · dsimp only at h
      split at h
      · rw [Except.error.injEq] at h
        exact Or.inl h.symm
      · split at h
        · rw [Except.error.injEq] at h
          exact Or.inr (h ▸ rfl)
        · split at h
          · rw [Except.error.injEq] at h
            exact Or.inr (h ▸ rfl)
          · exact absurd h (by simp only [reduceCtorEq, not_false_eq_true])

/-- The milliseconds whose exceptions are caught. -/
theorem inRange_iff (n : Int) : InRange n ↔ ∀ exc, fromMillis n = .error exc → Caught exc := by
  have hover := fromMillis_overflow n
  unfold InRange
  constructor
  · intro hin exc hexc
    rcases fromMillis_error n exc hexc with heq | hcaught
    · rcases hover.mp (heq ▸ hexc) with hlt | hle
      · omega
      · omega
    · exact hcaught
  · intro hall
    by_contra hout
    have hcaught := hall .overflowError (hover.mpr (by omega))
    exact absurd hcaught (by decide)

/-- The values whose exceptions are caught. -/
theorem tsOk_iff (v : PyVal) (hv : v ≠ .none) :
    TsOk v ↔ ∀ exc, timeOf v = .error exc → Caught exc := by
  cases v with
  | none => exact absurd rfl hv
  | bool b =>
      refine ⟨fun _ => (inRange_iff _).mp ?_, fun _ => trivial⟩
      unfold InRange
      split
      · omega
      · omega
  | int n => exact inRange_iff n
  | float x =>
      cases x with
      | nan =>
          refine ⟨fun _ exc h => ?_, fun _ => trivial⟩
          have heq : Except.error .valueError = Except.error exc := h
          rw [Except.error.injEq] at heq
          exact heq ▸ rfl
      -- `int(inf)` raises an OverflowError, which no clause catches.
      | inf negative =>
          exact ⟨False.elim, fun h => absurd (h .overflowError rfl) (by decide)⟩
      | finite negative m e => exact inRange_iff (PyFloat.trunc negative m e)
  | str s =>
      simp only [TsOk, timeOf, intOf]
      cases intOfStr 10 s with
      | none =>
          refine ⟨fun _ exc h => ?_, fun _ n hn => absurd hn (by simp only [reduceCtorEq,
            not_false_eq_true])⟩
          rw [Except.error.injEq] at h
          exact h ▸ rfl
      | some n =>
          simp only [Option.some.injEq, forall_eq']
          exact inRange_iff n
  -- A TypeError is not caught either.
  | list items => exact ⟨False.elim, fun h => absurd (h .typeError rfl) (by decide)⟩
  | dict items => exact ⟨False.elim, fun h => absurd (h .typeError rfl) (by decide)⟩

/-- A result that is no exception, and that the database takes. -/
def Settles {α : Type} (storable : α → Bool) : Except Exc (Option α) → Prop
  | .error _ => False
  | .ok none => True
  | .ok (some a) => storable a = true

/-- Reading the message raises nothing, and the database takes what it leads
    to. -/
def Absorbed (env : Env) (m : Message) : Prop :=
  match decode env m with
  | .error _ => False
  | .ok .discard => True
  | .ok (.row row) => env.storable row = true
  | .ok (.upsert deviceId data) => env.metaStorable deviceId data = true

theorem settles_parseTs (env : Env) (deviceId : String) (v : PyVal)
    (data : List (PyStr × PyVal)) (hv : v ≠ .none) :
    Settles env.storable (parseTs deviceId v data) ↔
      TsOk v ∧ ∀ ts, timeOf v = .ok ts → env.storable (rowOf deviceId ts data) = true := by
  rw [tsOk_iff v hv, parseTs]
  cases timeOf v with
  | ok ts =>
      simp only [Settles, reduceCtorEq, false_implies, implies_true, Except.ok.injEq, forall_eq',
        true_and]
  | error exc =>
      simp only [Except.error.injEq, forall_eq', reduceCtorEq, false_implies, implies_true,
        and_true]
      by_cases hcaught : (exc.isValueError || decide (exc = .osError)) = true
      · rw [if_pos hcaught]
        exact ⟨fun _ => hcaught, fun _ => trivial⟩
      · rw [if_neg hcaught]
        exact ⟨False.elim, hcaught⟩

theorem settles_parsePayload (env : Env) (deviceId : String) (payload : List UInt8) :
    Settles env.storable (parsePayload env deviceId payload) ↔ PayloadOk env deviceId payload := by
  unfold parsePayload PayloadOk
  split
  · next h => simp only [h, Settles, true_or]
  · next exc hexc h =>
      simp only [h, Settles, Except.error.injEq, reduceCtorEq, false_and, exists_false, or_false]
      exact ⟨False.elim, hexc⟩
  · next data h =>
      simp only [h, reduceCtorEq, Except.ok.injEq, PyVal.dict.injEq, exists_eq_left', false_or]
      split
      · next hnone =>
          rw [hnone]
          refine ⟨fun _ => ⟨trivial, fun ts hts => ?_⟩, fun _ => trivial⟩
          exact absurd hts (by simp only [timeOf, intOf, reduceCtorEq, not_false_eq_true])
      · next hsome => exact settles_parseTs env deviceId _ data hsome
  · next v hv h =>
      simp only [h, Settles, reduceCtorEq, Except.ok.injEq, false_or, false_iff]
      rintro ⟨data, hdata, _⟩
      exact hv data hdata

theorem settles_loadMeta (env : Env) (deviceId : String) (payload : List UInt8) :
    Settles (env.metaStorable deviceId) (loadMeta env payload) ↔ MetaOk env deviceId payload := by
  unfold loadMeta MetaOk
  split
  · next h => simp only [h, Settles, true_or]
  · next exc hexc h =>
      simp only [h, Settles, Except.error.injEq, reduceCtorEq, false_and, exists_false, or_false]
      exact ⟨False.elim, hexc⟩
  · next data h =>
      simp only [h, Settles, reduceCtorEq, Except.ok.injEq, exists_eq_left', false_or]

theorem absorbed_meta (env : Env) (m : Message) (deviceId : String)
    (htopic : parseTopic m.topic = some (deviceId, "meta")) :
    Absorbed env m ↔ Settles (env.metaStorable deviceId) (loadMeta env m.payload) := by
  unfold Absorbed decode
  rw [htopic]
  rcases loadMeta env m.payload with exc | _ | data
  · rfl
  · rfl
  · rfl

theorem decode_of_parse (env : Env) (m : Message)
    (hno : ∀ deviceId, parseTopic m.topic ≠ some (deviceId, "meta")) :
    decode env m = (parse env m).map (fun row => row.elim .discard .row) := by
  unfold decode
  split
  · next deviceId htopic => exact absurd htopic (hno deviceId)
  · rcases parse env m with exc | _ | row
    · rfl
    · rfl
    · rfl

theorem absorbed_other (env : Env) (m : Message)
    (hno : ∀ deviceId, parseTopic m.topic ≠ some (deviceId, "meta")) :
    Absorbed env m ↔ Settles env.storable (parse env m) := by
  rw [Absorbed, decode_of_parse env m hno]
  rcases parse env m with exc | _ | row
  · rfl
  · rfl
  · rfl

/-- The condition on a message is exact. -/
theorem handled_iff (env : Env) (m : Message) : Handled env m ↔ Absorbed env m := by
  unfold Handled
  split
  · next htopic =>
      rw [absorbed_other env m (fun deviceId h => by rw [htopic] at h; cases h), parse, htopic]
      exact ⟨fun _ => trivial, fun _ => trivial⟩
  · next deviceId msgType htopic =>
      -- The two kinds of message that are decoded, and the rest.
      by_cases hmeta : msgType = "meta"
      · subst hmeta
        rw [absorbed_meta env m deviceId htopic, settles_loadMeta]
        simp only [String.reduceEq, false_implies, true_implies, true_and]
      · have hno : ∀ d, parseTopic m.topic ≠ some (d, "meta") := by
          intro d h
          rw [htopic, Option.some.injEq, Prod.mk.injEq] at h
          exact hmeta h.2
        rw [absorbed_other env m hno, parse, htopic]
        by_cases htelemetry : msgType = "telemetry"
        · simp only [htelemetry, ne_eq, not_true_eq_false, if_false, true_implies,
            settles_parsePayload, String.reduceEq, false_implies, and_true]
        · simp only [htelemetry, ne_eq, not_false_eq_true, if_true, false_implies, hmeta, and_true,
            Settles]

end Ingest

end Backend

end Vena
