import Mathlib.Data.List.Basic

/-!
# HTTP Calls

What the app's code sees of a call it makes through `Dio`: a response with a
status that `validateStatus` lets pass, or a `DioException`. The exception
carries the response when there was one. A timeout and a refused connection
carry none.

## Main definitions

* `Response`, `DioException`: What a call may end with.
* `fetch`: From what comes back to what the caller is given.
-/

namespace Vena

namespace Mobile

namespace Dio

structure Response (δ : Type) where
  statusCode : Nat
  data : δ
  deriving DecidableEq, Repr

structure DioException (δ : Type) where
  response : Option (Response δ)
  deriving DecidableEq, Repr

variable {δ : Type}

/-- `e.response?.statusCode`. -/
def DioException.statusCode (e : DioException δ) : Option Nat :=
  e.response.map Response.statusCode

/-- The check of the base options, which no call of the app replaces. -/
def validateStatus (statusCode : Nat) : Bool :=
  200 ≤ statusCode && statusCode < 300

/-- `none` stands for a call that no response came back for. -/
def fetch : Option (Response δ) → Except (DioException δ) (Response δ)
  | none => .error ⟨none⟩
  | some r => if validateStatus r.statusCode then .ok r else .error ⟨some r⟩

theorem fetch_eq_ok (answer : Option (Response δ)) (r : Response δ) :
    fetch answer = .ok r ↔ answer = some r ∧ validateStatus r.statusCode = true := by
  unfold fetch
  split
  · simp only [reduceCtorEq, false_and]
  · next r' =>
      by_cases hvalid : validateStatus r'.statusCode = true
      · rw [if_pos hvalid, Except.ok.injEq, Option.some.injEq]
        exact ⟨fun h => ⟨h, h ▸ hvalid⟩, fun h => h.1⟩
      · rw [if_neg hvalid, Option.some.injEq]
        exact ⟨fun h => absurd h (by simp only [reduceCtorEq, not_false_eq_true]),
          fun h => absurd (h.1 ▸ h.2) hvalid⟩

end Dio

end Mobile

end Vena
