import Vena.Mobile.AuthInterceptor
import Vena.Mobile.Dio

/-!
# When the Interceptor Logs Out

One call of `AuthInterceptor.onError`, over everything that can come of it.
Each of its awaits may throw: the storage on any of its accesses, the two
HTTP calls whenever no response with a good status comes back. The `try` block
encloses the refresh, the second read of the storage and the retried request,
and its handler calls `onLogout`.

A session is worth ending when the refresh has failed. `outcome_iff` says when
the handler does that and no more: besides a failed refresh it takes a retried
request that succeeds. A user whose refresh went well is logged out for a
validation error or a timeout of the request that was retried.

## Main definitions

* `Outcomes`: What the environment answers on each await.
* `doRefresh`, `onError`: The methods.
* `Refreshed`: `_doRefresh` returns, with these tokens stored.
* `Proper`: A logout exactly on a failed refresh, and the caller is given what
  the retried request gave.

## Theorems

* `doRefresh_eq`, `refreshed_of_doRefresh`: When the refresh returns.
* `outcome_iff`: When the interceptor is proper.
* `logout_on_timeout`: A retried request that times out.
-/

namespace Vena

namespace Mobile

namespace Auth

open Dio

/-- The body of the answer; a field that is not a string fails the cast. -/
structure RefreshData where
  accessToken : Option String
  refreshToken : Option String
  deriving DecidableEq, Repr

variable {δ : Type}

/-- Whether the accesses to the storage complete, and what comes back for the
    refresh and for the retried request. -/
structure Outcomes (δ : Type) where
  readRefresh : Bool := true
  post : Option (Response (Option RefreshData))
  writeAccess : Bool := true
  writeRefresh : Bool := true
  readAccess : Bool := true
  retry : Option (Response δ)
  clear : Bool := true

/-- Both writes are made, and the error of one is thrown behind them. -/
def saveTokens (s : TokenStorage) (access refresh : String) (o : Outcomes δ) :
    TokenStorage × Bool :=
  ({ access := if o.writeAccess then some access else s.access
     refresh := if o.writeRefresh then some refresh else s.refresh },
    o.writeAccess && o.writeRefresh)

/-- `_doRefresh`, with `false` where it throws. -/
def doRefresh (s : TokenStorage) (o : Outcomes δ) : TokenStorage × Bool :=
  if o.readRefresh then
    match s.refresh with
    | none => (s, false)
    | some _ => match fetch o.post with
      | .error _ => (s, false)
      | .ok response => match response.data with
        | some ⟨some access, some refresh⟩ => saveTokens s access refresh o
        | _ => (s, false)
  else (s, false)

/-- What becomes of the caller's request. -/
inductive Handed (δ : Type) where
  | resolve (response : Response δ)
  | next (err : DioException δ)
  | nothing
  deriving DecidableEq, Repr

/-- The storage and the caller's request behind the handler, the `Authorization`
    header of the retried request and whether `onLogout` was called. -/
structure Handled (δ : Type) where
  storage : TokenStorage
  sent : Option String := none
  loggedOut : Bool := false
  handed : Handed δ
  deriving DecidableEq, Repr

/-- The `catch` block, with `onLogout` from `apiClientProvider`. -/
def logout (s : TokenStorage) (sent : Option String) (err : DioException δ) (o : Outcomes δ) :
    Handled δ :=
  if o.clear then { storage := ⟨none, none⟩, sent, loggedOut := true, handed := .next err }
  else { storage := s, sent, loggedOut := true, handed := .nothing }

/-- `'Bearer $token'`. -/
def bearer : Option String → String
  | some token => "Bearer " ++ token
  | none => "Bearer null"

def onError (s : TokenStorage) (err : DioException δ) (o : Outcomes δ) : Handled δ :=
  if err.statusCode ≠ some 401 then { storage := s, handed := .next err }
  else match doRefresh s o with
    | (s', false) => logout s' none err o
    | (s', true) =>
      if o.readAccess then match fetch o.retry with
        | .ok response =>
          { storage := s', sent := some (bearer s'.access), handed := .resolve response }
        | .error _ => logout s' (some (bearer s'.access)) err o
      else logout s' none err o

/-- `_doRefresh` returns, and these are the tokens it was given. -/
structure Refreshed (s : TokenStorage) (o : Outcomes δ) (access refresh : String) : Prop where
  read : o.readRefresh = true
  stored : s.refresh ≠ none
  answered : ∃ response, o.post = some response ∧ validateStatus response.statusCode = true ∧
    response.data = some ⟨some access, some refresh⟩
  written : o.writeAccess = true ∧ o.writeRefresh = true

/-- What the caller of the retried request itself would be given. -/
def handOver : Except (DioException δ) (Response δ) → Handed δ
  | .ok response => .resolve response
  | .error err => .next err

/-- A logout exactly on a failed refresh. Behind a refresh that succeeded, the
    tokens stay and the caller is given what the retried request gave. -/
structure Proper (s : TokenStorage) (err : DioException δ) (o : Outcomes δ) : Prop where
  logout : (onError s err o).loggedOut = true ↔ ¬ ∃ access refresh, Refreshed s o access refresh
  kept : ∀ access refresh, Refreshed s o access refresh →
    (onError s err o).storage = ⟨some access, some refresh⟩ ∧
    (onError s err o).handed = handOver (fetch o.retry)

theorem saveTokens_of_written (s : TokenStorage) (access refresh : String) (o : Outcomes δ)
    (h : o.writeAccess = true ∧ o.writeRefresh = true) :
    saveTokens s access refresh o = (⟨some access, some refresh⟩, true) := by
  rw [saveTokens, h.1, h.2]
  rfl

theorem doRefresh_eq (s : TokenStorage) (o : Outcomes δ) (access refresh : String)
    (h : Refreshed s o access refresh) : doRefresh s o = (⟨some access, some refresh⟩, true) := by
  rcases h.answered with ⟨response, hpost, hvalid, hdata⟩
  have hfetch := (fetch_eq_ok o.post response).mpr ⟨hpost, hvalid⟩
  cases hstored : s.refresh with
  | none => exact absurd hstored h.stored
  | some old =>
      rw [doRefresh, if_pos h.read]
      simp only [hstored, hfetch, hdata]
      exact saveTokens_of_written s access refresh o h.written

/-- Nothing else lets the refresh return. -/
theorem refreshed_of_doRefresh (s s' : TokenStorage) (o : Outcomes δ)
    (h : doRefresh s o = (s', true)) : ∃ access refresh, Refreshed s o access refresh := by
  unfold doRefresh at h
  by_cases hread : o.readRefresh = true
  · rw [if_pos hread] at h
    cases hstored : s.refresh with
    | none => simp only [hstored, Prod.mk.injEq, Bool.false_eq_true, and_false] at h
    | some old =>
        cases hfetch : fetch o.post with
        | error e => simp only [hstored, hfetch, Prod.mk.injEq, Bool.false_eq_true, and_false] at h
        | ok response =>
            have hpost := (fetch_eq_ok o.post response).mp hfetch
            rcases hdata : response.data with _ | ⟨_ | access, _ | refresh⟩
            · simp only [hstored, hfetch, hdata, Prod.mk.injEq, Bool.false_eq_true, and_false] at h
            · simp only [hstored, hfetch, hdata, Prod.mk.injEq, Bool.false_eq_true, and_false] at h
            · simp only [hstored, hfetch, hdata, Prod.mk.injEq, Bool.false_eq_true, and_false] at h
            · simp only [hstored, hfetch, hdata, Prod.mk.injEq, Bool.false_eq_true, and_false] at h
            · simp only [hstored, hfetch, hdata, saveTokens, Prod.mk.injEq, Bool.and_eq_true] at h
              have hsome : s.refresh ≠ none := fun hnone => by
                rw [hnone] at hstored
                exact absurd hstored (by simp only [reduceCtorEq, not_false_eq_true])
              exact ⟨access, refresh, hread, hsome, ⟨response, hpost.1, hpost.2, hdata⟩, h.2⟩
  · rw [if_neg hread] at h
    exact absurd (congrArg Prod.snd h) Bool.false_ne_true

theorem loggedOut_logout (s : TokenStorage) (sent : Option String) (err : DioException δ)
    (o : Outcomes δ) : (logout s sent err o).loggedOut = true := by
  unfold logout
  split
  · rfl
  · rfl

variable {s : TokenStorage} {err : DioException δ} {o : Outcomes δ}

/-- A refresh that throws ends in a logout. -/
theorem onError_of_throw (h401 : err.statusCode = some 401)
    (hno : ¬ ∃ access refresh, Refreshed s o access refresh) :
    (onError s err o).loggedOut = true := by
  rcases hrefresh : doRefresh s o with ⟨s', _ | _⟩
  · rw [onError, if_neg (not_not_intro h401), hrefresh]
    exact loggedOut_logout s' none err o
  · exact absurd (refreshed_of_doRefresh s s' o hrefresh) hno

/-- Behind a refresh that returns, the retried request decides. -/
theorem onError_of_refreshed (access refresh : String) (h401 : err.statusCode = some 401)
    (h : Refreshed s o access refresh) (hread : o.readAccess = true) (response : Response δ)
    (hretry : fetch o.retry = .ok response) :
    onError s err o =
      { storage := ⟨some access, some refresh⟩
        sent := some (bearer (some access))
        handed := .resolve response } := by
  rw [onError, if_neg (not_not_intro h401), doRefresh_eq s o access refresh h]
  simp only [if_pos hread, hretry]

theorem onError_of_failed (access refresh : String) (h401 : err.statusCode = some 401)
    (h : Refreshed s o access refresh)
    (hfail : ∀ response, o.readAccess = true → fetch o.retry ≠ .ok response) :
    (onError s err o).loggedOut = true := by
  rw [onError, if_neg (not_not_intro h401), doRefresh_eq s o access refresh h]
  by_cases hread : o.readAccess = true
  · cases hretry : fetch o.retry with
    | error e =>
        simp only [if_pos hread]
        exact loggedOut_logout _ _ err o
    | ok response => exact absurd hretry (hfail response hread)
  · simp only [if_neg hread]
    exact loggedOut_logout _ _ err o

/-- The interceptor is proper where the refresh fails, and where the retried
    request is made and succeeds. -/
theorem outcome_iff (s : TokenStorage) (err : DioException δ) (o : Outcomes δ)
    (h401 : err.statusCode = some 401) :
    Proper s err o ↔ (¬ ∃ access refresh, Refreshed s o access refresh) ∨
      o.readAccess = true ∧
        ∃ response, o.retry = some response ∧ validateStatus response.statusCode = true := by
  constructor
  · intro h
    by_cases hrefreshed : ∃ access refresh, Refreshed s o access refresh
    · refine Or.inr (by_contra fun hno => ?_)
      rcases hrefreshed with ⟨access, refresh, hok⟩
      have hfail : ∀ response, o.readAccess = true → fetch o.retry ≠ .ok response :=
        fun response hread hretry => hno ⟨hread, response, (fetch_eq_ok _ _).mp hretry⟩
      exact h.logout.mp (onError_of_failed access refresh h401 hok hfail) ⟨access, refresh, hok⟩
    · exact Or.inl hrefreshed
  · rintro (hno | ⟨hread, response, hretry⟩)
    · exact ⟨⟨fun _ => hno, fun _ => onError_of_throw h401 hno⟩,
        fun access refresh h => absurd ⟨access, refresh, h⟩ hno⟩
    · have hfetch := (fetch_eq_ok o.retry response).mpr hretry
      refine ⟨⟨fun hout => ?_, fun hno => onError_of_throw h401 hno⟩, fun access refresh h => ?_⟩
      · rintro ⟨access, refresh, h⟩
        rw [onError_of_refreshed access refresh h401 h hread response hfetch] at hout
        exact absurd hout Bool.false_ne_true
      · rw [onError_of_refreshed access refresh h401 h hread response hfetch, hfetch]
        exact ⟨rfl, rfl⟩

/-- A refresh that is answered, and a retried request that is too. -/
theorem outcome_iff_served :
    Proper ⟨some "a0", some "r0"⟩ ⟨some ⟨401, ()⟩⟩
      { post := some ⟨200, some ⟨some "a1", some "r1"⟩⟩, retry := some ⟨200, ()⟩ } :=
  (outcome_iff ⟨some "a0", some "r0"⟩ ⟨some ⟨401, ()⟩⟩
    { post := some ⟨200, some ⟨some "a1", some "r1"⟩⟩, retry := some ⟨200, ()⟩ } rfl).mpr
    (Or.inr ⟨rfl, ⟨200, ()⟩, rfl, rfl⟩)

/-- The refresh is answered and its tokens are stored, and the retried request
    times out. -/
theorem logout_on_timeout :
    ¬ ∀ (s : TokenStorage) (err : DioException Unit) (o : Outcomes Unit),
      err.statusCode = some 401 → Proper s err o := by
  intro h
  have hproper := h ⟨some "a0", some "r0"⟩ ⟨some ⟨401, ()⟩⟩
    { post := some ⟨200, some ⟨some "a1", some "r1"⟩⟩, retry := none } rfl
  exact hproper.logout.mp rfl ⟨"a1", "r1", rfl, by decide, ⟨_, rfl, rfl, rfl⟩, rfl, rfl⟩

end Auth

end Mobile

end Vena
