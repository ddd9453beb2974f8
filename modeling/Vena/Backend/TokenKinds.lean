import Vena.Backend.Access
import Vena.Python.UuidText

/-!
# Kinds of Tokens

Four functions sign claims with one secret. `get_current_user` reads `sub`
alone, so that it is the text of `sub` that tells a session from the tokens for
the broker: the broker's token of a user has the same `sub` as the session, and
a device token has whatever its device is called. `/mqtt/acl` looks at `scope`.

## Main definitions

* `Mint`: A call of one of the four functions.
* `Decodes`: What `jose.jwt` does with a token.
* `KindsApart`: Only sessions are taken for sessions.
* `Mint.Apart`: The tokens whose `sub` is not taken for a user's.

## Theorems

* `getCurrentUser_sub`: Whom a payload stands for.
* `kinds_apart`: When the kinds are told apart.
* `kinds_mixed`: A device with the id of a user.
-/

namespace Vena

namespace Backend

open Python

/-- A token and whom it was signed for. -/
inductive Mint where
  | access (user : User)
  | mqtt (user : User) (deviceIds : List String)
  | backend
  | device (deviceId : String)
  deriving DecidableEq, Repr

namespace Mint

def claims (env : Env) (issued : Datetime) : Mint → Claims
  | .access user => accessClaims env user issued
  | .mqtt user deviceIds => mqttClaims env user deviceIds issued
  | .backend => backendClaims env issued
  | .device deviceId => deviceClaims env deviceId issued

def token (env : Env) (issued : Datetime) : Mint → String
  | .access user => createAccessToken env user issued
  | .mqtt user deviceIds => createMqttToken env user deviceIds issued
  | .backend => createBackendToken env issued
  | .device deviceId => createDeviceJwt env deviceId issued

/-- The ids of users have 128 bits. -/
def Valid : Mint → Prop
  | .access user | .mqtt user _ => user.id < 2 ^ 128
  | .backend | .device _ => True

/-- The token is a session, or its `sub` names no user. -/
def Apart (db : Database) : Mint → Prop
  | .access _ | .backend => True
  | .mqtt user _ => ∀ u ∈ db.users, u.id ≠ user.id
  | .device deviceId => ∀ userId, Uuid.ofStr (PyStr.ofString deviceId) = some userId →
    ∀ u ∈ db.users, u.id ≠ userId

end Mint

/-- The library returns the claims that were signed until they expire. -/
def Decodes (env : Env) (token : String) (claims : Claims) (now : Datetime) : Prop :=
  env.decode token now = if Datetime.timestamp now ≤ claims.exp then some claims else none

/-- A user is resolved from the token only if it is a session of that user. -/
def KindsApart (env : Env) (db : Database) (mint : Mint) (issued now : Datetime) : Prop :=
  ∀ user, getCurrentUser env db (mint.token env issued) now = .ok user →
    ∃ holder, mint = .access holder ∧ holder.id = user.id

/-- A payload stands for the user whose id its `sub` is. -/
theorem getCurrentUser_sub (env : Env) (db : Database) (bearer sub : String) (now : Datetime)
    (payload : Claims) (hdecode : env.decode bearer now = some payload)
    (hsub : payload.sub = some sub) (user : User) :
    getCurrentUser env db bearer now = .ok user ↔
      Uuid.ofStr (PyStr.ofString sub) = some user.id ∧ user ∈ db.users := by
  unfold getCurrentUser
  simp only [hdecode, hsub]
  cases hid : Uuid.ofStr (PyStr.ofString sub) with
  | none => simp only [reduceCtorEq, false_and]
  | some userId =>
      simp only [Option.some.injEq]
      constructor
      · intro h
        split at h
        · exact absurd h (by simp only [reduceCtorEq, not_false_eq_true])
        · next found hfound =>
            rw [Reply.ok.injEq] at h
            have hin : found ∈ db.users.filter (fun u => u.id = userId) := by
              rw [hfound]
              exact List.mem_singleton_self found
            rw [List.mem_filter, decide_eq_true_eq] at hin
            exact h ▸ ⟨hin.2.symm, hin.1⟩
        · exact absurd h (by simp only [reduceCtorEq, not_false_eq_true])
      · rintro ⟨rfl, hin⟩
        rw [Keyed.filter_key User.id db.users user db.userKey hin]

/-- A token that is read stands for the user its `sub` names. -/
theorem accepted_iff (env : Env) (db : Database) (mint : Mint) (issued now : Datetime)
    (sub : String) (hdecodes : Decodes env (mint.token env issued) (mint.claims env issued) now)
    (hsub : (mint.claims env issued).sub = some sub) (user : User) :
    getCurrentUser env db (mint.token env issued) now = .ok user ↔
      Datetime.timestamp now ≤ (mint.claims env issued).exp ∧
        Uuid.ofStr (PyStr.ofString sub) = some user.id ∧ user ∈ db.users := by
  unfold Decodes at hdecodes
  by_cases hlive : Datetime.timestamp now ≤ (mint.claims env issued).exp
  · rw [if_pos hlive] at hdecodes
    rw [getCurrentUser_sub env db _ sub now _ hdecodes hsub, and_iff_right hlive]
  · rw [if_neg hlive] at hdecodes
    unfold getCurrentUser
    simp only [hdecodes, reduceCtorEq, hlive, false_and]

/-- The `sub` of the backend's own token is no UUID. -/
theorem ofStr_vena_backend : Uuid.ofStr (PyStr.ofString "vena-backend") = none := by decide

/-- The kinds are told apart exactly if the token has expired, or its `sub` is
    not taken for a user's. -/
theorem kinds_apart (env : Env) (db : Database) (mint : Mint) (issued now : Datetime)
    (hvalid : mint.Valid)
    (hdecodes : Decodes env (mint.token env issued) (mint.claims env issued) now) :
    KindsApart env db mint issued now ↔
      (mint.claims env issued).exp < Datetime.timestamp now ∨ mint.Apart db := by
  have hsub := accepted_iff env db mint issued now
  rw [← Int.not_le]
  cases mint with
  | access holder =>
      have haccepts := hsub holder.id.str hdecodes rfl
      refine iff_of_true ?_ (Or.inr trivial)
      intro user h
      have hid := ((haccepts user).mp h).2.1
      rw [Uuid.ofStr_str holder.id hvalid, Option.some.injEq] at hid
      exact ⟨holder, rfl, hid⟩
  -- The subject of the backend reads as no id at all.
  | backend =>
      have haccepts := hsub "vena-backend" hdecodes rfl
      refine iff_of_true ?_ (Or.inr trivial)
      intro user h
      have hid := ((haccepts user).mp h).2.1
      rw [ofStr_vena_backend] at hid
      exact absurd hid (by simp only [reduceCtorEq, not_false_eq_true])
  -- The subject is the id of the holder: its expiry keeps it out, or a database
  -- without the user.
  | mqtt holder deviceIds =>
      have haccepts := hsub holder.id.str hdecodes rfl
      rw [Uuid.ofStr_str holder.id hvalid] at haccepts
      constructor
      · intro h
        by_cases hlive :
            Datetime.timestamp now ≤ ((Mint.mqtt holder deviceIds).claims env issued).exp
        · refine Or.inr (fun u hu heq => ?_)
          rcases h u ((haccepts u).mpr ⟨hlive, heq ▸ rfl, hu⟩) with ⟨_, hno, _⟩
          exact absurd hno (by simp only [reduceCtorEq, not_false_eq_true])
        · exact Or.inl hlive
      · intro h user haccepted
        rcases (haccepts user).mp haccepted with ⟨hlive, hid, hin⟩
        exact absurd (Option.some.inj hid).symm ((h.resolve_left (not_not.mpr hlive)) user hin)
  -- The subject is whatever the path named; it may read as the id of a user.
  | device deviceId =>
      have haccepts := hsub deviceId hdecodes rfl
      constructor
      · intro h
        by_cases hlive : Datetime.timestamp now ≤ ((Mint.device deviceId).claims env issued).exp
        · refine Or.inr (fun userId hid u hu heq => ?_)
          rcases h u ((haccepts u).mpr ⟨hlive, heq ▸ hid, hu⟩) with ⟨_, hno, _⟩
          exact absurd hno (by simp only [reduceCtorEq, not_false_eq_true])
        · exact Or.inl hlive
      · intro h user haccepted
        rcases (haccepts user).mp haccepted with ⟨hlive, hid, hin⟩
        exact absurd rfl ((h.resolve_left (not_not.mpr hlive)) user.id hid user hin)

/-- A library that knows one token. -/
def oneToken (claims : Claims) : Env where
  settings := {}
  sha256hex := fun raw => raw
  encode := fun _ => "token"
  decode := fun _ now => if Datetime.timestamp now ≤ claims.exp then some claims else none
  checkpw := fun code hashed => some (code = hashed)
  verifyOauth2Token := fun _ => .error "Token expired"

theorem kinds_apart_access :
    KindsApart (oneToken ((Mint.access Access.demoUser).claims Access.demoEnv 0)) Access.demoDb
      (.access Access.demoUser) 0 0 :=
  (kinds_apart (oneToken ((Mint.access Access.demoUser).claims Access.demoEnv 0)) Access.demoDb
    (.access Access.demoUser) 0 0 (by decide : Access.demoUser.id < 2 ^ 128) rfl).mpr
    (Or.inr trivial)

/-- The id of the user as a path of `POST /devices/{device_id}/provision`. -/
def disguise : Mint := .device "12345678-1234-5678-1234-567812345678"

/-- The token of such a device is taken for a session of the user. -/
theorem kinds_mixed : ¬∀ (env : Env) (db : Database) (mint : Mint) (issued now : Datetime),
    mint.Valid → Decodes env (mint.token env issued) (mint.claims env issued) now →
      KindsApart env db mint issued now := by
  intro hall
  have haccepted : getCurrentUser (oneToken (disguise.claims Access.demoEnv 0)) Access.demoDb
      "token" 0 = .ok Access.demoUser := by decide
  rcases hall (oneToken (disguise.claims Access.demoEnv 0)) Access.demoDb disguise 0 0 trivial rfl
    Access.demoUser haccepted with ⟨_, hno, _⟩
  exact absurd hno (by simp only [disguise, reduceCtorEq, not_false_eq_true])

end Backend

end Vena
