import Vena.Backend.Devices
import Vena.Mobile.TokenExpiry

/-!
# Renewing a Token

`_scheduleTokenRefresh` over whole runs of the service: the timers for a renewal,
those that were overwritten and run on included, were all armed by a read of a
token, for the time five minutes before its end. With the tokens of
`POST /mqtt/credentials` that is the end the backend gave them, however often the
service connects, is closed, fails or renews in between.

## Main definitions

* `running`: The timers of a field that can still fire.
* `endOf`, `tokenAt`: The tokens of the backend.

## Theorems

* `running_step`: A timer that a step arms.
* `tokenAt_eq`: The expiry the app finds.
* `renewed_in_time`: Every timer, in every run.
-/

namespace Vena

namespace Mobile

namespace MqttService

open Run

/-- The delays of the timers that a field has armed and not cancelled. -/
def running (t : TimerField) : List Int := t.armed.toList ++ t.orphans

theorem running_cancel (t : TimerField) : running t.cancel = t.orphans := rfl

theorem running_fire (t t' : TimerField) (orphan : Option Nat) (hfire : t.fire orphan = some t')
    (d : Int) (hd : d ∈ running t') : d ∈ running t := by
  cases orphan with
  | none =>
      rw [TimerField.fire, Option.ite_none_right_eq_some, Option.some.injEq] at hfire
      rw [← hfire.2, running_cancel] at hd
      exact List.mem_append_right _ hd
  | some j =>
      rw [TimerField.fire, Option.ite_none_right_eq_some, Option.some.injEq] at hfire
      rw [← hfire.2, running, List.mem_append] at hd
      rw [running, List.mem_append]
      exact hd.imp_right (fun h => List.mem_of_mem_eraseIdx h)

@[simp] theorem refreshTimer_onDisconnected (s : Service) :
    (onDisconnected s).refreshTimer = s.refreshTimer := by
  by_cases hintentional : s.intentionalDisconnect = true
  · rw [onDisconnected_intentional s hintentional]
    rfl
  · have hflag : ¬(emitState .disconnected
        { s with updatesSubscription := none }).intentionalDisconnect = true := hintentional
    rw [onDisconnected]
    rw [if_neg hflag]
    rfl

@[simp] theorem refreshTimer_closeClient (told : Bool) (s : Service) :
    (closeClient told s).refreshTimer = s.refreshTimer := by
  rw [closeClient]
  cases s.client with
  | none => rfl
  | some k =>
      cases told with
      | false => rfl
      | true => exact refreshTimer_onDisconnected _

@[simp] theorem refreshTimer_connect (s : Service) :
    (connect s).refreshTimer = s.refreshTimer := by
  rw [connect]
  split
  · rfl
  · rfl

@[simp] theorem refreshTimer_attemptFailed (i : Nat) (caller : Caller) (s : Service) :
    (attemptFailed i caller s).refreshTimer = s.refreshTimer := by
  cases caller with
  | connect => rfl
  | refresh => rfl

/-- The callback leaves the timer alone or cancels it. -/
theorem running_onConnected (s : Service) (d : Int)
    (hd : d ∈ running (onConnected s).refreshTimer) : d ∈ running s.refreshTimer := by
  cases hclient : s.client with
  | none =>
      simp only [onConnected, emitState, hclient] at hd
      exact hd
  | some k =>
      simp only [onConnected, emitState, hclient] at hd
      by_cases hthrows : s.deviceIds ≠ [] ∧ s.clients[k]? ≠ some .connected
      · rw [if_pos hthrows] at hd
        exact hd
      · rw [if_neg hthrows] at hd
        by_cases hclosed : s.clients[k]? = some .closed
        · rw [if_pos hclosed] at hd
          exact hd
        · rw [if_neg hclosed, scheduleTokenRefresh, running_cancel] at hd
          exact List.mem_append_right _ hd

/-- A timer that a step arms is due five minutes before the expiry it read. -/
theorem running_step (s s' : Service) (a : Action) (hstep : step s a = some s') (d : Int)
    (hd : d ∈ running s'.refreshTimer) :
    d ∈ running s.refreshTimer ∨
      ∃ i exp now, a = .read i (.expiring exp now) ∧ 0 < d ∧ d = exp - 300 - now := by
  cases step_moves s s' a hstep with
  | connect => exact Or.inl (refreshTimer_connect s ▸ hd)
  | disconnect told =>
      rw [(disconnected told s).refreshTimer, running_cancel] at hd
      exact Or.inl (List.mem_append_right _ hd)
  | scheduleBackgroundDisconnect => exact Or.inl hd
  | cancelBackgroundDisconnect => exact Or.inl hd
  | subscribe deviceIds => exact Or.inl hd
  | reconnectFires orphan reconnectTimer hfire =>
      rw [refreshTimer_connect] at hd
      exact Or.inl hd
  | refreshFires orphan refreshTimer hfire => exact Or.inl (running_fire _ _ orphan hfire d hd)
  | disconnectFires told =>
      rw [(disconnected told { s with disconnectTimer := false }).refreshTimer,
        running_cancel] at hd
      exact Or.inl (List.mem_append_right _ hd)
  | fetched i caller hget => exact Or.inl hd
  | savedConnect i told hget => exact Or.inl hd
  | savedRefresh i told hget => exact Or.inl (refreshTimer_closeClient told s ▸ hd)
  | failedDial i caller k hget =>
      rw [refreshTimer_attemptFailed] at hd
      exact Or.inl hd
  | failedBefore i caller await hne hget =>
      rw [refreshTimer_attemptFailed] at hd
      exact Or.inl hd
  | read i token hget =>
      cases token with
      | absent => exact Or.inl hd
      | malformed => exact Or.inl hd
      | expiring exp now =>
          simp only [tokenRead] at hd
          by_cases hdue : exp - 300 - now ≤ 0
          · rw [if_pos hdue] at hd
            exact Or.inl hd
          · rw [if_neg hdue, running, TimerField.set] at hd
            simp only [Option.toList_some, List.cons_append, List.nil_append, List.mem_cons] at hd
            rcases hd with rfl | hd
            · exact Or.inr ⟨i, exp, now, rfl, Int.lt_of_not_ge hdue, rfl⟩
            -- A timer that is overwritten runs on as an orphan.
            · exact Or.inl hd
  | connack k hk =>
      have hbefore := running_onConnected _ d hd
      exact Or.inl hbefore
  | closed k hlive =>
      rw [refreshTimer_onDisconnected] at hd
      exact Or.inl hd

section Tokens

open Backend TokenExpiry

/-- Seconds, between the epoch and the end of a token. -/
def endOf (env : Env) (issued : Datetime) : Int :=
  Datetime.timestamp issued + 60 * env.settings.mqttJwtExpireMinutes

/-- The token of `POST /mqtt/credentials`, in the storage of the app. -/
def tokenAt (env : Env) (db : Database) (user : User) (issued : Datetime) (now : Int) :
    StoredToken :=
  storedToken (some (dartString (getMqttCredentials env db user issued).mqttToken)) now

theorem tokenAt_eq (env : Env) (hcompact : Compact env.encode) (db : Database) (user : User)
    (issued : Datetime) (now : Int) (hexp : IsInt64 (endOf env issued)) :
    tokenAt env db user issued now = .expiring (endOf env issued) (now.tdiv 1000) := by
  have hend : (mqttClaims env user ((db.userDevices.filter
      (fun ud => ud.userId = user.id)).map UserDevice.deviceId) issued).exp =
      endOf env issued := by
    -- Minutes are whole seconds, and the microseconds are cut off alike.
    have hshift : (issued + Datetime.minutes env.settings.mqttJwtExpireMinutes) / 1000000 =
        issued / 1000000 + 60 * env.settings.mqttJwtExpireMinutes := by
      rw [Datetime.minutes, Datetime.seconds, Int.add_mul_ediv_right _ _ (by decide), Int.mul_comm]
    exact hshift
  rw [tokenAt, storedToken, getMqttCredentials, createMqttToken,
    parseJwtExp_token env hcompact _ (hend.symm ▸ hexp)]
  exact congrArg (fun exp => StoredToken.expiring exp _) hend

/-- Every timer for a renewal was armed by a read of a token that is five minutes
    from its end when the timer is due. -/
theorem renewed_in_time (env : Env) (hcompact : Compact env.encode) (as : List Action)
    (s : Service) (hrun : run step initial as = some s)
    (htokens : ∀ i token, .read i token ∈ as → token = .absent ∨ ∃ db user issued now,
      IsInt64 (endOf env issued) ∧ token = tokenAt env db user issued now) :
    ∀ d ∈ running s.refreshTimer, 0 < d ∧ ∃ i db user issued now,
      .read i (tokenAt env db user issued now) ∈ as ∧
      d = endOf env issued - 300 - now.tdiv 1000 := by
  -- Along the run, every timer has a read behind it.
  have hread : ∀ d ∈ running s.refreshTimer, ∃ i exp now,
      .read i (.expiring exp now) ∈ as ∧ 0 < d ∧ d = exp - 300 - now := by
    refine run_invariant_along step (fun _ a => a ∈ as)
      (fun t => ∀ d ∈ running t.refreshTimer, ∃ i exp now,
        .read i (.expiring exp now) ∈ as ∧ 0 < d ∧ d = exp - 300 - now) ?_ as initial s
      (fun d hd => absurd hd List.not_mem_nil)
      (along_of_forall step (fun a => a ∈ as) as initial (fun a ha => ha)) hrun
    intro t a t' ht ha hstep d hd
    rcases running_step t t' a hstep d hd with hd | ⟨i, exp, now, rfl, hpos, hdelay⟩
    · exact ht d hd
    · exact ⟨i, exp, now, ha, hpos, hdelay⟩
  intro d hd
  rcases hread d hd with ⟨i, exp, now, hin, hpos, hdelay⟩
  rcases htokens i _ hin with habsent | ⟨db, user, issued, nowMs, hexp, htoken⟩
  · cases habsent
  · have heq := htoken.trans (tokenAt_eq env hcompact db user issued nowMs hexp)
    cases heq
    exact ⟨hpos, i, db, user, issued, nowMs, htoken ▸ hin, hdelay⟩

/-- `{"alg":"HS256","typ":"JWT"}` -/
def jwsHeader : List Nat :=
  [123, 34, 97, 108, 103, 34, 58, 34, 72, 83, 50, 53, 54, 34, 44, 34, 116, 121, 112, 34, 58, 34,
    74, 87, 84, 34, 125]

/-- The signature of the one token that is looked at. -/
def jwsSignature : List Nat :=
  [128, 183, 192, 207, 30, 54, 146, 31, 226, 225, 240, 175, 53, 225, 52, 185, 64, 137, 211, 225,
    150, 80, 190, 227, 240, 143, 21, 96, 158, 219, 182, 171]

/-- A backend with one key, which signs all tokens alike. -/
def signing : Env where
  settings := {}
  sha256hex := fun raw => raw
  encode := fun c => String.ofList ((Base64.encode jwsHeader ++ 0x2E ::
    (Base64.encode (dumps (claimsDict c)) ++ 0x2E :: Base64.encode jwsSignature)).map Char.ofNat)
  decode := fun _ _ => none
  checkpw := fun _ _ => none
  verifyOauth2Token := fun _ => .error "Token expired"

theorem compact_signing : Compact signing.encode := by
  refine ⟨fun c => ⟨jwsHeader, jwsSignature, by decide, by decide, ?_⟩⟩
  have hdigit : ∀ bytes : List Nat, (∀ b ∈ bytes, b < 256) →
      ∀ u ∈ Base64.encode bytes, (Char.ofNat u).toNat = u := by
    intro bytes hbytes u hu
    have hu := Base64.mem_encode bytes hbytes u hu
    unfold Base64.Digit at hu
    have hall : ∀ u < 0x80, (Char.ofNat u).toNat = u := by decide
    exact hall u (by omega)
  have hpayload : ∀ b ∈ dumps (claimsDict c), b < 256 := by
    intro b hb
    have hb := ascii_dumps (claimsDict c) b hb
    omega
  rw [signing, Python.PyStr.ofString, String.toList_ofList, List.map_map]
  refine (List.map_congr_left (fun u hu => ?_)).trans (List.map_id _)
  simp only [List.mem_append, List.mem_cons] at hu
  rcases hu with hu | rfl | hu | rfl | hu
  · exact hdigit jwsHeader (by decide) u hu
  · rfl
  · exact hdigit _ hpayload u hu
  · rfl
  · exact hdigit jwsSignature (by decide) u hu

def owner : User := ⟨7, "google-7", "ana@vena.test"⟩

def board : Device := ⟨"vena-9c9c1f", "", none, none, none, "online"⟩

def ownedBoard : Database where
  users := [owner]
  devices := [board]
  userDevices := [⟨owner.id, board.id, none, 0⟩]
  tokens := []
  userKey := by decide
  googleKey := by decide
  deviceKey := by decide
  pairKey := by decide
  tokenKey := List.nodup_nil
  userFk := by decide
  deviceFk := by decide
  tokenFk := by decide

/-- The app connects twenty minutes after the backend issued its token. -/
def connecting : List Action :=
  [.connect, .fetched 0, .saved 0 false, .connack 0,
    .read 1 (tokenAt signing ownedBoard owner (Datetime.seconds 1000) 2200000)]

theorem renewed_in_time_connecting : ∃ s, run step initial connecting = some s ∧
    s.refreshTimer.armed = some 2100 ∧
    ∀ d ∈ running s.refreshTimer, 0 < d ∧ ∃ i db user issued now,
      .read i (tokenAt signing db user issued now) ∈ connecting ∧
      d = endOf signing issued - 300 - now.tdiv 1000 := by
  have htoken : tokenAt signing ownedBoard owner (Datetime.seconds 1000) 2200000 =
      .expiring 4600 2200 :=
    tokenAt_eq signing compact_signing ownedBoard owner (Datetime.seconds 1000) 2200000 (by decide)
  have hread : run step initial [.connect, .fetched 0, .saved 0 false, .connack 0,
      .read 1 (.expiring 4600 2200)] = run step initial connecting := by
    rw [connecting, htoken]
  have hend : (run step initial connecting).map (fun s => s.refreshTimer.armed) =
      some (some 2100) := by
    rw [← hread]
    decide
  rcases Option.map_eq_some_iff.mp hend with ⟨s, hrun, harmed⟩
  refine ⟨s, hrun, harmed, renewed_in_time signing compact_signing connecting s hrun ?_⟩
  intro i token hin
  simp only [connecting, List.mem_cons, reduceCtorEq, false_or, List.not_mem_nil, or_false,
    Action.read.injEq] at hin
  exact Or.inr ⟨ownedBoard, owner, Datetime.seconds 1000, 2200000, by decide, hin.2⟩

end Tokens

end MqttService

end Mobile

end Vena
