import Vena.Core.Run
import Vena.Core.Processes

/-!
# The MQTT service of the app

`MqttService` as a machine. Its methods run on one isolate, so a step is what
happens between two awaits: a call from outside, a timer that fires, a callback
of an `MqttServerClient`, or the completion of what a call in flight waits for.
The calls in flight are a pool, since nothing cancels one that waits, and every
client the service ever created is kept with its phase, since `_client` holds
the last one only.

The package that implements the clients is outside. A client is connecting,
connected or closed, and a closed one stays closed. It calls `onConnected` with
the CONNACK, which also completes `connect`. Whether `client.disconnect()` calls
`onDisconnected` is left open (`told`).

## Main definitions

* `Service`: The fields of the service, its clients and its calls in flight.
* `connect`, `disconnect`, `onConnected`, `onDisconnected`, `scheduleReconnect`,
  `scheduleTokenRefresh`, `connectWithCredentials`: The methods.
* `step`: The service and its environment, interleaved.
* `Moves`: What a step can do, and when.

## Theorems

* `disconnected`: What a disconnect does to each field.
* `step_moves`: A step does one of these.
-/

namespace Vena

namespace Mobile

namespace MqttService

open Run

inductive VenaMqttStatus where
  | connected
  | disconnected
  | reconnecting
  deriving DecidableEq, Repr

/-- Where an `MqttServerClient` stands. -/
inductive Phase where
  | connecting
  | connected
  | closed
  deriving DecidableEq, Repr

/-- A `Timer?` field, by delays in seconds: the timer it holds, while that is
    armed, and the armed ones that were overwritten without being cancelled. -/
structure TimerField where
  armed : Option Int
  orphans : List Int
  deriving DecidableEq, Repr

def TimerField.cancel (t : TimerField) : TimerField := { t with armed := none }

def TimerField.set (t : TimerField) (delay : Int) : TimerField :=
  { armed := some delay, orphans := t.armed.toList ++ t.orphans }

/-- The timer the field holds fires, or the orphan of the given position. -/
def TimerField.fire (t : TimerField) : Option Nat → Option TimerField
  | none => if t.armed.isSome then some t.cancel else none
  | some j =>
    if j < t.orphans.length then some { t with orphans := t.orphans.eraseIdx j } else none

/-- `connect` and `_doTokenRefresh` get credentials and dial the same way. -/
inductive Caller where
  | connect
  | refresh
  deriving DecidableEq, Repr

/-- What such a call waits for: the credentials, the storage, or the client. -/
inductive Await where
  | fetch
  | save
  | dial (k : Nat)
  deriving DecidableEq, Repr

/-- A call in flight. `readToken` is `_scheduleTokenRefresh`, waiting for the
    storage. -/
inductive Task where
  | attempt (caller : Caller) (await : Await)
  | readToken
  | done
  deriving DecidableEq, Repr

structure Service where
  clients : List Phase
  client : Option Nat
  /-- The client whose updates are listened to. -/
  updatesSubscription : Option Nat
  deviceIds : List String
  reconnectAttempts : Nat
  intentionalDisconnect : Bool
  refreshTimer : TimerField
  reconnectTimer : TimerField
  disconnectTimer : Bool
  tasks : List Task
  /-- What went out on `connectionState`, the latest last. -/
  emitted : List VenaMqttStatus
  /-- How often a client was told to connect. -/
  dials : Nat
  deriving DecidableEq, Repr

def initial : Service where
  clients := []
  client := none
  updatesSubscription := none
  deviceIds := []
  reconnectAttempts := 0
  intentionalDisconnect := false
  refreshTimer := ⟨none, []⟩
  reconnectTimer := ⟨none, []⟩
  disconnectTimer := false
  tasks := []
  emitted := []
  dials := 0

def emitState (status : VenaMqttStatus) (s : Service) : Service :=
  { s with emitted := s.emitted ++ [status] }

/-- `_client?.connectionStatus?.state == MqttConnectionState.connected` -/
def isConnected (s : Service) : Bool :=
  match s.client with
  | none => false
  | some k => s.clients[k]? == some .connected

/-- Seconds, capped at 30. -/
def delays : List Int := [2, 4, 8, 16, 30]

def scheduleReconnect (s : Service) : Service :=
  let s := emitState .reconnecting s
  { s with
    reconnectTimer := s.reconnectTimer.set
      (delays.getD (min s.reconnectAttempts (delays.length - 1)) 30)
    reconnectAttempts := s.reconnectAttempts + 1 }

def onDisconnected (s : Service) : Service :=
  let s := emitState .disconnected { s with updatesSubscription := none }
  -- Every client shares this callback, also one that `_client` no longer holds.
  if s.intentionalDisconnect then s else scheduleReconnect s

/-- `_client?.disconnect()` -/
def closeClient (told : Bool) (s : Service) : Service :=
  match s.client with
  | none => s
  | some k =>
    let s := { s with clients := s.clients.set k .closed }
    -- The package may or may not report a close that it was asked for.
    if told then onDisconnected s else s

/-- `connect`, up to its first await. -/
def connect (s : Service) : Service :=
  -- Only an open connection stops the call: one in flight does not.
  if isConnected s then s
  else { s with
    intentionalDisconnect := false
    reconnectTimer := s.reconnectTimer.cancel
    tasks := s.tasks ++ [.attempt .connect .fetch] }

def cancelAllTimers (s : Service) : Service :=
  { s with
    refreshTimer := s.refreshTimer.cancel
    reconnectTimer := s.reconnectTimer.cancel
    disconnectTimer := false }

def disconnect (told : Bool) (s : Service) : Service :=
  let s := cancelAllTimers { s with intentionalDisconnect := true }
  -- The calls in flight are left alone: nothing here cancels a future.
  let s := closeClient told { s with updatesSubscription := none }
  emitState .disconnected { s with client := none }

/-- What the service has done that an observer can tell. -/
def Silent (s t : Service) : Prop :=
  t.dials = s.dials ∧ t.emitted.count .connected = s.emitted.count .connected

theorem silent_refl (s : Service) : Silent s s := ⟨rfl, rfl⟩

theorem silent_trans (s t u : Service) (hst : Silent s t) (htu : Silent t u) : Silent s u :=
  ⟨htu.1.trans hst.1, htu.2.trans hst.2⟩

/-- While the disconnect is intentional, the callback changes nothing else. -/
theorem onDisconnected_intentional (s : Service) (h : s.intentionalDisconnect = true) :
    onDisconnected s = emitState .disconnected { s with updatesSubscription := none } := by
  rw [onDisconnected]
  exact if_pos h

/-- A disconnect, field by field. -/
structure Disconnected (s t : Service) : Prop where
  intentional : t.intentionalDisconnect = true
  client : t.client = none
  tasks : t.tasks = s.tasks
  reconnectTimer : t.reconnectTimer = s.reconnectTimer.cancel
  refreshTimer : t.refreshTimer = s.refreshTimer.cancel
  /-- The client that `_client` holds is closed, the others are left alone. -/
  clients : t.clients = match s.client with
    | none => s.clients
    | some k => s.clients.set k .closed
  silent : Silent s t

theorem disconnected (told : Bool) (s : Service) : Disconnected s (disconnect told s) := by
  have hcount : ∀ es : List VenaMqttStatus,
      (es ++ [VenaMqttStatus.disconnected]).count .connected = es.count .connected := by
    intro es
    simp only [List.count_append, List.count_singleton, beq_iff_eq, reduceCtorEq, if_false,
      Nat.add_zero]
  cases hclient : s.client with
  | none =>
      simp only [disconnect, cancelAllTimers, closeClient, hclient]
      exact ⟨rfl, rfl, rfl, rfl, rfl, by rw [hclient]; rfl, rfl, hcount s.emitted⟩
  | some k =>
      cases told with
      | false =>
          simp only [disconnect, cancelAllTimers, closeClient, hclient, Bool.false_eq_true,
            if_false]
          exact ⟨rfl, rfl, rfl, rfl, rfl, by rw [hclient]; rfl, rfl, hcount s.emitted⟩
      | true =>
          simp only [disconnect, cancelAllTimers, closeClient, hclient, if_true]
          -- The flag is set before the client is closed, so its callback only reports.
          rw [onDisconnected_intentional _ rfl]
          exact ⟨rfl, rfl, rfl, rfl, rfl, by rw [hclient]; rfl, rfl,
            (hcount (s.emitted ++ [VenaMqttStatus.disconnected])).trans (hcount s.emitted)⟩

/-- `_doTokenRefresh`, up to its first await. -/
def doTokenRefresh (s : Service) : Service :=
  { s with tasks := s.tasks ++ [.attempt .refresh .fetch] }

/-- `_connectWithCredentials`, called by task `i`. -/
def connectWithCredentials (i : Nat) (caller : Caller) (s : Service) : Service :=
  let k := s.clients.length
  -- The flag is not read again here, although two awaits have passed since `connect` set it.
  let s := emitState .reconnecting
    { s with clients := s.clients ++ [.connecting], client := some k }
  { s with dials := s.dials + 1, tasks := s.tasks.set i (.attempt caller (.dial k)) }

/-- `_scheduleTokenRefresh`, up to its await. -/
def scheduleTokenRefresh (s : Service) : Service :=
  { s with refreshTimer := s.refreshTimer.cancel, tasks := s.tasks ++ [.readToken] }

/-- The callback works on whatever `_client` is. It throws where that is null,
    where it has topics to subscribe to on a client that is not connected, and
    where the client has no updates because it is closed. -/
def onConnected (s : Service) : Service :=
  let s := emitState .connected { s with reconnectAttempts := 0 }
  match s.client with
  | none => s
  | some k =>
    -- `subscribe` throws before the listener is replaced.
    if s.deviceIds ≠ [] ∧ s.clients[k]? ≠ some .connected then s
    else if s.clients[k]? = some .closed then { s with updatesSubscription := none }
    else scheduleTokenRefresh { s with updatesSubscription := some k }

/-- The handler of the `catch` around the attempt of task `i`. -/
def attemptFailed (i : Nat) (caller : Caller) (s : Service) : Service :=
  let s := { s with tasks := s.tasks.set i .done }
  match caller with
  -- Only `connect` retries; a failed refresh is logged and forgotten.
  | .connect => scheduleReconnect (emitState .disconnected s)
  | .refresh => s

/-- What `_scheduleTokenRefresh` finds in the storage: nothing, a token that
    `_parseJwtExp` throws on, or an expiry, with the time it is compared to. -/
inductive StoredToken where
  | absent
  | malformed
  | expiring (exp now : Int)
  deriving DecidableEq, Repr

/-- The rest of `_scheduleTokenRefresh`, run by task `i`. -/
def tokenRead (i : Nat) (s : Service) : StoredToken → Service
  | .absent => { s with tasks := s.tasks.set i .done }
  | .malformed => { s with tasks := s.tasks.set i .done }
  | .expiring exp now =>
    let delay := exp - 300 - now
    -- Five minutes before the expiry, or at once where these have begun.
    if delay ≤ 0 then { s with tasks := s.tasks.set i (.attempt .refresh .fetch) }
    else { s with tasks := s.tasks.set i .done, refreshTimer := s.refreshTimer.set delay }

/-- A client that connects completes the calls that wait for it. -/
def Task.dialed (k : Nat) : Task → Task
  | .attempt caller (.dial j) => if j = k then .done else .attempt caller (.dial j)
  | task => task

inductive Action where
  /-- A call from outside: after the login, or when the app resumes. -/
  | connect
  | disconnect (told : Bool)
  | scheduleBackgroundDisconnect
  | cancelBackgroundDisconnect
  | subscribe (deviceIds : List String)
  /-- A timer fires, the one the field holds or an orphan. -/
  | reconnectFires (orphan : Option Nat)
  | refreshFires (orphan : Option Nat)
  | disconnectFires (told : Bool)
  /-- What task `i` waits for completes. -/
  | fetched (i : Nat)
  | saved (i : Nat) (told : Bool)
  | failed (i : Nat)
  | read (i : Nat) (token : StoredToken)
  /-- A client is connected, or its connection ends. -/
  | connack (k : Nat)
  | closed (k : Nat)
  deriving DecidableEq, Repr

def step (s : Service) : Action → Option Service
  | .connect => some (connect s)
  | .disconnect told => some (disconnect told s)
  | .scheduleBackgroundDisconnect => some { s with disconnectTimer := true }
  | .cancelBackgroundDisconnect => some { s with disconnectTimer := false }
  | .subscribe deviceIds => some { s with deviceIds }
  | .reconnectFires orphan => do
    let reconnectTimer ← s.reconnectTimer.fire orphan
    return connect { s with reconnectTimer }
  | .refreshFires orphan => do
    let refreshTimer ← s.refreshTimer.fire orphan
    return doTokenRefresh { s with refreshTimer }
  | .disconnectFires told =>
    if s.disconnectTimer then some (disconnect told { s with disconnectTimer := false }) else none
  | .fetched i => match s.tasks[i]? with
    | some (.attempt caller .fetch) =>
      some { s with tasks := s.tasks.set i (.attempt caller .save) }
    | _ => none
  | .saved i told => match s.tasks[i]? with
    | some (.attempt .connect .save) => some (connectWithCredentials i .connect s)
    | some (.attempt .refresh .save) =>
      -- A refresh closes the client it replaces, `connect` does not.
      some (connectWithCredentials i .refresh (closeClient told s))
    | _ => none
  | .failed i => match s.tasks[i]? with
    | some (.attempt caller (.dial k)) =>
      some (attemptFailed i caller { s with clients := s.clients.set k .closed })
    | some (.attempt caller _) => some (attemptFailed i caller s)
    | _ => none
  | .read i token => match s.tasks[i]? with
    | some .readToken => some (tokenRead i s token)
    | _ => none
  | .connack k =>
    if s.clients[k]? = some .connecting then
      -- The client is connected before its callback runs, whichever `_client` is by then.
      some (onConnected { s with
        clients := s.clients.set k .connected
        tasks := s.tasks.map (Task.dialed k) })
    else none
  | .closed k =>
    if s.clients[k]? = some .connecting ∨ s.clients[k]? = some .connected then
      some (onDisconnected { s with clients := s.clients.set k .closed })
    else none

/-- What a step can do, and when. -/
inductive Moves (s : Service) : Action → Service → Prop
  | connect : Moves s .connect (connect s)
  | disconnect (told : Bool) : Moves s (.disconnect told) (disconnect told s)
  | scheduleBackgroundDisconnect :
    Moves s .scheduleBackgroundDisconnect { s with disconnectTimer := true }
  | cancelBackgroundDisconnect :
    Moves s .cancelBackgroundDisconnect { s with disconnectTimer := false }
  | subscribe (deviceIds : List String) : Moves s (.subscribe deviceIds) { s with deviceIds }
  | reconnectFires (orphan : Option Nat) (reconnectTimer : TimerField)
      (hfire : s.reconnectTimer.fire orphan = some reconnectTimer) :
    Moves s (.reconnectFires orphan) (MqttService.connect { s with reconnectTimer })
  | refreshFires (orphan : Option Nat) (refreshTimer : TimerField)
      (hfire : s.refreshTimer.fire orphan = some refreshTimer) :
    Moves s (.refreshFires orphan) (doTokenRefresh { s with refreshTimer })
  | disconnectFires (told : Bool) :
    Moves s (.disconnectFires told)
      (MqttService.disconnect told { s with disconnectTimer := false })
  | fetched (i : Nat) (caller : Caller) (hget : s.tasks[i]? = some (.attempt caller .fetch)) :
    Moves s (.fetched i) { s with tasks := s.tasks.set i (.attempt caller .save) }
  | savedConnect (i : Nat) (told : Bool) (hget : s.tasks[i]? = some (.attempt .connect .save)) :
    Moves s (.saved i told) (connectWithCredentials i .connect s)
  | savedRefresh (i : Nat) (told : Bool) (hget : s.tasks[i]? = some (.attempt .refresh .save)) :
    Moves s (.saved i told) (connectWithCredentials i .refresh (closeClient told s))
  | failedDial (i : Nat) (caller : Caller) (k : Nat)
      (hget : s.tasks[i]? = some (.attempt caller (.dial k))) :
    Moves s (.failed i) (attemptFailed i caller { s with clients := s.clients.set k .closed })
  | failedBefore (i : Nat) (caller : Caller) (await : Await) (hne : ∀ k, await ≠ .dial k)
      (hget : s.tasks[i]? = some (.attempt caller await)) :
    Moves s (.failed i) (attemptFailed i caller s)
  | read (i : Nat) (token : StoredToken) (hget : s.tasks[i]? = some .readToken) :
    Moves s (.read i token) (tokenRead i s token)
  | connack (k : Nat) (hk : s.clients[k]? = some .connecting) :
    Moves s (.connack k) (onConnected { s with
      clients := s.clients.set k .connected
      tasks := s.tasks.map (Task.dialed k) })
  | closed (k : Nat)
      (hlive : s.clients[k]? = some .connecting ∨ s.clients[k]? = some .connected) :
    Moves s (.closed k) (onDisconnected { s with clients := s.clients.set k .closed })

theorem step_moves (s s' : Service) (a : Action) (hstep : step s a = some s') : Moves s a s' := by
  cases a with
  | connect => exact Option.some.inj hstep ▸ .connect
  | disconnect told => exact Option.some.inj hstep ▸ .disconnect told
  | scheduleBackgroundDisconnect => exact Option.some.inj hstep ▸ .scheduleBackgroundDisconnect
  | cancelBackgroundDisconnect => exact Option.some.inj hstep ▸ .cancelBackgroundDisconnect
  | subscribe deviceIds => exact Option.some.inj hstep ▸ .subscribe deviceIds
  | reconnectFires orphan =>
      rcases Option.bind_eq_some_iff.mp hstep with ⟨reconnectTimer, hfire, heq⟩
      exact Option.some.inj heq ▸ .reconnectFires orphan reconnectTimer hfire
  | refreshFires orphan =>
      rcases Option.bind_eq_some_iff.mp hstep with ⟨refreshTimer, hfire, heq⟩
      exact Option.some.inj heq ▸ .refreshFires orphan refreshTimer hfire
  | disconnectFires told =>
      rw [step] at hstep
      split at hstep
      · exact Option.some.inj hstep ▸ .disconnectFires told
      · exact absurd hstep (by simp only [reduceCtorEq, not_false_eq_true])
  | fetched i =>
      rw [step] at hstep
      split at hstep
      · next caller hget => exact Option.some.inj hstep ▸ .fetched i caller hget
      · exact absurd hstep (by simp only [reduceCtorEq, not_false_eq_true])
  | saved i told =>
      rw [step] at hstep
      split at hstep
      · next hget => exact Option.some.inj hstep ▸ .savedConnect i told hget
      · next hget => exact Option.some.inj hstep ▸ .savedRefresh i told hget
      · exact absurd hstep (by simp only [reduceCtorEq, not_false_eq_true])
  | failed i =>
      rw [step] at hstep
      split at hstep
      · next caller k hget => exact Option.some.inj hstep ▸ .failedDial i caller k hget
      · next caller await hne hget =>
          exact Option.some.inj hstep ▸ .failedBefore i caller await hne hget
      · exact absurd hstep (by simp only [reduceCtorEq, not_false_eq_true])
  | read i token =>
      rw [step] at hstep
      split at hstep
      · next hget => exact Option.some.inj hstep ▸ .read i token hget
      · exact absurd hstep (by simp only [reduceCtorEq, not_false_eq_true])
  | connack k =>
      rw [step] at hstep
      split at hstep
      · next hk => exact Option.some.inj hstep ▸ .connack k hk
      · exact absurd hstep (by simp only [reduceCtorEq, not_false_eq_true])
  | closed k =>
      rw [step] at hstep
      split at hstep
      · next hlive => exact Option.some.inj hstep ▸ .closed k hlive
      · exact absurd hstep (by simp only [reduceCtorEq, not_false_eq_true])

/-- Whatever the storage holds, only a timer and the task are set. -/
theorem tokenRead_eq (i : Nat) (s : Service) (token : StoredToken) :
    ∃ tasks refreshTimer, tokenRead i s token = { s with tasks, refreshTimer } := by
  cases token with
  | absent => exact ⟨_, _, rfl⟩
  | malformed => exact ⟨_, _, rfl⟩
  | expiring exp now =>
      by_cases hdue : exp - 300 - now ≤ 0
      · exact ⟨_, s.refreshTimer, if_pos hdue⟩
      · exact ⟨_, _, if_neg hdue⟩

end MqttService

end Mobile

end Vena
