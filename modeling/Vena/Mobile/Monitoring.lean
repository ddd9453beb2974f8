import Vena.Mobile.MqttService
import Vena.Mobile.DeviceSync

/-!
# The devices the app listens to

The service subscribes the devices it was given last, at once and again with
every CONNACK. `_postLoginSetup` is the only caller: it syncs the device list,
asks the local table for its ids and hands them over. The table has other
writers. A pairing syncs after the claim and again at its end, and so do a
pull-to-refresh and a claim from the device page. What they add, nobody hands
to the service.

A session begins with the login and its setup. A login may follow another one,
so there are more setups later. The calls in flight are a pool and interleave
between any two awaits, with each other and with the steps of the service. What
the backend lists is an input. The package takes every topic.

## Main definitions

* `Session`: The service, the topics each client has subscribed to, the table
  and the calls that sync.
* `step`: The session and its environment.
* `Monitored`: Every stored device is subscribed to.
* `Careful`: No step leaves a device to nobody.
* `Covered`: Every stored device is subscribed to, or about to be.

## Theorems

* `kept_step`, `connack_step`: What a step of the service does to its list and
  to the connected client.
* `replayed_step`: The connected client has the service's list.
* `covered_step`: What a careful step keeps.
* `devices_monitored`: Careful runs monitor every known device.
* `paired_unmonitored`: A pairing with the connection open.
-/

namespace Vena

namespace Mobile

namespace MqttService

/-- What a step that is no CONNACK and no `subscribe` keeps. -/
structure Kept (s s' : Service) : Prop where
  deviceIds : s'.deviceIds = s.deviceIds
  /-- The client that is connected and held was so before. -/
  held : ∀ k, s'.client = some k → s'.clients[k]? = some .connected →
    s.client = some k ∧ s.clients[k]? = some .connected
  /-- No client is forgotten. -/
  length : s.clients.length ≤ s'.clients.length

theorem kept_of_same (s s' : Service) (hids : s'.deviceIds = s.deviceIds)
    (hclient : s'.client = s.client) (hclients : s'.clients = s.clients) : Kept s s' := by
  refine ⟨hids, fun k hheld hk => ?_, hclients ▸ Nat.le_refl _⟩
  rw [hclient] at hheld
  rw [hclients] at hk
  exact ⟨hheld, hk⟩

/-- A client that closes leaves the others as they are. -/
theorem kept_of_close (s s' : Service) (j : Nat) (hids : s'.deviceIds = s.deviceIds)
    (hclient : s'.client = s.client) (hclients : s'.clients = s.clients.set j .closed) :
    Kept s s' := by
  refine ⟨hids, fun k hheld hk => ?_, by rw [hclients, List.length_set]⟩
  rw [hclient] at hheld
  rw [hclients] at hk
  rcases Processes.getElem?_set_cases s.clients j k .closed .connected hk with
    ⟨_, hclosed⟩ | ⟨_, hold⟩
  · exact absurd hclosed Phase.noConfusion
  · exact ⟨hheld, hold⟩

theorem onDisconnected_fields (s : Service) : (onDisconnected s).deviceIds = s.deviceIds ∧
    (onDisconnected s).client = s.client ∧ (onDisconnected s).clients = s.clients := by
  unfold onDisconnected
  dsimp only
  split
  · exact ⟨rfl, rfl, rfl⟩
  · exact ⟨rfl, rfl, rfl⟩

theorem onConnected_fields (s : Service) : (onConnected s).deviceIds = s.deviceIds ∧
    (onConnected s).client = s.client ∧ (onConnected s).clients = s.clients := by
  unfold onConnected
  dsimp only [emitState, scheduleTokenRefresh]
  split
  · exact ⟨rfl, rfl, rfl⟩
  · split
    · exact ⟨rfl, rfl, rfl⟩
    · split
      · exact ⟨rfl, rfl, rfl⟩
      · exact ⟨rfl, rfl, rfl⟩

theorem closeClient_fields (told : Bool) (s : Service) :
    (closeClient told s).deviceIds = s.deviceIds ∧
      (closeClient told s).clients.length = s.clients.length := by
  unfold closeClient
  split
  · exact ⟨rfl, rfl⟩
  · next k _ =>
      rcases onDisconnected_fields { s with clients := s.clients.set k .closed } with
        ⟨hids, _, hclients⟩
      dsimp only
      split
      · exact ⟨hids, by rw [hclients, List.length_set]⟩
      · exact ⟨rfl, List.length_set⟩

/-- After a disconnect no client is held. -/
theorem kept_disconnect (told : Bool) (s : Service) : Kept s (disconnect told s) := by
  rcases closeClient_fields told
    { cancelAllTimers { s with intentionalDisconnect := true } with
      updatesSubscription := none } with ⟨hids, hlength⟩
  refine ⟨hids, fun k hheld _ => ?_, Nat.le_of_eq hlength.symm⟩
  rw [(disconnected told s).client] at hheld
  exact absurd hheld (by simp only [reduceCtorEq, not_false_eq_true])

theorem kept_connect (s : Service) : Kept s (connect s) := by
  unfold connect
  split
  · exact kept_of_same s s rfl rfl rfl
  · exact kept_of_same s _ rfl rfl rfl

/-- The new client is not connected yet. -/
theorem kept_connectWithCredentials (i : Nat) (caller : Caller) (s s' : Service)
    (hids : s'.deviceIds = s.deviceIds) (hlength : s'.clients.length = s.clients.length) :
    Kept s (connectWithCredentials i caller s') := by
  refine ⟨hids, fun k hheld hk => ?_, ?_⟩
  · have hlast : some s'.clients.length = some k := hheld
    rw [Option.some.injEq] at hlast
    have hnew : (s'.clients ++ [Phase.connecting])[k]? = some .connected := hk
    rw [← hlast, List.getElem?_concat_length, Option.some.injEq] at hnew
    exact absurd hnew Phase.noConfusion
  · have hnew : (connectWithCredentials i caller s').clients.length = s'.clients.length + 1 :=
      List.length_append
    omega

theorem kept_step (s : Service) (a : Action) (s' : Service) (hstep : step s a = some s')
    (hconnack : ∀ k, a ≠ .connack k) (hsubscribe : ∀ ids, a ≠ .subscribe ids) : Kept s s' := by
  cases step_moves s s' a hstep with
  | connect => exact kept_connect s
  | disconnect told => exact kept_disconnect told s
  | scheduleBackgroundDisconnect => exact kept_of_same s _ rfl rfl rfl
  | cancelBackgroundDisconnect => exact kept_of_same s _ rfl rfl rfl
  | subscribe ids => exact absurd rfl (hsubscribe ids)
  -- A timer that fires clears itself first, which no field of `Kept` sees.
  | reconnectFires orphan reconnectTimer hfire =>
      have hkept := kept_connect { s with reconnectTimer }
      exact ⟨hkept.deviceIds, hkept.held, hkept.length⟩
  | refreshFires orphan refreshTimer hfire => exact kept_of_same s _ rfl rfl rfl
  | disconnectFires told =>
      have hkept := kept_disconnect told { s with disconnectTimer := false }
      exact ⟨hkept.deviceIds, hkept.held, hkept.length⟩
  | fetched i caller hget => exact kept_of_same s _ rfl rfl rfl
  | savedConnect i told hget => exact kept_connectWithCredentials i .connect s s rfl rfl
  | savedRefresh i told hget =>
      rcases closeClient_fields told s with ⟨hids, hlength⟩
      exact kept_connectWithCredentials i .refresh s _ hids hlength
  | failedDial i caller k hget =>
      cases caller with
      | connect => exact kept_of_close s _ k rfl rfl rfl
      | refresh => exact kept_of_close s _ k rfl rfl rfl
  | failedBefore i caller await hne hget =>
      cases caller with
      | connect => exact kept_of_same s _ rfl rfl rfl
      | refresh => exact kept_of_same s _ rfl rfl rfl
  | read i token hget =>
      rcases tokenRead_eq i s token with ⟨tasks, refreshTimer, heq⟩
      rw [heq]
      exact kept_of_same s _ rfl rfl rfl
  | connack k hk => exact absurd rfl (hconnack k)
  | closed k hlive =>
      rcases onDisconnected_fields { s with clients := s.clients.set k .closed } with
        ⟨hids, hclient, hclients⟩
      exact kept_of_close s _ k hids hclient hclients

theorem connack_step (s s' : Service) (k : Nat) (hstep : step s (.connack k) = some s') :
    s'.deviceIds = s.deviceIds ∧ s'.client = s.client ∧
      s'.clients = s.clients.set k .connected := by
  cases step_moves s s' (.connack k) hstep with
  | connack k hk => exact onConnected_fields _

end MqttService

namespace Monitoring

open Run DeviceList DeviceSync
open MqttService (Service isConnected kept_step connack_step)

def telemetryTopic (id : String) : String := "vena/" ++ id ++ "/telemetry"

def statusTopic (id : String) : String := "vena/" ++ id ++ "/status"

/-- What each client has subscribed to, by its number. -/
abbrev Subscriptions : Type := List (Nat × String)

/-- `_doSubscribe(_client!, deviceIds)`, which needs a client that is connected. -/
def doSubscribe (s : Service) (deviceIds : List String) (subs : Subscriptions) : Subscriptions :=
  match s.client with
  | none => subs
  | some k =>
    if isConnected s then
      subs ++ deviceIds.flatMap (fun id => [(k, telemetryTopic id), (k, statusTopic id)])
    else subs

/-- `DeviceDao.getAllDeviceIds`. -/
def getAllDeviceIds (table : LocalDevices) : List String := table.rows.map LocalDevice.deviceId

/-- `DeviceDao.updateStoredContent`. -/
def updateStoredContent (table : LocalDevices) (deviceId : String) (content : Option String) :
    LocalDevices where
  rows := table.rows.map (fun row =>
    if row.deviceId = deviceId then { row with storedContent := content } else row)
  key := by
    rw [Keyed.map_key_update LocalDevice.deviceId table.rows
      (fun row => row.deviceId = deviceId) (fun row => { row with storedContent := content })
      (fun _ _ => rfl)]
    exact table.key

/-- Who calls `syncDeviceList`. -/
inductive Caller where
  | postLoginSetup
  | devicesScreen
  | claimDevice
  | doClaim
  | finishWithAlias
  deriving DecidableEq, Repr

/-- Where such a call stands: what comes before its sync, the sync, and for
    `_postLoginSetup` the query for the ids and the answer to it. -/
inductive Stage where
  | before
  | listing
  | storing (devices : List DeviceDto)
  | querying
  | answered (deviceIds : List String)
  | done
  deriving DecidableEq

structure Call where
  caller : Caller
  stage : Stage
  deriving DecidableEq

/-- A claim waits for the backend or the outbox first, the end of a pairing for
    the alias. -/
def opening : Caller → Stage
  | .postLoginSetup => .listing
  | .devicesScreen => .listing
  | .claimDevice => .before
  | .doClaim => .before
  | .finishWithAlias => .before

/-- After the sync, failed or not: the setup catches what the sync throws. -/
def afterSync : Caller → Stage
  | .postLoginSetup => .querying
  | _ => .done

/-- The loop of `syncDeviceList` over what is left of the list. -/
def store (caller : Caller) : List DeviceDto → Stage
  | [] => afterSync caller
  | devices => .storing devices

structure Session where
  service : Service
  subscriptions : Subscriptions
  table : LocalDevices
  calls : List Call

/-- The login, over what earlier sessions left in the table. -/
def login (table : LocalDevices) : Session where
  service := MqttService.initial
  subscriptions := []
  table := table
  calls := [⟨.postLoginSetup, .listing⟩]

/-- How a call goes on: to its sync, with the list, with the next row of it, with
    the ids of the table, or what it waits for fails. -/
inductive Move where
  | sync
  | list (devices : List DeviceDto)
  | upsert
  | query
  | fail
  deriving DecidableEq

/-- Where a call goes, and the table then. -/
def move (table : LocalDevices) : Call → Move → Option (Stage × LocalDevices)
  | ⟨_, .before⟩, .sync => some (.listing, table)
  | ⟨caller, .listing⟩, .list devices => some (store caller devices, table)
  | ⟨caller, .storing (dto :: devices)⟩, .upsert =>
    some (store caller devices, upsertDevice table dto)
  | ⟨_, .querying⟩, .query => some (.answered (getAllDeviceIds table), table)
  | ⟨_, .before⟩, .fail => some (.done, table)
  | ⟨caller, .listing⟩, .fail => some (afterSync caller, table)
  | ⟨caller, .storing _⟩, .fail => some (afterSync caller, table)
  -- The setup does not catch this one, so it neither subscribes nor connects.
  | ⟨_, .querying⟩, .fail => some (.done, table)
  | _, _ => none

inductive Action where
  | call (caller : Caller)
  | move (i : Nat) (m : Move)
  /-- The setup that is call `i` ends with its list. -/
  | subscribe (i : Nat)
  | updateAlias (deviceId deviceAlias : String)
  | updateStoredContent (deviceId : String) (content : Option String)
  | service (a : MqttService.Action)
  deriving DecidableEq

def isSubscribe : MqttService.Action → Bool
  | .subscribe _ => true
  | _ => false

/-- `_onConnected` subscribes the list again, on whatever `_client` is. -/
def resubscribe (a : MqttService.Action) (s : Service) (subs : Subscriptions) : Subscriptions :=
  match a with
  | .connack _ => doSubscribe s s.deviceIds subs
  | _ => subs

/-- `MqttService.subscribe`, and the `connect()` after it. -/
def subscribe (deviceIds : List String) (s : Session) : Session :=
  { s with
    service := MqttService.connect { s.service with deviceIds }
    subscriptions := doSubscribe s.service deviceIds s.subscriptions }

def step (s : Session) : Action → Option Session
  | .call caller => some { s with calls := s.calls ++ [⟨caller, opening caller⟩] }
  | .move i m => match s.calls[i]? with
    | some c => (move s.table c m).map (fun (stage, table) =>
        { s with table, calls := s.calls.set i { c with stage } })
    | none => none
  | .subscribe i => match s.calls[i]? with
    | some ⟨caller, .answered deviceIds⟩ =>
      some (subscribe deviceIds { s with calls := s.calls.set i ⟨caller, .done⟩ })
    | _ => none
  | .updateAlias deviceId deviceAlias =>
    some { s with table := DeviceSync.updateAlias s.table deviceId deviceAlias }
  | .updateStoredContent deviceId content =>
    some { s with table := Monitoring.updateStoredContent s.table deviceId content }
  | .service a =>
    -- The setup is the only caller of `subscribe`.
    if isSubscribe a then none
    else (MqttService.step s.service a).map (fun service =>
      { s with service, subscriptions := resubscribe a service s.subscriptions })

/-- Client `k` has both topics of the device. -/
def Subscribed (subs : Subscriptions) (k : Nat) (id : String) : Prop :=
  (k, telemetryTopic id) ∈ subs ∧ (k, statusTopic id) ∈ subs

instance (subs : Subscriptions) (k : Nat) (id : String) : Decidable (Subscribed subs k id) :=
  inferInstanceAs (Decidable (_ ∧ _))

/-- No sync and no pairing step is in progress. -/
def Settled (s : Session) : Prop := ∀ c ∈ s.calls, c.stage = .done

instance (s : Session) : Decidable (Settled s) := List.decidableBAll _ s.calls

/-- Connected and settled, the client listens to every device of the table. -/
def Monitored (s : Session) : Prop :=
  Settled s → ∀ k, s.service.client = some k → s.service.clients[k]? = some .connected →
    ∀ id ∈ getAllDeviceIds s.table, Subscribed s.subscriptions k id

def Stage.beforeQuery : Stage → Bool
  | .before => false
  | .listing => true
  | .storing _ => true
  | .querying => true
  | .answered _ => false
  | .done => false

/-- A setup that has yet to query the table. -/
def Ahead (c : Call) : Prop := c.caller = .postLoginSetup ∧ c.stage.beforeQuery = true

instance (c : Call) : Decidable (Ahead c) := inferInstanceAs (Decidable (_ ∧ _))

/-- The list a call is about to hand over, if it has it. -/
def Stage.answer : Stage → Option (List String)
  | .answered deviceIds => some deviceIds
  | _ => none

/-- A call that will hand over a list with all these devices. -/
def Covers (deviceIds : List String) (c : Call) : Prop :=
  Ahead c ∨ ∃ answer ∈ c.stage.answer, ∀ id ∈ deviceIds, id ∈ answer

instance (deviceIds : List String) (c : Call) : Decidable (Covers deviceIds c) :=
  inferInstanceAs (Decidable (_ ∨ _))

/-- Once call `i` is over, the list has every device of the table, or another
    call will hand over one that has. -/
def LeftTo (i : Nat) (answer : List String) (s : Session) : Prop :=
  (∀ id ∈ getAllDeviceIds s.table, id ∈ answer) ∨
    ∃ c ∈ s.calls.eraseIdx i, Covers (getAllDeviceIds s.table) c

instance (i : Nat) (answer : List String) (s : Session) : Decidable (LeftTo i answer s) :=
  inferInstanceAs (Decidable (_ ∨ _))

/-- A device that is stored is in the table already, or a setup has yet to query
    the table. A setup that ends leaves no device to nobody: one that subscribes
    its list, and one whose query fails. -/
def Careful (s : Session) : Action → Prop
  | .move i .upsert => match s.calls[i]? with
    | some ⟨_, .storing (dto :: _)⟩ =>
      dto.deviceId ∈ getAllDeviceIds s.table ∨ ∃ c ∈ s.calls, Ahead c
    | _ => True
  | .move i .fail => match s.calls[i]? with
    | some ⟨_, .querying⟩ => LeftTo i s.service.deviceIds s
    | _ => True
  | .subscribe i => match s.calls[i]? with
    | some ⟨_, .answered answer⟩ => LeftTo i answer s
    | _ => True
  | _ => True

instance (s : Session) : (a : Action) → Decidable (Careful s a)
  | .move i .upsert => by
      unfold Careful
      dsimp only
      split
      · exact inferInstance
      · exact inferInstance
  | .move i .fail => by
      unfold Careful
      dsimp only
      split
      · exact inferInstance
      · exact inferInstance
  | .subscribe i => by
      unfold Careful
      dsimp only
      split
      · exact inferInstance
      · exact inferInstance
  | .move _ .sync => instDecidableTrue
  | .move _ (.list _) => instDecidableTrue
  | .move _ .query => instDecidableTrue
  | .call _ => instDecidableTrue
  | .updateAlias _ _ => instDecidableTrue
  | .updateStoredContent _ _ => instDecidableTrue
  | .service _ => instDecidableTrue

/-- Every device of the table is in the service's list, or a call will hand over
    one with all of them. -/
def Covered (s : Session) : Prop :=
  (∀ id ∈ getAllDeviceIds s.table, id ∈ s.service.deviceIds) ∨
    ∃ c ∈ s.calls, Covers (getAllDeviceIds s.table) c

/-- The connected client has subscribed to the service's list. -/
def Replayed (s : Session) : Prop :=
  ∀ k, s.service.client = some k → s.service.clients[k]? = some .connected →
    ∀ id ∈ s.service.deviceIds, Subscribed s.subscriptions k id

theorem careful_upsert (s : Session) (i : Nat) (caller : Caller) (dto : DeviceDto)
    (devices : List DeviceDto) (hget : s.calls[i]? = some ⟨caller, .storing (dto :: devices)⟩) :
    Careful s (.move i .upsert) ↔
      (dto.deviceId ∈ getAllDeviceIds s.table ∨ ∃ c ∈ s.calls, Ahead c) := by
  simp only [Careful, hget]

theorem careful_fail (s : Session) (i : Nat) (caller : Caller)
    (hget : s.calls[i]? = some ⟨caller, .querying⟩) :
    Careful s (.move i .fail) ↔ LeftTo i s.service.deviceIds s := by
  simp only [Careful, hget]

theorem careful_subscribe (s : Session) (i : Nat) (caller : Caller) (answer : List String)
    (hget : s.calls[i]? = some ⟨caller, .answered answer⟩) :
    Careful s (.subscribe i) ↔ LeftTo i answer s := by
  simp only [Careful, hget]

theorem mem_upsertDevice (table : LocalDevices) (dto : DeviceDto) (id : String) :
    id ∈ getAllDeviceIds (upsertDevice table dto) ↔
      id ∈ getAllDeviceIds table ∨ id = dto.deviceId := by
  have hrows : getAllDeviceIds (upsertDevice table dto) =
      (upsertRows table.rows dto).map LocalDevice.deviceId := rfl
  rw [hrows]
  unfold getAllDeviceIds upsertRows
  by_cases hany : table.rows.any (fun row => row.deviceId = dto.deviceId) = true
  · rw [if_pos hany, Keyed.map_key_update LocalDevice.deviceId table.rows
      (fun row => row.deviceId = dto.deviceId) (fun row => toCompanion dto row.storedContent)
      (fun _ hrow => hrow.symm)]
    refine ⟨Or.inl, fun h => h.elim (fun hin => hin) (fun heq => ?_)⟩
    rcases List.any_eq_true.mp hany with ⟨row, hrow, hid⟩
    rw [heq, ← of_decide_eq_true hid]
    exact List.mem_map_of_mem hrow
  · rw [if_neg hany, List.map_append, List.mem_append, List.map_singleton, List.mem_singleton]
    rfl

theorem ids_updateAlias (table : LocalDevices) (deviceId deviceAlias : String) :
    getAllDeviceIds (DeviceSync.updateAlias table deviceId deviceAlias) =
      getAllDeviceIds table :=
  Keyed.map_key_update LocalDevice.deviceId table.rows (fun row => row.deviceId = deviceId)
    (fun row => { row with deviceAlias }) (fun _ _ => rfl)

theorem ids_updateStoredContent (table : LocalDevices) (deviceId : String)
    (content : Option String) :
    getAllDeviceIds (Monitoring.updateStoredContent table deviceId content) =
      getAllDeviceIds table :=
  Keyed.map_key_update LocalDevice.deviceId table.rows (fun row => row.deviceId = deviceId)
    (fun row => { row with storedContent := content }) (fun _ _ => rfl)

/-- A connected client has what it was told to subscribe to. -/
theorem subscribed_doSubscribe (s : Service) (deviceIds : List String) (subs : Subscriptions)
    (k : Nat) (hheld : s.client = some k) (hk : s.clients[k]? = some .connected) (id : String)
    (hid : id ∈ deviceIds) : Subscribed (doSubscribe s deviceIds subs) k id := by
  have hconnected : isConnected s = true := by
    unfold isConnected
    rw [hheld]
    exact beq_iff_eq.mpr hk
  unfold doSubscribe
  rw [hheld]
  dsimp only
  rw [if_pos hconnected]
  refine ⟨List.mem_append_right _ (List.mem_flatMap.mpr ⟨id, hid, ?_⟩),
    List.mem_append_right _ (List.mem_flatMap.mpr ⟨id, hid, ?_⟩)⟩
  · exact List.mem_cons_self
  · exact List.mem_cons_of_mem _ List.mem_cons_self

theorem connect_fields (s : Service) : (MqttService.connect s).deviceIds = s.deviceIds ∧
    (MqttService.connect s).client = s.client ∧
    (MqttService.connect s).clients = s.clients := by
  unfold MqttService.connect
  split
  · exact ⟨rfl, rfl, rfl⟩
  · exact ⟨rfl, rfl, rfl⟩

theorem deviceIds_subscribe (deviceIds : List String) (s : Session) :
    (subscribe deviceIds s).service.deviceIds = deviceIds :=
  (connect_fields { s.service with deviceIds }).1

theorem replayed_subscribe (deviceIds : List String) (s : Session) :
    Replayed (subscribe deviceIds s) := by
  rcases connect_fields { s.service with deviceIds } with ⟨_, hclient, hclients⟩
  intro k hheld hk id hid
  have hheld' : s.service.client = some k := hclient.symm.trans hheld
  have hk' : s.service.clients[k]? = some .connected := by
    rw [← hk]
    exact congrArg (fun clients => clients[k]?) hclients.symm
  have hid' : id ∈ deviceIds := (deviceIds_subscribe deviceIds s) ▸ hid
  exact subscribed_doSubscribe s.service deviceIds s.subscriptions k hheld' hk' id hid'

/-- A step of the service that the session may take, taken apart. -/
theorem service_step (s s' : Session) (a : MqttService.Action)
    (hstep : step s (.service a) = some s') :
    (∀ ids, a ≠ .subscribe ids) ∧ ∃ service, MqttService.step s.service a = some service ∧
      { s with service, subscriptions := resubscribe a service s.subscriptions } = s' := by
  rw [step] at hstep
  split at hstep
  · exact absurd hstep (by simp only [reduceCtorEq, not_false_eq_true])
  · next hnot =>
      refine ⟨fun ids heq => hnot (heq ▸ rfl), ?_⟩
      exact Option.map_eq_some_iff.mp hstep

theorem replayed_service (s : Session) (a : MqttService.Action) (s' : Session) (h : Replayed s)
    (hstep : step s (.service a) = some s') : Replayed s' := by
  rcases service_step s s' a hstep with ⟨hsubscribe, service, hservice, rfl⟩
  intro k hheld hk id hid
  by_cases hconnack : ∃ j, a = .connack j
  -- The CONNACK subscribes the whole list on the held client, if that is connected.
  · rcases hconnack with ⟨j, rfl⟩
    exact subscribed_doSubscribe service service.deviceIds s.subscriptions k hheld hk id hid
  · have hkept := kept_step s.service a service hservice
      (fun j heq => hconnack ⟨j, heq⟩) hsubscribe
    rcases hkept.held k hheld hk with ⟨hheld', hk'⟩
    have hold := h k hheld' hk' id (hkept.deviceIds ▸ hid)
    have hsame : resubscribe a service s.subscriptions = s.subscriptions := by
      unfold resubscribe
      split
      · next j => exact absurd ⟨j, rfl⟩ hconnack
      · rfl
    exact hsame.symm ▸ hold

/-- What the steps that are none of the service's do: they leave the service and
    its subscriptions alone, or they hand over a list. -/
theorem own_step (s : Session) (a : Action) (s' : Session) (hstep : step s a = some s')
    (hservice : ∀ b, a ≠ .service b) :
    (s'.service = s.service ∧ s'.subscriptions = s.subscriptions) ∨
      ∃ (i : Nat) (caller : Caller) (deviceIds : List String), a = .subscribe i ∧
        s.calls[i]? = some ⟨caller, .answered deviceIds⟩ ∧
        s' = subscribe deviceIds { s with calls := s.calls.set i ⟨caller, .done⟩ } := by
  cases a with
  | call caller =>
      rw [step, Option.some.injEq] at hstep
      rw [← hstep]
      exact Or.inl ⟨rfl, rfl⟩
  | move i m =>
      rw [step] at hstep
      split at hstep
      · rcases Option.map_eq_some_iff.mp hstep with ⟨⟨stage, table⟩, _, rfl⟩
        exact Or.inl ⟨rfl, rfl⟩
      · exact absurd hstep (by simp only [reduceCtorEq, not_false_eq_true])
  | subscribe i =>
      rw [step] at hstep
      split at hstep
      · next caller deviceIds hget =>
          rw [Option.some.injEq] at hstep
          exact Or.inr ⟨i, caller, deviceIds, rfl, hget, hstep.symm⟩
      · exact absurd hstep (by simp only [reduceCtorEq, not_false_eq_true])
  | updateAlias deviceId deviceAlias =>
      rw [step, Option.some.injEq] at hstep
      rw [← hstep]
      exact Or.inl ⟨rfl, rfl⟩
  | updateStoredContent deviceId content =>
      rw [step, Option.some.injEq] at hstep
      rw [← hstep]
      exact Or.inl ⟨rfl, rfl⟩
  | service b => exact absurd rfl (hservice b)

theorem replayed_step (s : Session) (a : Action) (s' : Session) (h : Replayed s)
    (hstep : step s a = some s') : Replayed s' := by
  by_cases hservice : ∃ b, a = .service b
  · rcases hservice with ⟨b, rfl⟩
    exact replayed_service s b s' h hstep
  · rcases own_step s a s' hstep (fun b heq => hservice ⟨b, heq⟩) with
      ⟨hsame, hsubs⟩ | ⟨i, caller, deviceIds, _, _, rfl⟩
    · unfold Replayed
      rw [hsame, hsubs]
      exact h
    · exact replayed_subscribe deviceIds _

theorem deviceIds_step (s s' : Service) (a : MqttService.Action)
    (hstep : MqttService.step s a = some s') (hsubscribe : ∀ ids, a ≠ .subscribe ids) :
    s'.deviceIds = s.deviceIds := by
  by_cases hconnack : ∃ k, a = .connack k
  · rcases hconnack with ⟨k, rfl⟩
    exact (connack_step s s' k hstep).1
  · exact (kept_step s a s' hstep (fun k heq => hconnack ⟨k, heq⟩) hsubscribe).deviceIds

theorem covers_mono (deviceIds deviceIds' : List String) (c : Call)
    (hsub : ∀ id ∈ deviceIds', id ∈ deviceIds) (h : Covers deviceIds c) : Covers deviceIds' c := by
  rcases h with hahead | ⟨answer, hanswer, hall⟩
  · exact Or.inl hahead
  · exact Or.inr ⟨answer, hanswer, fun id hid => hall id (hsub id hid)⟩

/-- What a call has not covered before its query, it covers by its query. -/
theorem ahead_store (caller : Caller) (devices : List DeviceDto) (h : caller = .postLoginSetup) :
    Ahead ⟨caller, store caller devices⟩ := by
  rw [h]
  cases devices with
  | nil => exact ⟨rfl, rfl⟩
  | cons dto devices => exact ⟨rfl, rfl⟩

theorem ahead_afterSync (caller : Caller) (h : caller = .postLoginSetup) :
    Ahead ⟨caller, afterSync caller⟩ := by
  rw [h]
  exact ⟨rfl, rfl⟩

theorem setup_of_covers (deviceIds : List String) (c : Call) (h : Covers deviceIds c)
    (hnone : c.stage.answer = none) : Ahead c := by
  rcases h with hahead | ⟨answer, hanswer, _⟩
  · exact hahead
  · rw [hnone] at hanswer
    exact absurd hanswer (Option.not_mem_none answer)

/-- A call that moves goes on covering the table it covered, and a query covers
    the table anyway. Only a query that fails ends this. -/
theorem covers_move (table : LocalDevices) (c : Call) (m : Move) (stage : Stage)
    (table' : LocalDevices) (hmove : move table c m = some (stage, table'))
    (hfail : m = .fail → c.stage ≠ .querying) (h : Covers (getAllDeviceIds table) c) :
    Covers (getAllDeviceIds table) { c with stage } := by
  unfold move at hmove
  split at hmove
  · next caller =>
      rw [Option.some.injEq, Prod.mk.injEq] at hmove
      exact Or.inl (hmove.1 ▸ ⟨(setup_of_covers _ _ h rfl).1, rfl⟩)
  · next caller devices =>
      rw [Option.some.injEq, Prod.mk.injEq] at hmove
      exact Or.inl (hmove.1 ▸ ahead_store caller devices (setup_of_covers _ _ h rfl).1)
  · next caller dto devices =>
      rw [Option.some.injEq, Prod.mk.injEq] at hmove
      exact Or.inl (hmove.1 ▸ ahead_store caller devices (setup_of_covers _ _ h rfl).1)
  · rw [Option.some.injEq, Prod.mk.injEq] at hmove
    rw [← hmove.1]
    exact Or.inr ⟨getAllDeviceIds table, rfl, fun _ hid => hid⟩
  -- A call that has not reached its sync covers nothing.
  · exact absurd (setup_of_covers _ _ h rfl).2 Bool.false_ne_true
  · next caller =>
      rw [Option.some.injEq, Prod.mk.injEq] at hmove
      exact Or.inl (hmove.1 ▸ ahead_afterSync caller (setup_of_covers _ _ h rfl).1)
  · next caller devices =>
      rw [Option.some.injEq, Prod.mk.injEq] at hmove
      exact Or.inl (hmove.1 ▸ ahead_afterSync caller (setup_of_covers _ _ h rfl).1)
  · exact absurd rfl (hfail rfl)
  · exact absurd hmove (by simp only [reduceCtorEq, not_false_eq_true])

/-- Only an upsert writes the table. -/
theorem table_move (table : LocalDevices) (c : Call) (m : Move) (stage : Stage)
    (table' : LocalDevices) (hmove : move table c m = some (stage, table')) :
    (m ≠ .upsert ∧ table' = table) ∨ ∃ dto devices, m = .upsert ∧
      c.stage = .storing (dto :: devices) ∧ stage = store c.caller devices ∧
      table' = upsertDevice table dto := by
  unfold move at hmove
  split at hmove
  · rw [Option.some.injEq, Prod.mk.injEq] at hmove
    exact Or.inl ⟨nofun, hmove.2.symm⟩
  · rw [Option.some.injEq, Prod.mk.injEq] at hmove
    exact Or.inl ⟨nofun, hmove.2.symm⟩
  · next caller dto devices =>
      rw [Option.some.injEq, Prod.mk.injEq] at hmove
      exact Or.inr ⟨dto, devices, rfl, rfl, hmove.1.symm, hmove.2.symm⟩
  · rw [Option.some.injEq, Prod.mk.injEq] at hmove
    exact Or.inl ⟨nofun, hmove.2.symm⟩
  · rw [Option.some.injEq, Prod.mk.injEq] at hmove
    exact Or.inl ⟨nofun, hmove.2.symm⟩
  · rw [Option.some.injEq, Prod.mk.injEq] at hmove
    exact Or.inl ⟨nofun, hmove.2.symm⟩
  · rw [Option.some.injEq, Prod.mk.injEq] at hmove
    exact Or.inl ⟨nofun, hmove.2.symm⟩
  · rw [Option.some.injEq, Prod.mk.injEq] at hmove
    exact Or.inl ⟨nofun, hmove.2.symm⟩
  · exact absurd hmove (by simp only [reduceCtorEq, not_false_eq_true])

/-- A call of the pool that has the property, after call `i` has moved on. -/
theorem exists_set (P Q : Call → Prop) (calls : List Call) (i : Nat) (c c' : Call)
    (hget : calls[i]? = some c) (hothers : ∀ d, P d → Q d) (hkeep : P c → Q c')
    (h : ∃ d ∈ calls, P d) : ∃ d ∈ calls.set i c', Q d := by
  rcases h with ⟨d, hd, hP⟩
  rcases Processes.mem_set_of_mem calls i c c' d hget hd with hstay | rfl
  · exact ⟨d, hstay, hothers d hP⟩
  · exact ⟨c', Processes.mem_set_of_some calls i d c' hget, hkeep hP⟩

theorem exists_set_of_erase (P : Call → Prop) (calls : List Call) (i : Nat) (c' : Call)
    (h : ∃ d ∈ calls.eraseIdx i, P d) : ∃ d ∈ calls.set i c', P d := by
  rcases h with ⟨d, hd, hP⟩
  rcases List.mem_eraseIdx_iff_getElem?.mp hd with ⟨j, hne, hj⟩
  exact ⟨d, List.mem_of_getElem? (Processes.getElem?_set_of_ne calls i j c' d hne hj), hP⟩

/-- Call `i` ends, and the service's list is the given one. -/
theorem covered_ends (s s' : Session) (i : Nat) (c : Call) (h : LeftTo i s'.service.deviceIds s)
    (htable : s'.table = s.table) (hcalls : s'.calls = s.calls.set i c) : Covered s' := by
  unfold Covered
  rw [htable, hcalls]
  exact h.imp_right (exists_set_of_erase _ s.calls i c)

theorem covered_move (s : Session) (i : Nat) (m : Move) (c : Call) (stage : Stage)
    (table : LocalDevices) (h : Covered s) (hcareful : Careful s (.move i m))
    (hget : s.calls[i]? = some c) (hmove : move s.table c m = some (stage, table)) :
    Covered { s with table, calls := s.calls.set i { c with stage } } := by
  by_cases hfail : m = .fail ∧ c.stage = .querying
  · rcases c with ⟨caller, stage₀⟩
    rcases hfail with ⟨rfl, hquerying⟩
    have hquerying' : stage₀ = .querying := hquerying
    rw [hquerying'] at hget hmove
    rw [move, Option.some.injEq, Prod.mk.injEq] at hmove
    exact covered_ends s _ i _ ((careful_fail s i caller hget).mp hcareful) hmove.2.symm rfl
  · rcases table_move s.table c m stage table hmove with ⟨_, rfl⟩ |
      ⟨dto, devices, rfl, hstoring, rfl, rfl⟩
    · refine h.imp_right (exists_set _ _ s.calls i c _ hget (fun _ hd => hd) ?_)
      exact covers_move s.table c m stage s.table hmove (fun hm hq => hfail ⟨hm, hq⟩)
    · rcases c with ⟨caller, stage₀⟩
      have hstoring' : stage₀ = .storing (dto :: devices) := hstoring
      rw [hstoring'] at hget
      have hahead : Ahead ⟨caller, .storing (dto :: devices)⟩ →
          Ahead ⟨caller, store caller devices⟩ :=
        fun hold => ahead_store caller devices hold.1
      rcases (careful_upsert s i caller dto devices hget).mp hcareful with hknown | hsetup
      -- The device was in the table, so the ids are the same.
      · have hsub : ∀ id ∈ getAllDeviceIds (upsertDevice s.table dto),
            id ∈ getAllDeviceIds s.table := by
          intro id hid
          rcases (mem_upsertDevice s.table dto id).mp hid with hold | rfl
          · exact hold
          · exact hknown
        rcases h with hall | hcall
        · exact Or.inl (fun id hid => hall id (hsub id hid))
        · refine Or.inr (exists_set _ _ s.calls i _ _ hget
            (fun d => covers_mono _ _ d hsub) (fun hcovers => Or.inl ?_) hcall)
          exact hahead (setup_of_covers _ _ hcovers rfl)
      -- A setup that has yet to query will find the new device, too.
      · exact Or.inr (exists_set _ _ s.calls i _ _ hget (fun d hd => Or.inl hd)
          (fun hd => Or.inl (hahead hd)) hsetup)

theorem covered_step (s : Session) (a : Action) (s' : Session) (h : Covered s)
    (hcareful : Careful s a) (hstep : step s a = some s') : Covered s' := by
  cases a with
  | call caller =>
      rw [step, Option.some.injEq] at hstep
      rw [← hstep]
      refine h.imp_right (fun ⟨c, hc, hcovers⟩ => ?_)
      exact ⟨c, List.mem_append_left _ hc, hcovers⟩
  | move i m =>
      rw [step] at hstep
      split at hstep
      · next c hget =>
          rcases Option.map_eq_some_iff.mp hstep with ⟨⟨stage, table⟩, hmove, rfl⟩
          exact covered_move s i m c stage table h hcareful hget hmove
      · exact absurd hstep (by simp only [reduceCtorEq, not_false_eq_true])
  | subscribe i =>
      rw [step] at hstep
      split at hstep
      · next caller answer hget =>
          rw [Option.some.injEq] at hstep
          rw [← hstep]
          -- The call ends here, and a careful one leaves no device to nobody.
          have hleft := (careful_subscribe s i caller answer hget).mp hcareful
          refine covered_ends s _ i ⟨caller, .done⟩ ?_ rfl rfl
          rw [deviceIds_subscribe]
          exact hleft
      · exact absurd hstep (by simp only [reduceCtorEq, not_false_eq_true])
  | updateAlias deviceId deviceAlias =>
      rw [step, Option.some.injEq] at hstep
      rw [← hstep]
      unfold Covered
      rw [ids_updateAlias]
      exact h
  | updateStoredContent deviceId content =>
      rw [step, Option.some.injEq] at hstep
      rw [← hstep]
      unfold Covered
      rw [ids_updateStoredContent]
      exact h
  | service a =>
      rcases service_step s s' a hstep with ⟨hsubscribe, service, hservice, rfl⟩
      unfold Covered
      rw [deviceIds_step s.service service a hservice hsubscribe]
      exact h

theorem covered_login (table : LocalDevices) : Covered (login table) :=
  Or.inr ⟨⟨.postLoginSetup, .listing⟩, List.mem_singleton_self _, Or.inl ⟨rfl, rfl⟩⟩

theorem replayed_login (table : LocalDevices) : Replayed (login table) :=
  fun _ hheld => absurd hheld (by simp only [login, MqttService.initial, reduceCtorEq,
    not_false_eq_true])

/-- With no call in flight nothing is left to anyone but the service. -/
theorem monitored_of_covered (s : Session) (hcovered : Covered s) (hreplayed : Replayed s) :
    Monitored s := by
  intro hsettled k hheld hk id hid
  rcases hcovered with hall | ⟨c, hc, hcovers⟩
  · exact hreplayed k hheld hk id (hall id hid)
  · have hdone := hsettled c hc
    have hahead := setup_of_covers _ c hcovers (by rw [hdone]; rfl)
    exact absurd hahead.2 (by rw [hdone]; exact Bool.false_ne_true)

/-- In every state of a careful session that is connected and has nothing in
    progress, the client listens to every device of the table. -/
theorem devices_monitored (table : LocalDevices) (as : List Action)
    (h : Along step Careful (login table) as) : Throughout step Monitored (login table) as := by
  refine throughout_of_along step Careful (fun s => Covered s ∧ Replayed s) Monitored
    (fun s a s' hs hcareful hstep => ?_) (fun s hs => monitored_of_covered s hs.1 hs.2)
    as (login table) ⟨covered_login table, replayed_login table⟩ h
  exact ⟨covered_step s a s' hs.1 hcareful hstep, replayed_step s a s' hs.2 hstep⟩

/-- A device as the backend lists it after the claim. -/
def demoDto : DeviceDto where
  deviceId := "vena-8a4a"
  deviceAlias := none
  status := some "online"
  lastSeenAt := none
  fwVersion := none

/-- The login with nothing to list, and the first connection. -/
def connected : List Action :=
  [.move 0 (.list []), .move 0 .query, .subscribe 0, .service (.fetched 0),
    .service (.saved 0 false), .service (.connack 0)]

/-- A pairing to its end. -/
def pairing : List Action :=
  [.call .doClaim, .move 1 .sync, .move 1 (.list [demoDto]), .move 1 .upsert,
    .call .finishWithAlias, .updateAlias "vena-8a4a" "Kitchen", .move 2 .sync,
    .move 2 (.list [demoDto]), .move 2 .upsert]

/-- A device stored while the setup waits for its list, which never comes: the
    query finds it. -/
theorem devices_monitored_login : Throughout step Monitored (login ⟨[], List.nodup_nil⟩)
    [.call .devicesScreen, .move 1 (.list [demoDto]), .move 1 .upsert, .move 0 .fail,
      .move 0 .query, .subscribe 0, .service (.fetched 0), .service (.saved 0 false),
      .service (.connack 0)] :=
  devices_monitored _ _ (by decide +kernel)

/-- A device paired while the connection is open is in the table at the end, and
    not subscribed to. -/
theorem paired_unmonitored : ¬ ∀ (table : LocalDevices) (as : List Action),
    Throughout step Monitored (login table) as := by
  intro hall
  have hlast := throughout_last step Monitored (connected ++ pairing)
    (login ⟨[], List.nodup_nil⟩) _ (hall _ _) rfl
  have hsubscribed := hlast (by decide +kernel) 0 rfl rfl "vena-8a4a" (by decide +kernel)
  exact absurd hsubscribed (by decide +kernel)

end Monitoring

end Mobile

end Vena
