import Vena.Mobile.Num
import Vena.Mobile.PruneNewest
import Vena.Mobile.SnapshotAgrees

/-!
# One MQTT Message

`MqttMessageHandler.handle` on any topic and any payload. The handler converts
the fields of a message one after the other, each conversion may throw, and the
catch around all of it drops the exception and keeps whatever had been written
by then. So a message is handled completely or not at all only as long as no
conversion comes behind a write. The handler is modelled with that possibility
left open: an exception leaves the tables as they are at that point.

## Main definitions

* `Tables`: The three tables the handler writes.
* `handle`: A message.
* `IsTelemetry`, `IsStatus`: The well-formed messages.
* `Tables.afterTelemetry`, `Tables.afterStatus`: Their complete effects.
* `AllOrNothing`: A handler throws and writes nothing, or writes everything.

## Theorems

* `AllOrNothing.cast`: A conversion in front of all the writes.
* `run_handleTelemetry`, `run_handleStatus`: Conversions first, writes after.
* `handle_eq`: The handler decodes, then writes.
* `messageOf_telemetry`, `messageOf_status`: What it decodes.
* `rowsOf_handle`: The rows of another device.
* `handle_allOrNothing`: All of a message or nothing.
-/

namespace Vena

namespace Mobile

namespace MqttMessageHandler

open TelemetryMerge

/-- A row of `devices`. -/
structure DeviceRow where
  deviceId : String
  deviceAlias : DartString
  status : DartString
  lastSeenAt : Option Int
  fwVersion : Option DartString
  storedContent : Option DartString
  deriving DecidableEq

structure Tables where
  telemetry : Db Double
  devices : List DeviceRow
  devicesKey : (devices.map DeviceRow.deviceId).Nodup

/-- A message as the MQTT client hands it over. -/
structure MqttTopicMessage where
  topic : String
  payload : DartString

/-- `topic.split('/')`. -/
def parts (topic : String) : List String := (topic.toList.splitOn '/').map String.ofList

/-- The `online` column of a device. -/
def setOnline (deviceId : String) (online : Bool) (db : Db Double) : Db Double :=
  { db with
    latest := db.latest.map (fun r => if r.deviceId = deviceId then { r with online } else r)
    latestKey := by
      rw [Keyed.map_key_update LatestState.deviceId db.latest (fun r => r.deviceId = deviceId)
        (fun r => { r with online }) (fun _ _ => rfl)]
      exact db.latestKey }

/-- A row with the columns of a status message. An absent version is not written. -/
def DeviceRow.withStatus (r : DeviceRow) (online : Bool) (now : Int)
    (fwVersion : Option DartString) : DeviceRow :=
  { r with
    status := dartString (if online then "online" else "offline")
    lastSeenAt := some now
    fwVersion := fwVersion.or r.fwVersion }

/-- These columns of a device. -/
def setStatus (deviceId : String) (online : Bool) (now : Int) (fwVersion : Option DartString)
    (db : Tables) : Tables :=
  { db with
    devices := db.devices.map (fun r =>
      if r.deviceId = deviceId then r.withStatus online now fwVersion else r)
    devicesKey := by
      rw [Keyed.map_key_update DeviceRow.deviceId db.devices (fun r => r.deviceId = deviceId)
        (fun r => r.withStatus online now fwVersion) (fun _ _ => rfl)]
      exact db.devicesKey }

/-- Code that may write and may throw. What was written before an exception stays. -/
abbrev Handler (α : Type) := ExceptT Unit (StateM Tables) α

/-- A conversion. -/
def cast {α : Type} (value : Option α) : Handler α :=
  match value with
  | some a => pure a
  | none => throw ()

/-- A write to the two tables of telemetry. -/
def writeTelemetry (f : Db Double → Db Double) : Handler Unit :=
  modify (fun db => { db with telemetry := f db.telemetry })

/-- `_handleTelemetry`. -/
def handleTelemetry (deviceId : String) (json : List (DartString × JsonValue)) :
    Handler Unit := do
  let ts ← cast (field json "ts").asInt
  let ambientT ← cast (optionalDouble (field json "ambient_t"))
  let ambientH ← cast (optionalDouble (field json "ambient_h"))
  let dissT ← cast (optionalDouble (field json "diss_t"))
  let dissH ← cast (optionalDouble (field json "diss_h"))
  let setpoint ← cast (optionalDouble (field json "setpoint"))
  let pidOut ← cast (optionalDouble (field json "pid_out"))
  let m : Telemetry Double :=
    ⟨deviceId, ts.1, ambientT, ambientH, dissT, dissH, setpoint, pidOut, .mqtt⟩
  writeTelemetry (fun db => db.upsertLatestState m.toLatest)
  writeTelemetry (fun db => db.insertTelemetryCache m.toCache)
  writeTelemetry (fun db => db.pruneOldEntries deviceId)

/-- `_handleStatus`. -/
def handleStatus (now : Int) (deviceId : String) (json : List (DartString × JsonValue)) :
    Handler Unit := do
  let online ← cast (field json "online").asBool
  let fwVersion ← cast ((field json "fw_version").orNull JsonValue.asString)
  writeTelemetry (setOnline deviceId online)
  modify (setStatus deviceId online now fwVersion)

/-- What `handle` does between `try` and `catch`. -/
def route (now : Int) (msg : MqttTopicMessage) : Handler Unit :=
  match parts msg.topic with
  | _ :: deviceId :: type :: _ => do
    let json ← cast ((jsonDecode msg.payload).bind JsonValue.asMap)
    if type = "telemetry" then handleTelemetry deviceId json
    else if type = "status" then handleStatus now deviceId json
  -- An unexpected shape of the topic.
  | _ => return

/-- `handle`, at the second `now`: the tables once it is over. -/
def handle (now : Int) (msg : MqttTopicMessage) (db : Tables) : Tables := ((route now msg).run db).2

/-- A number or nothing, as a field of a message has it. -/
inductive OptionalNumber : JsonValue → Option Double → Prop
  | absent : OptionalNumber .null none
  | number (literal : DartString) :
    OptionalNumber (.number literal) (some (readNumber literal).toDouble)

/-- A text or nothing. -/
inductive OptionalText : JsonValue → Option DartString → Prop
  | absent : OptionalText .null none
  | text (s : DartString) : OptionalText (.string s) (some s)

/-- The fields of a telemetry message. -/
structure TelemetryFields (json : List (DartString × JsonValue)) (m : Telemetry Double) : Prop where
  ts : ∃ literal n, field json "ts" = .number literal ∧ readNumber literal = .int n ∧ m.ts = n.1
  ambientT : OptionalNumber (field json "ambient_t") m.ambientT
  ambientH : OptionalNumber (field json "ambient_h") m.ambientH
  dissT : OptionalNumber (field json "diss_t") m.dissT
  dissH : OptionalNumber (field json "diss_h") m.dissH
  setpoint : OptionalNumber (field json "setpoint") m.setpoint
  pidOut : OptionalNumber (field json "pid_out") m.pidOut

/-- A decoded status message. -/
structure Status where
  deviceId : String
  online : Bool
  fwVersion : Option DartString

/-- The fields of a status message. -/
structure StatusFields (json : List (DartString × JsonValue)) (status : Status) : Prop where
  online : field json "online" = .bool status.online
  fwVersion : OptionalText (field json "fw_version") status.fwVersion

/-- A topic of the given device and type. -/
def IsTopic (topic deviceId type : String) : Prop :=
  ∃ root rest, parts topic = root :: deviceId :: type :: rest

/-- A well-formed telemetry message. -/
def IsTelemetry (msg : MqttTopicMessage) (m : Telemetry Double) : Prop :=
  IsTopic msg.topic m.deviceId "telemetry" ∧ m.source = .mqtt ∧
    ∃ json, jsonDecode msg.payload = some (.map json) ∧ TelemetryFields json m

/-- A well-formed status message. -/
def IsStatus (msg : MqttTopicMessage) (status : Status) : Prop :=
  IsTopic msg.topic status.deviceId "status" ∧
    ∃ json, jsonDecode msg.payload = some (.map json) ∧ StatusFields json status

/-- Offered to `latest_states`, inserted into `telemetry_cache`, and the cache
    pruned. -/
def Tables.afterTelemetry (db : Tables) (m : Telemetry Double) : Tables :=
  { db with telemetry := TelemetryMerge.handleTelemetry db.telemetry m }

/-- The flag in `latest_states` and the columns in `devices`. -/
def Tables.afterStatus (db : Tables) (now : Int) (status : Status) : Tables :=
  setStatus status.deviceId status.online now status.fwVersion
    { db with telemetry := setOnline status.deviceId status.online db.telemetry }

/-- A handler throws and writes nothing, or writes everything. -/
def AllOrNothing (h : Handler Unit) (effect : Option (Tables → Tables)) : Prop :=
  ∀ db, h.run db = effect.elim (.error (), db) (fun f => (.ok (), f db))

/-- A conversion in front of all the writes. -/
theorem AllOrNothing.cast {α β : Type} (effect : β → Tables → Tables) (value : Option α)
    (h : α → Handler Unit) (o : α → Option β)
    (hrest : ∀ a, AllOrNothing (h a) ((o a).map effect)) :
    AllOrNothing (MqttMessageHandler.cast value >>= h) ((value >>= o).map effect) := by
  intro db
  cases value with
  | none => rfl
  | some a => exact hrest a db

/-- The message `_handleTelemetry` makes of the fields. -/
def telemetryOf (deviceId : String) (json : List (DartString × JsonValue)) :
    Option (Telemetry Double) := do
  let ts ← (field json "ts").asInt
  let ambientT ← optionalDouble (field json "ambient_t")
  let ambientH ← optionalDouble (field json "ambient_h")
  let dissT ← optionalDouble (field json "diss_t")
  let dissH ← optionalDouble (field json "diss_h")
  let setpoint ← optionalDouble (field json "setpoint")
  let pidOut ← optionalDouble (field json "pid_out")
  return ⟨deviceId, ts.1, ambientT, ambientH, dissT, dissH, setpoint, pidOut, .mqtt⟩

/-- Conversions first, writes after. -/
theorem run_handleTelemetry (deviceId : String) (json : List (DartString × JsonValue)) :
    AllOrNothing (handleTelemetry deviceId json)
      ((telemetryOf deviceId json).map (fun m db => db.afterTelemetry m)) := by
  refine AllOrNothing.cast _ _ _ _ (fun ts => ?_)
  refine AllOrNothing.cast _ _ _ _ (fun ambientT => ?_)
  refine AllOrNothing.cast _ _ _ _ (fun ambientH => ?_)
  refine AllOrNothing.cast _ _ _ _ (fun dissT => ?_)
  refine AllOrNothing.cast _ _ _ _ (fun dissH => ?_)
  refine AllOrNothing.cast _ _ _ _ (fun setpoint => ?_)
  refine AllOrNothing.cast _ _ _ _ (fun pidOut => ?_)
  exact fun db => rfl

/-- The message `_handleStatus` makes of the fields. -/
def statusOf (deviceId : String) (json : List (DartString × JsonValue)) : Option Status := do
  let online ← (field json "online").asBool
  let fwVersion ← (field json "fw_version").orNull JsonValue.asString
  return ⟨deviceId, online, fwVersion⟩

theorem run_handleStatus (now : Int) (deviceId : String) (json : List (DartString × JsonValue)) :
    AllOrNothing (handleStatus now deviceId json)
      ((statusOf deviceId json).map (fun status db => db.afterStatus now status)) := by
  refine AllOrNothing.cast _ _ _ _ (fun online => ?_)
  refine AllOrNothing.cast _ _ _ _ (fun fwVersion => ?_)
  exact fun db => rfl

theorem optionalDouble_eq_some (value : JsonValue) (x : Option Double) :
    optionalDouble value = some x ↔ OptionalNumber value x := by
  cases value with
  | null =>
      constructor
      · intro h
        rw [optionalDouble, JsonValue.orNull, Option.map_some, Option.some.injEq] at h
        exact h ▸ .absent
      · rintro ⟨⟩
        rfl
  | number literal =>
      constructor
      · intro h
        simp only [optionalDouble, JsonValue.orNull, JsonValue.asNum, Option.map_some,
          Option.some.injEq] at h
        exact h ▸ .number literal
      · rintro ⟨⟩
        rfl
  | bool b => exact ⟨nofun, nofun⟩
  | string s => exact ⟨nofun, nofun⟩
  | list items => exact ⟨nofun, nofun⟩
  | map members => exact ⟨nofun, nofun⟩

theorem orNull_asString (value : JsonValue) (x : Option DartString) :
    value.orNull JsonValue.asString = some x ↔ OptionalText value x := by
  cases value with
  | null =>
      constructor
      · intro h
        rw [JsonValue.orNull, Option.some.injEq] at h
        exact h ▸ .absent
      · rintro ⟨⟩
        rfl
  | string s =>
      constructor
      · intro h
        simp only [JsonValue.orNull, JsonValue.asString, Option.map_some, Option.some.injEq] at h
        exact h ▸ .text s
      · rintro ⟨⟩
        rfl
  | bool b => exact ⟨nofun, nofun⟩
  | number literal => exact ⟨nofun, nofun⟩
  | list items => exact ⟨nofun, nofun⟩
  | map members => exact ⟨nofun, nofun⟩

theorem asInt_eq_some (value : JsonValue) (n : DartInt) :
    value.asInt = some n ↔ ∃ literal, value = .number literal ∧ readNumber literal = .int n := by
  constructor
  · intro h
    unfold JsonValue.asInt at h
    split at h
    · next n' hnum =>
        cases value with
        | number literal =>
            rw [Option.some.injEq] at h
            rw [JsonValue.asNum, Option.some.injEq] at hnum
            exact ⟨literal, rfl, hnum.trans (congrArg Num.int h)⟩
        | _ => exact absurd hnum nofun
    · exact absurd h nofun
  · rintro ⟨literal, rfl, hread⟩
    rw [JsonValue.asInt, JsonValue.asNum, hread]

theorem asBool_eq_some (value : JsonValue) (b : Bool) :
    value.asBool = some b ↔ value = .bool b := by
  cases value with
  | bool b' => rw [JsonValue.asBool, Option.some.injEq, JsonValue.bool.injEq]
  | _ => exact ⟨nofun, nofun⟩

/-- The fields convert exactly if they are of a telemetry message. -/
theorem telemetryOf_eq_some (deviceId : String) (json : List (DartString × JsonValue))
    (m : Telemetry Double) : telemetryOf deviceId json = some m ↔
      m.deviceId = deviceId ∧ m.source = .mqtt ∧ TelemetryFields json m := by
  simp only [telemetryOf, Option.bind_eq_bind, Option.bind_eq_some_iff, asInt_eq_some,
    optionalDouble_eq_some, Option.pure_def, Option.some.injEq]
  constructor
  · rintro ⟨ts, ⟨literal, hts, hread⟩, ambientT, hambientT, ambientH, hambientH, dissT, hdissT,
      dissH, hdissH, setpoint, hsetpoint, pidOut, hpidOut, rfl⟩
    exact ⟨rfl, rfl, ⟨⟨literal, ts, hts, hread, rfl⟩, hambientT, hambientH, hdissT, hdissH,
      hsetpoint, hpidOut⟩⟩
  · rintro ⟨hdevice, hsource, ⟨literal, ts, hts, hread, heq⟩, hambientT, hambientH, hdissT, hdissH,
      hsetpoint, hpidOut⟩
    refine ⟨ts, ⟨literal, hts, hread⟩, _, hambientT, _, hambientH, _, hdissT, _, hdissH, _,
      hsetpoint, _, hpidOut, ?_⟩
    rw [← hdevice, ← heq, ← hsource]

theorem statusOf_eq_some (deviceId : String) (json : List (DartString × JsonValue))
    (status : Status) : statusOf deviceId json = some status ↔
      status.deviceId = deviceId ∧ StatusFields json status := by
  simp only [statusOf, Option.bind_eq_bind, Option.bind_eq_some_iff, orNull_asString,
    Option.pure_def, Option.some.injEq]
  constructor
  · rintro ⟨online, honline, fwVersion, hfwVersion, rfl⟩
    exact ⟨rfl, ⟨asBool_eq_some _ _ |>.mp honline, hfwVersion⟩⟩
  · rintro ⟨rfl, honline, hfwVersion⟩
    exact ⟨_, (asBool_eq_some _ _).mpr honline, _, hfwVersion, rfl⟩

/-- What the three tables hold of one device. -/
def rowsOf (deviceId : String) (db : Tables) :
    List (LatestState Double) × List (CacheRow Double) × List DeviceRow :=
  (db.telemetry.latest.filter (fun r => r.deviceId = deviceId),
    ofDevice deviceId db.telemetry.cache,
    db.devices.filter (fun r => r.deviceId = deviceId))

theorem latest_other (rows : List (LatestState Double)) (entry : LatestState Double)
    (deviceId : String) (hne : entry.deviceId ≠ deviceId) :
    (upsertLatest rows entry).filter (fun r => r.deviceId = deviceId) =
      rows.filter (fun r => r.deviceId = deviceId) := by
  unfold upsertLatest
  split
  · refine Keyed.filter_update _ rows _ _ (fun r hr => ⟨?_, decide_eq_false hne⟩)
    exact decide_eq_false (hr.1 ▸ hne)
  · rw [List.filter_append, List.filter_singleton, decide_eq_false hne, cond_false,
      List.append_nil]

/-- The prune of a device leaves the rows of the others. -/
theorem prune_other (db : Db Double) (pruned deviceId : String) (hne : pruned ≠ deviceId) :
    ofDevice deviceId (db.pruneOldEntries pruned).cache = ofDevice deviceId db.cache := by
  rw [← TelemetryDao.pruneOldEntries_default]
  exact TelemetryDao.ofDevice_other db pruned keepCount deviceId hne

theorem rowsOf_afterTelemetry (db : Tables) (m : Telemetry Double) (deviceId : String)
    (hne : m.deviceId ≠ deviceId) : rowsOf deviceId (db.afterTelemetry m) = rowsOf deviceId db := by
  have hlatest := latest_other db.telemetry.latest m.toLatest deviceId hne
  have hcache : ofDevice deviceId (TelemetryMerge.handleTelemetry db.telemetry m).cache =
      ofDevice deviceId db.telemetry.cache := by
    refine (prune_other _ m.deviceId deviceId hne).trans ?_
    refine Keyed.filter_upsert_of_not CacheRow.key _ db.telemetry.cache m.toCache (fun r hr => ?_)
    exact decide_eq_false (fun h => hne ((congrArg Prod.fst hr).symm.trans h))
  simp only [rowsOf, Tables.afterTelemetry, handleTelemetry_latest, hlatest, hcache]

theorem rowsOf_afterStatus (db : Tables) (now : Int) (status : Status) (deviceId : String)
    (hne : status.deviceId ≠ deviceId) :
    rowsOf deviceId (db.afterStatus now status) = rowsOf deviceId db := by
  have hlatest := Keyed.filter_update (fun r => decide (r.deviceId = deviceId))
    db.telemetry.latest (fun r => r.deviceId = status.deviceId)
    (fun r => { r with online := status.online })
    (fun r hr => ⟨decide_eq_false (hr ▸ hne), decide_eq_false (hr ▸ hne)⟩)
  have hdevices := Keyed.filter_update (fun r => decide (r.deviceId = deviceId)) db.devices
    (fun r => r.deviceId = status.deviceId)
    (fun r => r.withStatus status.online now status.fwVersion)
    (fun r hr => ⟨decide_eq_false (hr ▸ hne), decide_eq_false (hr ▸ hne)⟩)
  exact Prod.ext hlatest (Prod.ext rfl hdevices)

/-- What an effect leaves if the handler is all or nothing. -/
theorem AllOrNothing.result {h : Handler Unit} {effect : Option (Tables → Tables)}
    (hall : AllOrNothing h effect) (db : Tables) :
    (h.run db).2 = effect.elim db (fun f => f db) := by
  rw [hall db]
  cases effect with
  | none => rfl
  | some f => rfl

/-- A decoded message. -/
inductive Message where
  | telemetry (m : Telemetry Double)
  | status (status : Status)

/-- The message that a topic and a payload are, `none` if they are dropped. -/
def messageOf (msg : MqttTopicMessage) : Option Message :=
  match parts msg.topic with
  | _ :: deviceId :: type :: _ => do
    let json ← (jsonDecode msg.payload).bind JsonValue.asMap
    if type = "telemetry" then (telemetryOf deviceId json).map .telemetry
    else if type = "status" then (statusOf deviceId json).map .status
    else none
  | _ => none

/-- The complete effect of a message. -/
def Tables.after (now : Int) (db : Tables) : Message → Tables
  | .telemetry m => db.afterTelemetry m
  | .status status => db.afterStatus now status

/-- A handler followed by the catch. -/
theorem handle_eq (now : Int) (msg : MqttTopicMessage) (db : Tables) :
    handle now msg db = (messageOf msg).elim db (db.after now) := by
  unfold handle route messageOf
  split
  · next root deviceId type rest hparts =>
      cases hmap : (jsonDecode msg.payload).bind JsonValue.asMap with
      | none => rfl
      | some json =>
          have hcast : ∀ h : List (DartString × JsonValue) → Handler Unit,
              ((MqttMessageHandler.cast (some json) >>= h).run db).2 = ((h json).run db).2 :=
            fun h => rfl
          rw [hcast, Option.bind_eq_bind, Option.bind_some]
          by_cases htelemetry : type = "telemetry"
          · rw [if_pos htelemetry, if_pos htelemetry, (run_handleTelemetry deviceId json).result,
              Option.elim_map, Option.elim_map]
            rfl
          · rw [if_neg htelemetry, if_neg htelemetry]
            by_cases hstatus : type = "status"
            · rw [if_pos hstatus, if_pos hstatus, (run_handleStatus now deviceId json).result,
                Option.elim_map, Option.elim_map]
              rfl
            · rw [if_neg hstatus, if_neg hstatus]
              rfl
  · rfl

theorem bind_asMap (payload : DartString) (json : List (DartString × JsonValue)) :
    (jsonDecode payload).bind JsonValue.asMap = some json ↔
      jsonDecode payload = some (.map json) := by
  cases jsonDecode payload with
  | none => exact ⟨nofun, nofun⟩
  | some value =>
      rw [Option.bind_some, Option.some.injEq]
      cases value with
      | map members => rw [JsonValue.asMap, Option.some.injEq, JsonValue.map.injEq]
      | _ => exact ⟨nofun, nofun⟩

/-- What is decoded, by the parts of the topic and the members of the payload. -/
theorem messageOf_eq_some (msg : MqttTopicMessage) (message : Message) :
    messageOf msg = some message ↔ ∃ root deviceId type rest json,
      parts msg.topic = root :: deviceId :: type :: rest ∧
      jsonDecode msg.payload = some (.map json) ∧
      ((type = "telemetry" ∧ (telemetryOf deviceId json).map .telemetry = some message) ∨
        (type = "status" ∧ (statusOf deviceId json).map .status = some message)) := by
  constructor
  · intro h
    unfold messageOf at h
    split at h
    · next root deviceId type rest hparts =>
        rw [Option.bind_eq_bind, Option.bind_eq_some_iff] at h
        rcases h with ⟨json, hjson, h⟩
        refine ⟨root, deviceId, type, rest, json, hparts, (bind_asMap _ _).mp hjson, ?_⟩
        split at h
        · next htelemetry => exact Or.inl ⟨htelemetry, h⟩
        · split at h
          · next hstatus => exact Or.inr ⟨hstatus, h⟩
          · exact absurd h nofun
    · exact absurd h nofun
  · rintro ⟨root, deviceId, type, rest, json, hparts, hjson, hcase⟩
    rw [messageOf, hparts]
    dsimp only
    rw [Option.bind_eq_bind, (bind_asMap _ _).mpr hjson, Option.bind_some]
    rcases hcase with ⟨rfl, h⟩ | ⟨rfl, h⟩
    · exact h
    · exact h

theorem messageOf_telemetry (msg : MqttTopicMessage) (m : Telemetry Double) :
    messageOf msg = some (.telemetry m) ↔ IsTelemetry msg m := by
  rw [messageOf_eq_some]
  simp only [Option.map_eq_some_iff, telemetryOf_eq_some, reduceCtorEq, and_false, exists_false,
    or_false, Message.telemetry.injEq]
  constructor
  · rintro ⟨root, deviceId, type, rest, json, hparts, hjson, rfl, m', ⟨rfl, hsource, hall⟩, rfl⟩
    exact ⟨⟨root, rest, hparts⟩, hsource, json, hjson, hall⟩
  · rintro ⟨⟨root, rest, hparts⟩, hsource, json, hjson, hall⟩
    exact ⟨root, _, _, rest, json, hparts, hjson, rfl, m, ⟨rfl, hsource, hall⟩, rfl⟩

theorem messageOf_status (msg : MqttTopicMessage) (status : Status) :
    messageOf msg = some (.status status) ↔ IsStatus msg status := by
  rw [messageOf_eq_some]
  simp only [Option.map_eq_some_iff, statusOf_eq_some, reduceCtorEq, and_false, exists_false,
    false_or, Message.status.injEq]
  constructor
  · rintro ⟨root, deviceId, type, rest, json, hparts, hjson, rfl, status', ⟨rfl, hall⟩, rfl⟩
    exact ⟨⟨root, rest, hparts⟩, json, hjson, hall⟩
  · rintro ⟨⟨root, rest, hparts⟩, json, hjson, hall⟩
    exact ⟨root, _, _, rest, json, hparts, hjson, rfl, status, ⟨rfl, hall⟩, rfl⟩

-- A second with a point is no `int`, and the message is dropped.
example : (messageOf ⟨"vena/dev1/telemetry",
    dartString "\x7b\"ts\":1000.0\x7d"⟩).isNone = true := by
  decide +kernel

/-- The rows of another device. -/
theorem rowsOf_handle (now : Int) (msg : MqttTopicMessage) (db : Tables) (deviceId : String)
    (hother : ∀ type, ¬IsTopic msg.topic deviceId type) :
    rowsOf deviceId (handle now msg db) = rowsOf deviceId db := by
  rw [handle_eq]
  cases hmsg : messageOf msg with
  | none => rfl
  | some message =>
      cases message with
      | telemetry m =>
          have hm := (messageOf_telemetry msg m).mp hmsg
          exact rowsOf_afterTelemetry db m deviceId (fun heq => hother _ (heq ▸ hm.1))
      | status status =>
          have hstatus := (messageOf_status msg status).mp hmsg
          exact rowsOf_afterStatus db now status deviceId (fun heq => hother _ (heq ▸ hstatus.1))

/-- A message that is well-formed in neither way and leaves the tables alone. -/
structure Dropped (now : Int) (msg : MqttTopicMessage) (db : Tables) : Prop where
  telemetry : ∀ m, ¬IsTelemetry msg m
  status : ∀ status, ¬IsStatus msg status
  unchanged : handle now msg db = db

/-- All of a well-formed message or nothing, and nothing for another device. -/
theorem handle_allOrNothing (now : Int) (msg : MqttTopicMessage) (db : Tables) :
    ((∃ m, IsTelemetry msg m ∧ handle now msg db = db.afterTelemetry m) ∨
      (∃ status, IsStatus msg status ∧ handle now msg db = db.afterStatus now status) ∨
      Dropped now msg db) ∧
    ∀ deviceId, (∀ type, ¬IsTopic msg.topic deviceId type) →
      rowsOf deviceId (handle now msg db) = rowsOf deviceId db := by
  refine ⟨?_, rowsOf_handle now msg db⟩
  have hhandle := handle_eq now msg db
  cases hmsg : messageOf msg with
  | none =>
      rw [hmsg] at hhandle
      refine Or.inr (Or.inr ⟨fun m h => ?_, fun status h => ?_, hhandle⟩)
      · rw [(messageOf_telemetry msg m).mpr h] at hmsg
        exact absurd hmsg nofun
      · rw [(messageOf_status msg status).mpr h] at hmsg
        exact absurd hmsg nofun
  | some message =>
      rw [hmsg] at hhandle
      cases message with
      | telemetry m => exact Or.inl ⟨m, (messageOf_telemetry msg m).mp hmsg, hhandle⟩
      | status status =>
          exact Or.inr (Or.inl ⟨status, (messageOf_status msg status).mp hmsg, hhandle⟩)

end MqttMessageHandler

end Mobile

end Vena
