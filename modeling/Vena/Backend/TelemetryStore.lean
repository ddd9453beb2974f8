import Vena.Backend.Models
import Vena.Core.Keyed
import Vena.Python.Value

/-!
# What Ingestion Writes

The three tables `TelemetryIngestor` writes, with their primary and foreign
keys, and the two transactions it runs on them: `_flush` for a batch of rows
and the upsert of `_handle_meta`. Both register unknown devices first, so the
foreign keys can always be met.

Which rows and documents PostgreSQL takes is a parameter: it depends on the
types of the columns and on how asyncpg encodes each value. Besides that a
statement has at most 32 767 bind parameters, and a multi-row insert binds ten
for every row. A transaction that fails leaves the tables as they were.

## Main definitions

* `Row`, `DeviceMeta`: The rows.
* `Env`: What the interpreter and the database accept.
* `Store`: The tables.
* `register`: The devices after a batch.
* `Store.flush`, `Store.upsertMeta`: The transactions.

## Theorems

* `flush_ok`, `flush_error`: The batches that go through.
* `stored_flush`, `hasMeta_upsertMeta`: What the tables hold afterwards.
-/

namespace Vena

namespace Backend

namespace Ingest

open Python

/-- The dictionary `_parse` returns. -/
structure Row where
  deviceId : String
  ts : Datetime
  ambientT : PyVal
  ambientH : PyVal
  dissT : PyVal
  dissH : PyVal
  setpoint : PyVal
  pidOut : PyVal
  uptimeMs : PyVal
  seq : PyVal

def Row.key (row : Row) : String × Datetime := (row.deviceId, row.ts)

structure DeviceMeta where
  deviceId : String
  payload : PyVal
  updatedAt : Datetime

/-- What the interpreter and the database accept: the depth of nesting at which
    recursion ends, and the values PostgreSQL stores. -/
structure Env where
  depth : Nat
  storable : Row → Bool
  metaStorable : String → PyVal → Bool

structure Store where
  devices : List Device
  telemetryRaw : List Row
  deviceMeta : List DeviceMeta
  deviceKey : (devices.map Device.id).Nodup
  rowKey : (telemetryRaw.map Row.key).Nodup
  metaKey : (deviceMeta.map DeviceMeta.deviceId).Nodup
  rowFk : ∀ row ∈ telemetryRaw, row.deviceId ∈ devices.map Device.id
  metaFk : ∀ row ∈ deviceMeta, row.deviceId ∈ devices.map Device.id

def Store.empty : Store where
  devices := []
  telemetryRaw := []
  deviceMeta := []
  deviceKey := List.nodup_nil
  rowKey := List.nodup_nil
  metaKey := List.nodup_nil
  rowFk := fun _ h => absurd h List.not_mem_nil
  metaFk := fun _ h => absurd h List.not_mem_nil

/-- The device that auto-registration inserts. -/
def newDevice (now : Datetime) (id : String) : Device where
  id := id
  pairingCodeHash := "unprovisioned"
  fwVersion := none
  firstSeenAt := some now
  lastSeenAt := some now
  status := "online"

def seen (now : Datetime) (device : Device) : Device :=
  { device with lastSeenAt := some now, status := "online" }

/-- Register the unknown ones of the devices and update the known ones. -/
def register (now : Datetime) (ids : List String) (devices : List Device) : List Device :=
  let existing := (devices.map Device.id).filter (fun id => id ∈ ids)
  let new := ids.filter (fun id => id ∉ existing)
  (Keyed.insertAllNew Device.id devices (new.map (newDevice now))).map
    (fun device => if device.id ∈ existing then seen now device else device)

/-- The ids after a registration. -/
theorem map_id_register (now : Datetime) (ids : List String) (devices : List Device) :
    (register now ids devices).map Device.id =
      (Keyed.insertAllNew Device.id devices ((ids.filter (fun id =>
        id ∉ (devices.map Device.id).filter (fun id => id ∈ ids))).map (newDevice now))).map
          Device.id :=
  Keyed.map_key_update Device.id _ _ (seen now) (fun _ _ => rfl)

theorem nodup_register (now : Datetime) (ids : List String) (devices : List Device)
    (hkey : (devices.map Device.id).Nodup) : ((register now ids devices).map Device.id).Nodup := by
  rw [map_id_register]
  exact Keyed.nodup_insertAllNew Device.id _ _ hkey

theorem mem_register_of_mem (now : Datetime) (ids : List String) (devices : List Device)
    (id : String) (hid : id ∈ devices.map Device.id) :
    id ∈ (register now ids devices).map Device.id := by
  rw [map_id_register]
  rcases List.mem_map.mp hid with ⟨device, hdevice, heq⟩
  rw [← heq]
  exact List.mem_map_of_mem (Keyed.mem_insertAllNew Device.id _ _ _ hdevice)

theorem mem_register (now : Datetime) (ids : List String) (devices : List Device) (id : String)
    (hid : id ∈ ids) : id ∈ (register now ids devices).map Device.id := by
  -- A known device stays, an unknown one is among the inserted ones.
  by_cases hknown : id ∈ devices.map Device.id
  · exact mem_register_of_mem now ids devices id hknown
  · rw [map_id_register]
    refine Keyed.key_insertAllNew Device.id _ devices (newDevice now id) (List.mem_map_of_mem ?_)
    rw [List.mem_filter, decide_eq_true_eq]
    exact ⟨hid, fun hin => hknown (List.mem_filter.mp hin).1⟩

/-- asyncpg's limit on the bind parameters of a statement. -/
def bindLimit : Nat := 32767

/-- The columns of a row. -/
def rowParameters : Nat := 10

namespace Store

def registerDevices (now : Datetime) (ids : List String) (db : Store) : Store :=
  { db with
    devices := register now ids db.devices
    deviceKey := nodup_register now ids db.devices db.deviceKey
    rowFk := fun row hrow => mem_register_of_mem now ids db.devices _ (db.rowFk row hrow)
    metaFk := fun row hrow => mem_register_of_mem now ids db.devices _ (db.metaFk row hrow) }

/-- INSERT INTO telemetry_raw … ON CONFLICT (device_id, ts) DO NOTHING. -/
def insertRows (db : Store) (rows : List Row)
    (hfk : ∀ row ∈ rows, row.deviceId ∈ db.devices.map Device.id) : Store :=
  { db with
    telemetryRaw := Keyed.insertAllNew Row.key db.telemetryRaw rows
    rowKey := Keyed.nodup_insertAllNew Row.key rows _ db.rowKey
    rowFk := fun row hrow => by
      rcases Keyed.mem_insertAllNew_cases Row.key rows row _ hrow with hold | ⟨hnew, _⟩
      · exact db.rowFk row hold
      · exact hfk row hnew }

/-- What a transaction of `_flush` commits. -/
def insertBatch (now : Datetime) (rows : List Row) (db : Store) : Store :=
  (db.registerDevices now (rows.map Row.deviceId)).insertRows rows
    (fun _ hrow => mem_register now _ db.devices _ (List.mem_map_of_mem hrow))

/-- `_flush`. -/
def flush (env : Env) (now : Datetime) (rows : List Row) (db : Store) : Except Exc Store :=
  if rows.isEmpty then .ok db
  else if rows.all env.storable && decide (rows.length * rowParameters ≤ bindLimit) then
    .ok (db.insertBatch now rows)
  else .error .databaseError

/-- INSERT INTO device_meta … ON CONFLICT (device_id) DO UPDATE. -/
def putMeta (db : Store) (row : DeviceMeta) (hfk : row.deviceId ∈ db.devices.map Device.id) :
    Store :=
  { db with
    deviceMeta := Keyed.upsert DeviceMeta.deviceId db.deviceMeta row
    metaKey := Keyed.nodup_upsert DeviceMeta.deviceId _ _ db.metaKey
    metaFk := fun r hr => by
      rcases Keyed.mem_upsert_cases DeviceMeta.deviceId _ row r hr with ⟨hold, _⟩ | hnew
      · exact db.metaFk r hold
      · rw [hnew]
        exact hfk }

/-- INSERT INTO devices … ON CONFLICT (id) DO NOTHING. -/
def addDevice (device : Device) (db : Store) : Store :=
  { db with
    devices := Keyed.insertNew Device.id db.devices device
    deviceKey := Keyed.nodup_insertNew Device.id _ _ db.deviceKey
    rowFk := fun row hrow => Keyed.key_insertNew_of_mem Device.id _ _ _ (db.rowFk row hrow)
    metaFk := fun row hrow => Keyed.key_insertNew_of_mem Device.id _ _ _ (db.metaFk row hrow) }

/-- What a transaction of `_handle_meta` commits. -/
def insertMeta (now : Datetime) (deviceId : String) (data : PyVal) (db : Store) : Store :=
  (db.addDevice (newDevice now deviceId)).putMeta ⟨deviceId, data, now⟩
    (Keyed.key_insertNew Device.id db.devices (newDevice now deviceId))

/-- The transaction of `_handle_meta`. -/
def upsertMeta (env : Env) (now : Datetime) (deviceId : String) (data : PyVal) (db : Store) :
    Except Exc Store :=
  if env.metaStorable deviceId data then .ok (db.insertMeta now deviceId data)
  else .error .databaseError

/-- There is a row under the key. -/
def Stored (db : Store) (key : String × Datetime) : Prop := key ∈ db.telemetryRaw.map Row.key

instance (db : Store) (key : String × Datetime) : Decidable (db.Stored key) :=
  inferInstanceAs (Decidable (_ ∈ _))

/-- The last document of the device is the given one. -/
def HasMeta (db : Store) (deviceId : String) (data : PyVal) : Prop :=
  ∃ row ∈ db.deviceMeta, row.deviceId = deviceId ∧ row.payload = data

/-- A batch of storable rows within the limit goes through. -/
theorem flush_ok (env : Env) (now : Datetime) (rows : List Row) (db : Store)
    (hstorable : ∀ row ∈ rows, env.storable row = true)
    (hlimit : rows.length * rowParameters ≤ bindLimit) :
    ∃ db', db.flush env now rows = .ok db' := by
  have hgo :
      (rows.all env.storable && decide (rows.length * rowParameters ≤ bindLimit)) = true := by
    rw [Bool.and_eq_true, List.all_eq_true, decide_eq_true_eq]
    exact ⟨hstorable, hlimit⟩
  by_cases hnil : rows.isEmpty = true
  · exact ⟨db, by rw [flush, if_pos hnil]⟩
  · exact ⟨db.insertBatch now rows, by rw [flush, if_neg hnil, if_pos hgo]⟩

/-- A batch with another row does not. -/
theorem flush_error (env : Env) (now : Datetime) (rows : List Row) (db : Store) (row : Row)
    (hrow : row ∈ rows) (hstorable : env.storable row ≠ true) :
    db.flush env now rows = .error .databaseError := by
  have hne : rows ≠ [] := List.ne_nil_of_mem hrow
  rw [flush, if_neg (by rwa [List.isEmpty_iff]), if_neg]
  intro hgo
  rw [Bool.and_eq_true, List.all_eq_true] at hgo
  exact hstorable (hgo.1 row hrow)

/-- After a flush the keys of its rows are stored, and so are the old ones. -/
theorem stored_flush (env : Env) (now : Datetime) (rows : List Row) (db db' : Store)
    (h : db.flush env now rows = .ok db') (key : String × Datetime)
    (hkey : key ∈ rows.map Row.key ∨ db.Stored key) : db'.Stored key := by
  unfold flush at h
  split at h
  · next hnil =>
      rw [List.isEmpty_iff] at hnil
      rw [Except.ok.injEq] at h
      rw [hnil] at hkey
      rw [← h]
      exact hkey.resolve_left List.not_mem_nil
  · split at h
    · rw [Except.ok.injEq] at h
      rw [← h]
      rcases hkey with hin | hold
      · rcases List.mem_map.mp hin with ⟨row, hrow, heq⟩
        rw [← heq]
        exact Keyed.key_insertAllNew Row.key rows _ row hrow
      · rcases List.mem_map.mp hold with ⟨old, hin, heq⟩
        exact List.mem_map.mpr ⟨old, Keyed.mem_insertAllNew Row.key rows old _ hin, heq⟩
    · exact absurd h (by simp only [reduceCtorEq, not_false_eq_true])

/-- A flush leaves the documents alone. -/
theorem deviceMeta_flush (env : Env) (now : Datetime) (rows : List Row) (db db' : Store)
    (h : db.flush env now rows = .ok db') : db'.deviceMeta = db.deviceMeta := by
  unfold flush at h
  split at h
  · rw [Except.ok.injEq] at h
    rw [← h]
  · split at h
    · rw [Except.ok.injEq] at h
      rw [← h]
      rfl
    · exact absurd h (by simp only [reduceCtorEq, not_false_eq_true])

theorem upsertMeta_ok (env : Env) (now : Datetime) (deviceId : String) (data : PyVal) (db : Store)
    (hstorable : env.metaStorable deviceId data = true) :
    ∃ db', db.upsertMeta env now deviceId data = .ok db' :=
  ⟨_, if_pos hstorable⟩

theorem upsertMeta_error (env : Env) (now : Datetime) (deviceId : String) (data : PyVal)
    (db : Store) (hstorable : env.metaStorable deviceId data ≠ true) :
    db.upsertMeta env now deviceId data = .error .databaseError := by
  rw [upsertMeta, if_neg hstorable]

/-- An upsert leaves the telemetry alone. -/
theorem telemetryRaw_upsertMeta (env : Env) (now : Datetime) (deviceId : String) (data : PyVal)
    (db db' : Store) (h : db.upsertMeta env now deviceId data = .ok db') :
    db'.telemetryRaw = db.telemetryRaw := by
  unfold upsertMeta at h
  split at h
  · rw [Except.ok.injEq] at h
    rw [← h]
    rfl
  · exact absurd h (by simp only [reduceCtorEq, not_false_eq_true])

/-- After an upsert the device has the document, and the others have theirs. -/
theorem hasMeta_upsertMeta (env : Env) (now : Datetime) (deviceId : String) (data : PyVal)
    (db db' : Store) (h : db.upsertMeta env now deviceId data = .ok db') :
    db'.HasMeta deviceId data ∧
    ∀ id doc, id ≠ deviceId → db.HasMeta id doc → db'.HasMeta id doc := by
  unfold upsertMeta at h
  split at h
  · rw [Except.ok.injEq] at h
    rw [← h]
    refine ⟨⟨⟨deviceId, data, now⟩, Keyed.mem_upsert DeviceMeta.deviceId _ _, rfl, rfl⟩, ?_⟩
    rintro id doc hne ⟨row, hrow, hid, hdoc⟩
    exact ⟨row, Keyed.mem_upsert_of_ne DeviceMeta.deviceId _ _ row hrow (hid ▸ hne), hid, hdoc⟩
  · exact absurd h (by simp only [reduceCtorEq, not_false_eq_true])

end Store

end Ingest

end Backend

end Vena
