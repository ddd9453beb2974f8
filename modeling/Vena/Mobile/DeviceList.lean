import Vena.Backend.Devices
import Vena.Core.Json

/-!
# The Device List

`GET /devices` and what the phone makes of it. The backend lists the devices a
user owns, the response goes over the wire as JSON, `listDevices` decodes it
and `syncDeviceList` upserts the result into the phone's own table.

The backend writes `last_seen_at` as an ISO 8601 string and the phone casts it
to an integer, so one device that has ever been seen makes the cast throw, and
with it the whole list. `device_list_survives` states this exactly: the list
survives if and only if no owned device has a `last_seen_at`. How the string
looks does not matter; `isoformat` is a parameter.

## Main definitions

* `listResponse`: The body of the response.
* `DeviceDto`, `fromJson`, `listDevices`: The phone's decoder.
* `LocalDevices`, `upsertDevice`, `syncDeviceList`: The phone's table.
* `owned`, `Carries`, `Survives`: What should come through.
* `Unseen`: No owned device has a `last_seen_at`.

## Theorems

* `deviceItems_owned`: The backend lists every owned device once.
* `fromJson_toJson`: One item decodes if and only if it has no `last_seen_at`.
* `listDevices_response`: The list decodes if and only if all its items do.
* `foldl_upsert`: A sync stores every device of the list.
* `device_list_survives`: The list survives if and only if no owned device has
  been seen.
* `device_list_lost`: A list that does not.
-/

namespace Vena

namespace Mobile

namespace DeviceList

open Backend

/-- One `DeviceItem`, serialised. -/
def toJson (isoformat : Datetime → String) (item : DeviceItem) : Json :=
  .obj [("device_id", .str item.deviceId),
    ("alias", item.deviceAlias.elim .null .str),
    ("status", .str item.status),
    ("last_seen_at", item.lastSeenAt.elim .null (fun d => .str (isoformat d))),
    ("fw_version", item.fwVersion.elim .null .str)]

/-- `DeviceListResponse`, serialised. -/
def listResponse (isoformat : Datetime → String) (items : List DeviceItem) : Json :=
  .obj [("devices", .arr (items.map (toJson isoformat)))]

structure DeviceDto where
  deviceId : String
  deviceAlias : Option String
  status : Option String
  lastSeenAt : Option Int
  fwVersion : Option String
  deriving DecidableEq, Repr

/-- `DeviceDto.fromJson`. A cast that throws is `none`. -/
def fromJson (json : List (String × Json)) : Option DeviceDto := do
  let deviceId ← (Json.get json "device_id").asString
  let deviceAlias ← (Json.get json "alias").asOptString
  let status ← (Json.get json "status").asOptString
  -- The backend sends a string here, and the cast asks for a number.
  let lastSeenAt ← (Json.get json "last_seen_at").asOptInt
  let fwVersion ← (Json.get json "fw_version").asOptString
  return { deviceId, deviceAlias, status, lastSeenAt, fwVersion }

/-- The array `listDevices` looks for in the body. -/
def listItems : Json → Option (List Json)
  | .arr items => some items
  | .obj members =>
    if Json.has members "items" then (Json.get members "items").asArray
    else if Json.has members "devices" then (Json.get members "devices").asArray
    else none
  | _ => none

/-- `DeviceApi.listDevices` on the body of the response. -/
def listDevices (data : Json) : Option (List DeviceDto) := do
  let items ← listItems data
  items.mapM (fun e => e.asObject.bind fromJson)

/-- A row of the phone's `devices` table. -/
structure LocalDevice where
  deviceId : String
  deviceAlias : String
  status : String
  lastSeenAt : Option Int
  fwVersion : Option String
  storedContent : Option String
  deriving DecidableEq, Repr

/-- The phone's `devices` table with its primary key. -/
structure LocalDevices where
  rows : List LocalDevice
  key : (rows.map LocalDevice.deviceId).Nodup

/-- `toCompanion`, over the row it is written to. -/
def toCompanion (dto : DeviceDto) (storedContent : Option String) : LocalDevice where
  deviceId := dto.deviceId
  deviceAlias := dto.deviceAlias.getD ""
  status := dto.status.getD "offline"
  lastSeenAt := dto.lastSeenAt
  fwVersion := dto.fwVersion
  storedContent := storedContent

/-- The rows after `insertOnConflictUpdate`, which leaves `storedContent`
    alone. -/
def upsertRows (rows : List LocalDevice) (dto : DeviceDto) : List LocalDevice :=
  if rows.any (fun row => row.deviceId = dto.deviceId) then
    rows.map (fun row =>
      if row.deviceId = dto.deviceId then toCompanion dto row.storedContent else row)
  else rows ++ [toCompanion dto none]

theorem nodup_upsertRows (rows : List LocalDevice) (dto : DeviceDto)
    (h : (rows.map LocalDevice.deviceId).Nodup) :
    ((upsertRows rows dto).map LocalDevice.deviceId).Nodup := by
  unfold upsertRows
  by_cases hany : rows.any (fun row => row.deviceId = dto.deviceId) = true
  · rw [if_pos hany, Keyed.map_key_update LocalDevice.deviceId rows
      (fun row => row.deviceId = dto.deviceId) (fun row => toCompanion dto row.storedContent)
      (fun _ hrow => hrow.symm)]
    exact h
  · rw [if_neg hany]
    refine Keyed.nodup_concat _ rows _ h (fun row hrow heq => hany ?_)
    exact List.any_eq_true.mpr ⟨row, hrow, decide_eq_true heq⟩

/-- `DeviceDao.upsertDevice`. -/
def upsertDevice (table : LocalDevices) (dto : DeviceDto) : LocalDevices where
  rows := upsertRows table.rows dto
  key := nodup_upsertRows table.rows dto table.key

/-- `DeviceSyncService.syncDeviceList` on the body of the response. -/
def syncDeviceList (data : Json) (table : LocalDevices) : Option LocalDevices :=
  (listDevices data).map (fun devices => devices.foldl upsertDevice table)

/-- The user's rows in `user_devices`: one for each device owned. -/
def owned (db : Database) (user : User) : List UserDevice :=
  db.userDevices.filter (fun ud => ud.userId = user.id)

/-- The instant in milliseconds since the epoch, as Dart counts it. The column
    itself names no unit, and `MqttMessageHandler` writes seconds there. -/
def epochMs (d : Datetime) : Int := d / 1000

/-- The phone's device is the backend's, as the user who owns it sees it. -/
def Carries (db : Database) (ud : UserDevice) (dto : DeviceDto) : Prop :=
  ∃ device ∈ db.devices, device.id = ud.deviceId ∧ dto.deviceId = device.id ∧
    dto.deviceAlias = ud.deviceAlias ∧ dto.status = some device.status ∧
    dto.lastSeenAt = device.lastSeenAt.map epochMs ∧ dto.fwVersion = device.fwVersion

/-- The list decodes into one device for each device owned, and a sync writes
    all of them into whatever table the phone has. -/
def Survives (isoformat : Datetime → String) (db : Database) (user : User) : Prop :=
  ∃ items, listUserDevices db user = .ok items ∧
  ∃ dtos, listDevices (listResponse isoformat items) = some dtos ∧
    List.Forall₂ (Carries db) (owned db user) dtos ∧
    ∀ table, ∃ table', syncDeviceList (listResponse isoformat items) table = some table' ∧
      ∀ dto ∈ dtos, ∃ row ∈ table'.rows, ∃ content, row = toCompanion dto content

/-- A join that finds one partner for every row. -/
theorem forall₂_flatMap {α β : Type} (R : α → β → Prop) (f : α → List β) (as : List α)
    (h : ∀ a ∈ as, ∃ b, f a = [b] ∧ R a b) : List.Forall₂ R as (as.flatMap f) := by
  induction as with
  | nil => exact List.Forall₂.nil
  | cons a as ih =>
      rcases h a List.mem_cons_self with ⟨b, hf, hR⟩
      rw [List.flatMap_cons, hf, List.singleton_append]
      exact List.Forall₂.cons hR (ih (fun a' ha' => h a' (List.mem_cons_of_mem _ ha')))

/-- The item is the device with what its owner calls it. -/
def ItemOf (db : Database) (ud : UserDevice) (item : DeviceItem) : Prop :=
  ∃ device ∈ db.devices, device.id = ud.deviceId ∧ item.deviceId = device.id ∧
    item.deviceAlias = ud.deviceAlias ∧ item.status = device.status ∧
    item.lastSeenAt = device.lastSeenAt ∧ item.fwVersion = device.fwVersion

/-- The backend lists every owned device once. -/
theorem deviceItems_owned (db : Database) (user : User) :
    List.Forall₂ (ItemOf db) (owned db user) (deviceItems db user) := by
  refine forall₂_flatMap (ItemOf db) _ (owned db user) (fun ud hud => ?_)
  rcases db.deviceFk ud (List.mem_filter.mp hud).1 with ⟨device, hin, hid⟩
  have hone : db.devices.filter (fun d => d.id = ud.deviceId) = [device] := by
    rw [← hid]
    exact Keyed.filter_key Device.id db.devices device db.deviceKey hin
  simp only [hone, List.map_singleton]
  exact ⟨_, rfl, device, hin, hid, rfl, rfl, rfl, rfl, rfl⟩

/-- The device the phone makes of an item. -/
def toDto (item : DeviceItem) : DeviceDto where
  deviceId := item.deviceId
  deviceAlias := item.deviceAlias
  status := some item.status
  lastSeenAt := none
  fwVersion := item.fwVersion

theorem asOptString_elim (s : Option String) :
    (s.elim Json.null Json.str).asOptString = some s := by
  cases s with
  | none => rfl
  | some s => rfl

/-- An item decodes if and only if it has no `last_seen_at`. -/
theorem fromJson_toJson (isoformat : Datetime → String) (item : DeviceItem) :
    (toJson isoformat item).asObject.bind fromJson =
      if item.lastSeenAt = none then some (toDto item) else none := by
  rcases item with ⟨deviceId, deviceAlias, status, lastSeenAt, fwVersion⟩
  have hstatus : (Json.str status).asOptString = some (some status) := rfl
  cases lastSeenAt with
  | none =>
      simp [toJson, toDto, Json.asObject, fromJson, Json.get, Json.asString, Json.asOptInt,
        asOptString_elim, hstatus]
  | some d =>
      simp [toJson, Json.asObject, fromJson, Json.get, Json.asString, Json.asOptInt,
        asOptString_elim, hstatus]

/-- Decoding item by item stops at the first item that does not decode. -/
theorem mapM_guarded {α β : Type} (p : α → Prop) [DecidablePred p] (g : α → β) (as : List α) :
    as.mapM (fun a => if p a then some (g a) else none) =
      if ∀ a ∈ as, p a then some (as.map g) else none := by
  induction as with
  | nil => rfl
  | cons a as ih =>
      rw [List.mapM_cons, ih]
      by_cases ha : p a
      · by_cases has : ∀ a ∈ as, p a
        · rw [if_pos ha, if_pos has, if_pos (List.forall_mem_cons.mpr ⟨ha, has⟩)]
          rfl
        · rw [if_pos ha, if_neg has, if_neg (fun hall => has (List.forall_mem_cons.mp hall).2)]
          rfl
      · rw [if_neg ha, if_neg (fun hall => ha (List.forall_mem_cons.mp hall).1)]
        rfl

theorem listDevices_response (isoformat : Datetime → String) (items : List DeviceItem) :
    listDevices (listResponse isoformat items) =
      if ∀ item ∈ items, item.lastSeenAt = none then some (items.map toDto) else none := by
  have hitems : listItems (listResponse isoformat items) =
      some (items.map (toJson isoformat)) := by
    simp [listItems, listResponse, Json.has, Json.get, Json.asArray]
  rw [listDevices, hitems, Option.bind_eq_bind, Option.bind_some, List.mapM_map]
  simp only [Function.comp_def, fromJson_toJson]
  exact mapM_guarded (fun item : DeviceItem => item.lastSeenAt = none) toDto items

theorem upsert_stores (table : LocalDevices) (dto : DeviceDto) :
    ∃ content, toCompanion dto content ∈ (upsertDevice table dto).rows := by
  unfold upsertDevice upsertRows
  by_cases hany : table.rows.any (fun row => row.deviceId = dto.deviceId) = true
  · rcases List.any_eq_true.mp hany with ⟨row, hrow, hid⟩
    simp only [if_pos hany]
    exact ⟨row.storedContent, List.mem_map.mpr ⟨row, hrow, if_pos (of_decide_eq_true hid)⟩⟩
  · simp only [if_neg hany]
    exact ⟨none, List.mem_append_right _ (List.mem_singleton.mpr rfl)⟩

theorem upsert_keeps (table : LocalDevices) (dto : DeviceDto) (row : LocalDevice)
    (h : row ∈ table.rows) (hne : row.deviceId ≠ dto.deviceId) :
    row ∈ (upsertDevice table dto).rows := by
  unfold upsertDevice upsertRows
  by_cases hany : table.rows.any (fun row => row.deviceId = dto.deviceId) = true
  · simp only [if_pos hany]
    exact List.mem_map.mpr ⟨row, h, if_neg hne⟩
  · simp only [if_neg hany]
    exact List.mem_append_left _ h

/-- A sync keeps the rows of other devices and stores every device of the list. -/
theorem foldl_upsert (dtos : List DeviceDto) : ∀ (table : LocalDevices),
    (dtos.map DeviceDto.deviceId).Nodup →
    (∀ row ∈ table.rows, row.deviceId ∉ dtos.map DeviceDto.deviceId →
      row ∈ (dtos.foldl upsertDevice table).rows) ∧
    ∀ dto ∈ dtos, ∃ content, toCompanion dto content ∈ (dtos.foldl upsertDevice table).rows := by
  induction dtos with
  | nil => exact fun table _ => ⟨fun _ h _ => h, fun _ h => absurd h List.not_mem_nil⟩
  | cons dto dtos ih =>
      intro table hnodup
      rw [List.map_cons, List.nodup_cons] at hnodup
      rcases ih (upsertDevice table dto) hnodup.2 with ⟨hkeep, hstore⟩
      refine ⟨fun row hrow hnot => ?_, fun dto' hdto' => ?_⟩
      -- A row of a device that is not in the list survives every upsert.
      · rw [List.map_cons, List.mem_cons, not_or] at hnot
        exact hkeep row (upsert_keeps table dto row hrow hnot.1) hnot.2
      · rcases List.mem_cons.mp hdto' with heq | hin
        · rcases upsert_stores table dto with ⟨content, hcontent⟩
          rw [heq]
          -- No later device of the list has its id, so its row stays.
          exact ⟨content, hkeep _ hcontent hnodup.1⟩
        · exact hstore dto' hin

/-- A user owns a device once, so the list names it once. -/
theorem nodup_deviceItems (db : Database) (user : User) :
    ((deviceItems db user).map DeviceItem.deviceId).Nodup := by
  have hids : (owned db user).map UserDevice.deviceId =
      (deviceItems db user).map DeviceItem.deviceId := by
    rw [← List.forall₂_eq_eq_eq, List.forall₂_map_left_iff, List.forall₂_map_right_iff]
    refine (deviceItems_owned db user).imp ?_
    rintro ud item ⟨device, _, hid, hitem, _⟩
    rw [hitem, hid]
  have howned : (owned db user).Nodup := List.Nodup.filter _ (List.Nodup.of_map _ db.pairKey)
  rw [← hids]
  refine List.Nodup.map_on ?_ howned
  intro ud hud ud' hud' heq
  rcases List.mem_filter.mp hud with ⟨hin, huser⟩
  rcases List.mem_filter.mp hud' with ⟨hin', huser'⟩
  refine Keyed.eq_of_key UserDevice.key db.userDevices ud ud' db.pairKey hin hin' ?_
  rw [UserDevice.key, UserDevice.key, heq, of_decide_eq_true huser, of_decide_eq_true huser']

/-- No owned device has ever been seen. -/
def Unseen (db : Database) (user : User) : Prop :=
  ∀ ud ∈ owned db user, ∀ device ∈ db.devices, device.id = ud.deviceId →
    device.lastSeenAt = none

theorem unseen_iff (db : Database) (user : User) :
    Unseen db user ↔ ∀ item ∈ deviceItems db user, item.lastSeenAt = none := by
  constructor
  · intro h item hitem
    rcases List.mem_flatMap.mp hitem with ⟨ud, hud, hin⟩
    rcases List.mem_map.mp hin with ⟨device, hdevice, heq⟩
    rcases List.mem_filter.mp hdevice with ⟨hdev, hid⟩
    rw [← heq]
    exact h ud hud device hdev (of_decide_eq_true hid)
  · intro h ud hud device hdev hid
    exact h _ (List.mem_flatMap.mpr ⟨ud, hud, List.mem_map.mpr ⟨device,
      List.mem_filter.mpr ⟨hdev, decide_eq_true hid⟩, rfl⟩⟩)

/-- The list survives if and only if no owned device has been seen. -/
theorem device_list_survives (isoformat : Datetime → String) (db : Database) (user : User) :
    Survives isoformat db user ↔ Unseen db user := by
  rw [unseen_iff]
  constructor
  · rintro ⟨items, hitems, dtos, hdtos, _⟩
    rw [listUserDevices, Reply.ok.injEq] at hitems
    -- One item that does not decode loses the whole list.
    by_contra hseen
    rw [← hitems, listDevices_response, if_neg hseen] at hdtos
    exact absurd hdtos (by simp only [reduceCtorEq, not_false_eq_true])
  · intro hunseen
    have hdecoded := listDevices_response isoformat (deviceItems db user)
    rw [if_pos hunseen] at hdecoded
    refine ⟨_, rfl, _, hdecoded, ?_, ?_⟩
    · have howned := (List.forall₂_and_left _ _).mpr
        ⟨(unseen_iff db user).mpr hunseen, deviceItems_owned db user⟩
      rw [List.forall₂_map_right_iff]
      -- Each item keeps what the owner sees, with no time to lose.
      refine howned.imp ?_
      rintro ud item ⟨hnone, device, hdev, hid, hitem, halias, hstatus, _, hfw⟩
      refine ⟨device, hdev, hid, hitem, halias, congrArg some hstatus, ?_, hfw⟩
      rw [hnone device hdev hid]
      rfl
    · intro table
      have hnodup : (((deviceItems db user).map toDto).map DeviceDto.deviceId).Nodup := by
        rw [List.map_map]
        exact nodup_deviceItems db user
      refine ⟨_, by rw [syncDeviceList, hdecoded, Option.map_some], fun dto hdto => ?_⟩
      rcases (foldl_upsert _ table hnodup).2 dto hdto with ⟨content, hcontent⟩
      exact ⟨_, hcontent, content, rfl⟩

/-- One user who owns one device, which sent its first sample at the epoch. -/
def demoDb : Database where
  users := [⟨1, "google-1", "ana@vena.test"⟩]
  devices := [⟨"vena-a", "C0DE", none, some 0, some 0, "online"⟩]
  userDevices := [⟨1, "vena-a", some "Sala", 0⟩]
  tokens := []
  userKey := Refresh.demoDb.userKey
  googleKey := by decide
  deviceKey := by decide
  pairKey := by decide
  tokenKey := List.nodup_nil
  userFk := by decide
  deviceFk := by decide
  tokenFk := by decide

theorem device_list_lost : ¬ ∀ (isoformat : Datetime → String) (db : Database) (user : User),
    Survives isoformat db user := by
  intro hall
  rcases hall (fun _ => "1970-01-01T00:00:00Z") demoDb ⟨1, "google-1", "ana@vena.test"⟩
    with ⟨items, hitems, dtos, hdtos, _⟩
  rw [listUserDevices, Reply.ok.injEq] at hitems
  have hnone : listDevices (listResponse (fun _ => "1970-01-01T00:00:00Z")
      (deviceItems demoDb ⟨1, "google-1", "ana@vena.test"⟩)) = none := by decide
  rw [← hitems, hnone] at hdtos
  exact absurd hdtos (by simp only [reduceCtorEq, not_false_eq_true])

end DeviceList

end Mobile

end Vena
