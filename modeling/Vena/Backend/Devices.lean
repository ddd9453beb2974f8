import Vena.Backend.Database
import Vena.Python.Str

/-!
# Devices and their Owners

`app/devices/service.py`, the two routes that hand out device tokens and the
MQTT credentials. Every function takes the database and returns the new one
with its reply; the exceptions a statement can raise are replies too.

## Main definitions

* `verifyPairingCode`: The check of a pairing code.
* `getDeviceOr404`: The row of a device.
* `claimDevice`, `listUserDevices`, `updateDeviceAlias`: The service.
* `provision`: `POST /devices/provision`, which asks for the pairing code.
* `provisionDevice`: `POST /devices/{device_id}/provision`, which does not.
* `getMqttCredentials`: The token for the owner's devices.

## Theorems

* `ownership_cases`: A user has at most one row for a device.
* `claimDevice_cases`, `updateDeviceAlias_cases`: What a claim and an alias update
  can do.
-/

namespace Vena

namespace Backend

open Python

structure ClaimResponse where
  deviceId : String
  deviceAlias : Option String
  claimedAt : Datetime
  deriving DecidableEq, Repr

structure DeviceItem where
  deviceId : String
  deviceAlias : Option String
  status : String
  lastSeenAt : Option Datetime
  fwVersion : Option String
  deriving DecidableEq, Repr

structure ProvisionResponse where
  deviceJwt : String
  deriving DecidableEq, Repr

structure DeviceCredentials where
  deviceJwt : String
  expiresIn : Int
  deriving DecidableEq, Repr

structure MqttCredentials where
  mqttToken : String
  expiresIn : Int
  brokerHost : String
  brokerPort : Int
  deriving DecidableEq, Repr

/-- `verify_pairing_code`. -/
def verifyPairingCode (env : Env) (code hashed : String) : Option Bool :=
  env.checkpw code hashed

def getDeviceOr404 (db : Database) (deviceId : String) : Reply Device :=
  if !pgText deviceId then .crash
  else match db.devices.filter (fun d => d.id = deviceId) with
    | [] => .error 404 "Device not found"
    | [device] => .ok device
    | _ => .crash

/-- The row of the device, if the code is that of the device. -/
def deviceWithCode (env : Env) (db : Database) (deviceId code : String) : Reply Device :=
  match getDeviceOr404 db deviceId with
  | .ok device => match verifyPairingCode env code device.pairingCodeHash with
    | some true => .ok device
    | some false => .error 403 "Invalid pairing code"
    | none => .crash
  | .error status detail => .error status detail
  | .crash => .crash

/-- The rows of `user_devices` for a user and a device. -/
def ownership (db : Database) (user : User) (deviceId : String) : List UserDevice :=
  db.userDevices.filter (fun ud => ud.userId = user.id && ud.deviceId = deviceId)

def claimResponse (deviceId : String) (ud : UserDevice) : ClaimResponse where
  deviceId := deviceId
  deviceAlias := ud.deviceAlias
  claimedAt := ud.claimedAt

/-- The INSERT of `claim_device`, which fails on a violated constraint. -/
def insertClaim (db : Database) (ud : UserDevice) : Database × Reply ClaimResponse :=
  if h : (∀ r ∈ db.userDevices, r.key ≠ ud.key) ∧ (∃ user ∈ db.users, user.id = ud.userId) ∧
      (∃ device ∈ db.devices, device.id = ud.deviceId) then
    (db.addClaim ud h.1 h.2.1 h.2.2, .ok (claimResponse ud.deviceId ud))
  else (db, .crash)

/-- `claim_device`; `now` is the database's clock. -/
def claimDevice (env : Env) (db : Database) (user : User) (deviceId code : String)
    (now : Datetime) : Database × Reply ClaimResponse :=
  match deviceWithCode env db deviceId code with
  | .ok _ => match ownership db user deviceId with
    | [ud] => (db, .ok (claimResponse deviceId ud))
    | [] => insertClaim db ⟨user.id, deviceId, none, now⟩
    | _ => (db, .crash)
  | .error status detail => (db, .error status detail)
  | .crash => (db, .crash)

/-- The join of `list_user_devices`. -/
def deviceItems (db : Database) (user : User) : List DeviceItem :=
  (db.userDevices.filter (fun ud => ud.userId = user.id)).flatMap (fun ud =>
    (db.devices.filter (fun d => d.id = ud.deviceId)).map (fun d =>
      { deviceId := d.id
        deviceAlias := ud.deviceAlias
        status := d.status
        lastSeenAt := d.lastSeenAt
        fwVersion := d.fwVersion }))

def listUserDevices (db : Database) (user : User) : Reply (List DeviceItem) :=
  .ok (deviceItems db user)

def updateDeviceAlias (db : Database) (user : User) (deviceId deviceAlias : String) :
    Database × Reply ClaimResponse :=
  if !pgText deviceId then (db, .crash)
  else match ownership db user deviceId with
    | [] => (db, .error 403 "Device not owned by this user")
    | [ud] =>
      if !pgText deviceAlias then (db, .crash)
      else
        (db.setAlias ud.key deviceAlias,
          .ok (claimResponse deviceId { ud with deviceAlias := some deviceAlias }))
    | _ => (db, .crash)

theorem mem_ownership (db : Database) (user : User) (deviceId : String) (ud : UserDevice)
    (h : ud ∈ ownership db user deviceId) :
    ud ∈ db.userDevices ∧ ud.key = (user.id, deviceId) := by
  rcases List.mem_filter.mp h with ⟨hin, hboth⟩
  simp only [Bool.and_eq_true, decide_eq_true_eq] at hboth
  exact ⟨hin, by rw [UserDevice.key, hboth.1, hboth.2]⟩

/-- Where the user has no row for the device, there is none under the key. -/
theorem key_free (db : Database) (user : User) (deviceId : String)
    (hnone : ownership db user deviceId = []) :
    ∀ r ∈ db.userDevices, r.key ≠ (user.id, deviceId) := by
  intro r hr hkey
  rw [UserDevice.key, Prod.mk.injEq] at hkey
  have hnot := List.filter_eq_nil_iff.mp hnone r hr
  rw [decide_eq_true hkey.1, decide_eq_true hkey.2] at hnot
  exact hnot rfl

/-- A user has at most one row for a device. -/
theorem ownership_cases (db : Database) (user : User) (deviceId : String) :
    ownership db user deviceId = [] ∨ ∃ ud, ownership db user deviceId = [ud] := by
  rcases hown : ownership db user deviceId with _ | ⟨ud, _ | ⟨ud', uds⟩⟩
  · exact Or.inl rfl
  · exact Or.inr ⟨ud, rfl⟩
  · -- Two rows for one user and one device would break the primary key.
    have hnodup : ((ownership db user deviceId).map UserDevice.key).Nodup :=
      db.pairKey.sublist ((List.filter_sublist).map _)
    have hud := (mem_ownership db user deviceId ud (hown ▸ List.mem_cons_self)).2
    have hud' := (mem_ownership db user deviceId ud'
      (hown ▸ List.mem_cons_of_mem _ List.mem_cons_self)).2
    rw [hown, List.map_cons, List.map_cons, List.nodup_cons, hud, hud'] at hnodup
    exact absurd List.mem_cons_self hnodup.1

/-- A claim either adds a row of the user for a device whose code was right, or
    changes nothing. -/
theorem claimDevice_cases (env : Env) (db : Database) (user : User) (deviceId code : String)
    (now : Datetime) :
    (∃ device hkey huser hdevice, deviceWithCode env db deviceId code = .ok device ∧
      claimDevice env db user deviceId code now =
        (db.addClaim ⟨user.id, deviceId, none, now⟩ hkey huser hdevice,
          .ok (claimResponse deviceId ⟨user.id, deviceId, none, now⟩))) ∨
    ∃ reply, claimDevice env db user deviceId code now = (db, reply) := by
  unfold claimDevice
  cases deviceWithCode env db deviceId code with
  | error status detail => exact Or.inr ⟨_, rfl⟩
  | crash => exact Or.inr ⟨_, rfl⟩
  | ok device =>
      rcases ownership_cases db user deviceId with hnone | ⟨ud, hone⟩
      · simp only [hnone]
        unfold insertClaim
        split
        · next h => exact Or.inl ⟨device, h.1, h.2.1, h.2.2, rfl, rfl⟩
        · exact Or.inr ⟨_, rfl⟩
      -- An owner claims again: nothing is written.
      · simp only [hone]
        exact Or.inr ⟨_, rfl⟩

/-- An alias update either sets the alias of the user's row, or fails with 403
    or an exception and changes nothing. -/
theorem updateDeviceAlias_cases (db : Database) (user : User) (deviceId deviceAlias : String) :
    (∃ ud ∈ db.userDevices, ud.key = (user.id, deviceId) ∧
      updateDeviceAlias db user deviceId deviceAlias = (db.setAlias ud.key deviceAlias,
        .ok (claimResponse deviceId { ud with deviceAlias := some deviceAlias }))) ∨
    updateDeviceAlias db user deviceId deviceAlias =
      (db, .error 403 "Device not owned by this user") ∨
    updateDeviceAlias db user deviceId deviceAlias = (db, .crash) := by
  unfold updateDeviceAlias
  by_cases htext : (!pgText deviceId) = true
  · rw [if_pos htext]
    exact Or.inr (Or.inr rfl)
  · rw [if_neg htext]
    rcases hown : ownership db user deviceId with _ | ⟨ud, _ | ⟨ud', uds⟩⟩
    · exact Or.inr (Or.inl rfl)
    · rcases mem_ownership db user deviceId ud (hown ▸ List.mem_singleton.mpr rfl) with ⟨hin, hkey⟩
      by_cases hname : (!pgText deviceAlias) = true
      · simp only [if_pos hname, or_true]
      · simp only [if_neg hname]
        exact Or.inl ⟨ud, hin, hkey, rfl⟩
    · exact Or.inr (Or.inr rfl)

/-- `POST /devices/provision`. -/
def provision (env : Env) (db : Database) (deviceId code : String) (now : Datetime) :
    Reply ProvisionResponse :=
  match deviceWithCode env db deviceId code with
  | .ok _ => .ok ⟨createDeviceJwt env deviceId now⟩
  | .error status detail => .error status detail
  | .crash => .crash

/-- `provision_device`, behind `POST /devices/{device_id}/provision`. -/
def provisionDevice (env : Env) (deviceId : String) (now : Datetime) : DeviceCredentials where
  deviceJwt := createDeviceJwt env deviceId now
  expiresIn :=
    if env.settings.deviceJwtExpireDays = 0 then (jwtMaxExp - now).tdiv 1000000
    else env.settings.deviceJwtExpireDays * 86400

/-- `get_mqtt_credentials`. -/
def getMqttCredentials (env : Env) (db : Database) (user : User) (now : Datetime) :
    MqttCredentials where
  mqttToken := createMqttToken env user
    ((db.userDevices.filter (fun ud => ud.userId = user.id)).map UserDevice.deviceId) now
  expiresIn := env.settings.mqttJwtExpireMinutes * 60
  brokerHost :=
    if env.settings.mqttPublicHost ≠ "" then env.settings.mqttPublicHost else env.settings.mqttHost
  brokerPort :=
    if env.settings.mqttPublicPort > 0 then env.settings.mqttPublicPort else env.settings.mqttPort

end Backend

end Vena
