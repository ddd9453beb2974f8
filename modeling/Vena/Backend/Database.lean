import Vena.Backend.AtomicRefresh

/-!
# The Database

The four tables the request handlers work on, together with the constraints of
the schema: primary keys, the unique Google subject and the foreign keys. The
constraints are fields of the structure, so every update has to say why it
keeps them, and a handler that violates one has to fail instead.

## Main definitions

* `Database`: The tables and their constraints.
* `Database.tokenDb`, `Database.withTokens`: The part `refreshAccessToken` works
  on.
* `Database.addUser`, `Database.setEmail`, `Database.addToken`,
  `Database.addClaim`, `Database.setAlias`, `Database.setDevices`: The updates.
-/

namespace Vena

namespace Backend

open Python

/-- The primary key of `user_devices`. -/
def UserDevice.key (ud : UserDevice) : Uuid × String := (ud.userId, ud.deviceId)

structure Database where
  users : List User
  devices : List Device
  userDevices : List UserDevice
  tokens : List RefreshToken
  userKey : (users.map User.id).Nodup
  googleKey : (users.map User.googleSub).Nodup
  deviceKey : (devices.map Device.id).Nodup
  pairKey : (userDevices.map UserDevice.key).Nodup
  tokenKey : (tokens.map RefreshToken.id).Nodup
  userFk : ∀ ud ∈ userDevices, ∃ user ∈ users, user.id = ud.userId
  deviceFk : ∀ ud ∈ userDevices, ∃ device ∈ devices, device.id = ud.deviceId
  tokenFk : ∀ rt ∈ tokens, ∃ user ∈ users, user.id = rt.userId

namespace Database

def tokenDb (db : Database) : Refresh.TokenDb where
  users := db.users
  tokens := db.tokens
  userKey := db.userKey
  tokenKey := db.tokenKey
  owner := db.tokenFk

def withTokens (db : Database) (t : Refresh.TokenDb) (h : t.users = db.users) : Database :=
  { db with
    tokens := t.tokens
    tokenKey := t.tokenKey
    tokenFk := h ▸ t.owner }

/-- INSERT INTO users. -/
def addUser (db : Database) (user : User) (hid : ∀ u ∈ db.users, u.id ≠ user.id)
    (hsub : ∀ u ∈ db.users, u.googleSub ≠ user.googleSub) : Database :=
  { db with
    users := db.users ++ [user]
    userKey := Keyed.nodup_concat User.id db.users user db.userKey hid
    googleKey := Keyed.nodup_concat User.googleSub db.users user db.googleKey hsub
    userFk := fun ud hud => Keyed.exists_concat _ db.users user (db.userFk ud hud)
    tokenFk := fun rt hrt => Keyed.exists_concat _ db.users user (db.tokenFk rt hrt) }

def withEmail (email : String) (user : User) : User :=
  { user with email := email }

/-- UPDATE users SET email. -/
def setEmail (db : Database) (userId : Uuid) (email : String) : Database :=
  { db with
    users := db.users.map (fun u => if decide (u.id = userId) then withEmail email u else u)
    userKey := by
      rw [Keyed.map_key_update User.id db.users _ (withEmail email) (fun _ _ => rfl)]
      exact db.userKey
    googleKey := by
      rw [Keyed.map_key_update User.googleSub db.users _ (withEmail email) (fun _ _ => rfl)]
      exact db.googleKey
    userFk := fun ud hud => Keyed.exists_update _ db.users _ (withEmail email) (fun _ h => h)
      (db.userFk ud hud)
    tokenFk := fun rt hrt => Keyed.exists_update _ db.users _ (withEmail email) (fun _ h => h)
      (db.tokenFk rt hrt) }

/-- INSERT INTO refresh_tokens. -/
def addToken (db : Database) (rt : RefreshToken) (hid : ∀ r ∈ db.tokens, r.id ≠ rt.id)
    (howner : ∃ user ∈ db.users, user.id = rt.userId) : Database :=
  { db with
    tokens := db.tokens ++ [rt]
    tokenKey := Keyed.nodup_concat RefreshToken.id db.tokens rt db.tokenKey hid
    tokenFk := Keyed.forall_concat _ db.tokens rt db.tokenFk howner }

/-- INSERT INTO user_devices. -/
def addClaim (db : Database) (ud : UserDevice) (hkey : ∀ r ∈ db.userDevices, r.key ≠ ud.key)
    (huser : ∃ user ∈ db.users, user.id = ud.userId)
    (hdevice : ∃ device ∈ db.devices, device.id = ud.deviceId) : Database :=
  { db with
    userDevices := db.userDevices ++ [ud]
    pairKey := Keyed.nodup_concat UserDevice.key db.userDevices ud db.pairKey hkey
    userFk := Keyed.forall_concat _ db.userDevices ud db.userFk huser
    deviceFk := Keyed.forall_concat _ db.userDevices ud db.deviceFk hdevice }

def withAlias (deviceAlias : String) (ud : UserDevice) : UserDevice :=
  { ud with deviceAlias := some deviceAlias }

/-- UPDATE user_devices SET alias. -/
def setAlias (db : Database) (key : Uuid × String) (deviceAlias : String) : Database :=
  { db with
    userDevices :=
      db.userDevices.map (fun ud => if decide (ud.key = key) then withAlias deviceAlias ud else ud)
    pairKey := by
      rw [Keyed.map_key_update UserDevice.key db.userDevices _ (withAlias deviceAlias)
        (fun _ _ => rfl)]
      exact db.pairKey
    userFk := Keyed.forall_update _ db.userDevices _ (withAlias deviceAlias) (fun _ h => h)
      db.userFk
    deviceFk := Keyed.forall_update _ db.userDevices _ (withAlias deviceAlias) (fun _ h => h)
      db.deviceFk }

/-- What ingestion and seeding leave in `devices`. -/
def setDevices (db : Database) (devices : List Device) (hkey : (devices.map Device.id).Nodup)
    (hfk : ∀ ud ∈ db.userDevices, ∃ device ∈ devices, device.id = ud.deviceId) : Database :=
  { db with
    devices := devices
    deviceKey := hkey
    deviceFk := hfk }

end Database

end Backend

end Vena
