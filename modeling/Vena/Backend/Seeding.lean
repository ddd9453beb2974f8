import Vena.Backend.Devices
import Vena.Backend.TelemetryStore
import Vena.Core.Processes
import Vena.Core.Run

/-!
# Who Registers a Device

A row of `devices` is inserted by whichever comes first: the factory's
`seed_device.py`, a batch of telemetry or a `meta` document. Each of them
leaves a row that is already there as it is. The seed script stores the hash of
the device's pairing code, ingestion stores the text `unprovisioned`.

The statements of the three run interleaved. A seed run and a batch both read
first and write later; a seed run whose row has appeared in between fails on
the primary key, and a batch ignores the conflict. The batches are those that
commit: a transaction that fails leaves nothing behind.

## Main definitions

* `PairingEnv`: What the pairing functions get from outside.
* `macToDeviceId`, `generatePairingCode`, `hashPairingCode`: The seed script's
  helpers.
* `Seeding.State`, `Seeding.step`: Seed runs and ingestion, interleaved.

## Theorems

* `pairingCode_of_deviceId`: Two spellings of one address have one code.
* `registerKnown_register`: A batch with nothing in between is `register`.
* `Seeding.step_moves`: What a step can do.
-/

namespace Vena

namespace Backend

open Python Ingest Processes

/-- The factory's secret, and `bcrypt.hashpw` with the salt it draws. -/
structure PairingEnv extends Backend.Env where
  pairingSecret : String
  hashpw : String → String → String

/-- `[0-9a-fA-F]`. -/
def hexDigit (c : Char) : Bool :=
  ('0' ≤ c && c ≤ '9') || ('a' ≤ c && c ≤ 'f') || ('A' ≤ c && c ≤ 'F')

/-- `([0-9a-fA-F]{2}[:\-]){n}[0-9a-fA-F]{2}$`, where `$` also matches before a
    newline at the end. -/
def macPairs : Nat → List Char → Bool
  | 0, [a, b] => hexDigit a && hexDigit b
  | 0, [a, b, c] => hexDigit a && hexDigit b && c == '\n'
  | n + 1, a :: b :: c :: rest => hexDigit a && hexDigit b && (c == ':' || c == '-') &&
      macPairs n rest
  | _, _ => false

/-- `_MAC_RE.match`. -/
def macMatches (mac : String) : Bool := macPairs 5 mac.toList

/-- `mac.lower().replace(":", "").replace("-", "")`, for the characters of an
    address. -/
def cleanMac (mac : String) : List Char :=
  (mac.toList.map Char.toLower).filter (fun c => c ≠ ':' ∧ c ≠ '-')

def macToDeviceId (mac : String) : String :=
  String.ofList ("vena-".toList ++ cleanMac mac)

/-- `":".join(clean[i:i + 2] for i in range(0, 12, 2))`. -/
def macNorm (clean : List Char) : String :=
  String.intercalate ":" ((List.range 6).map (fun i => String.ofList ((clean.drop (2 * i)).take 2)))

/-- `generate_pairing_code`. The digest is hexadecimal. -/
def generatePairingCode (env : PairingEnv) (mac : String) : String :=
  String.ofList
    (((env.sha256hex (macNorm (cleanMac mac) ++ env.pairingSecret)).toList.take 8).map Char.toUpper)

/-- `hash_pairing_code`. -/
def hashPairingCode (env : PairingEnv) (code salt : String) : String :=
  env.hashpw code salt

/-- The row `seed` inserts. -/
def seededDevice (env : PairingEnv) (mac salt : String) : Device where
  id := macToDeviceId mac
  pairingCodeHash := hashPairingCode env (generatePairingCode env mac) salt
  fwVersion := none
  firstSeenAt := none
  lastSeenAt := none
  status := "never_connected"

/-- Two spellings of one address have one code. -/
theorem pairingCode_of_deviceId (env : PairingEnv) (mac mac' : String)
    (h : macToDeviceId mac = macToDeviceId mac') :
    generatePairingCode env mac = generatePairingCode env mac' := by
  have hclean : cleanMac mac = cleanMac mac' :=
    List.append_cancel_left (String.ofList_injective h)
  rw [generatePairingCode, generatePairingCode, hclean]

/-- The writes of `_flush` to `devices`, with the answer of its query. -/
def registerKnown (now : Datetime) (ids existing : List String) (devices : List Device) :
    List Device :=
  (Keyed.insertAllNew Device.id devices
    ((ids.filter (fun id => id ∉ existing)).map (newDevice now))).map
      (fun device => if device.id ∈ existing then seen now device else device)

/-- A batch with nothing between its query and its writes is `register`. -/
theorem registerKnown_register (now : Datetime) (ids : List String) (devices : List Device) :
    registerKnown now ids ((devices.map Device.id).filter (fun id => id ∈ ids)) devices =
      register now ids devices := rfl

theorem map_id_registerKnown (now : Datetime) (ids existing : List String)
    (devices : List Device) : (registerKnown now ids existing devices).map Device.id =
      (Keyed.insertAllNew Device.id devices
        ((ids.filter (fun id => id ∉ existing)).map (newDevice now))).map Device.id :=
  Keyed.map_key_update Device.id _ _ (seen now) (fun _ _ => rfl)

/-- The `devices` of a database after some were added or updated. -/
def Database.growDevices (db : Database) (devices : List Device)
    (hkey : (devices.map Device.id).Nodup)
    (hsub : ∀ id ∈ db.devices.map Device.id, id ∈ devices.map Device.id) : Database :=
  db.setDevices devices hkey (fun ud hud => by
    rcases db.deviceFk ud hud with ⟨device, hdevice, heq⟩
    exact List.mem_map.mp (hsub _ (heq ▸ List.mem_map_of_mem hdevice)))

/-- INSERT INTO devices … ON CONFLICT (id) DO NOTHING. -/
def Database.addDevice (db : Database) (device : Device) : Database :=
  db.growDevices (Keyed.insertNew Device.id db.devices device)
    (Keyed.nodup_insertNew Device.id _ _ db.deviceKey)
    (fun _ hid => Keyed.key_insertNew_of_mem Device.id _ _ _ hid)

/-- What a batch commits to `devices`. -/
def Database.register (db : Database) (now : Datetime) (ids existing : List String) : Database :=
  db.growDevices (registerKnown now ids existing db.devices)
    (by
      rw [map_id_registerKnown]
      exact Keyed.nodup_insertAllNew Device.id _ _ db.deviceKey)
    (fun id hid => by
      rw [map_id_registerKnown]
      rcases List.mem_map.mp hid with ⟨device, hdevice, heq⟩
      rw [← heq]
      exact List.mem_map_of_mem (Keyed.mem_insertAllNew Device.id _ _ _ hdevice))

namespace Seeding

/-- Where a run of the seed script stands. -/
inductive Pc where
  | select
  | insert
  | printed
  | failed
  deriving DecidableEq, Repr

structure SeedRun where
  mac : String
  salt : String
  pc : Pc
  deriving DecidableEq, Repr

/-- A batch whose transaction has read which devices exist. -/
structure Batch where
  ids : List String
  existing : List String
  deriving DecidableEq, Repr

structure State where
  db : Database
  seeds : List SeedRun
  batches : List Batch

/-- A seed run starts or goes on, a batch reads or writes, or a `meta`
    document is stored. -/
inductive Action where
  | seed (mac salt : String)
  | advance (i : Nat)
  | batchSelect (ids : List String)
  | batchWrite (j : Nat) (now : Datetime)
  | handleMeta (deviceId : String) (now : Datetime)
  deriving DecidableEq, Repr

/-- Before anything ran. -/
def start (db : Database) : State := ⟨db, [], []⟩

/-- The next statement of a seed run. -/
def advanceSeed (env : PairingEnv) (db : Database) (run : SeedRun) : Option (Database × Pc) :=
  match run.pc with
  | .select =>
    if !pgText (macToDeviceId run.mac) then some (db, .failed)
    else if macToDeviceId run.mac ∈ db.devices.map Device.id then some (db, .printed)
    else some (db, .insert)
  | .insert =>
    if macToDeviceId run.mac ∈ db.devices.map Device.id then some (db, .failed)
    else some (db.addDevice (seededDevice env run.mac run.salt), .printed)
  | .printed => none
  | .failed => none

def step (env : PairingEnv) (s : State) : Action → Option State
  | .seed mac salt =>
    if macMatches mac then some { s with seeds := s.seeds ++ [⟨mac, salt, .select⟩] } else some s
  | .advance i => do
    let run ← s.seeds[i]?
    let (db, pc) ← advanceSeed env s.db run
    return { s with db, seeds := s.seeds.set i { run with pc } }
  | .batchSelect ids =>
    some { s with batches := s.batches ++
      [⟨ids, (s.db.devices.map Device.id).filter (fun id => id ∈ ids)⟩] }
  | .batchWrite j now => do
    let batch ← s.batches[j]?
    return { s with
      db := s.db.register now batch.ids batch.existing
      batches := s.batches.eraseIdx j }
  | .handleMeta deviceId now => some { s with db := s.db.addDevice (newDevice now deviceId) }

/-- What a step can do. -/
inductive Moves (env : PairingEnv) (s : State) : Action → State → Prop
  | seed (mac salt : String) (hmac : macMatches mac = true) :
    Moves env s (.seed mac salt) { s with seeds := s.seeds ++ [⟨mac, salt, .select⟩] }
  | exit (mac salt : String) (hmac : ¬ macMatches mac = true) :
    Moves env s (.seed mac salt) s
  | idle (i : Nat) (mac salt : String) (pc : Pc) (hget : s.seeds[i]? = some ⟨mac, salt, pc⟩)
      (pc' : Pc) (hprinted : pc' = .printed → pgText (macToDeviceId mac) = true ∧
        macToDeviceId mac ∈ s.db.devices.map Device.id)
      (hinsert : pc' = .insert → pgText (macToDeviceId mac) = true) :
    Moves env s (.advance i) { s with seeds := s.seeds.set i ⟨mac, salt, pc'⟩ }
  | insert (i : Nat) (mac salt : String) (hget : s.seeds[i]? = some ⟨mac, salt, .insert⟩)
      (hnew : macToDeviceId mac ∉ s.db.devices.map Device.id) :
    Moves env s (.advance i) { s with
      db := s.db.addDevice (seededDevice env mac salt)
      seeds := s.seeds.set i ⟨mac, salt, .printed⟩ }
  | batchSelect (ids : List String) :
    Moves env s (.batchSelect ids) { s with batches := s.batches ++
      [⟨ids, (s.db.devices.map Device.id).filter (fun id => id ∈ ids)⟩] }
  | batchWrite (j : Nat) (now : Datetime) (ids existing : List String)
      (hget : s.batches[j]? = some ⟨ids, existing⟩) :
    Moves env s (.batchWrite j now) { s with
      db := s.db.register now ids existing
      batches := s.batches.eraseIdx j }
  | handleMeta (deviceId : String) (now : Datetime) :
    Moves env s (.handleMeta deviceId now) { s with db := s.db.addDevice (newDevice now deviceId) }

theorem step_moves (env : PairingEnv) (s s' : State) (a : Action) (h : step env s a = some s') :
    Moves env s a s' := by
  cases a with
  | seed mac salt =>
      by_cases hmac : macMatches mac = true
      · rw [step, if_pos hmac, Option.some.injEq] at h
        exact h ▸ .seed mac salt hmac
      · rw [step, if_neg hmac, Option.some.injEq] at h
        exact h ▸ .exit mac salt hmac
  | advance i =>
      cases hget : s.seeds[i]? with
      | none =>
          rw [step, hget] at h
          exact absurd h (by simp only [Option.bind_eq_bind, Option.bind_none, reduceCtorEq,
            not_false_eq_true])
      | some run =>
          rcases run with ⟨mac, salt, pc⟩
          rw [step, hget] at h
          cases pc with
          | select =>
              -- The SELECT itself fails on a text PostgreSQL does not take.
              by_cases htext : (!pgText (macToDeviceId mac)) = true
              · simp only [advanceSeed, if_pos htext, Option.bind_eq_bind, Option.bind_some,
                  Option.pure_def, Option.some.injEq] at h
                exact h ▸ .idle i mac salt _ hget .failed Pc.noConfusion Pc.noConfusion
              · have htext' : pgText (macToDeviceId mac) = true := by
                  rwa [Bool.not_eq_true', Bool.not_eq_false] at htext
                by_cases hin : macToDeviceId mac ∈ s.db.devices.map Device.id
                · simp only [advanceSeed, if_neg htext, if_pos hin, Option.bind_eq_bind,
                    Option.bind_some, Option.pure_def, Option.some.injEq] at h
                  exact h ▸ .idle i mac salt _ hget .printed (fun _ => ⟨htext', hin⟩)
                    Pc.noConfusion
                · simp only [advanceSeed, if_neg htext, if_neg hin, Option.bind_eq_bind,
                    Option.bind_some, Option.pure_def, Option.some.injEq] at h
                  exact h ▸ .idle i mac salt _ hget .insert Pc.noConfusion (fun _ => htext')
          | insert =>
              -- Somebody else may have added the row since the SELECT.
              by_cases hin : macToDeviceId mac ∈ s.db.devices.map Device.id
              · simp only [advanceSeed, if_pos hin, Option.bind_eq_bind, Option.bind_some,
                  Option.pure_def, Option.some.injEq] at h
                exact h ▸ .idle i mac salt _ hget .failed Pc.noConfusion Pc.noConfusion
              · simp only [advanceSeed, if_neg hin, Option.bind_eq_bind, Option.bind_some,
                  Option.pure_def, Option.some.injEq] at h
                exact h ▸ .insert i mac salt hget hin
          | printed =>
              simp only [advanceSeed, Option.bind_eq_bind, Option.bind_some, Option.bind_none,
                reduceCtorEq] at h
          | failed =>
              simp only [advanceSeed, Option.bind_eq_bind, Option.bind_some, Option.bind_none,
                reduceCtorEq] at h
  | batchSelect ids =>
      rw [step, Option.some.injEq] at h
      exact h ▸ .batchSelect ids
  | batchWrite j now =>
      cases hget : s.batches[j]? with
      | none =>
          rw [step, hget] at h
          exact absurd h (by simp only [Option.bind_eq_bind, Option.bind_none, reduceCtorEq,
            not_false_eq_true])
      | some batch =>
          rw [step, hget] at h
          simp only [Option.bind_eq_bind, Option.bind_some, Option.pure_def,
            Option.some.injEq] at h
          exact h ▸ .batchWrite j now batch.ids batch.existing hget
  | handleMeta deviceId now =>
      rw [step, Option.some.injEq] at h
      exact h ▸ .handleMeta deviceId now

end Seeding

end Backend

end Vena
