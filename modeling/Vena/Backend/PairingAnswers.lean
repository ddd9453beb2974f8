import Vena.Backend.Claimable

/-!
# Whether a Pairing Request is Answered

`claim_device` and `POST /devices/provision` have two answers for a request
they do not grant: 404 for a device there is no row of, 403 for a code that is
not its. Both rely on statements that can raise. asyncpg does not send a text
with a NUL, and `bcrypt.checkpw` does not work on a text that is no hash, which
is what ingestion writes into the row of a device that was not seeded. Versions
of bcrypt differ in the passwords they take; that is the parameter `takes`.

The rows of `devices` come from seed runs and from ingestion, interleaved with
requests of every kind, and no request writes to the table. So a stored hash
has one of two shapes, and `answers_iff` says for which of the requests an
answer comes back.

## Main definitions

* `Action`, `step`: Seeding, ingestion and requests.
* `Hashed`: What the column `pairing_code_hash` may hold.
* `Answered`: A request succeeds, or fails with 404 or 403 and writes nothing.

## Theorems

* `hashed_run`: Every run keeps `Hashed`.
* `answers_iff`: The requests that are answered.
* `unanswered_code`: A code for a device that only ever reported.
-/

namespace Vena

namespace Backend

namespace PairingAnswers

open Python Processes Run

/-- A step of seeding or ingestion, or a request to the API. -/
inductive Action where
  | seeding (a : Seeding.Action)
  | login (idToken : String) (drawn : Uuid) (issue : Refresh.Issue)
  | refresh (raw : String) (now : Datetime) (issue : Refresh.Issue)
  | request (bearer : String) (now : Datetime) (endpoint : Access.Endpoint)
  deriving DecidableEq

/-- A request changes the database; what it hands out is not looked at here. -/
def serve (env : PairingEnv) (s : Seeding.State) (act : Access.Act) : Option Seeding.State :=
  (Access.step env.toEnv (Access.start s.db) act).map (fun t => { s with db := t.db })

def step (env : PairingEnv) (s : Seeding.State) : Action → Option Seeding.State
  | .seeding a => Seeding.step env s a
  | .login idToken drawn issue => serve env s (.login idToken drawn issue)
  | .refresh raw now issue => serve env s (.refresh raw now issue)
  | .request bearer now endpoint => serve env s (.request bearer now endpoint)

/-- What ingestion stores where there is no hash. -/
def placeholder : String := "unprovisioned"

/-- The column holds the placeholder or the hash of a code. -/
def Hashed (env : PairingEnv) (s : Seeding.State) : Prop :=
  ∀ device ∈ s.db.devices, device.pairingCodeHash = placeholder ∨
    ∃ code salt, device.pairingCodeHash = hashPairingCode env code salt

theorem devices_claimDevice (env : Env) (db : Database) (user : User) (deviceId code : String)
    (now : Datetime) : (claimDevice env db user deviceId code now).1.devices = db.devices := by
  rcases claimDevice_cases env db user deviceId code now with
    ⟨_, _, _, _, _, hnew⟩ | ⟨reply, hsame⟩
  · rw [hnew]
    rfl
  · rw [hsame]

theorem devices_updateDeviceAlias (db : Database) (user : User) (deviceId deviceAlias : String) :
    (updateDeviceAlias db user deviceId deviceAlias).1.devices = db.devices := by
  rcases updateDeviceAlias_cases db user deviceId deviceAlias with ⟨_, _, _, hok⟩ | h403 | hcrash
  · rw [hok]
    rfl
  · rw [h403]
  · rw [hcrash]

/-- No request writes to `devices`. -/
theorem devices_request (env : Env) (s t : Access.State) (bearer : String) (now : Datetime)
    (endpoint : Access.Endpoint) (h : Access.step env s (.request bearer now endpoint) = some t) :
    t.db.devices = s.db.devices := by
  rw [Access.step] at h
  split at h
  · next user _ =>
      rw [← Option.some.inj h]
      cases endpoint with
      | claim deviceId code => exact devices_claimDevice env s.db user deviceId code now
      | updateAlias deviceId deviceAlias =>
          exact devices_updateDeviceAlias s.db user deviceId deviceAlias
      | _ => rfl
  · rw [← Option.some.inj h]

theorem hashed_serve (env : PairingEnv) (s s' : Seeding.State) (act : Access.Act)
    (hsame : ∀ t, Access.step env.toEnv (Access.start s.db) act = some t →
      t.db.devices = s.db.devices)
    (h : Hashed env s) (hserve : serve env s act = some s') : Hashed env s' := by
  rcases Option.map_eq_some_iff.mp hserve with ⟨t, ht, heq⟩
  intro device hdevice
  rw [← heq] at hdevice
  have hin : device ∈ s.db.devices := hsame t ht ▸ hdevice
  exact h device hin

/-- A row has the hash of a seed run or the placeholder of ingestion, and an
    update leaves it. -/
theorem hashed_seeding (env : PairingEnv) (s s' : Seeding.State) (a : Seeding.Action)
    (h : Hashed env s) (hstep : Seeding.step env s a = some s') : Hashed env s' := by
  cases Seeding.step_moves env s s' a hstep with
  | seed mac salt hmac => exact h
  | exit mac salt hmac => exact h
  | idle i mac salt pc hget pc' hprinted hinsert => exact h
  | insert i mac salt hget hnew =>
      intro device hdevice
      rcases Keyed.mem_insertNew_cases Device.id _ _ device hdevice with hold | ⟨heq, _⟩
      · exact h device hold
      · rw [heq]
        exact Or.inr ⟨generatePairingCode env mac, salt, rfl⟩
  | batchSelect ids => exact h
  | batchWrite j now ids existing hget =>
      intro device hdevice
      rcases Seeding.mem_registerKnown now ids existing _ device hdevice
        with ⟨old, _, hhash, hin | ⟨hplaceholder, _⟩⟩
      · rw [← hhash]
        exact h old hin
      · rw [← hhash]
        exact Or.inl hplaceholder
  | handleMeta deviceId now =>
      intro device hdevice
      rcases Keyed.mem_insertNew_cases Device.id _ _ device hdevice with hold | ⟨heq, _⟩
      · exact h device hold
      · rw [heq]
        exact Or.inl rfl

theorem hashed_step (env : PairingEnv) (s s' : Seeding.State) (a : Action) (h : Hashed env s)
    (hstep : step env s a = some s') : Hashed env s' := by
  cases a with
  | seeding b => exact hashed_seeding env s s' b h hstep
  | login idToken drawn issue =>
      refine hashed_serve env s s' _ (fun t ht => ?_) h hstep
      rw [← Option.some.inj ht]
      exact (Access.loginWithGoogle_frame env.toEnv s.db idToken drawn issue).1
  | refresh raw now issue =>
      refine hashed_serve env s s' _ (fun t ht => ?_) h hstep
      rw [← Option.some.inj ht]
      rfl
  | request bearer now endpoint =>
      exact hashed_serve env s s' _
        (fun t ht => devices_request env.toEnv (Access.start s.db) t bearer now endpoint ht) h hstep

theorem hashed_run (env : PairingEnv) (db : Database) (hempty : db.devices = [])
    (acts : List Action) (s : Seeding.State)
    (hrun : run (step env) (Seeding.start db) acts = some s) : Hashed env s := by
  have hstart : Hashed env (Seeding.start db) := by
    intro device hdevice
    have hin : device ∈ db.devices := hdevice
    rw [hempty] at hin
    exact absurd hin List.not_mem_nil
  exact run_invariant (step env) (Hashed env) (fun s a s' => hashed_step env s s' a) acts
    (Seeding.start db) s hstart hrun

/-- A failure with 404 or 403. -/
def Refused {α : Type} (r : Reply α) : Prop :=
  ∃ status detail, r = .error status detail ∧ (status = 404 ∨ status = 403)

/-- Both routes succeed or refuse, and a refused claim writes nothing;
    `provision` never writes. -/
structure Answered (env : Env) (db : Database) (deviceId code : String) : Prop where
  claim : ∀ user ∈ db.users, ∀ now,
    (∃ resp, (claimDevice env db user deviceId code now).2 = .ok resp) ∨
    Refused (claimDevice env db user deviceId code now).2 ∧
      (claimDevice env db user deviceId code now).1 = db
  provision : ∀ now, (∃ resp, provision env db deviceId code now = .ok resp) ∨
    Refused (provision env db deviceId code now)

variable {env : PairingEnv} {db : Database} {deviceId code : String}

theorem answered_of_refused (status : Nat) (detail : String) (hstatus : status = 404 ∨ status = 403)
    (h : deviceWithCode env.toEnv db deviceId code = .error status detail) :
    Answered env.toEnv db deviceId code := by
  refine ⟨fun user _ now => Or.inr ?_, fun now => Or.inr ?_⟩
  · rw [claimDevice, h]
    exact ⟨⟨status, detail, rfl, hstatus⟩, rfl⟩
  · rw [provision, h]
    exact ⟨status, detail, rfl, hstatus⟩

theorem not_answered_of_crash (h : deviceWithCode env.toEnv db deviceId code = .crash) :
    ¬ Answered env.toEnv db deviceId code := by
  intro hanswered
  rcases hanswered.provision 0 with ⟨resp, hresp⟩ | ⟨status, detail, heq, _⟩
  · rw [provision, h] at hresp
    exact absurd hresp (by simp only [reduceCtorEq, not_false_eq_true])
  · rw [provision, h] at heq
    exact absurd heq (by simp only [reduceCtorEq, not_false_eq_true])

/-- The device is there: the check of the code decides. -/
theorem deviceWithCode_of_mem (env : PairingEnv) (code : String) (device : Device)
    (hin : device ∈ db.devices) (htext : pgText device.id = true) :
    deviceWithCode env.toEnv db device.id code =
      match env.checkpw code device.pairingCodeHash with
      | some true => .ok device
      | some false => .error 403 "Invalid pairing code"
      | none => .crash := by
  have hget : getDeviceOr404 db device.id = .ok device := by
    rw [getDeviceOr404, htext, Keyed.filter_key Device.id db.devices device db.deviceKey hin]
    rfl
  rw [deviceWithCode, hget]
  rfl

theorem deviceWithCode_of_missing (htext : pgText deviceId = true)
    (hmissing : ∀ device ∈ db.devices, device.id ≠ deviceId) :
    deviceWithCode env.toEnv db deviceId code = .error 404 "Device not found" := by
  have hnone : db.devices.filter (fun d => d.id = deviceId) = [] := by
    rw [List.filter_eq_nil_iff]
    intro device hdevice
    rw [decide_eq_true_eq]
    exact hmissing device hdevice
  rw [deviceWithCode, getDeviceOr404, htext, hnone]
  rfl

/-- A code the device's hash can be compared with gets an answer. -/
theorem answered_iff_checkpw (device : Device) (hin : device ∈ db.devices)
    (htext : pgText device.id = true) :
    Answered env.toEnv db device.id code ↔
      (env.checkpw code device.pairingCodeHash).isSome = true := by
  have hcode := deviceWithCode_of_mem env code device hin htext
  cases hcheck : env.checkpw code device.pairingCodeHash with
  | none =>
      rw [hcheck] at hcode
      exact ⟨fun h => absurd h (not_answered_of_crash hcode), fun h => absurd h Bool.false_ne_true⟩
  | some valid =>
      refine ⟨fun _ => rfl, fun _ => ?_⟩
      cases valid with
      | true =>
          rw [hcheck] at hcode
          exact ⟨fun user huser now => Or.inl
              (claimDevice_ok env.toEnv db user device code now huser hin hcode),
            fun now => Or.inl (provision_ok env.toEnv db device code now hcode)⟩
      | false =>
          rw [hcheck] at hcode
          exact answered_of_refused 403 _ (Or.inr rfl) hcode

/-- Requests are answered for devices that were seeded, with codes bcrypt takes,
    and for devices that are not there. -/
theorem answers_iff (env : PairingEnv) (takes : String → Bool)
    (hplaceholder : ∀ code, env.checkpw code placeholder = none)
    (hbcrypt : ∀ code code' salt,
      (env.checkpw code (env.hashpw code' salt)).isSome = takes code)
    (db : Database) (hempty : db.devices = []) (acts : List Action) (s : Seeding.State)
    (hrun : run (step env) (Seeding.start db) acts = some s) (deviceId code : String) :
    Answered env.toEnv s.db deviceId code ↔ pgText deviceId = true ∧
      ∀ device ∈ s.db.devices, device.id = deviceId →
        device.pairingCodeHash ≠ placeholder ∧ takes code = true := by
  have hhashed := hashed_run env db hempty acts s hrun
  by_cases htext : pgText deviceId = true
  · rw [and_iff_right htext]
    by_cases hthere : ∃ device ∈ s.db.devices, device.id = deviceId
    · rcases hthere with ⟨device, hin, rfl⟩
      rw [answered_iff_checkpw device hin htext]
      rcases hhashed device hin with hhash | ⟨code', salt, hhash⟩
      -- The placeholder is no hash, so no code can be compared with it.
      · rw [hhash, hplaceholder]
        exact ⟨fun h => absurd h Bool.false_ne_true, fun h => absurd hhash (h device hin rfl).1⟩
      · have hcheck : (env.checkpw code device.pairingCodeHash).isSome = takes code := by
          rw [hhash]
          exact hbcrypt code code' salt
        rw [hcheck]
        refine ⟨fun htakes other hother hid => ⟨fun heq => ?_, htakes⟩,
          fun h => (h device hin rfl).2⟩
        have hsame :=
          Keyed.eq_of_key Device.id s.db.devices other device s.db.deviceKey hother hin hid
        rw [hsame] at heq
        rw [heq, hplaceholder, htakes] at hcheck
        exact absurd hcheck Bool.false_ne_true
    · have hmissing : ∀ device ∈ s.db.devices, device.id ≠ deviceId :=
        fun device hin heq => hthere ⟨device, hin, heq⟩
      exact ⟨fun _ device hin heq => absurd heq (hmissing device hin),
        fun _ => answered_of_refused 404 _ (Or.inl rfl) (deviceWithCode_of_missing htext hmissing)⟩
  · have hcrash : deviceWithCode env.toEnv s.db deviceId code = .crash := by
      have hno : (!pgText deviceId) = true := by
        rw [Bool.not_eq_true', Bool.eq_false_iff]
        exact htext
      rw [deviceWithCode, getDeviceOr404, if_pos hno]
    exact ⟨fun h => absurd h (not_answered_of_crash hcrash), fun h => absurd h.1 htext⟩

/-- A factory with a bcrypt that takes every password. -/
theorem isSome_demoFactory (code code' salt : String) :
    (Seeding.demoFactory.checkpw code (Seeding.demoFactory.hashpw code' salt)).isSome = true := by
  simp only [Seeding.demoFactory, String.toList_ofList, Option.isSome_some]

/-- A user, and no device yet. -/
def newDb : Database where
  users := Access.demoDb.users
  devices := []
  userDevices := []
  tokens := []
  userKey := Access.demoDb.userKey
  googleKey := Access.demoDb.googleKey
  deviceKey := List.nodup_nil
  pairKey := List.nodup_nil
  tokenKey := List.nodup_nil
  userFk := fun _ h => absurd h List.not_mem_nil
  deviceFk := fun _ h => absurd h List.not_mem_nil
  tokenFk := fun _ h => absurd h List.not_mem_nil

/-- A device is seeded. -/
def seededRun : List Action :=
  [.seeding (.seed Seeding.demoMac "salt"), .seeding (.advance 0), .seeding (.advance 0)]

/-- A code that is not that of the device. -/
theorem answers_iff_seeded : ∃ s,
    run (step Seeding.demoFactory) (Seeding.start newDb) seededRun = some s ∧
    Answered Seeding.demoFactory.toEnv s.db "vena-a0b765c1d2e3" "00000000" := by
  have hdevice : ∀ device ∈ ((run (step Seeding.demoFactory) (Seeding.start newDb) seededRun).get
      (by decide +kernel)).db.devices, device.id = "vena-a0b765c1d2e3" →
        device.pairingCodeHash ≠ placeholder ∧ true = true := by decide +kernel
  have hsome : (run (step Seeding.demoFactory) (Seeding.start newDb) seededRun).isSome = true := by
    decide +kernel
  have hrun := (Option.some_get hsome).symm
  exact ⟨_, hrun, (answers_iff Seeding.demoFactory (fun _ => true) (fun _ => rfl)
    isSome_demoFactory newDb rfl seededRun _ hrun "vena-a0b765c1d2e3" "00000000").mpr
    ⟨by decide +kernel, hdevice⟩⟩

/-- A device reports and is not seeded. -/
def reportedRun : List Action := [.seeding (.handleMeta "vena-b" 0)]

/-- A code for a device that only ever reported. -/
theorem unanswered_code : ¬ ∀ (env : PairingEnv),
    (∀ code, env.checkpw code placeholder = none) →
    ∀ db : Database, db.devices = [] → ∀ (acts : List Action) (s : Seeding.State),
    run (step env) (Seeding.start db) acts = some s →
    ∀ deviceId code, Answered env.toEnv s.db deviceId code := by
  intro hall
  have hcrash : deviceWithCode Seeding.demoFactory.toEnv ((run (step Seeding.demoFactory)
      (Seeding.start newDb) reportedRun).get (by decide +kernel)).db "vena-b" "00000000" =
        .crash := by decide +kernel
  have hsome : (run (step Seeding.demoFactory) (Seeding.start newDb)
      reportedRun).isSome = true := by decide +kernel
  have hanswered := hall Seeding.demoFactory (fun _ => rfl) newDb rfl reportedRun _
    (Option.some_get hsome).symm "vena-b" "00000000"
  exact not_answered_of_crash hcrash hanswered

end PairingAnswers

end Backend

end Vena
