import Vena.Backend.Access
import Vena.Backend.Seeding

/-!
# A Seeded Device Can Be Claimed

The factory prints a pairing code for every device it seeds, and whoever has
the code should be able to claim the device. That depends on who inserted the
row of the device. `seeded_claimable` states it exactly: the code works if and
only if the row was there, from a seed run, before ingestion first heard of the
device. When a device reports before it is seeded, its row holds the text
`unprovisioned`, the seed script leaves it there and prints a code that no
route accepts: `bcrypt.checkpw` raises on a text that is no hash.

## Main definitions

* `Claimable`: The code works, for every user and at any time.
* `FindsDevice`: An ingestion of the device finds it registered.
* `Consistent`, `Seeded`, `Placeholder`: What holds on the way.

## Theorems

* `claimDevice_ok`, `provision_ok`: What the routes need.
* `step_consistent`, `step_seeded`, `step_broken`, `step_placeholder`: The steps.
* `seeded_claimable`: When the code works.
* `seeded_unclaimable`: A device that reports before it is seeded.
-/

namespace Vena

namespace Backend

open Python Ingest Processes Run

/-- `claim_device` and `POST /devices/provision` succeed with the code. -/
def Claimable (env : Env) (db : Database) (deviceId code : String) : Prop :=
  (∀ user ∈ db.users, ∀ now, ∃ resp, (claimDevice env db user deviceId code now).2 = .ok resp) ∧
  ∀ now, ∃ resp, provision env db deviceId code now = .ok resp

/-- The right code for a device that is there. -/
theorem deviceWithCode_ok (env : Env) (db : Database) (device : Device) (code : String)
    (hin : device ∈ db.devices) (htext : pgText device.id = true)
    (hcode : env.checkpw code device.pairingCodeHash = some true) :
    deviceWithCode env db device.id code = .ok device := by
  have hget : getDeviceOr404 db device.id = .ok device := by
    rw [getDeviceOr404, htext, Keyed.filter_key Device.id db.devices device db.deviceKey hin]
    rfl
  rw [deviceWithCode, hget]
  simp only [verifyPairingCode, hcode]

theorem claimDevice_ok (env : Env) (db : Database) (user : User) (device : Device) (code : String)
    (now : Datetime) (huser : user ∈ db.users) (hin : device ∈ db.devices)
    (hdevice : deviceWithCode env db device.id code = .ok device) :
    ∃ resp, (claimDevice env db user device.id code now).2 = .ok resp := by
  rw [claimDevice, hdevice]
  rcases ownership_cases db user device.id with hnone | ⟨ud, hone⟩
  · -- The user does not own the device yet, so no constraint is in the way.
    have hfree := key_free db user device.id hnone
    refine ⟨claimResponse device.id ⟨user.id, device.id, none, now⟩, ?_⟩
    simp only [hnone, insertClaim]
    rw [dif_pos ⟨hfree, ⟨user, huser, rfl⟩, ⟨device, hin, rfl⟩⟩]
  · refine ⟨claimResponse device.id ud, ?_⟩
    simp only [hone]

theorem provision_ok (env : Env) (db : Database) (device : Device) (code : String) (now : Datetime)
    (hdevice : deviceWithCode env db device.id code = .ok device) :
    ∃ resp, provision env db device.id code now = .ok resp := by
  rw [provision, hdevice]
  exact ⟨_, rfl⟩

/-- A code that the hash of the device does not accept opens nothing. -/
theorem provision_refused (env : Env) (db : Database) (device : Device) (code : String)
    (now : Datetime) (resp : ProvisionResponse) (hin : device ∈ db.devices)
    (hcode : env.checkpw code device.pairingCodeHash ≠ some true) :
    provision env db device.id code now ≠ .ok resp := by
  have hget : getDeviceOr404 db device.id = .ok device ∨ getDeviceOr404 db device.id = .crash := by
    rw [getDeviceOr404, Keyed.filter_key Device.id db.devices device db.deviceKey hin]
    split
    · exact Or.inr rfl
    · exact Or.inl rfl
  rw [provision, deviceWithCode]
  rcases hget with hget | hget
  · rw [hget]
    simp only [verifyPairingCode]
    cases hcheck : env.checkpw code device.pairingCodeHash with
    | none => simp only [ne_eq, reduceCtorEq, not_false_eq_true]
    | some valid =>
        cases valid with
        | true => exact absurd hcheck hcode
        | false => simp only [ne_eq, reduceCtorEq, not_false_eq_true]
  · rw [hget]
    simp only [ne_eq, reduceCtorEq, not_false_eq_true]

namespace Seeding

/-- An ingestion of the device finds it registered. -/
def FindsDevice (deviceId : String) (s : State) : Action → Prop
  | .batchWrite j _ => ∀ batch ∈ s.batches[j]?, deviceId ∈ batch.ids →
      deviceId ∈ s.db.devices.map Device.id
  | .handleMeta id _ => id = deviceId → deviceId ∈ s.db.devices.map Device.id
  | _ => True

instance (deviceId : String) (s : State) : (a : Action) → Decidable (FindsDevice deviceId s a)
  | .batchWrite _ _ => inferInstanceAs (Decidable (∀ batch ∈ _, _))
  | .handleMeta _ _ => inferInstanceAs (Decidable (_ → _))
  | .seed _ _ => instDecidableTrue
  | .advance _ => instDecidableTrue
  | .batchSelect _ => instDecidableTrue

/-- What the runs and batches on their way have found is still so. -/
structure Consistent (s : State) : Prop where
  known : ∀ batch ∈ s.batches, ∀ id ∈ batch.existing, id ∈ s.db.devices.map Device.id
  inserting : ∀ run ∈ s.seeds, run.pc = .insert → pgText (macToDeviceId run.mac) = true
  printed : ∀ run ∈ s.seeds, run.pc = .printed → pgText (macToDeviceId run.mac) = true ∧
    macToDeviceId run.mac ∈ s.db.devices.map Device.id

/-- The row of the device, if there is one, holds the hash of its code. -/
def Seeded (env : PairingEnv) (mac : String) (s : State) : Prop :=
  ∀ device ∈ s.db.devices, device.id = macToDeviceId mac →
    ∃ salt, device.pairingCodeHash = hashPairingCode env (generatePairingCode env mac) salt

/-- The row of the device holds the text ingestion put there. -/
def Placeholder (mac : String) (s : State) : Prop :=
  ∃ device ∈ s.db.devices, device.id = macToDeviceId mac ∧
    device.pairingCodeHash = "unprovisioned"

theorem ids_addDevice (db : Database) (device : Device) (id : String)
    (hid : id ∈ db.devices.map Device.id) : id ∈ (db.addDevice device).devices.map Device.id :=
  Keyed.key_insertNew_of_mem Device.id _ _ _ hid

theorem ids_register (db : Database) (now : Datetime) (ids existing : List String) (id : String)
    (hid : id ∈ db.devices.map Device.id) :
    id ∈ (db.register now ids existing).devices.map Device.id := by
  show id ∈ (registerKnown now ids existing db.devices).map Device.id
  rw [map_id_registerKnown]
  rcases List.mem_map.mp hid with ⟨device, hdevice, heq⟩
  rw [← heq]
  exact List.mem_map_of_mem (Keyed.mem_insertAllNew Device.id _ _ _ hdevice)

/-- An update of a row keeps its id and its hash. -/
theorem mem_registerKnown (now : Datetime) (ids existing : List String) (devices : List Device)
    (device : Device) (hdevice : device ∈ registerKnown now ids existing devices) :
    ∃ old, old.id = device.id ∧ old.pairingCodeHash = device.pairingCodeHash ∧
      (old ∈ devices ∨ (old.pairingCodeHash = "unprovisioned" ∧ old.id ∈ ids ∧
        old.id ∉ devices.map Device.id)) := by
  rcases List.mem_map.mp hdevice with ⟨old, hold, heq⟩
  refine ⟨old, ?_, ?_, ?_⟩
  · rw [← heq]
    split
    · rfl
    · rfl
  · rw [← heq]
    split
    · rfl
    · rfl
  · rcases Keyed.mem_insertAllNew_cases Device.id _ old _ hold with hin | ⟨hnew, hfree⟩
    · exact Or.inl hin
    · rcases List.mem_map.mp hnew with ⟨id, hid, hrow⟩
      rw [← hrow] at hfree ⊢
      exact Or.inr ⟨rfl, (List.mem_filter.mp hid).1, hfree⟩

theorem mem_registerKnown_of_mem (now : Datetime) (ids existing : List String)
    (devices : List Device) (old : Device)
    (hold : old ∈ Keyed.insertAllNew Device.id devices
      ((ids.filter (fun id => id ∉ existing)).map (newDevice now))) :
    ∃ device ∈ registerKnown now ids existing devices, device.id = old.id ∧
      device.pairingCodeHash = old.pairingCodeHash := by
  refine ⟨_, List.mem_map.mpr ⟨old, hold, rfl⟩, ?_⟩
  split
  · exact ⟨rfl, rfl⟩
  · exact ⟨rfl, rfl⟩

theorem step_consistent (env : PairingEnv) (s s' : State) (a : Action) (h : Consistent s)
    (hstep : step env s a = some s') : Consistent s' := by
  cases step_moves env s s' a hstep with
  | seed mac salt hmac =>
      -- A run that starts has selected nothing and printed nothing.
      refine ⟨h.known, fun run hrun hpc => ?_, fun run hrun hpc => ?_⟩
      · rcases List.mem_append.mp hrun with hold | hnew
        · exact h.inserting run hold hpc
        · rw [List.mem_singleton.mp hnew] at hpc
          exact absurd hpc Pc.noConfusion
      · rcases List.mem_append.mp hrun with hold | hnew
        · exact h.printed run hold hpc
        · rw [List.mem_singleton.mp hnew] at hpc
          exact absurd hpc Pc.noConfusion
  | exit mac salt hmac => exact h
  | idle i mac salt pc hget pc' hprinted hinsert =>
      refine ⟨h.known, fun run hrun hpc => ?_, fun run hrun hpc => ?_⟩
      · rcases List.mem_or_eq_of_mem_set hrun with hold | hnew
        · exact h.inserting run hold hpc
        · rw [hnew] at hpc ⊢
          exact hinsert hpc
      · rcases List.mem_or_eq_of_mem_set hrun with hold | hnew
        · exact h.printed run hold hpc
        · rw [hnew] at hpc ⊢
          exact hprinted hpc
  | insert i mac salt hget hnew =>
      -- The row is there once the INSERT is through, which is before the print.
      have hthere := Keyed.key_insertNew Device.id s.db.devices (seededDevice env mac salt)
      refine ⟨fun batch hbatch id hid => ids_addDevice _ _ id (h.known batch hbatch id hid),
        fun run hrun hpc => ?_, fun run hrun hpc => ?_⟩
      · rcases List.mem_or_eq_of_mem_set hrun with hold | heq
        · exact h.inserting run hold hpc
        · rw [heq] at hpc
          exact absurd hpc Pc.noConfusion
      · rcases List.mem_or_eq_of_mem_set hrun with hold | heq
        · exact ⟨(h.printed run hold hpc).1, ids_addDevice _ _ _ (h.printed run hold hpc).2⟩
        · rw [heq]
          exact ⟨h.inserting ⟨mac, salt, .insert⟩ (List.mem_of_getElem? hget) rfl, hthere⟩
  | batchSelect ids =>
      refine ⟨fun batch hbatch id hid => ?_, h.inserting, h.printed⟩
      rcases List.mem_append.mp hbatch with hold | hnew
      · exact h.known batch hold id hid
      · rw [List.mem_singleton.mp hnew] at hid
        exact (List.mem_filter.mp hid).1
  | batchWrite j now ids existing hget =>
      exact ⟨fun batch hbatch id hid => ids_register _ now ids existing id
          (h.known batch (List.mem_of_mem_eraseIdx hbatch) id hid), h.inserting,
        fun run hrun hpc => ⟨(h.printed run hrun hpc).1,
          ids_register _ now ids existing _ (h.printed run hrun hpc).2⟩⟩
  | handleMeta deviceId now =>
      exact ⟨fun batch hbatch id hid => ids_addDevice _ _ id (h.known batch hbatch id hid),
        h.inserting, fun run hrun hpc => ⟨(h.printed run hrun hpc).1,
          ids_addDevice _ _ _ (h.printed run hrun hpc).2⟩⟩

/-- Ingestion that finds the device registered leaves its hash alone. -/
theorem step_seeded (env : PairingEnv) (mac : String) (s s' : State) (a : Action)
    (h : Seeded env mac s) (hfinds : FindsDevice (macToDeviceId mac) s a)
    (hstep : step env s a = some s') : Seeded env mac s' := by
  cases step_moves env s s' a hstep with
  | seed mac' salt hmac => exact h
  | exit mac' salt hmac => exact h
  | idle i mac' salt pc hget pc' hprinted hinsert => exact h
  | insert i mac' salt hget hnew =>
      intro device hdevice hid
      rcases Keyed.mem_insertNew_cases Device.id _ _ device hdevice with hold | ⟨heq, _⟩
      · exact h device hold hid
      · -- The seed run may have spelled the address in another way.
        rw [heq] at hid ⊢
        exact ⟨salt, by rw [← pairingCode_of_deviceId env mac' mac hid]; rfl⟩
  | batchSelect ids => exact h
  -- The two ways a placeholder can come in are the ones `FindsDevice` is about.
  | batchWrite j now ids existing hget =>
      intro device hdevice hid
      rcases mem_registerKnown now ids existing _ device hdevice
        with ⟨old, hsame, hhash, hin | ⟨_, hids, hfree⟩⟩
      · rw [← hhash]
        exact h old hin (hsame.trans hid)
      · rw [hsame, hid] at hids hfree
        exact absurd (hfinds _ hget hids) hfree
  | handleMeta deviceId now =>
      intro device hdevice hid
      rcases Keyed.mem_insertNew_cases Device.id _ _ device hdevice with hold | ⟨heq, hfree⟩
      · exact h device hold hid
      · rw [heq] at hid
        exact absurd (hid ▸ hfinds hid) hfree

/-- Ingestion that does not find it leaves the placeholder. -/
theorem step_broken (env : PairingEnv) (mac : String) (s s' : State) (a : Action)
    (h : Consistent s) (hfinds : ¬ FindsDevice (macToDeviceId mac) s a)
    (hstep : step env s a = some s') : Placeholder mac s' := by
  cases step_moves env s s' a hstep with
  | seed mac' salt hmac => exact absurd trivial hfinds
  | exit mac' salt hmac => exact absurd trivial hfinds
  | idle i mac' salt pc hget pc' hprinted hinsert => exact absurd trivial hfinds
  | insert i mac' salt hget hnew => exact absurd trivial hfinds
  | batchSelect ids => exact absurd trivial hfinds
  | batchWrite j now ids existing hget =>
      simp only [FindsDevice, hget, Option.mem_def, Option.some.injEq, forall_eq',
        Classical.not_imp] at hfinds
      rcases hfinds with ⟨hids, hfree⟩
      -- The batch saw no row of the device either, since rows do not go away.
      have hunknown : macToDeviceId mac ∉ existing :=
        fun hin => hfree (h.known _ (List.mem_of_getElem? hget) _ hin)
      have hnew : newDevice now (macToDeviceId mac) ∈
          (ids.filter (fun id => id ∉ existing)).map (newDevice now) :=
        List.mem_map_of_mem (List.mem_filter.mpr ⟨hids, decide_eq_true hunknown⟩)
      rcases List.mem_map.mp (Keyed.key_insertAllNew Device.id _ s.db.devices _ hnew)
        with ⟨old, hold, hid⟩
      rcases mem_registerKnown_of_mem now ids existing s.db.devices old hold
        with ⟨device, hdevice, hsame, hhash⟩
      refine ⟨device, hdevice, hsame.trans hid, hhash.trans ?_⟩
      rcases Keyed.mem_insertAllNew_cases Device.id _ old _ hold with hin | ⟨hrow, _⟩
      · have hid' : old.id = macToDeviceId mac := hid
        exact absurd (hid' ▸ List.mem_map_of_mem hin) hfree
      · rcases List.mem_map.mp hrow with ⟨id, _, heq⟩
        rw [← heq]
        rfl
  | handleMeta deviceId now =>
      simp only [FindsDevice, Classical.not_imp] at hfinds
      rcases hfinds with ⟨hid, hfree⟩
      refine ⟨newDevice now deviceId, ?_, hid, rfl⟩
      have hadd : Keyed.insertNew Device.id s.db.devices (newDevice now deviceId) =
          s.db.devices ++ [newDevice now deviceId] := if_neg (hid ▸ hfree)
      show _ ∈ Keyed.insertNew Device.id s.db.devices (newDevice now deviceId)
      rw [hadd]
      exact List.mem_append_right _ (List.mem_singleton_self _)

/-- Nothing replaces the placeholder. -/
theorem step_placeholder (env : PairingEnv) (mac : String) (s s' : State) (a : Action)
    (h : Placeholder mac s) (hstep : step env s a = some s') : Placeholder mac s' := by
  rcases h with ⟨device, hdevice, hid, hhash⟩
  cases step_moves env s s' a hstep with
  | seed mac' salt hmac => exact ⟨device, hdevice, hid, hhash⟩
  | exit mac' salt hmac => exact ⟨device, hdevice, hid, hhash⟩
  | idle i mac' salt pc hget pc' hprinted hinsert => exact ⟨device, hdevice, hid, hhash⟩
  | insert i mac' salt hget hnew =>
      exact ⟨device, Keyed.mem_insertNew Device.id _ _ device hdevice, hid, hhash⟩
  | batchSelect ids => exact ⟨device, hdevice, hid, hhash⟩
  | batchWrite j now ids existing hget =>
      rcases mem_registerKnown_of_mem now ids existing s.db.devices device
        (Keyed.mem_insertAllNew Device.id _ device _ hdevice) with ⟨device', hin, hsame, hhash'⟩
      exact ⟨device', hin, hsame.trans hid, hhash'.trans hhash⟩
  | handleMeta deviceId now =>
      exact ⟨device, Keyed.mem_insertNew Device.id _ _ device hdevice, hid, hhash⟩

/-- How a run from a database without the device ends. -/
theorem run_seeded (env : PairingEnv) (mac : String) (db : Database) (as : List Action)
    (t : State) (hnew : macToDeviceId mac ∉ db.devices.map Device.id)
    (hrun : run (step env) (start db) as = some t) :
    Consistent t ∧
    ((Along (step env) (FindsDevice (macToDeviceId mac)) (start db) as ∧ Seeded env mac t) ∨
      (¬ Along (step env) (FindsDevice (macToDeviceId mac)) (start db) as ∧
        Placeholder mac t)) := by
  have hconsistent : Consistent (start db) :=
    ⟨fun _ hbatch => absurd hbatch List.not_mem_nil, fun _ hseed => absurd hseed List.not_mem_nil,
      fun _ hseed => absurd hseed List.not_mem_nil⟩
  have hseeded : Seeded env mac (start db) :=
    fun device hdevice hid => absurd (hid ▸ List.mem_map_of_mem hdevice) hnew
  refine ⟨run_invariant (step env) Consistent (fun s a s' => step_consistent env s s' a) as
    (start db) t hconsistent hrun, ?_⟩
  rcases run_dichotomy (step env) (FindsDevice (macToDeviceId mac))
    (fun s => Consistent s ∧ Seeded env mac s) (Placeholder mac)
    (fun s a s' h hfinds hstep => ⟨step_consistent env s s' a h.1 hstep,
      step_seeded env mac s s' a h.2 hfinds hstep⟩)
    (fun s a s' h hfinds hstep => step_broken env mac s s' a h.1 hfinds hstep)
    (fun s a s' h hstep => step_placeholder env mac s s' a h hstep)
    as (start db) t ⟨hconsistent, hseeded⟩ hrun with ⟨halong, _, ht⟩ | ⟨hno, ht⟩
  · exact Or.inl ⟨halong, ht⟩
  · exact Or.inr ⟨hno, ht⟩

/-- A printed code works if and only if every ingestion of the device found it
    registered. -/
theorem seeded_claimable (env : PairingEnv)
    (hbcrypt : ∀ code salt, env.checkpw code (env.hashpw code salt) = some true)
    (hplaceholder : ∀ code, env.checkpw code "unprovisioned" ≠ some true)
    (mac : String) (db : Database) (hnew : macToDeviceId mac ∉ db.devices.map Device.id)
    (as : List Action) (t : State) (hrun : run (step env) (start db) as = some t)
    (hprinted : ∃ seed ∈ t.seeds, seed.mac = mac ∧ seed.pc = .printed) :
    Claimable env.toEnv t.db (macToDeviceId mac) (generatePairingCode env mac) ↔
      Along (step env) (FindsDevice (macToDeviceId mac)) (start db) as := by
  rcases hprinted with ⟨seed, hseed, hmac, hpc⟩
  rcases run_seeded env mac db as t hnew hrun with ⟨hconsistent, hend⟩
  have hfound := hconsistent.printed seed hseed hpc
  rw [hmac] at hfound
  constructor
  -- A placeholder refuses every code, the printed one too.
  · intro hclaim
    rcases hend with ⟨halong, _⟩ | ⟨_, device, hdevice, hid, hhash⟩
    · exact halong
    · rcases hclaim.2 0 with ⟨resp, hresp⟩
      rw [← hid] at hresp
      exact absurd hresp (provision_refused env.toEnv t.db device _ 0 resp hdevice
        (hhash ▸ hplaceholder _))
  -- The row has the hash of the printed code, under some salt.
  · intro halong
    rcases hend with ⟨_, hhash⟩ | ⟨hno, _⟩
    · rcases List.mem_map.mp hfound.2 with ⟨device, hdevice, hid⟩
      rcases hhash device hdevice hid with ⟨salt, heq⟩
      have hcode : deviceWithCode env.toEnv t.db device.id (generatePairingCode env mac) =
          .ok device :=
        deviceWithCode_ok env.toEnv t.db device _ hdevice (hid ▸ hfound.1)
          (heq ▸ hbcrypt _ salt)
      rw [← hid]
      exact ⟨fun user huser now => claimDevice_ok env.toEnv t.db user device _ now huser hdevice
        hcode, fun now => provision_ok env.toEnv t.db device _ now hcode⟩
    · exact absurd halong hno

/-- A factory whose hashes are the codes behind a tag. -/
def demoFactory : PairingEnv where
  toEnv := { Access.demoEnv with
    sha256hex := fun _ => "c3c603232c304d8b87bd90c438c57e7d90461ffe72da30a3217f56df065f9109"
    checkpw := fun code hashed => match hashed.toList with
      | '$' :: rest => some (rest = code.toList)
      | _ => none }
  pairingSecret := "factory-secret"
  hashpw := fun code _ => String.ofList ('$' :: code.toList)

/-- A device of the factory. -/
def demoMac : String := "A0:B7:65:C1:D2:E3"

/-- The device is seeded and reports while another spelling is seeded again. -/
def seededFirst : List Action :=
  [.seed demoMac "salt", .advance 0, .batchSelect ["vena-b"], .advance 0,
    .seed "a0-b7-65-c1-d2-e3" "pepper", .batchSelect ["vena-a0b765c1d2e3"], .advance 1,
    .batchWrite 1 0, .batchWrite 0 0]

theorem checkpw_demoFactory (code salt : String) :
    demoFactory.checkpw code (demoFactory.hashpw code salt) = some true := by
  simp only [demoFactory, String.toList_ofList, decide_true]

theorem unprovisioned_demoFactory (code : String) :
    demoFactory.checkpw code "unprovisioned" ≠ some true := by
  have hnone : demoFactory.checkpw code "unprovisioned" = none := rfl
  rw [hnone]
  simp only [ne_eq, reduceCtorEq, not_false_eq_true]

theorem seededFirst_claimable : ∃ t,
    run (step demoFactory) (start Access.demoDb) seededFirst = some t ∧
    Claimable demoFactory.toEnv t.db (macToDeviceId demoMac)
      (generatePairingCode demoFactory demoMac) := by
  have hprinted : ∃ seed ∈ ((run (step demoFactory) (start Access.demoDb) seededFirst).get
      (by decide +kernel)).seeds, seed.mac = demoMac ∧ seed.pc = .printed := by decide +kernel
  have hsome : (run (step demoFactory) (start Access.demoDb) seededFirst).isSome = true := by
    decide +kernel
  have hrun := (Option.some_get hsome).symm
  exact ⟨_, hrun, (seeded_claimable demoFactory checkpw_demoFactory unprovisioned_demoFactory
    demoMac Access.demoDb (by decide) seededFirst _ hrun hprinted).mpr (by decide +kernel)⟩

/-- The device reports before it is seeded, and is seeded then. -/
def reportedFirst : List Action :=
  [.handleMeta "vena-a0b765c1d2e3" 0, .seed demoMac "salt", .advance 0]

/-- The printed code is refused with an exception. -/
theorem seeded_unclaimable : ¬ ∀ (env : PairingEnv),
    (∀ code salt, env.checkpw code (env.hashpw code salt) = some true) →
    ∀ (mac : String) (db : Database), macToDeviceId mac ∉ db.devices.map Device.id →
    ∀ (as : List Action) (t : State), run (step env) (start db) as = some t →
    (∃ seed ∈ t.seeds, seed.mac = mac ∧ seed.pc = .printed) →
    Claimable env.toEnv t.db (macToDeviceId mac) (generatePairingCode env mac) := by
  intro hall
  have hprinted : ∃ seed ∈ ((run (step demoFactory) (start Access.demoDb) reportedFirst).get
      (by decide +kernel)).seeds, seed.mac = demoMac ∧ seed.pc = .printed := by decide +kernel
  have hcrash : provision demoFactory.toEnv ((run (step demoFactory) (start Access.demoDb)
      reportedFirst).get (by decide +kernel)).db (macToDeviceId demoMac)
      (generatePairingCode demoFactory demoMac) 0 = .crash := by decide +kernel
  have hsome : (run (step demoFactory) (start Access.demoDb) reportedFirst).isSome = true := by
    decide +kernel
  rcases (hall demoFactory checkpw_demoFactory demoMac Access.demoDb (by decide) reportedFirst _
    (Option.some_get hsome).symm hprinted).2 0 with ⟨resp, hresp⟩
  rw [hcrash] at hresp
  exact absurd hresp (by simp only [reduceCtorEq, not_false_eq_true])

end Seeding

end Backend

end Vena
