import Vena.Backend.Ingest

/-!
# Batches and Redeliveries

Which rows share a batch depends on the clock and on the load, and the broker
may deliver a message more than once. Neither shows in the tables: a row is
inserted if its key is free, so what a sequence of batches leaves is what one
insertion of all rows in order would leave.

The batches have to go through for that. One multi-row insert binds ten
parameters for every row, and asyncpg sends 32 767 at most. The loop flushes at
a hundred rows; the drain in `stop` puts whatever the queue holds into one
batch.

## Main definitions

* `Batch`, `flushAll`: Successive calls of `_flush`.
* `Redelivered`, `Delivers`: Rows that come again, and batches cut from them.
* `Invisible`: What batches of a sequence of rows leave behind.

## Theorems

* `flush_leaves`, `flushAll_leaves`: What one flush leaves, and what all of them do.
* `batching_invisible`: The batches whose cutting cannot be told.
* `batch_overlong`: A batch that is too long.
-/

namespace Vena

namespace Backend

namespace Ingest

open Python

/-- A call of `_flush`, with the reading of `datetime.now`. -/
structure Batch where
  now : Datetime
  rows : List Row

def flushAll (env : Env) : List Batch → Store → Except Exc Store
  | [], db => .ok db
  | b :: rest, db => match db.flush env b.now b.rows with
    | .error exc => .error exc
    | .ok db' => flushAll env rest db'

/-- The second sequence is the first one with rows repeated anywhere behind
    an earlier occurrence. -/
inductive Redelivered (rows : List Row) : List Row → Prop where
  | once : Redelivered rows rows
  | again (xs ys : List Row) (row : Row) (h : Redelivered rows (xs ++ ys)) (hrow : row ∈ xs) :
      Redelivered rows (xs ++ row :: ys)

/-- The batches are cut from a delivery of the rows. -/
structure Delivers (rows : List Row) (batches : List Batch) : Prop where
  nonempty : ∀ b ∈ batches, b.rows ≠ []
  redelivered : Redelivered rows (batches.flatMap Batch.rows)

/-- The row under a key. -/
def lookup (rows : List Row) (key : String × Datetime) : Option Row :=
  rows.find? (fun row => row.key = key)

/-- Every device is still there, with its pairing code. -/
def KeepsHashes (db db' : Store) : Prop :=
  ∀ device ∈ db.devices, ∃ device' ∈ db'.devices,
    device'.id = device.id ∧ device'.pairingCodeHash = device.pairingCodeHash

/-- The batches go through; the telemetry they leave is the one any other
    delivery of the rows leaves, with the first row that came for every key;
    every device of a row is registered, and no device is given another code. -/
def Invisible (env : Env) (db : Store) (rows : List Row) (batches : List Batch) : Prop :=
  ∃ db', flushAll env batches db = .ok db' ∧
    (∀ others db'', Delivers rows others → flushAll env others db = .ok db'' →
      db''.telemetryRaw = db'.telemetryRaw) ∧
    (∀ key, lookup db'.telemetryRaw key = (lookup db.telemetryRaw key).or (lookup rows key)) ∧
    (∀ row ∈ rows, row.deviceId ∈ db'.devices.map Device.id) ∧
    KeepsHashes db db'

theorem keepsHashes_refl (db : Store) : KeepsHashes db db :=
  fun device hdevice => ⟨device, hdevice, rfl, rfl⟩

theorem keepsHashes_trans (db db' db'' : Store) (h : KeepsHashes db db')
    (h' : KeepsHashes db' db'') : KeepsHashes db db'' := by
  intro device hdevice
  rcases h device hdevice with ⟨device', hdevice', hid', hhash'⟩
  rcases h' device' hdevice' with ⟨device'', hdevice'', hid'', hhash''⟩
  exact ⟨device'', hdevice'', hid''.trans hid', hhash''.trans hhash'⟩

/-- A registration keeps the known devices and their codes. -/
theorem keepsHashes_register (now : Datetime) (ids : List String) (devices : List Device)
    (device : Device) (hdevice : device ∈ devices) :
    ∃ device' ∈ register now ids devices,
      device'.id = device.id ∧ device'.pairingCodeHash = device.pairingCodeHash := by
  refine ⟨_, List.mem_map.mpr ⟨device, Keyed.mem_insertAllNew Device.id _ device devices hdevice,
    rfl⟩, ?_⟩
  split
  · exact ⟨rfl, rfl⟩
  · exact ⟨rfl, rfl⟩

/-- What a flush that goes through leaves. -/
structure Leaves (db : Store) (rows : List Row) (db' : Store) : Prop where
  telemetry : db'.telemetryRaw = Keyed.insertAllNew Row.key db.telemetryRaw rows
  registered : ∀ row ∈ rows, row.deviceId ∈ db'.devices.map Device.id
  kept : ∀ id ∈ db.devices.map Device.id, id ∈ db'.devices.map Device.id
  hashes : KeepsHashes db db'

theorem flush_leaves (env : Env) (now : Datetime) (rows : List Row) (db db' : Store)
    (h : db.flush env now rows = .ok db') : Leaves db rows db' := by
  unfold Store.flush at h
  split at h
  · next hnil =>
      rw [List.isEmpty_iff] at hnil
      rw [Except.ok.injEq] at h
      rw [hnil, ← h]
      exact ⟨rfl, fun _ hrow => absurd hrow List.not_mem_nil, fun _ hid => hid,
        keepsHashes_refl db⟩
  · split at h
    · rw [Except.ok.injEq] at h
      rw [← h]
      exact ⟨rfl, fun _ hrow => mem_register now _ db.devices _ (List.mem_map_of_mem hrow),
        fun id hid => mem_register_of_mem now _ db.devices id hid,
        fun device hdevice => keepsHashes_register now _ db.devices device hdevice⟩
    · exact absurd h (by simp only [reduceCtorEq, not_false_eq_true])

/-- Several flushes leave what one insertion of all their rows would. -/
theorem flushAll_leaves (env : Env) (batches : List Batch) :
    ∀ db db' : Store, flushAll env batches db = .ok db' →
      Leaves db (batches.flatMap Batch.rows) db' := by
  induction batches with
  | nil =>
      intro db db' h
      rw [flushAll, Except.ok.injEq] at h
      rw [← h]
      exact ⟨rfl, fun _ hrow => absurd hrow List.not_mem_nil, fun _ hid => hid,
        keepsHashes_refl db⟩
  | cons b rest ih =>
      intro db db' h
      rw [flushAll] at h
      split at h
      · exact absurd h (by simp only [reduceCtorEq, not_false_eq_true])
      · next db₁ hflush =>
          have hfirst := flush_leaves env b.now b.rows db db₁ hflush
          have hrest := ih db₁ db' h
          refine ⟨?_, ?_, fun id hid => hrest.kept id (hfirst.kept id hid),
            keepsHashes_trans db db₁ db' hfirst.hashes hrest.hashes⟩
          · rw [hrest.telemetry, hfirst.telemetry, List.flatMap_cons, Keyed.insertAllNew_append]
          · intro row hrow
            rcases List.mem_append.mp hrow with hin | hlater
            -- What the first flush registered stays registered.
            · exact hrest.kept _ (hfirst.registered row hin)
            · exact hrest.registered row hlater

/-- Batches of storable rows go through exactly if none is too long. -/
theorem flushAll_ok_iff (env : Env) (batches : List Batch) :
    ∀ db : Store, (∀ b ∈ batches, ∀ row ∈ b.rows, env.storable row = true) →
      (∀ b ∈ batches, b.rows ≠ []) →
      ((∃ db', flushAll env batches db = .ok db') ↔
        ∀ b ∈ batches, b.rows.length * rowParameters ≤ bindLimit) := by
  induction batches with
  | nil => exact fun db _ _ => ⟨fun _ _ hb => absurd hb List.not_mem_nil, fun _ => ⟨db, rfl⟩⟩
  | cons b rest ih =>
      intro db hstorable hne
      have hfirst := hstorable b List.mem_cons_self
      have htail := fun x hx => hstorable x (List.mem_cons_of_mem b hx)
      rw [List.forall_mem_cons, flushAll]
      by_cases hlimit : b.rows.length * rowParameters ≤ bindLimit
      · rcases Store.flush_ok env b.now b.rows db hfirst hlimit with ⟨db₁, hflush⟩
        rw [hflush]
        exact (ih db₁ htail (fun x hx => hne x (List.mem_cons_of_mem b hx))).trans
          (and_iff_right hlimit).symm
      -- A batch beyond the limit is the last one.
      · have herror : db.flush env b.now b.rows = .error .databaseError := by
          rw [Store.flush, if_neg (by rw [List.isEmpty_iff]; exact hne b List.mem_cons_self),
            if_neg]
          rw [Bool.and_eq_true, decide_eq_true_eq]
          exact fun hgo => hlimit hgo.2
        rw [herror]
        refine ⟨?_, fun h => absurd h.1 hlimit⟩
        rintro ⟨db', hok⟩
        exact absurd hok (by simp only [reduceCtorEq, not_false_eq_true])

/-- Rows that come again change nothing. -/
theorem insertAllNew_redelivered (rows rows' old : List Row) (h : Redelivered rows rows') :
    Keyed.insertAllNew Row.key old rows' = Keyed.insertAllNew Row.key old rows := by
  induction h with
  | once => rfl
  | again xs ys row _ hrow ih => rw [Keyed.insertAllNew_again Row.key old xs ys row hrow, ih]

theorem mem_redelivered (rows rows' : List Row) (h : Redelivered rows rows') (row : Row) :
    row ∈ rows' ↔ row ∈ rows := by
  induction h with
  | once => rfl
  | again xs ys other _ hother ih =>
      rw [← ih, List.mem_append, List.mem_append, List.mem_cons]
      constructor
      · rintro (hxs | rfl | hys)
        · exact Or.inl hxs
        · exact Or.inl hother
        · exact Or.inr hys
      · exact Or.imp_right Or.inr

/-- Nobody can tell how a sequence of storable rows was cut and repeated,
    exactly if no batch has more rows than a statement can carry. -/
theorem batching_invisible (env : Env) (db : Store) (rows : List Row) (batches : List Batch)
    (hstorable : ∀ row ∈ rows, env.storable row = true) (hdelivers : Delivers rows batches) :
    Invisible env db rows batches ↔
      ∀ b ∈ batches, b.rows.length * rowParameters ≤ bindLimit := by
  have hmem := fun row => mem_redelivered rows _ hdelivers.redelivered row
  have hgo := flushAll_ok_iff env batches db
    (fun b hb row hrow => hstorable row ((hmem row).mp (List.mem_flatMap.mpr ⟨b, hb, hrow⟩)))
    hdelivers.nonempty
  rw [← hgo]
  constructor
  · rintro ⟨db', hok, _⟩
    exact ⟨db', hok⟩
  · rintro ⟨db', hok⟩
    have hleaves := flushAll_leaves env batches db db' hok
    have htable : db'.telemetryRaw = Keyed.insertAllNew Row.key db.telemetryRaw rows :=
      hleaves.telemetry.trans (insertAllNew_redelivered rows _ _ hdelivers.redelivered)
    refine ⟨db', hok, ?_, ?_, fun row hrow => hleaves.registered row ((hmem row).mpr hrow),
      hleaves.hashes⟩
    · intro others db'' hothers hok''
      rw [(flushAll_leaves env others db db'' hok'').telemetry,
        insertAllNew_redelivered rows _ _ hothers.redelivered, htable]
    · intro key
      rw [htable]
      exact Keyed.find?_insertAllNew Row.key rows key db.telemetryRaw

/-- A sample every five seconds. -/
def sampleRow (n : Nat) : Row := rowOf "vena-a" (Datetime.seconds (5 * n)) []

/-- Two samples, the first of which comes again in the second batch. -/
theorem batching_invisible_redelivered :
    Invisible lenient .empty [sampleRow 0, sampleRow 1]
      [⟨0, [sampleRow 0]⟩, ⟨1, [sampleRow 1, sampleRow 0]⟩] := by
  refine (batching_invisible lenient .empty [sampleRow 0, sampleRow 1]
    [⟨0, [sampleRow 0]⟩, ⟨1, [sampleRow 1, sampleRow 0]⟩] (fun _ _ => rfl) ⟨?_, ?_⟩).mpr ?_
  · simp only [List.forall_mem_cons, ne_eq, reduceCtorEq, not_false_eq_true, List.not_mem_nil,
      false_implies, implies_true, and_self]
  · exact .again [sampleRow 0, sampleRow 1] [] (sampleRow 0) .once List.mem_cons_self
  · simp only [List.forall_mem_cons, List.length_cons, List.length_nil, rowParameters, bindLimit,
      List.not_mem_nil, false_implies, implies_true, and_true]
    omega

theorem delivers_single (rows : List Row) (hne : rows ≠ []) : Delivers rows [⟨0, rows⟩] where
  nonempty := fun b hb => by
    rw [List.mem_singleton.mp hb]
    exact hne
  redelivered := by
    have hflat : [Batch.mk 0 rows].flatMap Batch.rows = rows := List.append_nil rows
    rw [hflat]
    exact .once

/-- The drain in `stop` puts all it finds into one batch, which may be too much. -/
theorem not_invisible_single (env : Env) (db : Store) (rows : List Row)
    (hstorable : ∀ row ∈ rows, env.storable row = true)
    (hlong : bindLimit < rows.length * rowParameters) : ¬ Invisible env db rows [⟨0, rows⟩] := by
  have hne : rows ≠ [] := by
    rintro rfl
    rw [List.length_nil, Nat.zero_mul] at hlong
    exact Nat.not_lt_zero bindLimit hlong
  rintro ⟨db', hok, _⟩
  have hlimit := (flushAll_ok_iff env [⟨0, rows⟩] db
    (fun b hb => by
      rw [List.mem_singleton.mp hb]
      exact hstorable) (delivers_single rows hne).nonempty).mp ⟨db', hok⟩
  exact absurd (hlimit _ List.mem_cons_self) (Nat.not_le.mpr hlong)

/-- More samples than a statement can carry, as `stop` may find them in the queue. -/
def backlog : List Row := (List.range 3277).map sampleRow

theorem length_backlog : backlog.length = 3277 := by
  rw [backlog, List.length_map, List.length_range]

/-- They are refused as one batch. -/
theorem batch_overlong : ¬ ∀ (env : Env) (db : Store) (rows : List Row) (batches : List Batch),
    (∀ row ∈ rows, env.storable row = true) → Delivers rows batches →
      Invisible env db rows batches := by
  intro hall
  have hne : backlog ≠ [] := List.ne_nil_of_length_eq_add_one length_backlog
  refine not_invisible_single lenient .empty backlog (fun _ _ => rfl) ?_
    (hall lenient .empty backlog [⟨0, backlog⟩] (fun _ _ => rfl) (delivers_single backlog hne))
  rw [length_backlog]
  decide

end Ingest

end Backend

end Vena
