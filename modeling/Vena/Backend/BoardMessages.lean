import Vena.Backend.TelemetryWire

/-!
# What the Boards Send Arrives

The broker delivers what the boards publish at least once and in any order, and
the ingestor batches it as the clock has it. What the two tables hold in the end
does not depend on the batches, and on the order only where two messages compete:
of the samples of a board that name the same instant the first one delivered is
stored, and of its reports the last one.

For the reports that is an equation between the documents stored and those still
pending, which every step of the ingestor keeps.

## Main definitions

* `Sent`: A message of a board.
* `Postgres`: What the tables accept.
* `document`: The document of a device.
* `Recorded`: The invariant.

## Theorems

* `absorbed_sent`: The task survives the messages of the boards.
* `recorded_step`, `recorded_run`: The invariant is kept.
* `table_of_final`: The table when the messages have been worked off.
* `telemetry_arrives`: What `telemetry_raw` holds in the end.
* `reports_arrive`: What `device_meta` holds.
-/

namespace Vena

namespace Backend

namespace Ingest

open Python Firmware

/-- Rows and documents that fit their columns are stored, and the decoder gets
    to the members of an object. -/
structure Postgres (env : Env) : Prop where
  depth : 0 < env.depth
  rows : ∀ row, Fits row → env.storable row = true
  documents : ∀ id items, IdColumn id → FitsJsonb items → env.metaStorable id (.dict items) = true

instance : DecidableEq Mac :=
  fun mac mac' => decidable_of_iff (∀ i, mac i = mac' i) funext_iff.symm

/-- What a board publishes, or the broker for it when the connection is lost. -/
inductive Sent (φ : Type) where
  | telemetry (mac : Mac) (p : Payload (Sensors φ))
  | report (mac : Mac) (d : Diagnostics)
  | status (mac : Mac) (online : Bool)

namespace Sent

variable {φ : Type} (decompose : φ → Option FloatParts)
  (serializeJson : List (String × JsonField φ) → List Nat)

def message : Sent φ → Message
  | .telemetry mac p =>
    ⟨topicTelemetry (buildDeviceId mac).deviceId, (telemetryJson serializeJson p).map UInt8.ofNat⟩
  | .report mac d =>
    ⟨topicMeta (buildDeviceId mac).deviceId, (metaJson serializeJson d).map UInt8.ofNat⟩
  | .status mac online =>
    ⟨topicStatus (buildDeviceId mac).deviceId, (ascii (statusPayload online)).map UInt8.ofNat⟩

def Ok : Sent φ → Prop
  | .telemetry _ p => Built p
  | .report _ d => Reported d
  | .status _ _ => True

/-- The sample of the board at the instant. -/
def sampleAt (mac : Mac) (ts : Int) : Sent φ → Option (Payload (Sensors φ))
  | .telemetry mac' p => if mac' = mac ∧ p.ts = ts then some p else none
  | .report _ _ | .status _ _ => none

/-- The document of a report of the device. -/
def reportOf (deviceId : String) : Sent φ → Option PyVal
  | .report mac d =>
    if (buildDeviceId mac).deviceId = deviceId then some (.dict (dictOf decompose (metaDoc d)))
    else none
  | .telemetry _ _ | .status _ _ => none

def row : Sent φ → Option Row
  | .telemetry mac p => some (telemetryRow decompose (buildDeviceId mac).deviceId p)
  | .report _ _ | .status _ _ => none

end Sent

section Messages

variable {φ : Type} (decompose : φ → Option FloatParts)
  (serializeJson : List (String × JsonField φ) → List Nat)

theorem decode_telemetry (hprints : PrintsCompact decompose serializeJson) (env : Env)
    (hdepth : 0 < env.depth) (mac : Mac) (p : Payload (Sensors φ)) (h : Built p) :
    decode env (Sent.message serializeJson (.telemetry mac p)) =
      .ok (.row (telemetryRow decompose (buildDeviceId mac).deviceId p)) := by
  have hslash := not_mem_deviceId mac '/' (by decide) (by decide)
  rw [decode_eq_row]
  exact parse_telemetry decompose serializeJson hprints env hdepth _ hslash p h

theorem decode_report (hprints : PrintsCompact decompose serializeJson) (env : Env)
    (hdepth : 0 < env.depth) (mac : Mac) (d : Diagnostics) (h : Reported d) :
    decode env (Sent.message serializeJson (.report mac d)) =
      .ok (.upsert (buildDeviceId mac).deviceId (.dict (dictOf decompose (metaDoc d)))) := by
  have hslash := not_mem_deviceId mac '/' (by decide) (by decide)
  -- The type is `meta`, and `_parse` is not asked.
  have htopic : parseTopic (topicMeta (buildDeviceId mac).deviceId) =
      some ((buildDeviceId mac).deviceId, "meta") := by
    have hparts := parseTopic_device _ "meta" hslash (by decide)
    rw [String.append_assoc] at hparts
    exact hparts
  have hload := loadMeta_metaJson decompose serializeJson hprints env hdepth d h
  rw [Sent.message]
  unfold decode
  split
  · next deviceId heq =>
      rw [htopic, Option.some.injEq, Prod.mk.injEq] at heq
      obtain ⟨rfl, _⟩ := heq
      dsimp only
      rw [hload]
  · next hno => exact absurd htopic (hno _)

/-- Nothing is read of a message of another type. -/
theorem decode_discard (env : Env) (m : Message) (deviceId type : String)
    (htopic : parseTopic m.topic = some (deviceId, type)) (hmeta : type ≠ "meta")
    (htelemetry : type ≠ "telemetry") : decode env m = .ok .discard := by
  have hno : ∀ id, parseTopic m.topic ≠ some (id, "meta") := by
    intro id heq
    rw [htopic, Option.some.injEq, Prod.mk.injEq] at heq
    exact hmeta heq.2
  have hparse : parse env m = .ok none := by
    rw [parse, htopic]
    exact if_pos htelemetry
  rw [decode_of_parse env m hno, hparse]
  rfl

theorem decode_status (env : Env) (mac : Mac) (online : Bool) :
    decode env (Sent.message serializeJson (.status mac online)) = .ok .discard := by
  have hslash := not_mem_deviceId mac '/' (by decide) (by decide)
  have hparts := parseTopic_device _ "status" hslash (by decide)
  rw [String.append_assoc] at hparts
  exact decode_discard env _ _ "status" hparts (by decide) (by decide)

/-- Every message of a board is handled and stored. -/
theorem absorbed_sent (hprints : PrintsCompact decompose serializeJson) (env : Env)
    (hpg : Postgres env) (m : Sent φ) (h : m.Ok) : Absorbed env (m.message serializeJson) := by
  rw [Absorbed]
  cases m with
  | telemetry mac p =>
      rw [decode_telemetry decompose serializeJson hprints env hpg.depth mac p h]
      exact hpg.rows _ (fits_telemetryRow decompose mac p h)
  | report mac d =>
      rw [decode_report decompose serializeJson hprints env hpg.depth mac d h]
      exact hpg.documents _ _ (idColumn_deviceId mac) (fitsJsonb_meta decompose d h)
  | status mac online =>
      rw [decode_status serializeJson env mac online]
      exact trivial

theorem rowMade_sent (hprints : PrintsCompact decompose serializeJson) (env : Env)
    (hpg : Postgres env) (m : Sent φ) (h : m.Ok) :
    rowMade env (m.message serializeJson) = m.row decompose := by
  rw [rowMade]
  cases m with
  | telemetry mac p =>
      rw [decode_telemetry decompose serializeJson hprints env hpg.depth mac p h, Sent.row]
  | report mac d =>
      rw [decode_report decompose serializeJson hprints env hpg.depth mac d h, Sent.row]
  | status mac online => rw [decode_status serializeJson env mac online, Sent.row]

theorem metaStep_sent (hprints : PrintsCompact decompose serializeJson) (env : Env)
    (hpg : Postgres env) (deviceId : String) (m : Sent φ) (h : m.Ok) :
    metaStep env deviceId none (m.message serializeJson) = m.reportOf decompose deviceId := by
  rw [metaStep]
  cases m with
  | telemetry mac p =>
      rw [decode_telemetry decompose serializeJson hprints env hpg.depth mac p h, Sent.reportOf]
  | report mac d =>
      rw [decode_report decompose serializeJson hprints env hpg.depth mac d h, Sent.reportOf]
  | status mac online => rw [decode_status serializeJson env mac online, Sent.reportOf]

/-- The rows of the messages are those of the samples. -/
theorem rowsOf_sent (hprints : PrintsCompact decompose serializeJson) (env : Env)
    (hpg : Postgres env) (sent : List (Sent φ)) (h : ∀ m ∈ sent, m.Ok) :
    rowsOf env (sent.map (Sent.message serializeJson)) = sent.filterMap (Sent.row decompose) := by
  rw [rowsOf, List.filterMap_map]
  exact List.filterMap_congr
    (fun m hm => rowMade_sent decompose serializeJson hprints env hpg m (h m hm))

/-- The last document among the messages is that of the last report. -/
theorem lastMeta_sent (hprints : PrintsCompact decompose serializeJson) (env : Env)
    (hpg : Postgres env) (deviceId : String) (sent : List (Sent φ)) :
    (∀ m ∈ sent, m.Ok) → lastMeta env (sent.map (Sent.message serializeJson)) deviceId =
      sent.reverse.findSome? (Sent.reportOf decompose deviceId) := by
  -- The last report decides, and one that comes earlier only without it.
  induction sent using List.reverseRecOn with
  | nil => exact fun _ => rfl
  | append_singleton sent m ih =>
      intro h
      rw [List.forall_mem_append, List.forall_mem_singleton] at h
      rw [List.map_append, List.map_singleton, lastMeta, List.foldl_append, List.foldl_cons,
        List.foldl_nil, metaStep_eq,
        metaStep_sent decompose serializeJson hprints env hpg deviceId m h.2, ← lastMeta,
        ih h.1, List.reverse_append, List.reverse_singleton, List.singleton_append,
        List.findSome?_cons]
      cases m.reportOf decompose deviceId with
      | none => rw [Option.none_or]
      | some data => rw [Option.some_or]

/-- The first row under the key of a board and an instant is that of the first
    such sample. -/
theorem find?_row (mac : Mac) (ts : Int) (sent : List (Sent φ)) :
    (sent.filterMap (Sent.row decompose)).find?
        (fun row => row.key = ((buildDeviceId mac).deviceId, ts * 1000)) =
      (sent.findSome? (Sent.sampleAt mac ts)).map
        (telemetryRow decompose (buildDeviceId mac).deviceId) := by
  induction sent with
  | nil => rfl
  | cons m sent ih =>
      cases m with
      | report mac' d =>
          rw [List.filterMap_cons_none rfl, ih, List.findSome?_cons, Sent.sampleAt]
      | status mac' online =>
          rw [List.filterMap_cons_none rfl, ih, List.findSome?_cons, Sent.sampleAt]
      | telemetry mac' p =>
          -- Two samples have one key if they are of one board and one instant.
          have hkey : (telemetryRow decompose (buildDeviceId mac').deviceId p).key =
              ((buildDeviceId mac).deviceId, ts * 1000) ↔ mac' = mac ∧ p.ts = ts := by
            have hts : p.ts * 1000 = ts * 1000 ↔ p.ts = ts :=
              Int.mul_eq_mul_right_iff (by decide)
            rw [Row.key, telemetryRow, Prod.mk.injEq]
            exact and_congr ⟨deviceId_injective mac' mac, fun heq => by rw [heq]⟩ hts
          have hrow : Sent.row decompose (.telemetry mac' p) =
              some (telemetryRow decompose (buildDeviceId mac').deviceId p) := rfl
          rw [List.filterMap_cons_some hrow, List.find?_cons, List.findSome?_cons, Sent.sampleAt]
          by_cases hsame : mac' = mac ∧ p.ts = ts
          · rw [decide_eq_true (hkey.mpr hsame), if_pos hsame, hsame.1]
            rfl
          · rw [decide_eq_false (fun heq => hsame (hkey.mp heq)), if_neg hsame]
            exact ih

end Messages

/-- The document of the device. -/
def Store.document (db : Store) (deviceId : String) : Option PyVal :=
  (db.deviceMeta.find? (fun row => row.deviceId = deviceId)).map DeviceMeta.payload

/-- The row under the key. -/
def Store.rowAt (db : Store) (deviceId : String) (ts : Datetime) : Option Row :=
  db.telemetryRaw.find? (fun row => row.key = (deviceId, ts))

theorem document_of_same (db db' : Store) (h : db'.deviceMeta = db.deviceMeta)
    (deviceId : String) : db'.document deviceId = db.document deviceId := by
  rw [Store.document, h, Store.document]

theorem document_upsertMeta (env : Env) (now : Datetime) (deviceId : String) (data : PyVal)
    (db db' : Store) (h : db.upsertMeta env now deviceId data = .ok db') (id : String) :
    db'.document id = if deviceId = id then some data else db.document id := by
  unfold Store.upsertMeta at h
  split at h
  · rw [Except.ok.injEq] at h
    have htable : db'.deviceMeta =
        Keyed.upsert DeviceMeta.deviceId db.deviceMeta ⟨deviceId, data, now⟩ := by
      rw [← h]
      rfl
    rw [Store.document, htable, Keyed.find?_upsert, Store.document]
    split
    · rfl
    · rfl
  · exact absurd h (by simp only [reduceCtorEq, not_false_eq_true])

section Reports

variable (env : Env) (db : Store)

/-- What is pending, and else what is stored, is the last document accepted, and
    else what was stored at the start. -/
def Recorded (s : State) : Prop :=
  ∀ id, (s.pendingMeta env id).or (s.db.document id) =
    (lastMeta env s.accepted id).or (db.document id)

theorem recorded_init : Recorded env db (State.init db) := fun _ => rfl

/-- What a step keeps if it touches neither the messages nor the documents. -/
theorem recorded_of_same (s t : State) (hacc : t.accepted = s.accepted)
    (hpending : ∀ id, t.pendingMeta env id = s.pendingMeta env id)
    (hdb : t.db.deviceMeta = s.db.deviceMeta) (h : Recorded env db s) : Recorded env db t := by
  intro id
  rw [hacc, hpending, document_of_same s.db t.db hdb]
  exact h id

theorem recorded_put (s : State) (m : Message) (queue : MessageQueue)
    (hitems : queue.items = s.queue.items ++ [m]) (h : Recorded env db s) :
    Recorded env db { s with queue := queue, accepted := s.accepted ++ [m] } := by
  intro id
  -- The message is the last of the queue, and the last that was accepted.
  have hpending : State.pendingMeta env { s with queue := queue, accepted := s.accepted ++ [m] }
      id = metaStep env id (s.pendingMeta env id) m := by
    rw [State.pendingMeta, hitems, List.foldl_append]
    rfl
  rw [hpending, lastMeta, List.foldl_append, List.foldl_cons, List.foldl_nil, metaStep_eq,
    metaStep_eq env id (List.foldl _ _ _), Option.or_assoc, Option.or_assoc]
  exact congrArg (Option.or (metaStep env id none m)) (h id)

theorem recorded_upsert (s : State) (deviceId : String) (data : PyVal) (wall : Datetime)
    (next : Store) (hphase : s.phase = .upserting deviceId data false)
    (hdb : s.db.upsertMeta env wall deviceId data = .ok next) (h : Recorded env db s) :
    Recorded env db { s with db := next, phase := .upserting deviceId data true } := by
  intro id
  have hold := h id
  rw [pendingMeta_eq, metaInHand_upserting env s deviceId data id hphase, Option.or_assoc] at hold
  rw [pendingMeta_eq, ← hold, document_upsertMeta env wall deviceId data s.db next hdb,
    State.metaInHand, Option.or_none]
  -- The document in hand moves to the table, behind those that are queued.
  split
  · rw [Option.some_or]
  · rw [Option.none_or]

/-- While `stop` is not called, the database is available and the task does not
    fail, a step keeps the equation. -/
theorem recorded_step (s t : State) (a : Action) (hmove : Moves env s a t)
    (hrunning : s.phase.Running) (hing : a.Ingestion) (hok : ¬t.phase.Ended)
    (h : Recorded env db s) : Recorded env db t := by
  cases hmove with
  | put m queue hitems => exact recorded_put env db s m queue hitems h
  | full m => exact h
  | fetch m queue hphase hitems =>
      refine recorded_of_same env db s _ rfl (fun id => ?_) rfl h
      rw [State.pendingMeta, State.pendingMeta, hitems, List.foldl_cons, State.metaInHand,
        State.metaInHand, hphase]
  -- The message in hand becomes a row of the batch, a document, or nothing.
  | resume m clock hphase =>
      refine recorded_of_same env db s _ (history_handle env clock m s).1 (fun id => ?_)
        (by rw [(queue_handle env clock m s).2]) h
      rw [State.pendingMeta, State.pendingMeta, (queue_handle env clock m s).1, metaInHand_handle,
        State.metaInHand, hphase]
  | timeout clock hphase =>
      refine recorded_of_same env db s _ rfl (fun id => ?_) rfl h
      rw [State.pendingMeta, State.pendingMeta, metaInHand_loopEnd, State.metaInHand, hphase]
      rfl
  | upsert deviceId data wall hphase =>
      cases hdb : s.db.upsertMeta env wall deviceId data with
      | ok next => exact recorded_upsert env db s deviceId data wall next hphase hdb h
      | error exc =>
          rw [hdb] at hok
          exact absurd (ended_taskFailure s exc) hok
  | flush wall hphase =>
      cases hdb : s.db.flush env wall s.batch with
      | ok next =>
          refine recorded_of_same env db s _ rfl (fun id => ?_)
            (Store.deviceMeta_flush env wall s.batch s.db next hdb) h
          rw [State.pendingMeta, State.pendingMeta, State.metaInHand, State.metaInHand, hphase]
          rfl
      | error exc =>
          rw [hdb] at hok
          exact absurd (ended_taskFailure s exc) hok
  | caught => exact hing.elim
  | taskError => exact hing.elim
  | stopError => exact hing.elim
  | upserted deviceId data clock hphase =>
      refine recorded_of_same env db s _ rfl (fun id => ?_) rfl h
      rw [State.pendingMeta, State.pendingMeta, metaInHand_loopEnd, State.metaInHand, hphase]
      rfl
  | flushed clock hphase =>
      refine recorded_of_same env db s _ rfl (fun id => ?_) rfl h
      rw [State.pendingMeta, State.pendingMeta, State.metaInHand, State.metaInHand, hphase]
  | cancel hstopped hphase => exact hing.elim
  | dropped m hstopped hphase => exact hing.elim
  | reraise exc hstopped hphase => exact hing.elim
  | drainUpsert deviceId data wall hphase => exact (hphase ▸ hrunning).elim
  | drainFlush wall hphase => exact (hphase ▸ hrunning).elim
  | drainUpserted deviceId data clock hphase => exact (hphase ▸ hrunning).elim
  | drainFlushed clock hphase => exact (hphase ▸ hrunning).elim
  | drain hphase => exact (hphase ▸ hrunning).elim

/-- Every run that has accepted absorbed messages only keeps the books. -/
theorem recorded_run (acts : List Action) (s : State) (hing : ∀ a ∈ acts, a.Ingestion)
    (hrun : Run.run (step env) (State.init db) acts = some s)
    (hacc : ∀ m ∈ s.accepted, Absorbed env m) : Sound env s ∧ Recorded env db s := by
  refine Run.run_invariant_along (step env) (fun _ a => a.Ingestion)
    (fun s => (∀ m ∈ s.accepted, Absorbed env m) → Sound env s ∧ Recorded env db s) ?_ acts
    (State.init db) s (fun _ => ⟨sound_init env db, recorded_init env db⟩)
    (Run.along_of_forall (step env) Action.Ingestion acts _ hing) hrun hacc
  intro s a t hboth ha hstep hall
  have hmove := step_moves env s t a hstep
  -- A prefix of the messages is absorbed, too.
  have hpart : ∀ m ∈ s.accepted, Absorbed env m := by
    rcases accepted_step env s t a hmove with hsame | ⟨m', _, hmore, _⟩
    · rwa [← hsame]
    · rw [hmore, List.forall_mem_append] at hall
      exact hall.1
  have hold := hboth hpart
  have hsound := sound_step env s t a hmove ha hall hold.1
  exact ⟨hsound, recorded_step env db s t a hmove (hold.1.delivery.running hold.1.stopped) ha
    (not_ended_of_sound env t hsound.phase) hold.2⟩

end Reports

/-- Where absorbed messages have been worked off, nothing has failed and the
    documents are the last ones. -/
theorem recorded_of_final (env : Env) (db : Store) (msgs : List Message) (t : State)
    (habsorbed : ∀ m ∈ msgs, Absorbed env m) (h : Final env db msgs t) :
    Idle t ∧ ∀ id, t.db.document id = (lastMeta env msgs id).or (db.document id) := by
  obtain ⟨acts, hing, hrun⟩ := h.run
  have hacc : ∀ m ∈ t.accepted, Absorbed env m := fun m hm => habsorbed m (h.accepted.subset hm)
  obtain ⟨hsound, hrecorded⟩ := recorded_run env db acts t hing hrun hacc
  rcases h.ended with ⟨hall, hidle⟩ | ⟨exc, hphase⟩
  · refine ⟨hidle, fun id => ?_⟩
    -- The queue is empty and nothing is in hand.
    have hnone : t.pendingMeta env id = none := by
      rw [State.pendingMeta, State.metaInHand, hidle.1, hidle.2.1]
      rfl
    have hid := hrecorded id
    rw [hnone, Option.none_or, hall] at hid
    exact hid
  · have hended := not_ended_of_sound env t hsound.phase
    rw [hphase] at hended
    exact absurd trivial hended

section Arrival

variable {φ : Type} (decompose : φ → Option FloatParts)
  (serializeJson : List (String × JsonField φ) → List Nat)

/-- The task does not fail, and the table has the rows of all samples. -/
theorem table_of_final (hprints : PrintsCompact decompose serializeJson) (env : Env)
    (hpg : Postgres env) (db : Store) (sent : List (Sent φ)) (hok : ∀ m ∈ sent, m.Ok) (t : State)
    (h : Final env db (sent.map (Sent.message serializeJson)) t) :
    Idle t ∧ t.db.telemetryRaw =
      Keyed.insertAllNew Row.key db.telemetryRaw (sent.filterMap (Sent.row decompose)) := by
  have habsorbed : ∀ m ∈ sent.map (Sent.message serializeJson), Absorbed env m :=
    List.forall_mem_map.mpr
      (fun m hm => absorbed_sent decompose serializeJson hprints env hpg m (hok m hm))
  obtain ⟨flushed, htable, hsurely, hreadable⟩ := final_bounds env db _ t h
  -- The two bounds are the rows of all messages.
  rw [surely, if_pos habsorbed] at hsurely
  have hrows := hreadable.eq_of_length_le hsurely.length_le
  rw [readRows, readable_of_absorbed env _ habsorbed,
    rowsOf_sent decompose serializeJson hprints env hpg sent hok] at hrows
  rw [hrows] at htable
  exact ⟨(recorded_of_final env db _ t habsorbed h).1, htable⟩

/-- Whatever boards send, and however the broker orders and repeats it, the task
    does not fail and no row is lost. Under the instant of a board there is the row
    that was there, or else that of the first such sample, and nothing else is added. -/
theorem telemetry_arrives (hprints : PrintsCompact decompose serializeJson) (env : Env)
    (hpg : Postgres env) (db : Store) (sent : List (Sent φ)) (hok : ∀ m ∈ sent, m.Ok) (t : State)
    (h : Final env db (sent.map (Sent.message serializeJson)) t) :
    Idle t ∧ (∀ row ∈ db.telemetryRaw, row ∈ t.db.telemetryRaw) ∧
    (∀ mac ts, t.db.rowAt (buildDeviceId mac).deviceId (ts * 1000) =
      (db.rowAt (buildDeviceId mac).deviceId (ts * 1000)).or
        ((sent.findSome? (Sent.sampleAt mac ts)).map
          (telemetryRow decompose (buildDeviceId mac).deviceId))) ∧
    ∀ row ∈ t.db.telemetryRaw, row ∈ db.telemetryRaw ∨
      ∃ mac p, .telemetry mac p ∈ sent ∧
        row = telemetryRow decompose (buildDeviceId mac).deviceId p := by
  obtain ⟨hidle, htable⟩ := table_of_final decompose serializeJson hprints env hpg db sent hok t h
  refine ⟨hidle, fun row hrow => ?_, fun mac ts => ?_, fun row hrow => ?_⟩
  · rw [htable]
    exact Keyed.mem_insertAllNew Row.key _ row _ hrow
  · rw [Store.rowAt, htable, Keyed.find?_insertAllNew, find?_row, Store.rowAt]
  · rw [htable] at hrow
    refine (Keyed.mem_insertAllNew_cases Row.key _ row _ hrow).imp_right (fun hnew => ?_)
    -- A row that is new is one of the messages, and only a sample has one.
    obtain ⟨m, hm, hmade⟩ := List.mem_filterMap.mp hnew.1
    cases m with
    | telemetry mac p => exact ⟨mac, p, hm, (Option.some.inj hmade).symm⟩
    | report mac d => cases hmade
    | status mac online => cases hmade

/-- A host without a limit of its own. -/
def spacious : Env where
  depth := 1
  storable := fun _ => true
  metaStorable := fun _ _ => true

theorem postgres_spacious : Postgres spacious :=
  ⟨Nat.one_pos, fun _ _ => rfl, fun _ _ _ _ => rfl⟩

def boot (bootCount : Nat) : Diagnostics where
  freeHeapBoot := 200000
  freeHeapMinRuntime := Clock32.turn - 1
  rssi := some (-60)
  ntpReady := true
  bootCount := bootCount
  lastResetReason := .poweron

/-- Two samples of one instant, and the reports of two boots, the older of each
    delivered again. -/
def published : List (Sent (Option (Fin 256))) :=
  [.status (fun _ => 0) true, .telemetry (fun _ => 0) (warm 1), .report (fun _ => 0) (boot 1),
    .telemetry (fun _ => 0) (warm 2), .report (fun _ => 0) (boot 2),
    .telemetry (fun _ => 0) (warm 1)]

theorem ok_published : ∀ m ∈ published, m.Ok := by
  have hwarm : ∀ n < 3, Built (warm n) := fun n hn =>
    ⟨⟨1700000000, by decide, rfl⟩, Nat.lt_trans hn (by decide), (by decide : 5000 < Clock32.turn)⟩
  have hboot : ∀ n < 3, Reported (boot n) := fun n hn =>
    ⟨(by decide : 200000 < Clock32.turn), (by decide : Clock32.turn - 1 < Clock32.turn),
      Nat.lt_trans hn (by decide), (by decide : ∀ n ∈ some (-60), Int.natAbs n < Clock32.turn)⟩
  simp only [published, List.forall_mem_cons]
  exact ⟨trivial, hwarm 1 (by decide), hboot 1 (by decide), hwarm 2 (by decide),
    hboot 2 (by decide), hwarm 1 (by decide), fun m hm => absurd hm List.not_mem_nil⟩

theorem final_published :
    ∃ t, Final spacious .empty (published.map (Sent.message (compactJson halves))) t := by
  obtain ⟨t, hfinal, _⟩ := final_absorbed spacious .empty
    (published.map (Sent.message (compactJson halves)))
    (List.forall_mem_map.mpr (fun m hm => absorbed_sent halves _ (prints_compactJson halves)
      spacious postgres_spacious m (ok_published m hm)))
  exact ⟨t, hfinal⟩

theorem telemetry_arrives_first : ∃ t,
    Final spacious .empty (published.map (Sent.message (compactJson halves))) t ∧ Idle t ∧
    t.db.rowAt (buildDeviceId (fun _ => 0)).deviceId 1700000000000000 =
      some (telemetryRow halves (buildDeviceId (fun _ => 0)).deviceId (warm 1)) := by
  obtain ⟨t, hfinal⟩ := final_published
  have harrives := telemetry_arrives halves _ (prints_compactJson halves) spacious
    postgres_spacious .empty published ok_published t hfinal
  have hrow := harrives.2.2.1 (fun _ => 0) 1700000000000
  exact ⟨t, hfinal, harrives.1, hrow⟩

/-- The document of a device is the one of the last report delivered, or the one
    it had. -/
theorem reports_arrive (hprints : PrintsCompact decompose serializeJson) (env : Env)
    (hpg : Postgres env) (db : Store) (sent : List (Sent φ)) (hok : ∀ m ∈ sent, m.Ok) (t : State)
    (h : Final env db (sent.map (Sent.message serializeJson)) t) (deviceId : String) :
    t.db.document deviceId =
      (sent.reverse.findSome? (Sent.reportOf decompose deviceId)).or (db.document deviceId) := by
  have habsorbed : ∀ m ∈ sent.map (Sent.message serializeJson), Absorbed env m :=
    List.forall_mem_map.mpr
      (fun m hm => absorbed_sent decompose serializeJson hprints env hpg m (hok m hm))
  rw [(recorded_of_final env db _ t habsorbed h).2 deviceId,
    lastMeta_sent decompose serializeJson hprints env hpg deviceId sent hok]

theorem reports_arrive_last : ∃ t,
    Final spacious .empty (published.map (Sent.message (compactJson halves))) t ∧
    t.db.document (buildDeviceId (fun _ => 0)).deviceId =
      some (.dict (dictOf halves (metaDoc (boot 2)))) := by
  obtain ⟨t, hfinal⟩ := final_published
  have hdocument := reports_arrive halves _ (prints_compactJson halves) spacious
    postgres_spacious .empty published ok_published t hfinal (buildDeviceId (fun _ => 0)).deviceId
  refine ⟨t, hfinal, hdocument.trans ?_⟩
  simp only [published, List.reverse_cons, List.reverse_nil, List.nil_append, List.cons_append,
    List.findSome?_cons, Sent.reportOf, if_true, Option.some_or]

end Arrival

end Ingest

end Backend

end Vena
