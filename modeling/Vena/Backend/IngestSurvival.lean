import Vena.Backend.IngestHandled
import Vena.Backend.IngestMeta
import Mathlib.Data.List.Induction

/-!
# Which Messages the Ingestor Survives

An exception ends `_run` for good: nothing is read from the queue afterwards,
and nobody notices. If all messages are handled, the task never fails, and from
every state it reaches it goes on to store everything it has accepted. If one
is not, there is a run in which it is the last message read.

The runs are those without a call of `stop` and without a failure of the
database.

## Main definitions

* `Ingested`: All messages have reached the tables.
* `Survives`: The promise for a sequence of messages.
* `Contents`: Everything in the machine can be stored.
* `Sound`: The invariant of the task.
* `Idle`, `work`: Nothing to do, and how much there is to do.

## Theorems

* `contents_step`, `sound_step`: The invariants are kept while the messages are
  absorbed.
* `work_decreases`: The task can go on until it is idle.
* `ingestion_survives`: The promise holds exactly of the handled messages.
-/

namespace Vena

namespace Backend

namespace Ingest

open Python

/-- Every row and every last document of the messages is in its table. -/
def Ingested (env : Env) (db : Store) (msgs : List Message) : Prop :=
  (∀ m ∈ msgs, ∀ row, parse env m = .ok (some row) → db.Stored row.key) ∧
  ∀ deviceId data, lastMeta env msgs deviceId = some data → db.HasMeta deviceId data

/-- The steps of `_run` alone. -/
def Action.Own : Action → Prop
  | .fetch | .resume _ | .timeout _ | .commit _ | .done _ => True
  | _ => False

/-- However the messages come in, the task does not fail, and left alone it
    stores everything it has accepted. -/
def Survives (env : Env) (db : Store) (msgs : List Message) : Prop :=
  ∀ acts s, (∀ a ∈ acts, a.Ingestion) → Run.run (step env) (State.init db) acts = some s →
    s.accepted <+: msgs →
    (∀ exc, s.phase ≠ .failed exc) ∧
    ∃ more t, (∀ a ∈ more, a.Own) ∧ Run.run (step env) s more = some t ∧
      Ingested env t.db s.accepted

/-- What the batch and the message in hand look like in each phase. -/
def PhaseSound (env : Env) (s : State) : Prop :=
  match s.phase with
  | .waiting => s.batch.length < batchSize
  | .fetched m => s.batch.length < batchSize ∧ Absorbed env m
  | .upserting deviceId data committed =>
    s.batch.length < batchSize ∧ (committed = false → env.metaStorable deviceId data = true)
  | .flushing _ => s.batch.length ≤ batchSize
  | _ => False

/-- Everything in the machine can be stored. -/
structure Contents (env : Env) (s : State) : Prop where
  queue : ∀ m ∈ s.queue.items, Absorbed env m
  batch : ∀ row ∈ s.batch, env.storable row = true
  phase : PhaseSound env s

structure Sound (env : Env) (s : State) : Prop extends Contents env s where
  stopped : s.stopped = none
  delivery : Delivery env s
  metaDelivery : MetaDelivery env s

theorem contents_init (env : Env) (db : Store) : Contents env (State.init db) where
  queue := fun _ hm => absurd hm List.not_mem_nil
  batch := fun _ hrow => absurd hrow List.not_mem_nil
  phase := Nat.zero_lt_succ 99

theorem sound_init (env : Env) (db : Store) : Sound env (State.init db) where
  toContents := contents_init env db
  stopped := rfl
  delivery := delivery_init env db
  metaDelivery := metaDelivery_init env db

theorem not_ended_of_sound (env : Env) (s : State) (h : PhaseSound env s) : ¬s.phase.Ended := by
  unfold PhaseSound at h
  cases hphase : s.phase with
  | failed exc =>
      rw [hphase] at h
      exact h.elim
  | raised exc =>
      rw [hphase] at h
      exact h.elim
  | _ => exact id

/-- After the loop body the batch is short, or on its way. -/
theorem phaseSound_loopEnd (env : Env) (clock : Nat) (s : State)
    (hlength : s.batch.length ≤ batchSize) : PhaseSound env (s.loopEnd clock) := by
  unfold State.loopEnd PhaseSound
  cases hflush : State.shouldFlush clock s.batch s.lastFlush with
  | true => exact hlength
  | false =>
      rw [State.shouldFlush, Bool.or_eq_false_iff, decide_eq_false_iff_not] at hflush
      exact Nat.lt_of_not_le hflush.1

/-- A storable batch goes through. -/
theorem flush_batch (env : Env) (wall : Datetime) (s : State) (hphase : s.phase = .flushing false)
    (h : Contents env s) : ∃ db, s.db.flush env wall s.batch = .ok db := by
  have hlength := h.phase
  rw [PhaseSound, hphase] at hlength
  refine Store.flush_ok env wall s.batch s.db h.batch ?_
  exact Nat.le_trans (Nat.mul_le_mul_right rowParameters hlength) (by decide)

theorem upsert_document (env : Env) (wall : Datetime) (s : State) (deviceId : String)
    (data : PyVal) (hphase : s.phase = .upserting deviceId data false) (h : Contents env s) :
    ∃ db, s.db.upsertMeta env wall deviceId data = .ok db := by
  have hdata := h.phase
  rw [PhaseSound, hphase] at hdata
  exact Store.upsertMeta_ok env wall deviceId data s.db (hdata.2 rfl)

/-- The loop body keeps the batch and the phase sound. -/
theorem handle_sound (env : Env) (clock : Nat) (m : Message) (s : State)
    (habsorbed : Absorbed env m) (hlength : s.batch.length < batchSize)
    (hbatch : ∀ row ∈ s.batch, env.storable row = true) :
    (∀ row ∈ (s.handle env clock m).batch, env.storable row = true) ∧
    PhaseSound env (s.handle env clock m) := by
  unfold Absorbed at habsorbed
  unfold State.handle
  split
  · next hdecode =>
      rw [hdecode] at habsorbed
      exact habsorbed.elim
  · exact ⟨hbatch, phaseSound_loopEnd env clock s (Nat.le_of_lt hlength)⟩
  -- A sample joins the batch, which it may fill up but not overfill.
  · next row hdecode =>
      rw [hdecode] at habsorbed
      refine ⟨fun r hr => ?_, phaseSound_loopEnd env clock _ ?_⟩
      · rcases List.mem_append.mp hr with hold | hnew
        · exact hbatch r hold
        · rw [List.mem_singleton.mp hnew]
          exact habsorbed
      · rw [List.length_append]
        exact hlength
  · next deviceId data hdecode =>
      rw [hdecode] at habsorbed
      exact ⟨hbatch, hlength, fun _ => habsorbed⟩

/-- A step keeps what is in the machine storable, also a failure that the task
    survives. -/
theorem contents_step (env : Env) (s t : State) (a : Action) (hmove : Moves env s a t)
    (hstop : a ≠ .stop) (hharmless : Harmless s a) (hacc : ∀ m ∈ t.accepted, Absorbed env m)
    (h : Contents env s) : Contents env t := by
  have hphased := h.phase
  cases hmove with
  | put m queue hitems =>
      refine ⟨fun x hx => ?_, h.batch, hphased⟩
      rcases List.mem_append.mp (hitems ▸ hx) with hold | hnew
      · exact h.queue x hold
      · exact hacc x (List.mem_append_right _ hnew)
  | full m => exact ⟨h.queue, h.batch, hphased⟩
  | fetch m queue hphase hitems =>
      have hqueue := h.queue
      rw [hitems] at hqueue
      rw [PhaseSound, hphase] at hphased
      exact ⟨fun x hx => hqueue x (List.mem_cons_of_mem _ hx), h.batch, hphased,
        hqueue m List.mem_cons_self⟩
  | resume m clock hphase =>
      rw [PhaseSound, hphase] at hphased
      rcases handle_sound env clock m s hphased.2 hphased.1 h.batch with ⟨hbatch, hnext⟩
      refine ⟨?_, hbatch, hnext⟩
      rw [(queue_handle env clock m s).1]
      exact h.queue
  | timeout clock hphase =>
      rw [PhaseSound, hphase] at hphased
      exact ⟨h.queue, h.batch, phaseSound_loopEnd env clock s (Nat.le_of_lt hphased)⟩
  | upsert deviceId data wall hphase =>
      -- The document is one the column takes, so the statement goes through.
      rcases upsert_document env wall s deviceId data hphase h with ⟨db, hdb⟩
      rw [PhaseSound, hphase] at hphased
      rw [hdb]
      exact ⟨h.queue, h.batch, hphased.1, fun hno => Bool.noConfusion hno⟩
  | flush wall hphase =>
      -- All rows are storable, so the flush goes through.
      rcases flush_batch env wall s hphase h with ⟨db, hdb⟩
      rw [PhaseSound, hphase] at hphased
      rw [hdb]
      exact ⟨h.queue, h.batch, hphased⟩
  | upserted deviceId data clock hphase =>
      rw [PhaseSound, hphase] at hphased
      exact ⟨h.queue, h.batch, phaseSound_loopEnd env clock s (Nat.le_of_lt hphased.1)⟩
  | flushed clock hphase =>
      exact ⟨h.queue, fun row hrow => absurd hrow List.not_mem_nil, Nat.zero_lt_succ 99⟩
  | caught deviceId data clock hphase =>
      rw [PhaseSound, hphase] at hphased
      exact ⟨h.queue, h.batch, phaseSound_loopEnd env clock s (Nat.le_of_lt hphased.1)⟩
  | taskError exc clock hphase huncaught => exact absurd hharmless huncaught
  | stopError exc clock hphase =>
      rcases Phase.eq_upserting s.phase exc hharmless with ⟨_, deviceId, data, heq⟩
      rw [heq] at hphase
      exact hphase.elim
  | cancel hstopped hphase => exact absurd rfl hstop
  | dropped m hstopped hphase => exact absurd rfl hstop
  | reraise exc hstopped hphase => exact absurd rfl hstop
  -- Nothing has stopped the ingestor, so it is not draining.
  | drainUpsert deviceId data wall hphase =>
      rw [PhaseSound, hphase] at hphased
      exact hphased.elim
  | drainFlush wall hphase =>
      rw [PhaseSound, hphase] at hphased
      exact hphased.elim
  | drainUpserted deviceId data clock hphase =>
      rw [PhaseSound, hphase] at hphased
      exact hphased.elim
  | drainFlushed clock hphase =>
      rw [PhaseSound, hphase] at hphased
      exact hphased.elim
  | drain hphase =>
      rw [PhaseSound, hphase] at hphased
      exact hphased.elim

/-- A step keeps the invariant as long as what is accepted is absorbed. -/
theorem sound_step (env : Env) (s t : State) (a : Action) (hmove : Moves env s a t)
    (hing : a.Ingestion) (hacc : ∀ m ∈ t.accepted, Absorbed env m) (h : Sound env s) :
    Sound env t := by
  have hstop : a ≠ .stop := fun heq => by
    rw [heq] at hing
    exact hing
  have hcontents := contents_step env s t a hmove hstop (harmless_of_ingestion s a hing) hacc
    h.toContents
  refine ⟨hcontents, ?_, ?_, ?_⟩
  · rcases stopped_step env s t a hmove with hsame | ⟨heq, _⟩
    · rw [hsame]
      exact h.stopped
    · exact absurd heq hstop
  · exact delivery_step env s t a hmove (fun heq => absurd heq hstop) h.delivery
  · exact metaDelivery_step env s t a hmove (h.delivery.running h.stopped) hing
      (not_ended_of_sound env t hcontents.phase) h.metaDelivery

/-- Every run that has accepted absorbed messages only is sound. -/
theorem sound_run (env : Env) (db : Store) (acts : List Action) (s : State)
    (hing : ∀ a ∈ acts, a.Ingestion) (hrun : Run.run (step env) (State.init db) acts = some s)
    (hacc : ∀ m ∈ s.accepted, Absorbed env m) : Sound env s := by
  refine Run.run_invariant_along (step env) (fun _ a => a.Ingestion)
    (fun s => (∀ m ∈ s.accepted, Absorbed env m) → Sound env s) ?_ acts (State.init db) s
    (fun _ => sound_init env db) (Run.along_of_forall (step env) Action.Ingestion acts _ hing)
    hrun hacc
  intro s a t hsound ha hstep hall
  have hmove := step_moves env s t a hstep
  refine sound_step env s t a hmove ha hall (hsound (fun m hm => hall m ?_))
  rcases accepted_step env s t a hmove with hsame | ⟨m', _, hmore, _⟩
  · rwa [hsame]
  · rw [hmore]
    exact List.mem_append_left _ hm

/-- Nothing is queued, in hand or in the batch. -/
def Idle (s : State) : Prop := s.phase = .waiting ∧ s.queue.items = [] ∧ s.batch = []

/-- The steps before the next message is read. -/
def rank (s : State) : Nat :=
  match s.phase with
  | .fetched _ => 6
  | .upserting _ _ false => 5
  | .upserting _ _ true => 4
  | .waiting => if s.batch.isEmpty then 0 else 3
  | .flushing false => 2
  | .flushing true => 1
  | _ => 0

def work (s : State) : Nat := 7 * s.queue.items.length + rank s

/-- A reading of the clock at which a flush is due. -/
def later (s : State) : Nat := s.clock + s.lastFlush + flushInterval

theorem le_later (s : State) : s.clock ≤ later s := by
  unfold later
  omega

/-- When a flush is due, the loop body ends with the flush or an empty batch. -/
theorem rank_loopEnd (clock : Nat) (s : State) (hdue : flushInterval ≤ clock - s.lastFlush) :
    rank (s.loopEnd clock) ≤ 2 := by
  unfold State.loopEnd rank State.shouldFlush
  cases hbatch : s.batch.isEmpty with
  | true =>
      rw [List.isEmpty_iff] at hbatch
      rw [hbatch]
      exact Nat.zero_le 2
  | false =>
      rw [decide_eq_true hdue, Bool.not_false, Bool.true_and, Bool.or_true]
      exact Nat.le_refl 2

theorem due_later (s : State) : flushInterval ≤ later s - s.lastFlush := by
  unfold later
  omega

/-- The task has a step to take that leaves less to do. -/
def Advances (env : Env) (s : State) : Prop :=
  ∃ a t, a.Own ∧ step env s a = some t ∧ work t < work s

theorem advances_waiting (env : Env) (s : State) (hphase : s.phase = .waiting) :
    Idle s ∨ Advances env s := by
  cases hbatch : s.batch with
  | nil =>
      cases hget : s.queue.getNowait with
      | none => exact Or.inl ⟨hphase, MessageQueue.getNowait_eq_none _ hget, hbatch⟩
      | some got =>
          rcases got with ⟨m, queue⟩
          refine Or.inr ⟨.fetch, { s with queue := queue, phase := .fetched m }, trivial, ?_, ?_⟩
          · simp only [step, State.fetch, hphase, hget]
          · have hlength := congrArg List.length (MessageQueue.items_getNowait _ _ _ hget)
            rw [List.length_cons] at hlength
            simp only [work, rank]
            omega
  | cons row rows =>
      -- With rows in the batch the wait ends by its timeout, and that flushes.
      have hwait : s.clock + s.waitTimeout ≤ later s := by
        unfold State.waitTimeout later flushInterval minTimeout
        omega
      refine Or.inr ⟨.timeout (later s), s.loopEnd (later s), trivial, ?_, ?_⟩
      · simp only [step, hphase, hwait, if_true]
      · have hrank := rank_loopEnd (later s) s (due_later s)
        have hthree : rank s = 3 := by
          rw [rank, hphase, hbatch]
          rfl
        have hqueue : (s.loopEnd (later s)).queue = s.queue := rfl
        rw [work, work, hthree, hqueue]
        omega

theorem rank_handle (env : Env) (m : Message) (s : State) (habsorbed : Absorbed env m) :
    rank (s.handle env (later s) m) ≤ 5 := by
  unfold Absorbed at habsorbed
  unfold State.handle
  split
  · next hdecode =>
      rw [hdecode] at habsorbed
      exact habsorbed.elim
  · exact Nat.le_trans (rank_loopEnd (later s) s (due_later s)) (by decide)
  · exact Nat.le_trans (rank_loopEnd (later s) _ (due_later s)) (by decide)
  · exact Nat.le_refl 5

theorem advances_fetched (env : Env) (s : State) (m : Message) (hphase : s.phase = .fetched m)
    (habsorbed : Absorbed env m) : Advances env s := by
  refine ⟨.resume (later s), s.handle env (later s) m, trivial, ?_, ?_⟩
  · simp only [step, hphase, le_later s, if_true]
  · have hsix : rank s = 6 := by rw [rank, hphase]
    have hrank := rank_handle env m s habsorbed
    rw [work, work, hsix, (queue_handle env (later s) m s).1]
    omega

theorem advances_upserting (env : Env) (s : State) (deviceId : String) (data : PyVal)
    (committed : Bool) (hphase : s.phase = .upserting deviceId data committed)
    (h : Sound env s) : Advances env s := by
  cases committed with
  | false =>
      rcases upsert_document env 0 s deviceId data hphase h.toContents with ⟨db, hdb⟩
      refine ⟨.commit 0,
        { s with db := db, phase := .upserting deviceId data true }, trivial, ?_, ?_⟩
      · simp only [step, State.commit, hphase, hdb, State.commitTask]
      · simp only [work, rank, hphase]
        omega
  | true =>
      refine ⟨.done (later s), s.loopEnd (later s), trivial, ?_, ?_⟩
      · simp only [step, State.done, hphase, le_later s, if_true]
      · have hrank := rank_loopEnd (later s) s (due_later s)
        have hfour : rank s = 4 := by rw [rank, hphase]
        have hqueue : (s.loopEnd (later s)).queue = s.queue := rfl
        rw [work, work, hfour, hqueue]
        omega

theorem advances_flushing (env : Env) (s : State) (committed : Bool)
    (hphase : s.phase = .flushing committed) (h : Sound env s) : Advances env s := by
  cases committed with
  | false =>
      rcases flush_batch env 0 s hphase h.toContents with ⟨db, hdb⟩
      refine ⟨.commit 0, { s with db := db, phase := .flushing true }, trivial, ?_, ?_⟩
      · simp only [step, State.commit, hphase, hdb, State.commitTask]
      · simp only [work, rank, hphase]
        omega
  | true =>
      refine ⟨.done (later s),
        { s with batch := [], lastFlush := later s, clock := later s, phase := .waiting }, trivial,
        ?_, ?_⟩
      · simp only [step, State.done, hphase, le_later s, if_true]
      · simp only [work, rank, hphase, List.isEmpty_nil, if_true]
        omega

/-- Left alone, the task goes on until it is idle. -/
theorem work_decreases (env : Env) (s : State) (h : Sound env s) : Idle s ∨ Advances env s := by
  have hphased := h.phase
  cases hphase : s.phase with
  | waiting => exact advances_waiting env s hphase
  | fetched m =>
      rw [PhaseSound, hphase] at hphased
      exact Or.inr (advances_fetched env s m hphase hphased.2)
  | upserting deviceId data committed =>
      exact Or.inr (advances_upserting env s deviceId data committed hphase h)
  | flushing committed => exact Or.inr (advances_flushing env s committed hphase h)
  | _ =>
      rw [PhaseSound, hphase] at hphased
      exact hphased.elim

theorem ingestion_of_own (a : Action) (h : a.Own) : a.Ingestion := by
  cases a with
  | dbError exc clock => exact h.elim
  | stop => exact h.elim
  | _ => trivial

/-- A run of the task alone from a sound state to an idle one. -/
theorem run_idle (env : Env) (s : State) (hacc : ∀ m ∈ s.accepted, Absorbed env m)
    (h : Sound env s) : ∃ more t, (∀ a ∈ more, a.Own) ∧ Run.run (step env) s more = some t ∧
      (Sound env t ∧ t.accepted = s.accepted) ∧ Idle t := by
  refine Run.run_reaches (step env) Action.Own
    (fun t => Sound env t ∧ t.accepted = s.accepted) Idle work ?_ s ⟨h, rfl⟩
  rintro t ⟨hsound, hsame⟩
  refine (work_decreases env t hsound).imp_right ?_
  rintro ⟨a, t', hown, hstep, hlt⟩
  have hmove := step_moves env t t' a hstep
  have hkept : t'.accepted = t.accepted := by
    rcases accepted_step env t t' a hmove with hkept | ⟨m, hput, _⟩
    · exact hkept
    · rw [hput] at hown
      exact hown.elim
  refine ⟨a, t', hown, hstep, ⟨?_, hkept.trans hsame⟩, hlt⟩
  refine sound_step env t t' a hmove (ingestion_of_own a hown) ?_ hsound
  rw [hkept, hsame]
  exact hacc

/-- Where nothing is on its way, everything has arrived. -/
theorem ingested_of_idle (env : Env) (s : State) (h : Sound env s) (hidle : Idle s) :
    Ingested env s.db s.accepted := by
  rcases hidle with ⟨hphase, hitems, hbatch⟩
  constructor
  · intro m hm row hrow
    have hpromised : m ∈ s.promised := by
      rw [State.promised, h.stopped]
      exact hm
    have hdue := h.delivery.due m hpromised row ((decode_eq_row env m row).mpr hrow)
    rw [Due, State.unread, State.held, hphase, hitems, hbatch] at hdue
    rcases hdue with hended | hqueue | hheld | hstored
    · exact hended.elim
    · exact absurd hqueue List.not_mem_nil
    · exact absurd hheld List.not_mem_nil
    · exact hstored
  · intro deviceId data hlast
    rcases h.metaDelivery deviceId data hlast with hpending | ⟨_, hhas⟩
    · rw [State.pendingMeta, State.metaInHand, hphase, hitems, List.foldl_nil] at hpending
      exact absurd hpending (by simp only [reduceCtorEq, not_false_eq_true])
    · exact hhas

/-- The promise holds of absorbed messages. -/
theorem survives_of_absorbed (env : Env) (db : Store) (msgs : List Message)
    (h : ∀ m ∈ msgs, Absorbed env m) : Survives env db msgs := by
  intro acts s hing hrun hinit
  have hacc : ∀ m ∈ s.accepted, Absorbed env m := fun m hm => h m (hinit.subset hm)
  have hsound := sound_run env db acts s hing hrun hacc
  constructor
  · intro exc hphase
    have hbad := not_ended_of_sound env s hsound.phase
    rw [hphase] at hbad
    exact hbad trivial
  · rcases run_idle env s hacc hsound with ⟨more, t, hown, hmore, ⟨hsoundt, hsame⟩, hidle⟩
    exact ⟨more, t, hown, hmore, hsame ▸ ingested_of_idle env t hsoundt hidle⟩

/-- A task with nothing in its queue is handed a message. -/
theorem read_put (env : Env) (s : State) (m : Message) (hphase : s.phase = .waiting)
    (hitems : s.queue.items = []) :
    ∃ queue t, t = { s with queue := queue, accepted := s.accepted ++ [m], phase := .fetched m } ∧
      queue.items = [] ∧ Run.run (step env) s [.put m, .fetch] = some t := by
  have hroom : s.queue.items.length < maxsize := by
    rw [hitems]
    decide
  -- There is room, and what is put is what is fetched.
  cases hput : s.queue.putNowait m with
  | none =>
      rw [MessageQueue.putNowait, dif_pos hroom] at hput
      exact absurd hput (by simp only [reduceCtorEq, not_false_eq_true])
  | some queue =>
      have hone := MessageQueue.items_putNowait _ _ _ hput
      rw [hitems, List.nil_append] at hone
      cases hget : queue.getNowait with
      | none =>
          have hnil := MessageQueue.getNowait_eq_none _ hget
          exact absurd (hone.symm.trans hnil) (List.cons_ne_nil m [])
      | some got =>
          rcases got with ⟨m', rest⟩
          have hcons := MessageQueue.items_getNowait _ _ _ hget
          rw [hone, List.cons.injEq] at hcons
          rcases hcons with ⟨rfl, hrest⟩
          refine ⟨rest, _, rfl, hrest.symm, ?_⟩
          simp only [Run.run, step, State.put, hput, State.fetch, hphase, hget]

/-- A task that is not to be stopped fails for good. -/
theorem phase_taskFailure (s : State) (exc : Exc) (hstopped : s.stopped = none) :
    (s.taskFailure exc).phase = .failed exc := by
  rw [State.taskFailure, hstopped]

/-- Reading a message that is not absorbed is the end of the task, and leaves the
    tables as they are. -/
theorem fails_of_not_absorbed (env : Env) (s : State) (m : Message) (hphase : s.phase = .fetched m)
    (hstopped : s.stopped = none) (hbad : ¬Absorbed env m) :
    ∃ acts t exc, (∀ a ∈ acts, a.Ingestion) ∧ Run.run (step env) s acts = some t ∧
      t.accepted = s.accepted ∧ t.phase = .failed exc ∧ t.db = s.db := by
  unfold Absorbed at hbad
  cases hdecode : decode env m with
  | error exc =>
      refine ⟨[.resume (later s)], s.taskFailure exc, exc, List.forall_mem_singleton.mpr trivial,
        ?_, rfl, phase_taskFailure s exc hstopped, rfl⟩
      simp only [Run.run, step, hphase, le_later s, if_true, State.handle, hdecode]
  | ok outcome =>
      rw [hdecode] at hbad
      cases outcome with
      | discard => exact absurd trivial hbad
      | row row =>
          -- The clock says that a flush is due, so the row goes to the database at once.
          have hne : (s.batch ++ [row]).isEmpty = false := by
            rw [List.isEmpty_eq_false_iff]
            exact List.append_ne_nil_of_right_ne_nil s.batch (List.cons_ne_nil row [])
          have hdue : State.shouldFlush (later s) (s.batch ++ [row]) s.lastFlush = true := by
            rw [State.shouldFlush, hne, decide_eq_true (due_later s), Bool.not_false,
              Bool.and_true, Bool.or_true]
          have herror := Store.flush_error env 0 (s.batch ++ [row]) s.db row
            (List.mem_append_right s.batch (List.mem_singleton_self row)) hbad
          refine ⟨[.resume (later s), .commit 0],
            ({ s with batch := s.batch ++ [row] }.loopEnd (later s)).taskFailure .databaseError,
            .databaseError,
            List.forall_mem_cons.mpr ⟨trivial, List.forall_mem_singleton.mpr trivial⟩, ?_, rfl,
            phase_taskFailure _ _ hstopped, rfl⟩
          simp only [Run.run, step, hphase, le_later s, if_true, State.handle, hdecode,
            State.loopEnd, hdue, State.commit, herror, State.commitTask]
      | upsert deviceId data =>
          have herror := Store.upsertMeta_error env 0 deviceId data s.db hbad
          refine ⟨[.resume (later s), .commit 0],
            State.taskFailure
              { s with clock := later s, phase := .upserting deviceId data false } .databaseError,
            .databaseError,
            List.forall_mem_cons.mpr ⟨trivial, List.forall_mem_singleton.mpr trivial⟩, ?_, rfl,
            phase_taskFailure _ _ hstopped, rfl⟩
          simp only [Run.run, step, hphase, le_later s, if_true, State.handle, hdecode,
            State.commit, herror, State.commitTask]

/-- A run after which all of the messages have been accepted and stored. -/
theorem idle_run (env : Env) (db : Store) (msgs : List Message) :
    (∀ m ∈ msgs, Absorbed env m) → ∃ acts s, (∀ a ∈ acts, a.Ingestion) ∧
      Run.run (step env) (State.init db) acts = some s ∧ s.accepted = msgs ∧ Sound env s ∧
      Idle s := by
  induction msgs using List.reverseRecOn with
  | nil =>
      exact fun _ => ⟨[], State.init db, fun a ha => absurd ha List.not_mem_nil, rfl, rfl,
        sound_init env db, rfl, rfl, rfl⟩
  | append_singleton pre m ih =>
      intro hall
      rcases ih (fun x hx => hall x (List.mem_append_left _ hx)) with
        ⟨acts, s, hing, hrun, hacc, _, hidle⟩
      rcases read_put env s m hidle.1 hidle.2.1 with ⟨queue, t, ht, _, hread⟩
      have hrunt : Run.run (step env) (State.init db) (acts ++ [.put m, .fetch]) = some t :=
        (Run.run_append (step env) _ t acts _).mpr ⟨s, hrun, hread⟩
      have hingt : ∀ a ∈ acts ++ [.put m, .fetch], a.Ingestion := List.forall_mem_append.mpr
        ⟨hing, List.forall_mem_cons.mpr ⟨trivial, List.forall_mem_singleton.mpr trivial⟩⟩
      have hacct : t.accepted = pre ++ [m] := by rw [ht, hacc]
      -- The next message is read, and then the ingestor is let run until it is idle.
      have hallt : ∀ x ∈ t.accepted, Absorbed env x := hacct ▸ hall
      have hsound := sound_run env db _ t hingt hrunt hallt
      rcases run_idle env t hallt hsound with ⟨more, u, hown, hmore, ⟨hsoundu, hsame⟩, hidleu⟩
      exact ⟨(acts ++ [.put m, .fetch]) ++ more, u,
        List.forall_mem_append.mpr ⟨hingt, fun a ha => ingestion_of_own a (hown a ha)⟩,
        (Run.run_append (step env) _ u _ more).mpr ⟨t, hrunt, hmore⟩, hsame.trans hacct, hsoundu,
        hidleu⟩

/-- After absorbed messages, one that is not absorbed breaks the promise. -/
theorem not_survives (env : Env) (db : Store) (msgs pre : List Message) (m : Message)
    (hpre : ∀ x ∈ pre, Absorbed env x) (hinit : pre ++ [m] <+: msgs) (hbad : ¬Absorbed env m) :
    ¬Survives env db msgs := by
  intro hsurvives
  rcases idle_run env db pre hpre with ⟨acts, s, hing, hrun, hacc, hsound, hidle⟩
  rcases read_put env s m hidle.1 hidle.2.1 with ⟨queue, t, ht, _, hread⟩
  have hfetched : t.phase = .fetched m ∧ t.stopped = none := by
    rw [ht]
    exact ⟨rfl, hsound.stopped⟩
  rcases fails_of_not_absorbed env t m hfetched.1 hfetched.2 hbad with
    ⟨more, u, exc, hmore, hrunu, hsame, hphase, _⟩
  have hrunall : Run.run (step env) (State.init db) (acts ++ ([.put m, .fetch] ++ more)) = some u :=
    (Run.run_append (step env) _ u acts _).mpr
      ⟨s, hrun, (Run.run_append (step env) s u _ more).mpr ⟨t, hread, hrunu⟩⟩
  have hingall : ∀ a ∈ acts ++ ([.put m, .fetch] ++ more), a.Ingestion := List.forall_mem_append.mpr
    ⟨hing, List.forall_mem_append.mpr ⟨List.forall_mem_cons.mpr ⟨trivial,
      List.forall_mem_singleton.mpr trivial⟩, hmore⟩⟩
  have haccepted : u.accepted = pre ++ [m] := by rw [hsame, ht, hacc]
  exact (hsurvives _ u hingall hrunall (haccepted ▸ hinit)).1 exc hphase

/-- The messages of a sequence the ingestor survives, taken one after the other. -/
theorem absorbed_of_survives (env : Env) (db : Store) (msgs : List Message)
    (h : Survives env db msgs) (pre : List Message) :
    pre <+: msgs → ∀ m ∈ pre, Absorbed env m := by
  induction pre using List.reverseRecOn with
  | nil => exact fun _ m hm => absurd hm List.not_mem_nil
  | append_singleton pre m ih =>
      intro hinit
      have hpre := ih ((List.prefix_append pre [m]).trans hinit)
      refine List.forall_mem_append.mpr ⟨hpre, List.forall_mem_singleton.mpr ?_⟩
      by_contra hbad
      exact not_survives env db msgs pre m hpre hinit hbad h

/-- The ingestor survives a sequence of messages exactly if each is handled. -/
theorem ingestion_survives (env : Env) (db : Store) (msgs : List Message) :
    Survives env db msgs ↔ ∀ m ∈ msgs, Handled env m := by
  constructor
  · intro h m hm
    exact (handled_iff env m).mpr
      (absorbed_of_survives env db msgs h msgs (List.prefix_refl msgs) m hm)
  · intro h
    exact survives_of_absorbed env db msgs (fun m hm => (handled_iff env m).mp (h m hm))

/-- The payload `[]` from a device. -/
def emptyList : Message where
  topic := "vena/a/telemetry"
  payload := [0x5B, 0x5D]

/-- A list has no `get`: the sample behind it is never read. -/
theorem ingestion_stops : ¬Survives lenient .empty [emptyList, sample] := by
  refine not_survives lenient .empty [emptyList, sample] [] emptyList
    (fun m hm => absurd hm List.not_mem_nil) ⟨[sample], rfl⟩ ?_
  have hdecode : decode lenient emptyList = .error .attributeError := by rfl
  rw [Absorbed, hdecode]
  exact id

end Ingest

end Backend

end Vena
