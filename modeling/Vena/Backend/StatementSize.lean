import Vena.Backend.IngestDelivery

/-!
# The Size of a Statement

`_flush` sends one INSERT for every device it registers, and one for all its
rows. asyncpg sends a statement with 32 767 bind parameters at most, which is
enough for 3276 rows. `_run` flushes at a hundred. `stop` puts whatever it
drains into one list and flushes that, and what it drains is bounded by the
queue, by ten thousand messages.

`within_limit_iff` is about runs of the ingestor: the statements fit in exactly
the runs in which `stop`, when it finds the queue empty, has drained no more
samples than one statement takes.

## Main definitions

* `flushInserts`: The bind parameters of the INSERTs of a `_flush`.
* `WithinLimit`: The INSERTs of the transaction that is under way fit.
* `drained`: The messages `stop` takes from the queue.
* `DrainBounded`: It has taken no more samples than fit.

## Theorems

* `batchBounded_step`: The task never holds more than a hundred rows.
* `remaining_step`: `stop` holds the samples it has drained.
* `within_limit_iff`: The runs whose statements fit.
* `drain_overlong`: A run with one that does not.
-/

namespace Vena

namespace Backend

namespace Ingest

open Python

/-- The columns that auto-registration binds. -/
def deviceParameters : Nat := 5

/-- The devices `_flush` inserts. -/
def newDeviceIds (db : Store) (rows : List Row) : List String :=
  (rows.map Row.deviceId).eraseDups.filter (fun id => id ∉ db.devices.map Device.id)

/-- The bind parameters of the INSERTs of a `_flush`, one for each statement. -/
def flushInserts (db : Store) (rows : List Row) : List Nat :=
  (newDeviceIds db rows).map (fun _ => deviceParameters) ++ [rows.length * rowParameters]

/-- The INSERTs of the transaction that is under way. -/
def State.inserts (s : State) : List Nat :=
  match s.phase with
  | .flushing false => flushInserts s.db s.batch
  | .drainFlushing false => flushInserts s.db s.remaining
  | _ => []

def WithinLimit (s : State) : Prop := ∀ n ∈ s.inserts, n ≤ bindLimit

/-- What a step of `stop` takes from the queue. -/
def drained (s : State) : Action → List Message
  | .drain => s.queue.items.take 1
  | _ => []

/-- The rows that fit in one statement. -/
def maxRows : Nat := bindLimit / rowParameters

/-- When `stop` finds the queue empty, the messages it has drained hold no more
    samples than fit in one statement. -/
def DrainBounded (env : Env) (s : State × List Message) (a : Action) : Prop :=
  a = .drain → s.1.queue.items = [] → (s.2.filterMap (keyOf env)).length ≤ maxRows

instance (env : Env) (s : State × List Message) (a : Action) : Decidable (DrainBounded env s a) :=
  inferInstanceAs (Decidable (_ → _ → _))

theorem withinLimit_flushInserts (db : Store) (rows : List Row) :
    (∀ n ∈ flushInserts db rows, n ≤ bindLimit) ↔ rows.length ≤ maxRows := by
  have hrows : rows.length * rowParameters ≤ bindLimit ↔ rows.length ≤ maxRows :=
    (Nat.le_div_iff_mul_le (by decide)).symm
  rw [← hrows, flushInserts, List.forall_mem_append, List.forall_mem_singleton]
  refine and_iff_right (fun n hn => ?_)
  rcases List.mem_map.mp hn with ⟨_, _, heq⟩
  rw [← heq]
  decide

theorem withinLimit_of_rows (s : State) (h : s.batch.length ≤ batchSize)
    (hphase : s.phase ≠ .drainFlushing false) : WithinLimit s := by
  unfold WithinLimit State.inserts
  split
  · exact (withinLimit_flushInserts s.db s.batch).mpr (le_trans h (by decide))
  · next heq => exact absurd heq hphase
  · exact fun _ hn => absurd hn List.not_mem_nil

/-- The loop is not in a flush. -/
def Phase.InLoop : Phase → Prop
  | .waiting | .fetched _ | .upserting _ _ _ => True
  | _ => False

/-- The task never holds more than a full batch, and less than one while it goes
    on collecting. -/
structure BatchBounded (s : State) : Prop where
  batch : s.batch.length ≤ batchSize
  inLoop : s.phase.InLoop → s.batch.length < batchSize

theorem batchBounded_loopEnd (s : State) (clock : Nat) (h : s.batch.length ≤ batchSize) :
    BatchBounded (s.loopEnd clock) := by
  refine ⟨h, fun hloop => Nat.lt_of_not_le fun hfull => ?_⟩
  have hflush : State.shouldFlush clock s.batch s.lastFlush = true := by
    rw [State.shouldFlush, Bool.or_eq_true, decide_eq_true_eq]
    exact Or.inl hfull
  rw [State.loopEnd, hflush] at hloop
  exact hloop

theorem batchBounded_taskFailure (s : State) (exc : Exc) (h : s.batch.length ≤ batchSize) :
    BatchBounded (s.taskFailure exc) := by
  refine ⟨h, fun hloop => ?_⟩
  unfold State.taskFailure at hloop
  cases hstopped : s.stopped with
  | none =>
      rw [hstopped] at hloop
      exact hloop.elim
  | some before =>
      rw [hstopped] at hloop
      exact hloop.elim

/-- One message makes one row. -/
theorem batchBounded_handle (env : Env) (s : State) (m : Message) (clock : Nat)
    (h : s.batch.length < batchSize) : BatchBounded (s.handle env clock m) := by
  unfold State.handle
  split
  · exact batchBounded_taskFailure s _ (Nat.le_of_lt h)
  · exact batchBounded_loopEnd s clock (Nat.le_of_lt h)
  · next row _ =>
      refine batchBounded_loopEnd _ clock ?_
      rw [List.length_append, List.length_singleton]
      exact h
  · exact ⟨Nat.le_of_lt h, fun _ => h⟩

theorem batchBounded_drain (env : Env) (s : State) (h : s.batch.length ≤ batchSize)
    (hphase : s.phase = .draining) : BatchBounded (s.drain env) := by
  unfold State.drain
  split
  · refine ⟨h, fun hloop => ?_⟩
    dsimp only at hloop
    split at hloop
    · exact hloop.elim
    · exact hloop.elim
  · split
    · exact ⟨h, fun hloop => hloop.elim⟩
    · exact ⟨h, fun hloop => by rw [hphase] at hloop; exact hloop.elim⟩
    · exact ⟨h, fun hloop => by rw [hphase] at hloop; exact hloop.elim⟩
    · exact ⟨h, fun hloop => hloop.elim⟩

theorem batchBounded_step (env : Env) (s t : State) (a : Action) (h : Moves env s a t)
    (hs : BatchBounded s) : BatchBounded t := by
  cases h with
  | put m queue hitems => exact ⟨hs.batch, hs.inLoop⟩
  | full m => exact hs
  | fetch m queue hphase hitems =>
      exact ⟨hs.batch, fun _ => hs.inLoop (by rw [hphase]; trivial)⟩
  | resume m clock hphase =>
      exact batchBounded_handle env s m clock (hs.inLoop (by rw [hphase]; trivial))
  | timeout clock hphase => exact batchBounded_loopEnd s clock hs.batch
  | upsert deviceId data wall hphase =>
      have hfew := hs.inLoop (by rw [hphase]; trivial)
      exact commitTask_rule BatchBounded s _ _ (fun _ _ => ⟨hs.batch, fun _ => hfew⟩)
        (fun exc => batchBounded_taskFailure s exc hs.batch)
  | flush wall hphase =>
      exact commitTask_rule BatchBounded s _ _ (fun _ _ => ⟨hs.batch, fun hloop => hloop.elim⟩)
        (fun exc => batchBounded_taskFailure s exc hs.batch)
  | drainUpsert deviceId data wall hphase =>
      exact commitStop_rule BatchBounded s _ _ (fun _ _ => ⟨hs.batch, fun hloop => hloop.elim⟩)
        (fun _ => ⟨hs.batch, fun hloop => hloop.elim⟩)
  | drainFlush wall hphase =>
      exact commitStop_rule BatchBounded s _ _ (fun _ _ => ⟨hs.batch, fun hloop => hloop.elim⟩)
        (fun _ => ⟨hs.batch, fun hloop => hloop.elim⟩)
  | caught deviceId data clock hphase => exact batchBounded_loopEnd s clock hs.batch
  | taskError => exact batchBounded_taskFailure s _ hs.batch
  | stopError => exact ⟨hs.batch, fun hloop => hloop.elim⟩
  | upserted deviceId data clock hphase => exact batchBounded_loopEnd s clock hs.batch
  | flushed clock hphase => exact ⟨Nat.zero_le _, fun _ => (by decide : 0 < batchSize)⟩
  | drainUpserted deviceId data clock hphase => exact ⟨hs.batch, fun hloop => hloop.elim⟩
  | drainFlushed clock hphase => exact ⟨hs.batch, fun hloop => hloop.elim⟩
  | cancel hstopped hphase => exact ⟨Nat.zero_le _, fun hloop => hloop.elim⟩
  | dropped m hstopped hphase => exact ⟨hs.batch, hs.inLoop⟩
  | reraise exc hstopped hphase => exact ⟨hs.batch, fun hloop => hloop.elim⟩
  | drain hphase => exact batchBounded_drain env s hs.batch hphase

theorem remaining_handle (env : Env) (s : State) (m : Message) (clock : Nat) :
    (s.handle env clock m).remaining = s.remaining := by
  unfold State.handle
  split
  · rfl
  · rfl
  · rfl
  · rfl

theorem remaining_drain (env : Env) (s : State) :
    (s.drain env).remaining.map Row.key =
      s.remaining.map Row.key ++ (s.queue.items.take 1).filterMap (keyOf env) := by
  unfold State.drain
  split
  · next hget =>
      rw [MessageQueue.getNowait_eq_none _ hget]
      exact (List.append_nil _).symm
  · next m queue hget =>
      have hkey : (s.queue.items.take 1).filterMap (keyOf env) = (keyOf env m).toList := by
        rw [MessageQueue.items_getNowait _ _ _ hget, List.take_succ_cons, List.take_zero]
        cases hm : keyOf env m with
        | none => exact List.filterMap_cons_none hm
        | some key => exact List.filterMap_cons_some hm
      rw [hkey]
      split
      · next exc hdecode =>
          rw [keyOf, hdecode]
          exact (List.append_nil _).symm
      · next hdecode =>
          rw [keyOf, hdecode]
          exact (List.append_nil _).symm
      · next row hdecode =>
          rw [keyOf, hdecode, List.map_append]
          rfl
      · next deviceId data hdecode =>
          rw [keyOf, hdecode]
          exact (List.append_nil _).symm

/-- `stop` holds what it has drained, and nothing else is added to it. -/
theorem remaining_step (env : Env) (s t : State) (a : Action) (h : Moves env s a t) :
    t.remaining.map Row.key =
      s.remaining.map Row.key ++ (drained s a).filterMap (keyOf env) := by
  have hsame : ∀ rows : List Row, rows = s.remaining →
      rows.map Row.key = s.remaining.map Row.key ++ [] :=
    fun rows heq => by rw [heq, List.append_nil]
  cases h with
  | resume m clock hphase => exact hsame _ (remaining_handle env s m clock)
  | upsert deviceId data wall hphase =>
      exact hsame _ (commitTask_rule (fun t => t.remaining = s.remaining) s _ _ (fun _ _ => rfl)
        (fun _ => rfl))
  | flush wall hphase =>
      exact hsame _ (commitTask_rule (fun t => t.remaining = s.remaining) s _ _ (fun _ _ => rfl)
        (fun _ => rfl))
  | drainUpsert deviceId data wall hphase =>
      exact hsame _ (commitStop_rule (fun t => t.remaining = s.remaining) s _ _ (fun _ _ => rfl)
        (fun _ => rfl))
  | drainFlush wall hphase =>
      exact hsame _ (commitStop_rule (fun t => t.remaining = s.remaining) s _ _ (fun _ _ => rfl)
        (fun _ => rfl))
  | drain hphase => exact remaining_drain env s
  | _ => exact hsame _ rfl

/-- The task never sends what `stop` collects. -/
theorem not_drainFlushing_loopEnd (s : State) (clock : Nat) :
    (s.loopEnd clock).phase ≠ .drainFlushing false := by
  unfold State.loopEnd
  dsimp only
  split
  · exact Phase.noConfusion
  · exact Phase.noConfusion

theorem not_drainFlushing_taskFailure (s : State) (exc : Exc) :
    (s.taskFailure exc).phase ≠ .drainFlushing false := by
  unfold State.taskFailure
  cases s.stopped with
  | none => exact Phase.noConfusion
  | some before => exact Phase.noConfusion

theorem not_drainFlushing_handle (env : Env) (s : State) (m : Message) (clock : Nat) :
    (s.handle env clock m).phase ≠ .drainFlushing false := by
  unfold State.handle
  split
  · exact not_drainFlushing_taskFailure s _
  · exact not_drainFlushing_loopEnd s clock
  · exact not_drainFlushing_loopEnd _ clock
  · exact Phase.noConfusion

/-- A round that finds the queue empty leads to the flush. -/
theorem withinLimit_drain_empty (env : Env) (s : State) (hempty : s.queue.items = [])
    (hbatch : s.batch.length ≤ batchSize) :
    WithinLimit (s.drain env) ↔ s.remaining.length ≤ maxRows := by
  unfold State.drain
  split
  · by_cases hnone : s.remaining.isEmpty = true
    · rw [if_pos hnone]
      have hlength : s.remaining.length = 0 := by
        rw [List.isEmpty_iff.mp hnone]
        rfl
      exact ⟨fun _ => hlength ▸ Nat.zero_le _,
        fun _ => withinLimit_of_rows _ hbatch Phase.noConfusion⟩
    · rw [if_neg hnone]
      exact withinLimit_flushInserts s.db s.remaining
  · next m queue hget =>
      rw [MessageQueue.items_getNowait _ _ _ hget] at hempty
      exact absurd hempty (List.cons_ne_nil _ _)

/-- Any other round does not. -/
theorem withinLimit_drain (env : Env) (s : State) (hphase : s.phase = .draining)
    (hbatch : s.batch.length ≤ batchSize) (hne : s.queue.items ≠ []) :
    WithinLimit (s.drain env) := by
  have hdraining : s.phase ≠ .drainFlushing false := by
    rw [hphase]
    exact Phase.noConfusion
  unfold State.drain
  split
  · next hget => exact absurd (MessageQueue.getNowait_eq_none _ hget) hne
  · split
    · exact withinLimit_of_rows _ hbatch Phase.noConfusion
    · exact withinLimit_of_rows _ hbatch hdraining
    · exact withinLimit_of_rows _ hbatch hdraining
    · exact withinLimit_of_rows _ hbatch Phase.noConfusion

/-- No other step does either. -/
theorem withinLimit_step (env : Env) (s t : State) (a : Action) (h : Moves env s a t)
    (hs : WithinLimit s) (ht : t.batch.length ≤ batchSize) (ha : a ≠ .drain) : WithinLimit t := by
  cases h with
  | put m queue hitems => exact hs
  | full m => exact hs
  | fetch m queue hphase hitems => exact withinLimit_of_rows _ ht Phase.noConfusion
  | resume m clock hphase => exact withinLimit_of_rows _ ht (not_drainFlushing_handle env s m clock)
  | timeout clock hphase => exact withinLimit_of_rows _ ht (not_drainFlushing_loopEnd s clock)
  | upsert deviceId data wall hphase =>
      exact withinLimit_of_rows _ ht (commitTask_rule
        (fun t => t.phase ≠ .drainFlushing false) s _ _ (fun _ _ => Phase.noConfusion)
        (not_drainFlushing_taskFailure s))
  | flush wall hphase =>
      exact withinLimit_of_rows _ ht (commitTask_rule
        (fun t => t.phase ≠ .drainFlushing false) s _ _ (fun _ _ => Phase.noConfusion)
        (not_drainFlushing_taskFailure s))
  | drainUpsert deviceId data wall hphase =>
      exact withinLimit_of_rows _ ht (commitStop_rule
        (fun t => t.phase ≠ .drainFlushing false) s _ _ (fun _ _ => Phase.noConfusion)
        (fun _ => Phase.noConfusion))
  -- A commit of the drain leaves its phase, whether it succeeds or raises.
  | drainFlush wall hphase =>
      exact withinLimit_of_rows _ ht (commitStop_rule
        (fun t => t.phase ≠ .drainFlushing false) s _ _
        (fun _ _ heq => absurd (Phase.drainFlushing.inj heq).symm Bool.false_ne_true)
        (fun _ => Phase.noConfusion))
  | caught deviceId data clock hphase =>
      exact withinLimit_of_rows _ ht (not_drainFlushing_loopEnd s clock)
  | taskError => exact withinLimit_of_rows _ ht (not_drainFlushing_taskFailure s _)
  | stopError => exact withinLimit_of_rows _ ht Phase.noConfusion
  | upserted deviceId data clock hphase =>
      exact withinLimit_of_rows _ ht (not_drainFlushing_loopEnd s clock)
  | flushed clock hphase => exact withinLimit_of_rows _ ht Phase.noConfusion
  | drainUpserted deviceId data clock hphase => exact withinLimit_of_rows _ ht Phase.noConfusion
  | drainFlushed clock hphase => exact withinLimit_of_rows _ ht Phase.noConfusion
  | cancel hstopped hphase => exact withinLimit_of_rows _ ht Phase.noConfusion
  | dropped m hstopped hphase =>
      refine withinLimit_of_rows _ ht ?_
      rw [show ({ s with stopped := some s.accepted } : State).phase = .fetched m from hphase]
      exact Phase.noConfusion
  | reraise exc hstopped hphase => exact withinLimit_of_rows _ ht Phase.noConfusion
  | drain hphase => exact absurd rfl ha

theorem moves_drain (env : Env) (s t : State) (h : Moves env s .drain t) :
    s.phase = .draining ∧ t = s.drain env := by
  cases h with
  | drain hphase => exact ⟨hphase, rfl⟩

/-- What holds of the machine and its log: full batches, and the samples drained
    so far in `remaining`. -/
structure Collected (env : Env) (s : State × List Message) : Prop where
  bounded : BatchBounded s.1
  remaining : s.1.remaining.map Row.key = s.2.filterMap (keyOf env)

theorem collected_step (env : Env) (s t : State × List Message) (a : Action)
    (hs : Collected env s) (h : Run.logged (step env) drained s a = some t) : Collected env t := by
  rcases (Run.logged_eq_some _ _ s t a).mp h with ⟨hstep, hlog⟩
  have hmoves := step_moves env s.1 t.1 a hstep
  refine ⟨batchBounded_step env s.1 t.1 a hmoves hs.bounded, ?_⟩
  rw [remaining_step env s.1 t.1 a hmoves, hs.remaining, hlog, List.filterMap_append]

theorem drainBounded_step (env : Env) (s t : State × List Message) (a : Action)
    (hs : Collected env s) (hlimit : WithinLimit s.1)
    (h : Run.logged (step env) drained s a = some t) :
    WithinLimit t.1 ↔ DrainBounded env s a := by
  rcases (Run.logged_eq_some _ _ s t a).mp h with ⟨hstep, -⟩
  have hmoves := step_moves env s.1 t.1 a hstep
  by_cases ha : a = .drain
  · rw [ha] at hmoves
    rcases moves_drain env s.1 t.1 hmoves with ⟨hphase, heq⟩
    have hlength : (s.2.filterMap (keyOf env)).length = s.1.remaining.length := by
      rw [← hs.remaining, List.length_map]
    rw [heq, DrainBounded, hlength]
    by_cases hempty : s.1.queue.items = []
    · rw [withinLimit_drain_empty env s.1 hempty hs.bounded.batch]
      exact ⟨fun h _ _ => h, fun h => h ha hempty⟩
    · exact ⟨fun _ _ h => absurd h hempty,
        fun _ => withinLimit_drain env s.1 hphase hs.bounded.batch hempty⟩
  · have ht := (batchBounded_step env s.1 t.1 a hmoves hs.bounded).batch
    exact ⟨fun _ hdrain => absurd hdrain ha,
      fun _ => withinLimit_step env s.1 t.1 a hmoves hlimit ht ha⟩

/-- The statements of a run fit exactly if `stop`, whenever it finds the queue
    empty, has drained no more samples than one statement takes. -/
theorem within_limit_iff (env : Env) (db : Store) (acts : List Action) (s : State)
    (hrun : Run.run (step env) (State.init db) acts = some s) :
    Run.Throughout (step env) WithinLimit (State.init db) acts ↔
      Run.Along (Run.logged (step env) drained) (DrainBounded env) (State.init db, []) acts := by
  have hstart : Collected env (State.init db, []) :=
    ⟨⟨Nat.zero_le _, fun _ => (by decide : 0 < batchSize)⟩, rfl⟩
  have hlimit : WithinLimit (State.init db) := fun _ hn => absurd hn List.not_mem_nil
  rcases Run.run_logged (step env) drained acts (State.init db) s [] hrun with ⟨msgs, hlogged⟩
  rw [← Run.throughout_logged (step env) drained WithinLimit acts (State.init db) []]
  exact Run.throughout_iff_along_of_invariant (Run.logged (step env) drained) (DrainBounded env)
    (Collected env) (fun u => WithinLimit u.1)
    (fun u a u' hu h => collected_step env u u' a hu h)
    (fun u a u' hu hw h => drainBounded_step env u u' a hu hw h) acts (State.init db, []) (s, msgs)
    hstart hlimit hlogged

/-- A message put and drained by `stop`. -/
theorem within_limit_iff_one :
    Run.Throughout (step lenient) WithinLimit (State.init .empty)
      [.put sample, .stop, .drain, .drain, .commit 0, .done 0] := by
  rcases Option.isSome_iff_exists.mp (by decide +kernel :
    (Run.run (step lenient) (State.init .empty)
      [.put sample, .stop, .drain, .drain, .commit 0, .done 0]).isSome = true) with ⟨s, hrun⟩
  exact (within_limit_iff lenient .empty _ s hrun).mpr (by decide +kernel)

/-- A message put `n` times. -/
theorem run_puts (env : Env) (m : Message) (n : Nat) :
    ∀ s : State, s.queue.items.length + n ≤ maxsize →
      ∃ t, Run.run (step env) s (List.replicate n (.put m)) = some t ∧
        t.queue.items = s.queue.items ++ List.replicate n m ∧ t.phase = s.phase ∧
        t.remaining = s.remaining ∧ t.stopped = s.stopped := by
  induction n with
  | zero => exact fun s _ => ⟨s, rfl, (List.append_nil _).symm, rfl, rfl, rfl⟩
  | succ n ih =>
      intro s hbound
      have hroom : s.queue.items.length < maxsize := by omega
      have hput : s.put m =
          { s with
            queue := ⟨s.queue.items ++ [m], by rw [List.length_append]; exact hroom⟩
            accepted := s.accepted ++ [m] } := by
        rw [State.put, MessageQueue.putNowait, dif_pos hroom]
      have hlength : (s.put m).queue.items.length + n ≤ maxsize := by
        rw [hput, List.length_append, List.length_singleton]
        omega
      rcases ih (s.put m) hlength with ⟨t, hrun, hitems, hphase, hremaining, hstopped⟩
      rw [hput] at hitems hphase hremaining hstopped
      refine ⟨t, ?_, ?_, hphase, hremaining, hstopped⟩
      · rw [List.replicate_succ]
        exact (Run.run_cons_eq_some _ s t _ _).mpr ⟨s.put m, rfl, hrun⟩
      · rw [hitems, List.append_assoc, List.replicate_succ]
        rfl

/-- `stop` drains a queue that holds a sample `n` times. -/
theorem run_drains (env : Env) (m : Message) (row : Row) (hrow : decode env m = .ok (.row row))
    (n : Nat) :
    ∀ s : State, s.phase = .draining → s.queue.items = List.replicate n m →
      ∃ t, Run.run (step env) s (List.replicate n .drain) = some t ∧ t.phase = .draining ∧
        t.queue.items = [] ∧ t.remaining = s.remaining ++ List.replicate n row := by
  induction n with
  | zero => exact fun s hphase hitems => ⟨s, rfl, hphase, hitems, (List.append_nil _).symm⟩
  | succ n ih =>
      intro s hphase hitems
      cases hget : s.queue.getNowait with
      | none =>
          rw [MessageQueue.getNowait_eq_none _ hget, List.replicate_succ] at hitems
          exact absurd hitems.symm (List.cons_ne_nil _ _)
      | some next =>
          rcases next with ⟨m', queue⟩
          rw [MessageQueue.items_getNowait _ _ _ hget, List.replicate_succ,
            List.cons.injEq] at hitems
          have hdrain : s.drain env =
              { s with queue := queue, remaining := s.remaining ++ [row] } := by
            rw [State.drain, hget]
            dsimp only
            rw [hitems.1, hrow]
          have hstep : step env s .drain = some (s.drain env) := by
            rw [step, hphase]
          rcases ih (s.drain env) (by rw [hdrain]; exact hphase) (by rw [hdrain]; exact hitems.2)
            with ⟨t, hrun, htphase, htitems, hremaining⟩
          refine ⟨t, ?_, htphase, htitems, ?_⟩
          · rw [List.replicate_succ]
            exact (Run.run_cons_eq_some _ s t _ _).mpr ⟨s.drain env, hstep, hrun⟩
          · rw [hremaining, hdrain, List.append_assoc, List.replicate_succ]
            rfl

/-- 3277 samples in the queue when `stop` is called. -/
theorem drain_overlong :
    ¬ ∀ (env : Env) (db : Store) (acts : List Action) (s : State),
      Run.run (step env) (State.init db) acts = some s → WithinLimit s := by
  intro h
  have hkey : keyOf lenient sample = some ("a", 5000) := by decide +kernel
  rcases row_of_keyOf lenient sample _ hkey with ⟨row, hrow, -⟩
  rcases run_puts lenient sample 3277 (State.init .empty) (by decide)
    with ⟨s, hputs, hitems, hphase, hremaining, hstopped⟩
  have hstop : step lenient s .stop =
      some { s with stopped := some s.accepted, batch := [], phase := .draining } := by
    rw [step, State.stop, hphase, hstopped]
    rfl
  rcases run_drains lenient sample row hrow 3277
    { s with stopped := some s.accepted, batch := [], phase := .draining } rfl hitems
    with ⟨t, hdrains, htphase, htitems, htremaining⟩
  have hlast : step lenient t .drain = some (t.drain lenient) := by rw [step, htphase]
  have hrun : Run.run (step lenient) (State.init .empty)
      (List.replicate 3277 (.put sample) ++ (.stop :: (List.replicate 3277 .drain ++ [.drain]))) =
        some (t.drain lenient) :=
    (Run.run_append _ _ _ _ _).mpr ⟨s, hputs, (Run.run_cons_eq_some _ _ _ _ _).mpr
      ⟨_, hstop, (Run.run_concat _ _ _ _ _).mpr ⟨t, hdrains, hlast⟩⟩⟩
  have hstart : BatchBounded
      { s with stopped := some s.accepted, batch := [], phase := .draining } :=
    ⟨Nat.zero_le _, fun hloop => hloop.elim⟩
  have hbatch := Run.run_invariant (step lenient) BatchBounded
    (fun s a s' hs hstep => batchBounded_step lenient s s' a (step_moves lenient s s' a hstep) hs)
    _ _ t hstart hdrains
  -- The last round found the queue empty and began the flush of all of them.
  have hfew := (withinLimit_drain_empty lenient t htitems hbatch.batch).mp
    (h lenient .empty _ _ hrun)
  rw [htremaining, List.length_append, List.length_replicate, hremaining] at hfew
  exact absurd hfew (by decide)

end Ingest

end Backend

end Vena
