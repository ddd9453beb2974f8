import Vena.Backend.Ingest
import Vena.Core.Run

/-!
# The Ingestor

`TelemetryIngestor` as a state machine: the task `_run` between its await
points, `stop`, and the queue the MQTT worker fills meanwhile. The environment
chooses when a message is put, what the clocks read, when a transaction is
executed, when one fails and with which exception, and when `stop` is called.

A transaction takes two steps: its commit, and the task's return from it.
`stop` can be called before, between and after. Cancelling the task rolls a
transaction back that is not committed and keeps one that is; the batch is a
local variable of the task and goes with it. There is one await point at which
Python 3.11 does not deliver the cancellation: when `get` has already taken a
message, `wait_for` returns it and drops the `CancelledError`, so that the task
goes on and `stop` waits for it.

`_run` awaits `_handle_meta` inside the `try` it puts around `wait_for`, so a
`TimeoutError` of that transaction passes for an empty queue: the document is
lost, and the loop goes on with its batch. Every other failure ends the task,
and `stop` if it is draining.

`accepted` lists the messages put in the queue, and `stopped` those accepted
before `stop` was called. Both only observe the run.

## Main definitions

* `MessageQueue`: `asyncio.Queue(maxsize=10_000)`.
* `Phase`, `State`, `Action`: The machine.
* `shouldFlush`, `loopEnd`, `handle`, `drain`: The pieces of `_run` and `stop`.
* `Phase.Swallows`, `Harmless`: The failures that the task survives.
* `step`: The transitions.
* `Moves`: The transitions again, as a relation.

## Theorems

* `step_moves`: Every step is one of the moves.
-/

namespace Vena

namespace Backend

namespace Ingest

open Python

/-- `maxsize` of the queue. -/
def maxsize : Nat := 10000

structure MessageQueue where
  items : List Message
  bounded : items.length ≤ maxsize

namespace MessageQueue

def empty : MessageQueue where
  items := []
  bounded := Nat.zero_le _

/-- `put_nowait`; `none` stands for `QueueFull`. -/
def putNowait (q : MessageQueue) (m : Message) : Option MessageQueue :=
  if h : q.items.length < maxsize then
    some ⟨q.items ++ [m], by rw [List.length_append]; exact h⟩
  else none

/-- `get_nowait`; `none` stands for `QueueEmpty`. -/
def getNowait (q : MessageQueue) : Option (Message × MessageQueue) :=
  match h : q.items with
  | [] => none
  | m :: rest => some (m, ⟨rest, Nat.le_of_succ_le (by
      have hbound := q.bounded
      rwa [h, List.length_cons] at hbound)⟩)

theorem items_putNowait (q q' : MessageQueue) (m : Message) (h : q.putNowait m = some q') :
    q'.items = q.items ++ [m] := by
  unfold putNowait at h
  split at h
  · rw [Option.some.injEq] at h
    rw [← h]
  · exact absurd h (by simp only [reduceCtorEq, not_false_eq_true])

theorem items_getNowait (q q' : MessageQueue) (m : Message) (h : q.getNowait = some (m, q')) :
    q.items = m :: q'.items := by
  unfold getNowait at h
  split at h
  · exact absurd h (by simp only [reduceCtorEq, not_false_eq_true])
  · next heq =>
      rw [Option.some.injEq, Prod.mk.injEq] at h
      rw [heq, ← h.1, ← h.2]

theorem getNowait_eq_none (q : MessageQueue) (h : q.getNowait = none) : q.items = [] := by
  unfold getNowait at h
  split at h
  · next heq => exact heq
  · exact absurd h (by simp only [reduceCtorEq, not_false_eq_true])

end MessageQueue

/-- `_BATCH_SIZE`. -/
def batchSize : Nat := 100

/-- `_FLUSH_INTERVAL`, in nanoseconds. -/
def flushInterval : Nat := 1000000000

/-- The lower bound of the timeout, in nanoseconds. -/
def minTimeout : Nat := 50000000

/-- Where the task and `stop` are. -/
inductive Phase where
  /-- In `wait_for(queue.get())`. -/
  | waiting
  /-- There, with a message that `get` has taken. -/
  | fetched (m : Message)
  /-- In `_handle_meta`. -/
  | upserting (deviceId : String) (data : PyVal) (committed : Bool)
  /-- In `_flush(batch)`. -/
  | flushing (committed : Bool)
  /-- The task has ended with an exception. -/
  | failed (exc : Exc)
  /-- In `stop`, draining the queue. -/
  | draining
  /-- In `stop`, in `_handle_meta`. -/
  | drainUpserting (deviceId : String) (data : PyVal) (committed : Bool)
  /-- In `stop`, in `_flush(remaining)`. -/
  | drainFlushing (committed : Bool)
  /-- `stop` has returned. -/
  | returned
  /-- `stop` has raised. -/
  | raised (exc : Exc)

/-- The await points at which `stop` cancels the task. -/
def Phase.Cancellable : Phase → Prop
  | .waiting | .upserting _ _ _ | .flushing _ => True
  | _ => False

instance : DecidablePred Phase.Cancellable
  | .waiting | .upserting _ _ _ | .flushing _ => isTrue trivial
  | .fetched _ | .failed _ | .draining | .drainUpserting _ _ _ | .drainFlushing _ | .returned
  | .raised _ => isFalse id

def Phase.isReturned : Phase → Bool
  | .returned => true
  | _ => false

theorem Phase.eq_returned (p : Phase) (h : p.isReturned = true) : p = .returned := by
  cases p with
  | returned => rfl
  | _ => exact absurd h (by simp only [Phase.isReturned, Bool.false_eq_true, not_false_eq_true])

/-- A transaction of the task is not committed. -/
def Phase.InTask : Phase → Prop
  | .upserting _ _ false | .flushing false => True
  | _ => False

/-- `except asyncio.TimeoutError` surrounds `_handle_meta`, and no flush. -/
def Phase.Swallows (exc : Exc) : Phase → Prop
  | .upserting _ _ false => exc = .timeoutError
  | _ => False

theorem Phase.eq_upserting (p : Phase) (exc : Exc) (h : p.Swallows exc) :
    exc = .timeoutError ∧ ∃ deviceId data, p = .upserting deviceId data false := by
  cases p with
  | upserting deviceId data committed =>
      cases committed with
      | true => exact h.elim
      | false => exact ⟨h, deviceId, data, rfl⟩
  | _ => exact h.elim

/-- A transaction of `stop` is not committed. -/
def Phase.InStop : Phase → Prop
  | .drainUpserting _ _ false | .drainFlushing false => True
  | _ => False

structure State where
  queue : MessageQueue
  batch : List Row
  remaining : List Row
  phase : Phase
  lastFlush : Nat
  clock : Nat
  db : Store
  accepted : List Message
  stopped : Option (List Message)

/-- After `start`. -/
def State.init (db : Store) : State where
  queue := .empty
  batch := []
  remaining := []
  phase := .waiting
  lastFlush := 0
  clock := 0
  db := db
  accepted := []
  stopped := none

/-- What happens next. `clock` readings are those of the event loop in
    nanoseconds, `wall` readings those of `datetime.now`. -/
inductive Action where
  | put (m : Message)
  | fetch
  | resume (clock : Nat)
  | timeout (clock : Nat)
  | commit (wall : Datetime)
  | dbError (exc : Exc) (clock : Nat)
  | done (clock : Nat)
  | stop
  | drain
  deriving DecidableEq

/-- The steps without `stop` and with a database that is available. -/
def Action.Ingestion : Action → Prop
  | .stop | .dbError _ _ => False
  | _ => True

/-- The step is no failure, or one that the task survives. -/
def Harmless (s : State) : Action → Prop
  | .dbError exc _ => s.phase.Swallows exc
  | _ => True

namespace State

/-- The test at the end of the loop body. -/
def shouldFlush (clock : Nat) (batch : List Row) (lastFlush : Nat) : Bool :=
  batchSize ≤ batch.length || (!batch.isEmpty && flushInterval ≤ clock - lastFlush)

/-- The rest of the loop body after a message or a timeout. -/
def loopEnd (clock : Nat) (s : State) : State :=
  { s with
    clock := clock
    phase := if shouldFlush clock s.batch s.lastFlush then .flushing false else .waiting }

/-- The argument of `wait_for`. -/
def waitTimeout (s : State) : Nat :=
  max (flushInterval - (s.clock - s.lastFlush)) minTimeout

/-- The task ends with an exception, which a waiting `stop` raises again. -/
def taskFailure (s : State) (exc : Exc) : State :=
  { s with
    phase := match s.stopped with
      | none => .failed exc
      | some _ => .raised exc }

/-- The loop body on a message. -/
def handle (env : Env) (clock : Nat) (m : Message) (s : State) : State :=
  match decode env m with
  | .error exc => s.taskFailure exc
  | .ok .discard => s.loopEnd clock
  | .ok (.row row) => { s with batch := s.batch ++ [row] }.loopEnd clock
  | .ok (.upsert deviceId data) =>
      { s with clock := clock, phase := .upserting deviceId data false }

/-- One round of the loop in `stop`, or what follows it. -/
def drain (env : Env) (s : State) : State :=
  match s.queue.getNowait with
  | none => { s with phase := if s.remaining.isEmpty then .returned else .drainFlushing false }
  | some (m, queue) => match decode env m with
    -- An exception leaves `stop` before it flushes what it has drained.
    | .error exc => { s with queue := queue, phase := .raised exc }
    | .ok .discard => { s with queue := queue }
    | .ok (.row row) => { s with queue := queue, remaining := s.remaining ++ [row] }
    | .ok (.upsert deviceId data) =>
      { s with queue := queue, phase := .drainUpserting deviceId data false }

/-- A transaction of the task is executed. -/
def commitTask (s : State) (result : Except Exc Store) (next : Phase) : State :=
  match result with
  | .ok db => { s with db := db, phase := next }
  | .error exc => s.taskFailure exc

/-- A transaction of `stop` is executed. -/
def commitStop (s : State) (result : Except Exc Store) (next : Phase) : State :=
  match result with
  | .ok db => { s with db := db, phase := next }
  | .error exc => { s with phase := .raised exc }

def commit (env : Env) (wall : Datetime) (s : State) : Option State :=
  match s.phase with
  | .upserting deviceId data false =>
    some (s.commitTask (s.db.upsertMeta env wall deviceId data) (.upserting deviceId data true))
  | .flushing false => some (s.commitTask (s.db.flush env wall s.batch) (.flushing true))
  | .drainUpserting deviceId data false =>
    some (s.commitStop (s.db.upsertMeta env wall deviceId data)
      (.drainUpserting deviceId data true))
  | .drainFlushing false =>
      some (s.commitStop (s.db.flush env wall s.remaining) (.drainFlushing true))
  | _ => none

/-- A transaction fails: it raises an exception and is rolled back. -/
def dbError (exc : Exc) (clock : Nat) (s : State) : Option State :=
  match s.phase with
  -- `except asyncio.TimeoutError: pass`
  | .upserting _ _ false =>
    some (if exc = .timeoutError then s.loopEnd clock else s.taskFailure exc)
  | .flushing false => some (s.taskFailure exc)
  | .drainUpserting _ _ false | .drainFlushing false => some { s with phase := .raised exc }
  | _ => none

/-- A committed transaction returns. -/
def done (clock : Nat) (s : State) : Option State :=
  match s.phase with
  | .upserting _ _ true => some (s.loopEnd clock)
  | .flushing true =>
    -- Only a flush that went through clears the batch.
    some { s with batch := [], lastFlush := clock, clock := clock, phase := .waiting }
  | .drainUpserting _ _ true => some { s with phase := .draining }
  | .drainFlushing true => some { s with phase := .returned }
  | _ => none

/-- `stop` is called. -/
def stop (s : State) : Option State :=
  match s.stopped, s.phase with
  | none, .waiting | none, .upserting _ _ _ | none, .flushing _ =>
    -- The batch is a local of the cancelled task, so it goes with it.
    some { s with stopped := some s.accepted, batch := [], phase := .draining }
  -- `wait_for` has its message and drops the cancellation, so the task goes on.
  | none, .fetched _ => some { s with stopped := some s.accepted }
  | none, .failed exc => some { s with stopped := some s.accepted, phase := .raised exc }
  | _, _ => none

/-- `_on_message`: a message that finds the queue full is lost. -/
def put (m : Message) (s : State) : State :=
  match s.queue.putNowait m with
  | some queue => { s with queue := queue, accepted := s.accepted ++ [m] }
  | none => s

/-- `get` takes the oldest message. -/
def fetch (s : State) : Option State :=
  match s.phase, s.queue.getNowait with
  | .waiting, some (m, queue) => some { s with queue := queue, phase := .fetched m }
  | _, _ => none

end State

/-- The transitions. -/
def step (env : Env) (s : State) : Action → Option State
  | .put m => some (s.put m)
  | .fetch => s.fetch
  | .resume clock => match s.phase with
    | .fetched m => if s.clock ≤ clock then some (s.handle env clock m) else none
    | _ => none
  | .timeout clock => match s.phase with
    | .waiting => if s.clock + s.waitTimeout ≤ clock then some (s.loopEnd clock) else none
    | _ => none
  | .commit wall => s.commit env wall
  | .dbError exc clock => if s.clock ≤ clock then s.dbError exc clock else none
  | .done clock => if s.clock ≤ clock then s.done clock else none
  | .stop => s.stop
  | .drain => match s.phase with
    | .draining => some (s.drain env)
    | _ => none

/-- A transaction of the task is committed, or the task fails. -/
theorem commitTask_rule (P : State → Prop) (s : State) (result : Except Exc Store) (next : Phase)
    (hok : ∀ db, result = .ok db → P { s with db := db, phase := next })
    (herror : ∀ exc, P (s.taskFailure exc)) : P (s.commitTask result next) := by
  cases result with
  | ok db => exact hok db rfl
  | error exc => exact herror exc

/-- A transaction of `stop` is committed, or `stop` raises. -/
theorem commitStop_rule (P : State → Prop) (s : State) (result : Except Exc Store) (next : Phase)
    (hok : ∀ db, result = .ok db → P { s with db := db, phase := next })
    (herror : ∀ exc, P { s with phase := .raised exc }) : P (s.commitStop result next) := by
  cases result with
  | ok db => exact hok db rfl
  | error exc => exact herror exc

/-- The transitions, one constructor for each thing that can happen. -/
inductive Moves (env : Env) (s : State) : Action → State → Prop where
  | put (m : Message) (queue : MessageQueue) (hitems : queue.items = s.queue.items ++ [m]) :
      Moves env s (.put m) { s with queue := queue, accepted := s.accepted ++ [m] }
  | full (m : Message) : Moves env s (.put m) s
  | fetch (m : Message) (queue : MessageQueue) (hphase : s.phase = .waiting)
      (hitems : s.queue.items = m :: queue.items) :
      Moves env s .fetch { s with queue := queue, phase := .fetched m }
  | resume (m : Message) (clock : Nat) (hphase : s.phase = .fetched m) :
      Moves env s (.resume clock) (s.handle env clock m)
  | timeout (clock : Nat) (hphase : s.phase = .waiting) :
      Moves env s (.timeout clock) (s.loopEnd clock)
  | upsert (deviceId : String) (data : PyVal) (wall : Datetime)
      (hphase : s.phase = .upserting deviceId data false) :
      Moves env s (.commit wall)
        (s.commitTask (s.db.upsertMeta env wall deviceId data) (.upserting deviceId data true))
  | flush (wall : Datetime) (hphase : s.phase = .flushing false) :
      Moves env s (.commit wall) (s.commitTask (s.db.flush env wall s.batch) (.flushing true))
  | drainUpsert (deviceId : String) (data : PyVal) (wall : Datetime)
      (hphase : s.phase = .drainUpserting deviceId data false) :
      Moves env s (.commit wall)
        (s.commitStop (s.db.upsertMeta env wall deviceId data) (.drainUpserting deviceId data true))
  | drainFlush (wall : Datetime) (hphase : s.phase = .drainFlushing false) :
      Moves env s (.commit wall)
        (s.commitStop (s.db.flush env wall s.remaining) (.drainFlushing true))
  | caught (deviceId : String) (data : PyVal) (clock : Nat)
      (hphase : s.phase = .upserting deviceId data false) :
      Moves env s (.dbError .timeoutError clock) (s.loopEnd clock)
  | taskError (exc : Exc) (clock : Nat) (hphase : s.phase.InTask)
      (huncaught : ¬s.phase.Swallows exc) : Moves env s (.dbError exc clock) (s.taskFailure exc)
  | stopError (exc : Exc) (clock : Nat) (hphase : s.phase.InStop) :
      Moves env s (.dbError exc clock) { s with phase := .raised exc }
  | upserted (deviceId : String) (data : PyVal) (clock : Nat)
      (hphase : s.phase = .upserting deviceId data true) :
      Moves env s (.done clock) (s.loopEnd clock)
  | flushed (clock : Nat) (hphase : s.phase = .flushing true) :
      Moves env s (.done clock)
        { s with batch := [], lastFlush := clock, clock := clock, phase := .waiting }
  | drainUpserted (deviceId : String) (data : PyVal) (clock : Nat)
      (hphase : s.phase = .drainUpserting deviceId data true) :
      Moves env s (.done clock) { s with phase := .draining }
  | drainFlushed (clock : Nat) (hphase : s.phase = .drainFlushing true) :
      Moves env s (.done clock) { s with phase := .returned }
  | cancel (hstopped : s.stopped = none) (hphase : s.phase.Cancellable) :
      Moves env s .stop { s with stopped := some s.accepted, batch := [], phase := .draining }
  | dropped (m : Message) (hstopped : s.stopped = none) (hphase : s.phase = .fetched m) :
      Moves env s .stop { s with stopped := some s.accepted }
  | reraise (exc : Exc) (hstopped : s.stopped = none) (hphase : s.phase = .failed exc) :
      Moves env s .stop { s with stopped := some s.accepted, phase := .raised exc }
  | drain (hphase : s.phase = .draining) : Moves env s .drain (s.drain env)

theorem harmless_of_ingestion (s : State) (a : Action) (h : a.Ingestion) : Harmless s a := by
  cases a with
  | dbError exc clock => exact h.elim
  | _ => trivial

theorem moves_put (env : Env) (s : State) (m : Message) : Moves env s (.put m) (s.put m) := by
  unfold State.put
  split
  · next queue hput => exact .put m queue (MessageQueue.items_putNowait _ _ _ hput)
  · exact .full m

theorem moves_fetch (env : Env) (s t : State) (h : s.fetch = some t) : Moves env s .fetch t := by
  unfold State.fetch at h
  split at h
  · next m queue hphase hget =>
      rw [← Option.some.inj h]
      exact .fetch m queue hphase (MessageQueue.items_getNowait _ _ _ hget)
  · exact absurd h (by simp only [reduceCtorEq, not_false_eq_true])

theorem moves_commit (env : Env) (s t : State) (wall : Datetime) (h : s.commit env wall = some t) :
    Moves env s (.commit wall) t := by
  unfold State.commit at h
  split at h
  · next hphase => exact Option.some.inj h ▸ .upsert _ _ wall hphase
  · next hphase => exact Option.some.inj h ▸ .flush wall hphase
  · next hphase => exact Option.some.inj h ▸ .drainUpsert _ _ wall hphase
  · next hphase => exact Option.some.inj h ▸ .drainFlush wall hphase
  · exact absurd h (by simp only [reduceCtorEq, not_false_eq_true])

theorem moves_dbError (env : Env) (s t : State) (exc : Exc) (clock : Nat)
    (h : s.dbError exc clock = some t) : Moves env s (.dbError exc clock) t := by
  unfold State.dbError at h
  split at h
  · next deviceId data hphase =>
      rw [← Option.some.inj h]
      split
      · next htimeout => exact htimeout ▸ .caught deviceId data clock hphase
      · next hother =>
          exact .taskError exc clock (by rw [hphase]; trivial) (by rw [hphase]; exact hother)
  · next hphase =>
      exact Option.some.inj h ▸ .taskError exc clock (by rw [hphase]; trivial)
        (by rw [hphase]; exact id)
  · next hphase => exact Option.some.inj h ▸ .stopError exc clock (by rw [hphase]; trivial)
  · next hphase => exact Option.some.inj h ▸ .stopError exc clock (by rw [hphase]; trivial)
  · exact absurd h (by simp only [reduceCtorEq, not_false_eq_true])

theorem moves_done (env : Env) (s t : State) (clock : Nat) (h : s.done clock = some t) :
    Moves env s (.done clock) t := by
  unfold State.done at h
  split at h
  · next hphase => exact Option.some.inj h ▸ .upserted _ _ clock hphase
  · next hphase => exact Option.some.inj h ▸ .flushed clock hphase
  · next hphase => exact Option.some.inj h ▸ .drainUpserted _ _ clock hphase
  · next hphase => exact Option.some.inj h ▸ .drainFlushed clock hphase
  · exact absurd h (by simp only [reduceCtorEq, not_false_eq_true])

theorem moves_stop (env : Env) (s t : State) (h : s.stop = some t) : Moves env s .stop t := by
  unfold State.stop at h
  split at h
  · next hstopped hphase =>
      exact Option.some.inj h ▸ .cancel hstopped (by rw [hphase]; trivial)
  · next hstopped hphase =>
      exact Option.some.inj h ▸ .cancel hstopped (by rw [hphase]; trivial)
  · next hstopped hphase =>
      exact Option.some.inj h ▸ .cancel hstopped (by rw [hphase]; trivial)
  · next hstopped hphase => exact Option.some.inj h ▸ .dropped _ hstopped hphase
  · next hstopped hphase => exact Option.some.inj h ▸ .reraise _ hstopped hphase
  · exact absurd h (by simp only [reduceCtorEq, not_false_eq_true])

/-- Every step is one of the moves. -/
theorem step_moves (env : Env) (s t : State) (a : Action) (h : step env s a = some t) :
    Moves env s a t := by
  cases a with
  | put m => exact Option.some.inj h ▸ moves_put env s m
  | fetch => exact moves_fetch env s t h
  | resume clock =>
      simp only [step] at h
      split at h
      · next m hphase =>
          split at h
          · exact Option.some.inj h ▸ .resume m clock hphase
          · exact absurd h (by simp only [reduceCtorEq, not_false_eq_true])
      · exact absurd h (by simp only [reduceCtorEq, not_false_eq_true])
  | timeout clock =>
      simp only [step] at h
      split at h
      · next hphase =>
          split at h
          · exact Option.some.inj h ▸ .timeout clock hphase
          · exact absurd h (by simp only [reduceCtorEq, not_false_eq_true])
      · exact absurd h (by simp only [reduceCtorEq, not_false_eq_true])
  | commit wall => exact moves_commit env s t wall h
  | dbError exc clock =>
      simp only [step] at h
      split at h
      · exact moves_dbError env s t exc clock h
      · exact absurd h (by simp only [reduceCtorEq, not_false_eq_true])
  | done clock =>
      simp only [step] at h
      split at h
      · exact moves_done env s t clock h
      · exact absurd h (by simp only [reduceCtorEq, not_false_eq_true])
  | stop => exact moves_stop env s t h
  | drain =>
      simp only [step] at h
      split at h
      · next hphase => exact Option.some.inj h ▸ .drain hphase
      · exact absurd h (by simp only [reduceCtorEq, not_false_eq_true])

end Ingest

end Backend

end Vena
