import Vena.Backend.Ingestor

/-!
# Where a Message Is

A telemetry message that has been put in the queue is, at every moment, still
to be read, or held as a row of a batch, or stored, unless an exception has
ended the task or `stop`. The statement is about keys of `telemetry_raw`, since
a row whose key is taken is not inserted again. Only the call of `stop` can
break it: the batch goes with the cancelled task.

## Main definitions

* `keyOf`, `Queued`, `State.unread`, `State.held`, `Due`: Where a row is.
* `CleanStop`: A call of `stop` that gives up no row.
* `Delivery`: The invariant.

## Theorems

* `due_step`: A step keeps what is due.
* `delivery_step`: The invariant is kept.
-/

namespace Vena

namespace Backend

namespace Ingest

open Python

/-- The key of the row a message becomes. -/
def keyOf (env : Env) (m : Message) : Option (String × Datetime) :=
  match decode env m with
  | .ok (.row row) => some row.key
  | _ => none

/-- One of the messages becomes a row under the key. -/
def Queued (env : Env) (msgs : List Message) (key : String × Datetime) : Prop :=
  key ∈ msgs.filterMap (keyOf env)

instance (env : Env) (msgs : List Message) (key : String × Datetime) :
    Decidable (Queued env msgs key) :=
  inferInstanceAs (Decidable (_ ∈ _))

theorem keyOf_of_row (env : Env) (m : Message) (row : Row) (h : decode env m = .ok (.row row)) :
    keyOf env m = some row.key := by
  rw [keyOf, h]

theorem row_of_keyOf (env : Env) (m : Message) (key : String × Datetime)
    (h : keyOf env m = some key) : ∃ row, decode env m = .ok (.row row) ∧ row.key = key := by
  unfold keyOf at h
  split at h
  · next row hdecode => exact ⟨row, hdecode, Option.some.inj h⟩
  · exact absurd h (by simp only [reduceCtorEq, not_false_eq_true])

theorem queued_cons (env : Env) (m : Message) (msgs : List Message) (key : String × Datetime) :
    Queued env (m :: msgs) key ↔ keyOf env m = some key ∨ Queued env msgs key := by
  simp only [Queued, List.mem_filterMap, List.mem_cons, or_and_right, exists_or, exists_eq_left]

theorem queued_of_mem (env : Env) (m : Message) (msgs : List Message) (row : Row) (hm : m ∈ msgs)
    (hrow : decode env m = .ok (.row row)) : Queued env msgs row.key :=
  List.mem_filterMap.mpr ⟨m, hm, keyOf_of_row env m row hrow⟩

theorem queued_append (env : Env) (msgs more : List Message) (key : String × Datetime)
    (h : Queued env msgs key) : Queued env (msgs ++ more) key := by
  rw [Queued, List.filterMap_append]
  exact List.mem_append_left _ h

/-- The phases in which `_run` has control or has failed. -/
def Phase.Running : Phase → Prop
  | .waiting | .fetched _ | .upserting _ _ _ | .flushing _ | .failed _ => True
  | _ => False

/-- An exception has ended the task or `stop`. -/
def Phase.Ended : Phase → Prop
  | .failed _ | .raised _ => True
  | _ => False

namespace State

/-- The messages still to be read. -/
def unread (s : State) : List Message :=
  match s.phase with
  | .fetched m => m :: s.queue.items
  | .drainFlushing _ | .returned => []
  | _ => s.queue.items

/-- The rows held for a later transaction. -/
def held (s : State) : List Row :=
  match s.phase with
  | .waiting | .fetched _ | .upserting _ _ _ | .flushing false => s.batch
  | .draining | .drainUpserting _ _ _ | .drainFlushing false => s.remaining
  | _ => []

/-- The messages that `stop` answers for, or would if it were called now. -/
def promised (s : State) : List Message :=
  match s.stopped with
  | none => s.accepted
  | some before => before

end State

/-- The key will be stored, or it is. -/
def Due (env : Env) (s : State) (key : String × Datetime) : Prop :=
  s.phase.Ended ∨ Queued env s.unread key ∨ key ∈ s.held.map Row.key ∨ s.db.Stored key

/-- Cancelling the task here gives up no row: every row held and not committed
    is stored under its key already, or comes again in the queue. -/
def CleanStop (env : Env) (s : State) : Prop :=
  s.phase.Cancellable → ∀ row ∈ s.held, Queued env s.queue.items row.key ∨ s.db.Stored row.key

instance (env : Env) (s : State) : Decidable (CleanStop env s) :=
  inferInstanceAs (Decidable (_ → _))

theorem unread_loopEnd (clock : Nat) (s : State) : (s.loopEnd clock).unread = s.queue.items := by
  unfold State.loopEnd State.unread
  cases State.shouldFlush clock s.batch s.lastFlush with
  | true => rfl
  | false => rfl

theorem held_loopEnd (clock : Nat) (s : State) : (s.loopEnd clock).held = s.batch := by
  unfold State.loopEnd State.held
  cases State.shouldFlush clock s.batch s.lastFlush with
  | true => rfl
  | false => rfl

theorem db_loopEnd (clock : Nat) (s : State) : (s.loopEnd clock).db = s.db := rfl

theorem ended_taskFailure (s : State) (exc : Exc) : (s.taskFailure exc).phase.Ended := by
  unfold State.taskFailure
  cases s.stopped with
  | none => trivial
  | some before => trivial

/-- Where the task can be cancelled, no message is in between. -/
theorem cancellable_parts (s : State) (h : s.phase.Cancellable) :
    ¬s.phase.Ended ∧ s.unread = s.queue.items := by
  unfold State.unread
  cases hphase : s.phase with
  | waiting => exact ⟨id, rfl⟩
  | upserting deviceId data committed => exact ⟨id, rfl⟩
  | flushing committed => exact ⟨id, rfl⟩
  | _ =>
      rw [hphase] at h
      exact h.elim

/-- What is due after the loop body, from its parts. -/
theorem due_loopEnd (env : Env) (clock : Nat) (s : State) (key : String × Datetime)
    (h : Queued env s.queue.items key ∨ key ∈ s.batch.map Row.key ∨ s.db.Stored key) :
    Due env (s.loopEnd clock) key := by
  unfold Due
  rw [unread_loopEnd, held_loopEnd, db_loopEnd]
  exact Or.inr h

/-- Reading a message that becomes no row leaves the others to be read. -/
theorem queued_tail (env : Env) (m : Message) (msgs : List Message) (key : String × Datetime)
    (hno : keyOf env m = none) (h : Queued env (m :: msgs) key) : Queued env msgs key := by
  refine ((queued_cons env m msgs key).mp h).resolve_left ?_
  rw [hno]
  simp only [reduceCtorEq, not_false_eq_true]

theorem keyOf_of_discard (env : Env) (m : Message) (h : decode env m = .ok .discard) :
    keyOf env m = none := by
  rw [keyOf, h]

theorem keyOf_of_upsert (env : Env) (m : Message) (deviceId : String) (data : PyVal)
    (h : decode env m = .ok (.upsert deviceId data)) : keyOf env m = none := by
  rw [keyOf, h]

/-- A row that is read moves from the messages to the rows held. -/
theorem moved_of_row (env : Env) (m : Message) (msgs : List Message) (rows : List Row) (P : Prop)
    (key : String × Datetime) (row : Row) (hdecode : decode env m = .ok (.row row))
    (h : Queued env (m :: msgs) key ∨ key ∈ rows.map Row.key ∨ P) :
    Queued env msgs key ∨ key ∈ (rows ++ [row]).map Row.key ∨ P := by
  rw [List.map_append, List.mem_append, List.map_singleton, List.mem_singleton]
  rcases h with hqueue | hheld | hP
  · rcases (queued_cons env m msgs key).mp hqueue with hown | htail
    · rw [keyOf_of_row env m row hdecode, Option.some.injEq] at hown
      exact Or.inr (Or.inl (Or.inr hown.symm))
    · exact Or.inl htail
  · exact Or.inr (Or.inl (Or.inl hheld))
  · exact Or.inr (Or.inr hP)

theorem due_handle (env : Env) (s : State) (m : Message) (clock : Nat) (key : String × Datetime)
    (hphase : s.phase = .fetched m) (h : Due env s key) : Due env (s.handle env clock m) key := by
  have hparts :
      Queued env (m :: s.queue.items) key ∨ key ∈ s.batch.map Row.key ∨ s.db.Stored key := by
    simpa only [Due, State.unread, State.held, hphase, Phase.Ended, false_or] using h
  unfold State.handle
  split
  · exact Or.inl (ended_taskFailure s _)
  · next hdecode =>
      exact due_loopEnd env clock s key
        (hparts.imp_left (queued_tail env m _ key (keyOf_of_discard env m hdecode)))
  · next row hdecode =>
      exact due_loopEnd env clock _ key (moved_of_row env m _ s.batch _ key row hdecode hparts)
  · next deviceId data hdecode =>
      exact Or.inr (hparts.imp_left (queued_tail env m _ key (keyOf_of_upsert env m _ _ hdecode)))

theorem due_drain (env : Env) (s : State) (key : String × Datetime)
    (hphase : s.phase = .draining) (h : Due env s key) : Due env (s.drain env) key := by
  have hparts : Queued env s.queue.items key ∨ key ∈ s.remaining.map Row.key ∨ s.db.Stored key := by
    simpa only [Due, State.unread, State.held, hphase, Phase.Ended, false_or] using h
  unfold State.drain
  split
  -- The queue is empty: what is left goes to the database in one flush.
  · next hget =>
      rw [MessageQueue.getNowait_eq_none _ hget] at hparts
      rcases hparts with hno | hheld | hstored
      · exact absurd hno List.not_mem_nil
      -- A row is left, so there is a flush to come.
      · have hne : s.remaining.isEmpty = false := by
          rw [List.isEmpty_eq_false_iff]
          exact fun hnil => List.not_mem_nil (hnil ▸ hheld)
        rw [hne]
        exact Or.inr (Or.inr (Or.inl hheld))
      · exact Or.inr (Or.inr (Or.inr hstored))
  · next m queue hget =>
      rw [MessageQueue.items_getNowait _ _ _ hget] at hparts
      split
      · exact Or.inl trivial
      · next hdecode =>
          refine Or.inr ?_
          simp only [State.unread, State.held, hphase]
          exact hparts.imp_left (queued_tail env m _ key (keyOf_of_discard env m hdecode))
      · next row hdecode =>
          refine Or.inr ?_
          simp only [State.unread, State.held, hphase]
          exact moved_of_row env m _ s.remaining _ key row hdecode hparts
      · next deviceId data hdecode =>
          exact Or.inr
            (hparts.imp_left (queued_tail env m _ key (keyOf_of_upsert env m _ _ hdecode)))

/-- A transaction of the task keeps what is due if its result does. -/
theorem due_commitTask (env : Env) (s : State) (result : Except Exc Store) (next : Phase)
    (key : String × Datetime)
    (h : ∀ db, result = .ok db → Due env { s with db := db, phase := next } key) :
    Due env (s.commitTask result next) key :=
  commitTask_rule (fun t => Due env t key) s result next h
    (fun exc => Or.inl (ended_taskFailure s exc))

theorem due_commitStop (env : Env) (s : State) (result : Except Exc Store) (next : Phase)
    (key : String × Datetime)
    (h : ∀ db, result = .ok db → Due env { s with db := db, phase := next } key) :
    Due env (s.commitStop result next) key :=
  commitStop_rule (fun t => Due env t key) s result next h (fun _ => Or.inl trivial)

/-- Every step but an unclean stop keeps what is due. -/
theorem due_step (env : Env) (s t : State) (a : Action) (key : String × Datetime)
    (hmove : Moves env s a t) (hclean : a = .stop → CleanStop env s) (h : Due env s key) :
    Due env t key := by
  cases hmove with
  | put m queue hitems =>
      -- A message joins at the end of what is unread, in every phase.
      refine Or.imp_right (Or.imp_left ?_) h
      intro hqueue
      unfold State.unread at hqueue ⊢
      rw [hitems]
      cases hphase : s.phase with
      | fetched m' =>
          rw [hphase] at hqueue
          exact queued_append env (m' :: s.queue.items) [m] key hqueue
      | drainFlushing committed =>
          rw [hphase] at hqueue
          exact hqueue
      | returned =>
          rw [hphase] at hqueue
          exact hqueue
      | _ =>
          rw [hphase] at hqueue
          exact queued_append env s.queue.items [m] key hqueue
  | full m => exact h
  | fetch m queue hphase hitems =>
      rw [Due, State.unread, State.held, hphase, hitems] at h
      exact h
  | resume m clock hphase => exact due_handle env s m clock key hphase h
  | timeout clock hphase =>
      rw [Due, State.unread, State.held, hphase] at h
      exact due_loopEnd env clock s key (h.resolve_left id)
  | upsert deviceId data wall hphase =>
      rw [Due, State.unread, State.held, hphase] at h
      refine due_commitTask env s _ _ key (fun db hdb => ?_)
      have hsame := Store.telemetryRaw_upsertMeta env wall deviceId data s.db db hdb
      rw [Store.Stored, ← hsame] at h
      exact h
  | flush wall hphase =>
      rw [Due, State.unread, State.held, hphase] at h
      -- If the transaction commits, the rows of the batch are stored with it.
      refine due_commitTask env s _ _ key (fun db hdb => ?_)
      refine Or.inr ((h.resolve_left id).imp_right (fun hrow => Or.inr ?_))
      exact Store.stored_flush env wall s.batch s.db db hdb key hrow
  | drainUpsert deviceId data wall hphase =>
      rw [Due, State.unread, State.held, hphase] at h
      refine due_commitStop env s _ _ key (fun db hdb => ?_)
      have hsame := Store.telemetryRaw_upsertMeta env wall deviceId data s.db db hdb
      rw [Store.Stored, ← hsame] at h
      exact h
  | drainFlush wall hphase =>
      rw [Due, State.unread, State.held, hphase] at h
      refine due_commitStop env s _ _ key (fun db hdb => ?_)
      refine Or.inr ((h.resolve_left id).imp_right (fun hrow => Or.inr ?_))
      exact Store.stored_flush env wall s.remaining s.db db hdb key hrow
  -- A swallowed timeout leaves the batch as it is.
  | caught deviceId data clock hphase =>
      rw [Due, State.unread, State.held, hphase] at h
      exact due_loopEnd env clock s key (h.resolve_left id)
  | taskError => exact Or.inl (ended_taskFailure s _)
  | stopError => exact Or.inl trivial
  | upserted deviceId data clock hphase =>
      rw [Due, State.unread, State.held, hphase] at h
      exact due_loopEnd env clock s key (h.resolve_left id)
  | flushed clock hphase =>
      rw [Due, State.unread, State.held, hphase] at h
      exact h
  | drainUpserted deviceId data clock hphase =>
      rw [Due, State.unread, State.held, hphase] at h
      exact h
  | drainFlushed clock hphase =>
      rw [Due, State.unread, State.held, hphase] at h
      exact h
  | cancel hstopped hphase =>
      -- The cancelled task drops its batch: a clean stop finds each row elsewhere.
      have hheld := hclean rfl hphase
      rcases cancellable_parts s hphase with ⟨hended, hunread⟩
      rw [Due, hunread] at h
      rcases h with hbad | hqueue | hkey | hstored
      · exact absurd hbad hended
      · exact Or.inr (Or.inl hqueue)
      · rcases List.mem_map.mp hkey with ⟨row, hrow, heq⟩
        rcases hheld row hrow with hqueue | hstored
        · exact Or.inr (Or.inl (heq ▸ hqueue))
        · exact Or.inr (Or.inr (Or.inr (heq ▸ hstored)))
      · exact Or.inr (Or.inr (Or.inr hstored))
  | dropped m hstopped hphase => exact h
  | reraise exc hstopped hphase => exact Or.inl trivial
  | drain hphase => exact due_drain env s key hphase h

/-- Everything `stop` answers for is due, and it has been called once the task
    is no longer running. -/
structure Delivery (env : Env) (s : State) : Prop where
  due : ∀ m ∈ s.promised, ∀ row, decode env m = .ok (.row row) → Due env s row.key
  running : s.stopped = none → s.phase.Running

theorem delivery_init (env : Env) (db : Store) : Delivery env (State.init db) where
  due := fun _ hm => absurd hm List.not_mem_nil
  running := fun _ => trivial

theorem running_loopEnd (clock : Nat) (s : State) : (s.loopEnd clock).phase.Running := by
  unfold State.loopEnd
  cases State.shouldFlush clock s.batch s.lastFlush with
  | true => trivial
  | false => trivial

theorem running_taskFailure (s : State) (exc : Exc) (h : (s.taskFailure exc).stopped = none) :
    (s.taskFailure exc).phase.Running := by
  have hstopped : s.stopped = none := h
  rw [State.taskFailure, hstopped]
  trivial

theorem running_commitTask (s : State) (result : Except Exc Store) (next : Phase)
    (hnext : next.Running) (h : (s.commitTask result next).stopped = none) :
    (s.commitTask result next).phase.Running := by
  cases result with
  | ok db => exact hnext
  | error exc => exact running_taskFailure s exc h

theorem running_handle (env : Env) (clock : Nat) (m : Message) (s : State)
    (h : (s.handle env clock m).stopped = none) : (s.handle env clock m).phase.Running := by
  unfold State.handle at h ⊢
  split
  · next hdecode =>
      rw [hdecode] at h
      exact running_taskFailure s _ h
  · exact running_loopEnd clock s
  · exact running_loopEnd clock _
  · trivial

/-- The history variables and what a step does to them. -/
theorem history_handle (env : Env) (clock : Nat) (m : Message) (s : State) :
    (s.handle env clock m).accepted = s.accepted ∧ (s.handle env clock m).stopped = s.stopped := by
  unfold State.handle
  split
  · exact ⟨rfl, rfl⟩
  · exact ⟨rfl, rfl⟩
  · exact ⟨rfl, rfl⟩
  · exact ⟨rfl, rfl⟩

theorem history_drain (env : Env) (s : State) :
    (s.drain env).accepted = s.accepted ∧ (s.drain env).stopped = s.stopped := by
  unfold State.drain
  split
  · exact ⟨rfl, rfl⟩
  · split
    · exact ⟨rfl, rfl⟩
    · exact ⟨rfl, rfl⟩
    · exact ⟨rfl, rfl⟩
    · exact ⟨rfl, rfl⟩

theorem history_commitTask (s : State) (result : Except Exc Store) (next : Phase) :
    (s.commitTask result next).accepted = s.accepted ∧
    (s.commitTask result next).stopped = s.stopped :=
  commitTask_rule (fun t => t.accepted = s.accepted ∧ t.stopped = s.stopped) s result next
    (fun _ _ => ⟨rfl, rfl⟩) (fun _ => ⟨rfl, rfl⟩)

theorem history_commitStop (s : State) (result : Except Exc Store) (next : Phase) :
    (s.commitStop result next).accepted = s.accepted ∧
    (s.commitStop result next).stopped = s.stopped :=
  commitStop_rule (fun t => t.accepted = s.accepted ∧ t.stopped = s.stopped) s result next
    (fun _ _ => ⟨rfl, rfl⟩) (fun _ => ⟨rfl, rfl⟩)

/-- Messages are accepted by `put` alone. -/
theorem accepted_step (env : Env) (s t : State) (a : Action) (hmove : Moves env s a t) :
    t.accepted = s.accepted ∨ ∃ m, a = .put m ∧ t.accepted = s.accepted ++ [m] ∧
      t.queue.items = s.queue.items ++ [m] ∧ t.phase = s.phase ∧ t.stopped = s.stopped := by
  cases hmove with
  | put m queue hitems => exact Or.inr ⟨m, rfl, rfl, hitems, rfl, rfl⟩
  | resume m clock hphase => exact Or.inl (history_handle env clock m s).1
  | upsert => exact Or.inl (history_commitTask s _ _).1
  | flush => exact Or.inl (history_commitTask s _ _).1
  | drainUpsert => exact Or.inl (history_commitStop s _ _).1
  | drainFlush => exact Or.inl (history_commitStop s _ _).1
  | drain => exact Or.inl (history_drain env s).1
  | _ => exact Or.inl rfl

/-- `stop` alone changes what it answers for, and not what it would have
    answered for. -/
theorem stopped_step (env : Env) (s t : State) (a : Action) (hmove : Moves env s a t) :
    t.stopped = s.stopped ∨
    (a = .stop ∧ s.stopped = none ∧ t.stopped = some s.accepted ∧ t.accepted = s.accepted) := by
  cases hmove with
  | cancel hstopped => exact Or.inr ⟨rfl, hstopped, rfl, rfl⟩
  | dropped m hstopped => exact Or.inr ⟨rfl, hstopped, rfl, rfl⟩
  | reraise exc hstopped => exact Or.inr ⟨rfl, hstopped, rfl, rfl⟩
  | resume m clock hphase => exact Or.inl (history_handle env clock m s).2
  | upsert => exact Or.inl (history_commitTask s _ _).2
  | flush => exact Or.inl (history_commitTask s _ _).2
  | drainUpsert => exact Or.inl (history_commitStop s _ _).2
  | drainFlush => exact Or.inl (history_commitStop s _ _).2
  | drain => exact Or.inl (history_drain env s).2
  | _ => exact Or.inl rfl

/-- What `stop` answers for grows by the message that is put, before it is
    called, and by nothing else. -/
theorem promised_step (env : Env) (s t : State) (a : Action) (hmove : Moves env s a t)
    (m : Message) (hm : m ∈ t.promised) :
    m ∈ s.promised ∨ (m ∈ t.queue.items ∧ s.stopped = none ∧ t.phase = s.phase) := by
  unfold State.promised at hm ⊢
  -- What is promised is frozen by the stop, and grows with the queue before it.
  rcases stopped_step env s t a hmove with hsame | ⟨_, hnone, hsome, hacc⟩
  · rw [hsame] at hm
    cases hstopped : s.stopped with
    | some before =>
        rw [hstopped] at hm
        exact Or.inl hm
    | none =>
        rw [hstopped] at hm
        rcases accepted_step env s t a hmove with hacc | ⟨m', _, hacc, hitems, hphase, _⟩
        · exact Or.inl (hacc ▸ hm)
        · rw [hacc] at hm
          refine (List.mem_append.mp hm).imp_right (fun hnew => ⟨?_, rfl, hphase⟩)
          rw [hitems]
          exact List.mem_append_right _ hnew
  · rw [hsome] at hm
    rw [hnone]
    exact Or.inl hm

/-- While the task runs, the queue is still to be read. -/
theorem mem_unread_of_running (s : State) (h : s.phase.Running) (m : Message)
    (hm : m ∈ s.queue.items) : s.phase.Ended ∨ m ∈ s.unread := by
  unfold State.unread
  cases hphase : s.phase with
  | waiting => exact Or.inr hm
  | fetched m' => exact Or.inr (List.mem_cons_of_mem _ hm)
  | upserting deviceId data committed => exact Or.inr hm
  | flushing committed => exact Or.inr hm
  | failed exc => exact Or.inl trivial
  | _ =>
      rw [hphase] at h
      exact h.elim

theorem running_step (env : Env) (s t : State) (a : Action) (hmove : Moves env s a t)
    (h : s.stopped = none → s.phase.Running) (hstopped : t.stopped = none) : t.phase.Running := by
  cases hmove with
  | resume m clock hphase => exact running_handle env clock m s hstopped
  | timeout clock hphase => exact running_loopEnd clock s
  | upsert => exact running_commitTask s _ _ trivial hstopped
  | flush => exact running_commitTask s _ _ trivial hstopped
  | drainUpsert deviceId data wall hphase =>
      have hrun := h ((history_commitStop s _ _).2 ▸ hstopped)
      exact (hphase ▸ hrun).elim
  | drainFlush wall hphase =>
      have hrun := h ((history_commitStop s _ _).2 ▸ hstopped)
      exact (hphase ▸ hrun).elim
  | caught deviceId data clock hphase => exact running_loopEnd clock s
  | taskError => exact running_taskFailure s _ hstopped
  | stopError exc clock hphase =>
      -- A failure of the drain comes after the stop only.
      have hrun := h hstopped
      cases hp : s.phase with
      | drainUpserting deviceId data committed =>
          rw [hp] at hrun
          exact hrun.elim
      | drainFlushing committed =>
          rw [hp] at hrun
          exact hrun.elim
      | _ =>
          rw [hp] at hphase
          exact hphase.elim
  | upserted deviceId data clock hphase => exact running_loopEnd clock s
  | flushed clock hphase => trivial
  | fetch m queue hphase hitems => trivial
  | put m queue hitems => exact h hstopped
  | full m => exact h hstopped
  | drainUpserted deviceId data clock hphase =>
      have hrun := h hstopped
      exact (hphase ▸ hrun).elim
  | drainFlushed clock hphase =>
      have hrun := h hstopped
      exact (hphase ▸ hrun).elim
  | cancel => exact absurd hstopped (by simp only [reduceCtorEq, not_false_eq_true])
  | dropped => exact absurd hstopped (by simp only [reduceCtorEq, not_false_eq_true])
  | reraise => exact absurd hstopped (by simp only [reduceCtorEq, not_false_eq_true])
  | drain hphase =>
      have hrun := h ((history_drain env s).2 ▸ hstopped)
      exact (hphase ▸ hrun).elim

/-- A step that is not an unclean stop keeps the deliveries. -/
theorem delivery_step (env : Env) (s t : State) (a : Action) (hmove : Moves env s a t)
    (hclean : a = .stop → CleanStop env s) (h : Delivery env s) : Delivery env t where
  due := by
    intro m hm row hrow
    rcases promised_step env s t a hmove m hm with hold | ⟨hqueue, hstopped, hphase⟩
    · exact due_step env s t a row.key hmove hclean (h.due m hold row hrow)
    · rcases mem_unread_of_running t (hphase ▸ h.running hstopped) m hqueue with hended | hunread
      · exact Or.inl hended
      · exact Or.inr (Or.inl (queued_of_mem env m t.unread row hunread hrow))
  running := running_step env s t a hmove h.running

end Ingest

end Backend

end Vena
