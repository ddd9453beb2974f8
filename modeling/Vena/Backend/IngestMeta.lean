import Vena.Backend.IngestDelivery

/-!
# The Last Document

Of the documents a device publishes on its `meta` topic the last one counts:
the upsert of `_handle_meta` replaces the one before. As long as the task has
not failed and `stop` is not called, the last document accepted for a device is
still to be read or upserted, or it is the one in `device_meta`.

## Main definitions

* `lastMeta`: The last document among messages.
* `State.pendingMeta`: The last document that is not upserted yet.
* `MetaDelivery`: The invariant.

## Theorems

* `metaDelivery_step`: The invariant is kept.
-/

namespace Vena

namespace Backend

namespace Ingest

open Python

/-- The document a message leaves for a device, given the one before. -/
def metaStep (env : Env) (deviceId : String) (last : Option PyVal) (m : Message) : Option PyVal :=
  match decode env m with
  | .ok (.upsert d data) => if d = deviceId then some data else last
  | _ => last

/-- The last document among the messages. -/
def lastMeta (env : Env) (msgs : List Message) (deviceId : String) : Option PyVal :=
  msgs.foldl (metaStep env deviceId) none

/-- The document of the message the task is busy with. -/
def State.metaInHand (env : Env) (s : State) (deviceId : String) : Option PyVal :=
  match s.phase with
  | .fetched m => metaStep env deviceId none m
  | .upserting d data false => if d = deviceId then some data else none
  | _ => none

/-- The last document that is not upserted yet. -/
def State.pendingMeta (env : Env) (s : State) (deviceId : String) : Option PyVal :=
  s.queue.items.foldl (metaStep env deviceId) (s.metaInHand env deviceId)

/-- The last document accepted is pending, or none is and it is stored. -/
def MetaDelivery (env : Env) (s : State) : Prop :=
  ∀ deviceId data, lastMeta env s.accepted deviceId = some data →
    s.pendingMeta env deviceId = some data ∨
    (s.pendingMeta env deviceId = none ∧ s.db.HasMeta deviceId data)

/-- A message overrides what was there, or leaves it. -/
theorem metaStep_eq (env : Env) (deviceId : String) (last : Option PyVal) (m : Message) :
    metaStep env deviceId last m = (metaStep env deviceId none m).or last := by
  unfold metaStep
  split
  · split
    · rw [Option.some_or]
    · rw [Option.none_or]
  · rw [Option.none_or]

theorem foldl_metaStep (env : Env) (deviceId : String) (msgs : List Message) :
    ∀ last, msgs.foldl (metaStep env deviceId) last = (lastMeta env msgs deviceId).or last := by
  induction msgs with
  | nil => exact fun last => (Option.none_or).symm
  | cons m msgs ih =>
      intro last
      rw [lastMeta, List.foldl_cons, List.foldl_cons, ih, ih (metaStep env deviceId none m),
        metaStep_eq env deviceId last m, Option.or_assoc]

theorem pendingMeta_eq (env : Env) (s : State) (deviceId : String) :
    s.pendingMeta env deviceId =
      (lastMeta env s.queue.items deviceId).or (s.metaInHand env deviceId) :=
  foldl_metaStep env deviceId s.queue.items _

theorem metaDelivery_init (env : Env) (db : Store) : MetaDelivery env (State.init db) := by
  intro deviceId data h
  exact absurd h (by simp only [lastMeta, State.init, List.foldl_nil, reduceCtorEq,
    not_false_eq_true])

/-- What a step keeps if it touches neither the messages nor the documents. -/
theorem metaDelivery_of_same (env : Env) (s t : State) (hacc : t.accepted = s.accepted)
    (hpending : ∀ deviceId, t.pendingMeta env deviceId = s.pendingMeta env deviceId)
    (hdb : t.db.deviceMeta = s.db.deviceMeta) (h : MetaDelivery env s) : MetaDelivery env t := by
  intro deviceId data hlast
  rw [hacc] at hlast
  rw [hpending, Store.HasMeta, hdb]
  exact h deviceId data hlast

theorem metaDelivery_put (env : Env) (s : State) (m : Message) (queue : MessageQueue)
    (hitems : queue.items = s.queue.items ++ [m]) (h : MetaDelivery env s) :
    MetaDelivery env { s with queue := queue, accepted := s.accepted ++ [m] } := by
  intro deviceId data hlast
  have hpending : State.pendingMeta env { s with queue := queue, accepted := s.accepted ++ [m] }
      deviceId = metaStep env deviceId (s.pendingMeta env deviceId) m := by
    rw [State.pendingMeta, hitems, List.foldl_append]
    rfl
  rw [lastMeta, List.foldl_append, List.foldl_cons, List.foldl_nil, metaStep_eq] at hlast
  rw [hpending, metaStep_eq]
  -- Either the message is a document of the device, or it changes nothing for it.
  cases hown : metaStep env deviceId none m with
  | some own =>
      rw [hown, Option.some_or] at hlast
      rw [Option.some_or]
      exact Or.inl hlast
  | none =>
      rw [hown, Option.none_or] at hlast
      rw [Option.none_or]
      exact h deviceId data hlast

theorem metaInHand_upserting (env : Env) (s : State) (d : String) (data : PyVal) (deviceId : String)
    (hphase : s.phase = .upserting d data false) :
    s.metaInHand env deviceId = if d = deviceId then some data else none := by
  rw [State.metaInHand, hphase]

theorem metaDelivery_upsert (env : Env) (s : State) (deviceId : String) (data : PyVal)
    (wall : Datetime) (db : Store) (hphase : s.phase = .upserting deviceId data false)
    (hdb : s.db.upsertMeta env wall deviceId data = .ok db) (h : MetaDelivery env s) :
    MetaDelivery env { s with db := db, phase := .upserting deviceId data true } := by
  rcases Store.hasMeta_upsertMeta env wall deviceId data s.db db hdb with ⟨hown, hothers⟩
  intro id doc hlast
  have hold := h id doc hlast
  rw [pendingMeta_eq] at hold ⊢
  rw [metaInHand_upserting env s deviceId data id hphase] at hold
  simp only [State.metaInHand]
  -- A later document in the queue wins in any case.
  cases hqueue : lastMeta env s.queue.items id with
  | some queued =>
      rw [hqueue, Option.some_or] at hold
      rw [Option.some_or]
      exact hold.imp_right
        (fun hno => absurd hno.1 (by simp only [reduceCtorEq, not_false_eq_true]))
  | none =>
      rw [hqueue, Option.none_or] at hold
      rw [Option.none_or]
      refine Or.inr ⟨rfl, ?_⟩
      -- Otherwise the one in hand is the last of its device and has just been written.
      by_cases hid : deviceId = id
      · rw [if_pos hid, Option.some.injEq] at hold
        rcases hold with heq | ⟨hno, _⟩
        · rw [← heq, ← hid]
          exact hown
        · exact absurd hno (by simp only [reduceCtorEq, not_false_eq_true])
      · rw [if_neg hid] at hold
        rcases hold with hno | ⟨_, hhas⟩
        · exact absurd hno (by simp only [reduceCtorEq, not_false_eq_true])
        · exact hothers id doc (fun heq => hid heq.symm) hhas

/-- After the loop body the task holds no message. -/
theorem metaInHand_loopEnd (env : Env) (clock : Nat) (s : State) (deviceId : String) :
    (s.loopEnd clock).metaInHand env deviceId = none := by
  unfold State.loopEnd State.metaInHand
  cases State.shouldFlush clock s.batch s.lastFlush with
  | true => rfl
  | false => rfl

theorem metaInHand_taskFailure (env : Env) (s : State) (exc : Exc) (deviceId : String) :
    (s.taskFailure exc).metaInHand env deviceId = none := by
  unfold State.taskFailure State.metaInHand
  cases s.stopped with
  | none => rfl
  | some before => rfl

/-- The document read is the one to upsert. -/
theorem metaInHand_handle (env : Env) (clock : Nat) (m : Message) (s : State) (deviceId : String) :
    (s.handle env clock m).metaInHand env deviceId = metaStep env deviceId none m := by
  unfold State.handle
  split
  · next hdecode =>
      rw [metaStep, hdecode]
      exact metaInHand_taskFailure env s _ deviceId
  · next hdecode =>
      rw [metaStep, hdecode]
      exact metaInHand_loopEnd env clock s deviceId
  · next hdecode =>
      rw [metaStep, hdecode]
      exact metaInHand_loopEnd env clock _ deviceId
  · next hdecode =>
      rw [metaStep, hdecode]
      rfl

theorem queue_handle (env : Env) (clock : Nat) (m : Message) (s : State) :
    (s.handle env clock m).queue = s.queue ∧ (s.handle env clock m).db = s.db := by
  unfold State.handle
  split
  · exact ⟨rfl, rfl⟩
  · exact ⟨rfl, rfl⟩
  · exact ⟨rfl, rfl⟩
  · exact ⟨rfl, rfl⟩

/-- While `stop` is not called, the database is available and the task has not
    failed, a step keeps the last documents. -/
theorem metaDelivery_step (env : Env) (s t : State) (a : Action) (hmove : Moves env s a t)
    (hrunning : s.phase.Running) (hing : a.Ingestion)
    (hok : ¬t.phase.Ended) (h : MetaDelivery env s) : MetaDelivery env t := by
  cases hmove with
  | put m queue hitems => exact metaDelivery_put env s m queue hitems h
  | full m => exact h
  | fetch m queue hphase hitems =>
      refine metaDelivery_of_same env s _ rfl (fun deviceId => ?_) rfl h
      rw [State.pendingMeta, State.pendingMeta, hitems, List.foldl_cons, State.metaInHand,
        State.metaInHand, hphase]
  | resume m clock hphase =>
      refine metaDelivery_of_same env s _ (history_handle env clock m s).1 (fun deviceId => ?_)
        (by rw [(queue_handle env clock m s).2]) h
      rw [State.pendingMeta, State.pendingMeta, (queue_handle env clock m s).1, metaInHand_handle,
        State.metaInHand, hphase]
  | timeout clock hphase =>
      refine metaDelivery_of_same env s _ rfl (fun deviceId => ?_) rfl h
      rw [State.pendingMeta, State.pendingMeta, metaInHand_loopEnd, State.metaInHand, hphase]
      rfl
  -- An error would end the task.
  | upsert deviceId data wall hphase =>
      cases hdb : s.db.upsertMeta env wall deviceId data with
      | ok db => exact metaDelivery_upsert env s deviceId data wall db hphase hdb h
      | error exc =>
          rw [hdb] at hok
          exact absurd (ended_taskFailure s exc) hok
  | flush wall hphase =>
      cases hdb : s.db.flush env wall s.batch with
      | ok db =>
          refine metaDelivery_of_same env s _ rfl (fun deviceId => ?_)
            (Store.deviceMeta_flush env wall s.batch s.db db hdb) h
          rw [State.pendingMeta, State.pendingMeta, State.metaInHand, State.metaInHand, hphase]
          rfl
      | error exc =>
          rw [hdb] at hok
          exact absurd (ended_taskFailure s exc) hok
  | caught => exact hing.elim
  | taskError => exact hing.elim
  | stopError => exact hing.elim
  | upserted deviceId data clock hphase =>
      refine metaDelivery_of_same env s _ rfl (fun deviceId => ?_) rfl h
      rw [State.pendingMeta, State.pendingMeta, metaInHand_loopEnd, State.metaInHand, hphase]
      rfl
  | flushed clock hphase =>
      refine metaDelivery_of_same env s _ rfl (fun deviceId => ?_) rfl h
      rw [State.pendingMeta, State.pendingMeta, State.metaInHand, State.metaInHand, hphase]
  | cancel hstopped hphase => exact hing.elim
  | dropped m hstopped hphase => exact hing.elim
  | reraise exc hstopped hphase => exact hing.elim
  | drainUpsert deviceId data wall hphase => exact (hphase ▸ hrunning).elim
  | drainFlush wall hphase => exact (hphase ▸ hrunning).elim
  | drainUpserted deviceId data clock hphase => exact (hphase ▸ hrunning).elim
  | drainFlushed clock hphase => exact (hphase ▸ hrunning).elim
  | drain hphase => exact (hphase ▸ hrunning).elim

end Ingest

end Backend

end Vena
