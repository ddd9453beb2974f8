import Vena.Backend.IngestLedger

/-!
# Failures of the Database

`_run` clears its batch only after a flush that went through, so that a failed
one could be tried again. Nothing tries it again: the exception leaves the
loop, and the batch is a local variable of the task. One failure is survived:
a `TimeoutError` of the transaction in `_handle_meta` is caught together with
those of `wait_for`. It costs a document and no row.

## Main definitions

* `State.taken`: The messages taken from the queue.
* `Retained`: The loop goes on, and no row that was taken is lost.
* `Booked`: What holds as long as every failure is survived.

## Theorems

* `booked_step`: A failure that is survived keeps the books.
* `retained_of_booked`: The books account for every row.
* `ended_of_harmful`: Any other failure ends the loop.
* `failures_keep_rows`: Which failures lose nothing.
* `failed_flush`: One failed flush.
-/

namespace Vena

namespace Backend

namespace Ingest

open Python

/-- The loop of `_run` has not ended. -/
def Phase.Looping : Phase → Prop
  | .waiting | .fetched _ | .upserting _ _ _ | .flushing _ => True
  | _ => False

/-- The messages that have been taken from the queue. -/
def State.taken (s : State) : List Message :=
  s.accepted.take (s.accepted.length - s.queue.items.length)

/-- The loop is still running, and every row of a message taken is in hand, or
    held in the batch, or committed. -/
def Retained (env : Env) (s : State) : Prop :=
  s.phase.Looping ∧ ∀ m ∈ s.taken, ∀ row, decode env m = .ok (.row row) →
    s.phase = .fetched m ∨ row ∈ s.held ∨ s.db.Stored row.key

theorem taken_of_append (s : State) (taken : List Message)
    (h : s.accepted = taken ++ s.queue.items) : s.taken = taken := by
  rw [State.taken, h, List.length_append, Nat.add_sub_cancel, List.take_left]

/-- The rows of the books are where the books say. -/
theorem stored_of_flushed (env : Env) (db : Store) (s : State) (taken : List Message)
    (flushed : List Row) (h : Ledger env db s taken flushed) (row : Row) (hrow : row ∈ flushed) :
    s.db.Stored row.key := by
  rw [Store.Stored, h.telemetry]
  exact Keyed.key_insertAllNew Row.key flushed db.telemetryRaw row hrow

/-- A row of the messages entered in the books is stored or held. -/
theorem kept_of_ledger (env : Env) (db : Store) (s : State) (taken : List Message)
    (flushed held : List Row) (h : Ledger env db s taken flushed)
    (hrows : flushed ++ held = rowsOf env taken) (m : Message) (hm : m ∈ taken) (row : Row)
    (hdecode : decode env m = .ok (.row row)) : row ∈ held ∨ s.db.Stored row.key := by
  have hmade : row ∈ rowsOf env taken :=
    List.mem_filterMap.mpr ⟨m, hm, by rw [rowMade, hdecode]⟩
  rw [← hrows] at hmade
  rcases List.mem_append.mp hmade with hflushed | hheld
  · exact Or.inr (stored_of_flushed env db s taken flushed h row hflushed)
  · exact Or.inl hheld

/-- The messages accepted are absorbed, and so is all that is in the machine; the
    books say where the rows are. The documents may have gaps. -/
structure Booked (env : Env) (db : Store) (s : State) : Prop where
  absorbed : ∀ m ∈ s.accepted, Absorbed env m
  contents : Contents env s
  ledger : ∃ taken flushed, Ledger env db s taken flushed

theorem booked_init (env : Env) (db : Store) : Booked env db (State.init db) where
  absorbed := fun _ hm => absurd hm List.not_mem_nil
  contents := contents_init env db
  ledger := ⟨[], [], ledger_init env db⟩

/-- The steps of a run on messages that are absorbed, without `stop`. -/
def Action.Feeding (env : Env) (a : Action) : Prop :=
  a ≠ .stop ∧ ∀ m, a = .put m → Absorbed env m

theorem absorbed_step (env : Env) (s t : State) (a : Action) (hmove : Moves env s a t)
    (hfeed : a.Feeding env) (h : ∀ m ∈ s.accepted, Absorbed env m) :
    ∀ m ∈ t.accepted, Absorbed env m := by
  rcases accepted_step env s t a hmove with hsame | ⟨m, heq, hmore, _⟩
  · rwa [hsame]
  · rw [hmore]
    exact List.forall_mem_append.mpr ⟨h, List.forall_mem_singleton.mpr (hfeed.2 m heq)⟩

/-- A failure that the task survives keeps the books like any other step. -/
theorem booked_step (env : Env) (db : Store) (s t : State) (a : Action) (hmove : Moves env s a t)
    (hfeed : a.Feeding env) (hharmless : Harmless s a) (h : Booked env db s) : Booked env db t := by
  have habsorbed := absorbed_step env s t a hmove hfeed h.absorbed
  refine ⟨habsorbed, contents_step env s t a hmove hfeed.1 hharmless habsorbed h.contents, ?_⟩
  rcases h.ledger with ⟨taken, flushed, hledger⟩
  by_cases hing : a.Ingestion
  · exact ledger_step env db s t a taken flushed hmove hing hledger
  · cases hmove with
    | caught deviceId data clock hphase =>
        -- The document would have been taken.
        have hphased := h.contents.phase
        rw [PhaseSound, hphase] at hphased
        exact ⟨taken, flushed, ledger_caught env db s taken flushed deviceId data clock hphase
          (hphased.2 rfl) hledger⟩
    | taskError exc clock hphase huncaught => exact absurd hharmless huncaught
    | stopError exc clock hphase =>
        rcases Phase.eq_upserting s.phase exc hharmless with ⟨_, deviceId, data, heq⟩
        rw [heq] at hphase
        exact hphase.elim
    | cancel => exact absurd rfl hfeed.1
    | dropped => exact absurd rfl hfeed.1
    | reraise => exact absurd rfl hfeed.1
    | _ => exact absurd trivial hing

/-- Books that are kept account for every row. -/
theorem retained_of_booked (env : Env) (db : Store) (s : State) (hbooked : Booked env db s) :
    Retained env s := by
  have hsound := hbooked.contents.phase
  rcases hbooked.ledger with ⟨taken, flushed, h⟩
  have hbalanced := h.balanced
  have haccepted := h.accepted
  have hkept := kept_of_ledger env db s taken flushed
  unfold PhaseSound at hsound
  unfold Balanced at hbalanced
  unfold State.unread at haccepted
  unfold Retained State.held
  cases hphase : s.phase with
  | waiting =>
      rw [hphase] at hbalanced haccepted
      rw [taken_of_append s taken haccepted]
      exact ⟨trivial, fun m hm row hdecode =>
        Or.inr (hkept s.batch h hbalanced.2.1 m hm row hdecode)⟩
  | fetched m' =>
      rw [hphase] at hbalanced haccepted
      have hsplit : s.accepted = (taken ++ [m']) ++ s.queue.items := by
        rw [haccepted, List.append_assoc, List.singleton_append]
      rw [taken_of_append s (taken ++ [m']) hsplit]
      refine ⟨trivial, fun m hm row hdecode => ?_⟩
      rcases List.mem_append.mp hm with hold | hnew
      · exact Or.inr (hkept s.batch h hbalanced.2.1 m hold row hdecode)
      · exact Or.inl (by rw [List.mem_singleton.mp hnew])
  | upserting deviceId data committed =>
      rw [hphase] at hsound hbalanced haccepted
      rw [taken_of_append s taken haccepted]
      refine ⟨trivial, fun m hm row hdecode => Or.inr ?_⟩
      cases committed with
      | true => exact hkept s.batch h hbalanced.2.1 m hm row hdecode
      | false =>
          -- The message of the document is taken and not entered, but makes no row.
          rcases hbalanced with ⟨pre, last, htaken, hlast, hpre, hrows, _⟩
          have hsame := (passed_of_document env pre last deviceId data hlast (hsound.2 rfl) hpre).2
          rw [← htaken] at hsame
          exact hkept s.batch h (hrows.trans hsame.symm) m hm row hdecode
  | flushing committed =>
      rw [hphase] at hbalanced haccepted
      rw [taken_of_append s taken haccepted]
      refine ⟨trivial, fun m hm row hdecode => Or.inr ?_⟩
      cases committed with
      | true =>
          exact hkept [] h ((List.append_nil flushed).trans hbalanced.2) m hm row hdecode
      | false => exact hkept s.batch h hbalanced.2.1 m hm row hdecode
  | _ =>
      rw [hphase] at hsound
      exact hsound.elim

theorem not_looping_of_ended (phase : Phase) (h : phase.Ended) : ¬phase.Looping := by
  cases phase with
  | failed exc => exact id
  | raised exc => exact id
  | _ => exact h.elim

/-- A failure that is not swallowed ends the task, or `stop`. -/
theorem ended_of_harmful (env : Env) (s t : State) (a : Action) (hmove : Moves env s a t)
    (hharm : ¬Harmless s a) : t.phase.Ended := by
  cases hmove with
  | caught deviceId data clock hphase =>
      exact absurd (by rw [Harmless, hphase, Phase.Swallows]) hharm
  | taskError => exact ended_taskFailure s _
  | stopError => exact trivial
  | _ => exact absurd trivial hharm

theorem not_retained_of_harmful (env : Env) (s t : State) (a : Action) (hharm : ¬Harmless s a)
    (hstep : step env s a = some t) : ¬Retained env t := fun hretained =>
  not_looping_of_ended t.phase (ended_of_harmful env s t a (step_moves env s t a hstep) hharm)
    hretained.1

/-- A run on messages that are absorbed loses no row in any of its states,
    exactly if each failure in it is a timeout of `_handle_meta`. -/
theorem failures_keep_rows (env : Env) (db : Store) (acts : List Action) (s : State)
    (hrun : Run.run (step env) (State.init db) acts = some s) (hstop : .stop ∉ acts)
    (hput : ∀ m, .put m ∈ acts → Absorbed env m) :
    Run.Throughout (step env) (Retained env) (State.init db) acts ↔
      Run.Along (step env) Harmless (State.init db) acts := by
  refine Run.throughout_iff_along_of_kept (step env) (Action.Feeding env) Harmless (Booked env db)
    (Retained env) ?_ (retained_of_booked env db) ?_ acts (State.init db) s ?_ (booked_init env db)
    hrun
  · intro s a t hbooked hfeed hharmless hstep
    exact booked_step env db s t a (step_moves env s t a hstep) hfeed hharmless hbooked
  · intro s a t _ hharm hstep
    exact not_retained_of_harmful env s t a hharm hstep
  · intro a ha
    exact ⟨fun heq => hstop (heq ▸ ha), fun m heq => hput m (heq ▸ ha)⟩

instance (s : State) (a : Action) : Decidable (Harmless s a) := by
  unfold Harmless Phase.Swallows
  split
  · split
    · infer_instance
    · exact instDecidableFalse
  · exact instDecidableTrue

/-- An empty document. -/
def report : Message where
  topic := "vena/a/meta"
  payload := [0x7B, 0x7D]

/-- A sample is read, a document runs into a timeout, and the sample is flushed. -/
def keptRun : List Action :=
  [.put sample, .put report, .fetch, .resume 0, .fetch, .resume 0,
    .dbError .timeoutError 1000000000, .commit 0, .done 1000000000]

theorem failures_keep_rows_kept :
    ∃ s, Run.run (step lenient) (State.init .empty) keptRun = some s ∧
      Run.Throughout (step lenient) (Retained lenient) (State.init .empty) keptRun := by
  have hgo : (Run.run (step lenient) (State.init .empty) keptRun).isSome = true := by
    decide +kernel
  rcases Option.isSome_iff_exists.mp hgo with ⟨s, hrun⟩
  refine ⟨s, hrun, (failures_keep_rows lenient .empty keptRun s hrun (by decide +kernel) ?_).mpr
    (by decide +kernel)⟩
  intro m hm
  simp only [keptRun, List.mem_cons, Action.put.injEq, reduceCtorEq, List.not_mem_nil, or_self,
    or_false] at hm
  rcases hm with heq | heq
  · rw [heq]
    decide +kernel
  · rw [heq]
    decide +kernel

/-- A sample is read, and its flush fails. -/
def failedRun : List Action :=
  [.put sample, .fetch, .resume 0, .timeout 1000000000, .dbError .databaseError 1000000000]

/-- The loop does not try the flush again: the exception ends it. -/
theorem failed_flush :
    ¬∀ (env : Env) (db : Store) (acts : List Action) (s : State),
      Run.run (step env) (State.init db) acts = some s → .stop ∉ acts →
      (∀ m, .put m ∈ acts → Absorbed env m) →
      Run.Throughout (step env) (Retained env) (State.init db) acts := by
  intro hall
  have hgo : (Run.run (step lenient) (State.init .empty) failedRun).isSome = true := by
    decide +kernel
  rcases Option.isSome_iff_exists.mp hgo with ⟨s, hrun⟩
  have hput : ∀ m, Action.put m ∈ failedRun → Absorbed lenient m := by
    intro m hm
    simp only [failedRun, List.mem_cons, Action.put.injEq, reduceCtorEq, List.not_mem_nil,
      or_self, or_false] at hm
    rw [hm]
    decide +kernel
  have hkept := Run.throughout_last (step lenient) (Retained lenient) failedRun
    (State.init .empty) s (hall lenient .empty failedRun s hrun (by decide +kernel) hput) hrun
  rcases (Run.run_concat (step lenient) _ s (failedRun.take 4)
    (.dbError .databaseError 1000000000)).mp hrun with ⟨t, _, hlast⟩
  have hharm : ¬Harmless t (.dbError .databaseError 1000000000) := fun h =>
    Exc.noConfusion (Phase.eq_upserting t.phase .databaseError h).1
  exact not_retained_of_harmful lenient t s _ hharm hlast hkept

end Ingest

end Backend

end Vena
