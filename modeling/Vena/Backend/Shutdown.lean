import Vena.Backend.IngestDelivery

/-!
# Shutdown

`stop` is there to drain what remains, and it drains the queue. The rows that
`_run` has taken from the queue and not yet flushed are in a local variable of
the task, which `stop` cancels first, so they are in neither place.

A run in which the cancelled task holds no such row loses nothing: neither the
timing of the transactions nor what the queue holds matters.

## Theorems

* `shutdown_keeps`: What `stop` answers for is stored when it returns, in every
  run whose call of `stop` gives up no row.
* `shutdown_loses`: A run that loses a row.
-/

namespace Vena

namespace Backend

namespace Ingest

open Python

/-- When `stop` has returned, every telemetry message accepted before it was
    called is in `telemetry_raw`, under its device and time. -/
def ShutdownComplete (env : Env) (s : State) : Prop :=
  s.phase = .returned → ∀ before, s.stopped = some before → ∀ m ∈ before, ∀ row,
    parse env m = .ok (some row) → s.db.Stored row.key

theorem shutdownComplete_of_delivery (env : Env) (s : State) (h : Delivery env s) :
    ShutdownComplete env s := by
  intro hphase before hstopped m hm row hrow
  have hpromised : m ∈ s.promised := by
    rw [State.promised, hstopped]
    exact hm
  have hdue := h.due m hpromised row ((decode_eq_row env m row).mpr hrow)
  -- After `stop` has returned nothing is unread or held any more.
  rw [Due, State.unread, State.held, hphase] at hdue
  rcases hdue with hended | hno | hheld | hstored
  · exact hended.elim
  · exact absurd hno List.not_mem_nil
  · exact absurd hheld List.not_mem_nil
  · exact hstored

/-- Every run along which `stop` is called at a clean point. -/
theorem shutdown_keeps (env : Env) (db : Store) (acts : List Action) (s : State)
    (hrun : Run.run (step env) (State.init db) acts = some s)
    (hclean : Run.Along (step env) (fun s a => a = .stop → CleanStop env s) (State.init db) acts) :
    ShutdownComplete env s := by
  have hdelivery := Run.run_invariant_along (step env) (fun s a => a = .stop → CleanStop env s)
    (Delivery env)
    (fun s a t h hc hstep => delivery_step env s t a (step_moves env s t a hstep) hc h)
    acts (State.init db) s (delivery_init env db) hclean hrun
  exact shutdownComplete_of_delivery env s hdelivery

/-- A message put, read and flushed; another one put; then `stop`. -/
def flushedRun : List Action :=
  [.put sample, .fetch, .resume 1000000000, .commit 0, .done 1000000000, .put sample, .stop, .drain,
    .drain, .commit 0, .done 1000000000]

/-- A message put and read, and `stop` before the next flush. -/
def unflushedRun : List Action := [.put sample, .fetch, .resume 0, .stop, .drain]

/-- How a run ends: whether `stop` has returned, what it answers for, and the
    keys that are stored. -/
def outcome (acts : List Action) :
    Option (Bool × Option (List Message) × List (String × Datetime)) :=
  (Run.run (step lenient) (State.init .empty) acts).map
    (fun s => (s.phase.isReturned, s.stopped, s.db.telemetryRaw.map Row.key))

theorem run_of_outcome (acts : List Action) (before : List Message)
    (keys : List (String × Datetime)) (h : outcome acts = some (true, some before, keys)) :
    ∃ s, Run.run (step lenient) (State.init .empty) acts = some s ∧ s.phase = .returned ∧
      s.stopped = some before ∧ s.db.telemetryRaw.map Row.key = keys := by
  rcases Option.map_eq_some_iff.mp h with ⟨s, hrun, hview⟩
  rw [Prod.mk.injEq, Prod.mk.injEq] at hview
  exact ⟨s, hrun, s.phase.eq_returned hview.1, hview.2.1, hview.2.2⟩

theorem shutdown_keeps_flushed :
    ∃ s, Run.run (step lenient) (State.init .empty) flushedRun = some s ∧ s.phase = .returned ∧
      s.stopped = some [sample, sample] ∧ ShutdownComplete lenient s := by
  rcases run_of_outcome flushedRun [sample, sample] [("a", 5000)] (by decide +kernel)
    with ⟨s, hrun, hphase, hstopped, _⟩
  exact ⟨s, hrun, hphase, hstopped,
    shutdown_keeps lenient .empty flushedRun s hrun (by decide +kernel)⟩

/-- The row of the message was in the batch when `stop` cancelled the task. -/
theorem shutdown_loses :
    ∃ s, Run.run (step lenient) (State.init .empty) unflushedRun = some s ∧
      ¬ShutdownComplete lenient s := by
  rcases run_of_outcome unflushedRun [sample] [] (by decide +kernel)
    with ⟨s, hrun, hphase, hstopped, hkeys⟩
  refine ⟨s, hrun, fun hcomplete => ?_⟩
  have hkey : keyOf lenient sample = some ("a", 5000) := by decide +kernel
  rcases row_of_keyOf lenient sample _ hkey with ⟨row, hrow, _⟩
  have hstored := hcomplete hphase [sample] hstopped sample (List.mem_singleton_self sample) row
    ((decode_eq_row lenient sample row).mp hrow)
  rw [Store.Stored, hkeys] at hstored
  exact List.not_mem_nil hstored

end Ingest

end Backend

end Vena
