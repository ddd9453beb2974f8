import Vena.Core.PeriodicTimer
import Vena.Firmware.ClockSync
import Vena.Firmware.PidLoop

/-!
# The Periodic Tasks of the Loop

The four branches of `loop()` that do something once a period: the control
step, the display, the BLE notification and the telemetry sample. Each has a
timer of its own, and all four compare with the one `now` that is read at the
top of the iteration. What the branches do does not touch the timers. Two of
the branches are modelled with what they do in `PidLoop` and `LoopState`;
`due_pid` and `due_telemetry` say that these are the timers here.

Iterations take place at real times, counted in milliseconds from boot.

## Main definitions

* `Task`, `Task.period`: The branches and their periods.
* `Timers`, `loop`: The timers over one iteration.
* `iterations`: A run of the loop.
* `lastFired`: When a task last ran.

## Theorems

* `logOf_iterations`: Each task has a timer of its own.
* `fires_iff_elapsed`: A task runs exactly when its period has passed.
-/

namespace Vena

namespace Firmware

namespace PeriodicTasks

open Clock32 PeriodicTimer

def displayRefreshMs : Nat := 1000

def bleNotifyIntervalMs : Nat := 2000

inductive Task where
  | pid
  | display
  | bleNotify
  | telemetry
  deriving DecidableEq, Repr

def Task.period : Task → Nat
  | .pid => PidLoop.pidSampleMs
  | .display => displayRefreshMs
  | .bleNotify => bleNotifyIntervalMs
  | .telemetry => telemetryPeriodMs

/-- The timer state, zero at boot. -/
structure Timers where
  lastPidMs : Nat := 0
  lastDisplayMs : Nat := 0
  lastTelemetryMs : Nat := 0
  lastBleNotifyMs : Nat := 0
  deriving DecidableEq, Repr

def Timers.last (s : Timers) : Task → Nat
  | .pid => s.lastPidMs
  | .display => s.lastDisplayMs
  | .bleNotify => s.lastBleNotifyMs
  | .telemetry => s.lastTelemetryMs

/-- The four branches, and the tasks that run, in the order of the source. -/
def loop (s : Timers) (now : Nat) : Timers × List Task :=
  ({ lastPidMs := rearm PidLoop.pidSampleMs now s.lastPidMs
     lastDisplayMs := rearm displayRefreshMs now s.lastDisplayMs
     lastBleNotifyMs := rearm bleNotifyIntervalMs now s.lastBleNotifyMs
     lastTelemetryMs := rearm telemetryPeriodMs now s.lastTelemetryMs },
   [Task.pid, .display, .bleNotify, .telemetry].filter
     (fun task => due task.period now (s.last task)))

structure Iteration where
  time : Nat
  fired : List Task
  deriving DecidableEq, Repr

/-- The iterations at these real times. -/
def iterations (s : Timers) : List Nat → List Iteration
  | [] => []
  | t :: ts => ⟨t, (loop s (millis t)).2⟩ :: iterations (loop s (millis t)).1 ts

/-- The log of the timer of a task. -/
def logOf (task : Task) (its : List Iteration) : List (Nat × Bool) :=
  its.map (fun it => (it.time, decide (task ∈ it.fired)))

/-- The real time of the last iteration in which a task ran, or of boot. -/
def lastFired (task : Task) (its : List Iteration) : Nat := lastFiring (logOf task its)

/-- The timer of `PidLoop`. -/
theorem due_pid (s : PidLoop.Loop) (a : PidLoop.Iteration) :
    PidLoop.fires s a = due Task.pid.period (millis a.now) s.lastPidMs := by
  rw [PidLoop.fires, due, Task.period]

/-- The timer of the telemetry branch. -/
theorem due_telemetry {ρ : Type} {capacity : Nat} (t : Tick ρ) (s : LoopState ρ capacity) :
    LoopState.due t s = due Task.telemetry.period (millis t.now) s.lastTelemetryMs := by
  rw [LoopState.due, due, Task.period]

theorem last_loop (s : Timers) (now : Nat) (task : Task) :
    (loop s now).1.last task = rearm task.period now (s.last task) := by
  cases task with
  | pid => rw [Timers.last, Timers.last, Task.period, loop]
  | display => rw [Timers.last, Timers.last, Task.period, loop]
  | bleNotify => rw [Timers.last, Timers.last, Task.period, loop]
  | telemetry => rw [Timers.last, Timers.last, Task.period, loop]

theorem mem_loop (s : Timers) (now : Nat) (task : Task) :
    task ∈ (loop s now).2 ↔ due task.period now (s.last task) = true := by
  have hall : task ∈ [Task.pid, .display, .bleNotify, .telemetry] := by
    cases task with
    | _ => decide
  rw [loop, List.mem_filter]
  exact and_iff_right hall

/-- Each task has a timer of its own. -/
theorem logOf_iterations (task : Task) (times : List Nat) :
    ∀ s, logOf task (iterations s times) = timerLog task.period (s.last task) times := by
  induction times with
  | nil => exact fun s => rfl
  | cons t ts ih =>
      intro s
      have hfired : decide (task ∈ (loop s (millis t)).2) =
          due task.period (millis t) (s.last task) := by
        rw [Bool.eq_iff_iff, decide_eq_true_eq]
        exact mem_loop s (millis t) task
      rw [iterations, logOf, List.map_cons, ← logOf, ih, last_loop, hfired, timerLog]

/-- Over any run of the loop, a task runs in an iteration exactly when its period
    has passed since it last did, or since boot, however often the counter wraps. -/
theorem fires_iff_elapsed (task : Task) (times : List Nat)
    (hchain : (0 :: times).IsChain (Within task.period)) (before after : List Iteration)
    (it : Iteration) (hrun : iterations {} times = before ++ it :: after) :
    task ∈ it.fired ↔ lastFired task before + task.period ≤ it.time := by
  have hstart : ({} : Timers).last task = 0 := by
    cases task with
    | _ => rfl
  have hlog := logOf_iterations task times {}
  rw [hstart, hrun, logOf, List.map_append, List.map_cons] at hlog
  have hiff := onTime_timerLog task.period times hchain _ _ _ _ hlog.symm
  rw [decide_eq_true_eq] at hiff
  exact hiff

/-- Either side of a wrap: 4 999 and 5 000 milliseconds after a sample. -/
theorem fires_iff_elapsed_wrap :
    Task.telemetry ∉ (Iteration.mk 4294969999 [.pid, .display, .bleNotify]).fired ∧
      Task.telemetry ∈ (Iteration.mk 4294970000 [.telemetry]).fired := by
  have hrun : iterations {} [4294960000, 4294965000, 4294969999, 4294970000] =
      [⟨4294960000, [.pid, .display, .bleNotify, .telemetry]⟩,
        ⟨4294965000, [.pid, .display, .bleNotify, .telemetry]⟩,
        ⟨4294969999, [.pid, .display, .bleNotify]⟩, ⟨4294970000, [.telemetry]⟩] := by
    decide +kernel
  have hchain : [0, 4294960000, 4294965000, 4294969999, 4294970000].IsChain
      (Within Task.telemetry.period) := by decide +kernel
  have hearly := fires_iff_elapsed .telemetry _ hchain [_, _] [_] _ hrun
  have hdue := fires_iff_elapsed .telemetry _ hchain [_, _, _] [] _ hrun
  exact ⟨fun h => absurd (hearly.mp h) (by decide +kernel), hdue.mpr (by decide +kernel)⟩

end PeriodicTasks

end Firmware

end Vena
