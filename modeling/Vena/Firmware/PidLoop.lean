import Vena.Core.Run
import Vena.Firmware.PeltierController

/-!
# The two throttles of the cooling loop

`loop()` asks the cooling controller for a control step every `PID_SAMPLE_MS`,
and `PeltierController::update` takes one only if `PID_SAMPLE_MS` have passed
since its last. The two read the clock at different places: the loop before it
handles WiFi, MQTT and the DS18B20, and `update` behind all of that. What the
second throttle measures is therefore the time between two firings of the
first, lengthened by the work ahead of `update` in this iteration and shortened
by the work ahead of it in the last one. A tick after a slow iteration is lost.

Real time is a natural number, counted in milliseconds from boot, and the two
clock readings of an iteration are taken at real times. The state remembers the
real times behind the readings it keeps. Boot counts as a firing whose work is
the setup: `lastPidMs` starts at zero, and `begin` reads the clock.

## Main definitions

* `Iteration`: What an iteration reads from its environment.
* `Loop`: The timer, the controller and what became of the ticks.
* `step`: One iteration of `loop()`.
* `InTime`: The work ahead of `update` is not too short for the second throttle.

## Theorems

* `invariant_step`: What the readings in the state stand for.
* `controls_iff_inTime`: When a firing leads to a control step.
* `ticks_iff_inTime`: The same of a run.
-/

namespace Vena

namespace Firmware

namespace PidLoop

open Clock32 Run

def pidSampleMs : Nat := 200

/-- One iteration: when `now` is read, how long the work takes until `update`
    reads the clock, and what the DS18B20 answers. -/
structure Iteration where
  now : Nat
  work : Nat
  ds18Temp : Option ℚ
  deriving DecidableEq

/-- The fields of the loop. Behind them, the real times they stand for: of the
    last iteration, of the end of what it is known to have done, of the last
    firing, and how much later `update` read the clock. `ticks` says of every
    firing whether it led to a control step. -/
structure Loop where
  lastPidMs : Nat
  lastDissT : Option ℚ
  peltier : PeltierController
  now : Nat
  clock : Nat
  fired : Nat
  work : Nat
  ticks : List Bool

/-- After a setup that called `peltier.begin()` at real time `t`. -/
def initial (t : Nat) : Loop where
  lastPidMs := 0
  lastDissT := none
  peltier := PeltierController.begin {} t
  now := 0
  clock := t
  fired := 0
  work := t
  ticks := []

/-- `update` does not return early. -/
def controls (s : PeltierController) (now : Nat) : Bool := !(s.elapsed now < pidTuning.sampleMs)

/-- The timer of the loop. -/
def fires (s : Loop) (a : Iteration) : Bool := pidSampleMs ≤ sub32 (millis a.now) s.lastPidMs

/-- `lastDissT` behind the reading: an invalid one leaves the last. -/
def dissT (s : Loop) (a : Iteration) : Option ℚ := a.ds18Temp.or s.lastDissT

/-- The firing. -/
def pidTick (s : Loop) (a : Iteration) : Loop where
  lastPidMs := millis a.now
  lastDissT := dissT s a
  peltier := match dissT s a with
    | none => s.peltier
    | some lastDissT => s.peltier.update pidTuning (a.now + a.work) lastDissT
  now := a.now
  clock := a.now + a.work
  fired := a.now
  work := a.work
  -- Without a temperature `update` is not called.
  ticks := s.ticks ++ [(dissT s a).isSome && controls s.peltier (a.now + a.work)]

/-- Iterations follow each other within half a turn of the clock. -/
def step (s : Loop) (a : Iteration) : Option Loop :=
  if s.clock ≤ a.now ∧ a.now < s.now + halfTurn ∧ a.work < halfTurn then
    some (if fires s a then pidTick s a else { s with now := a.now, clock := a.now })
  else none

/-- No tick is lost. -/
def Ticked (s : Loop) : Prop := ∀ tick ∈ s.ticks, tick = true

instance (s : Loop) : Decidable (Ticked s) :=
  inferInstanceAs (Decidable (∀ tick ∈ s.ticks, tick = true))

/-- Behind a firing, `update` reads the clock at least a period after it did at
    the last one, and less than a turn of the clock after. -/
def InTime (s : Loop) (a : Iteration) : Prop :=
  fires s a = true →
    s.work + pidSampleMs ≤ (a.now - s.fired) + a.work ∧
      (a.now - s.fired) + a.work < s.work + turn

instance (s : Loop) (a : Iteration) : Decidable (InTime s a) :=
  inferInstanceAs (Decidable (_ → _ ∧ _))

/-- There is a temperature to control by. -/
def Measured (s : Loop) (a : Iteration) : Prop :=
  fires s a = true → (dissT s a).isSome = true

section Controller

variable (s : PeltierController) (now : Nat) (pv : ℚ)

theorem tempoAnterior_update (h : controls s now = true) :
    (s.update pidTuning now pv).tempoAnterior = millis now := by
  rw [controls, Bool.not_eq_true', decide_eq_false_iff_not] at h
  rw [PeltierController.update, if_neg h]

end Controller

/-- What the readings stand for. The controller's is that of the last firing as
    long as no tick is lost. -/
structure Invariant (s : Loop) : Prop where
  timer : s.lastPidMs = millis s.fired
  order : s.fired ≤ s.now ∧ s.now ≤ s.clock ∧ s.fired + s.work ≤ s.clock
  recent : s.now < s.fired + pidSampleMs
  controller : Ticked s → s.peltier.tempoAnterior = millis (s.fired + s.work)

theorem invariant_initial (t : Nat) : Invariant (initial t) where
  timer := rfl
  order := ⟨Nat.le_refl 0, Nat.zero_le t, Nat.le_of_eq (Nat.zero_add t)⟩
  recent := Nat.zero_lt_succ 199
  controller _ := congrArg millis (Nat.zero_add t).symm

section Steps

variable (s t : Loop) (a : Iteration)

/-- What an iteration can do. -/
inductive Moves : Loop → Prop where
  | waits (hfires : fires s a = false) : Moves { s with now := a.now, clock := a.now }
  | ticks (hfires : fires s a = true) : Moves (pidTick s a)

theorem step_moves (h : step s a = some t) :
    (s.clock ≤ a.now ∧ a.now < s.now + halfTurn ∧ a.work < halfTurn) ∧ Moves s a t := by
  rw [step, Option.ite_none_right_eq_some, Option.some.injEq] at h
  obtain ⟨hguard, rfl⟩ := h
  refine ⟨hguard, ?_⟩
  by_cases hfires : fires s a = true
  · rw [if_pos hfires]
    exact .ticks hfires
  · rw [if_neg hfires]
    exact .waits (Bool.eq_false_iff.mpr hfires)

/-- The timer measures real time: the counter cannot turn between two firings. -/
theorem fires_iff (hinv : Invariant s) (hclock : s.clock ≤ a.now)
    (hnow : a.now < s.now + halfTurn) :
    fires s a = true ↔ s.fired + pidSampleMs ≤ a.now := by
  obtain ⟨hfired, hend, _⟩ := hinv.order
  have hrecent := hinv.recent
  rw [fires, decide_eq_true_eq, hinv.timer]
  refine le_sub32_millis a.now s.fired pidSampleMs (by omega) ?_
  unfold pidSampleMs at hrecent
  unfold halfTurn at hnow
  unfold turn
  omega

/-- While no tick is lost, `update` takes a control step exactly when its clock
    reading is in time. -/
theorem controls_iff_inTime (hinv : Invariant s) (hticked : Ticked s) (hfires : fires s a = true)
    (hguard : s.clock ≤ a.now ∧ a.now < s.now + halfTurn ∧ a.work < halfTurn) :
    controls s.peltier (a.now + a.work) = true ↔ InTime s a := by
  obtain ⟨hclock, hnow, hwork⟩ := hguard
  obtain ⟨hfired, hend, hupdate⟩ := hinv.order
  have hrecent := hinv.recent
  have helapsed := sub32_millis (a.now + a.work) (s.fired + s.work) (by omega)
  have hperiod : pidTuning.sampleMs = pidSampleMs := rfl
  rw [controls, Bool.not_eq_true', decide_eq_false_iff_not, PeltierController.elapsed,
    hinv.controller hticked, helapsed, hperiod, InTime]
  simp only [hfires, true_implies]
  unfold pidSampleMs turn halfTurn at *
  omega

/-- A firing without a temperature is lost, any other is what `update` makes of
    it. -/
theorem ticked_pidTick : Ticked (pidTick s a) ↔
    Ticked s ∧ (dissT s a).isSome = true ∧ controls s.peltier (a.now + a.work) = true := by
  unfold Ticked pidTick
  rw [List.forall_mem_append, List.forall_mem_singleton, Bool.and_eq_true]

theorem invariant_step (hinv : Invariant s) (h : step s a = some t) : Invariant t := by
  obtain ⟨⟨hclock, hnow, _⟩, hmoves⟩ := step_moves s t a h
  obtain ⟨hfired, hend, hupdate⟩ := hinv.order
  cases hmoves with
  | waits hfires =>
      have hearly : ¬ s.fired + pidSampleMs ≤ a.now := by
        rw [← fires_iff s a hinv hclock hnow, hfires]
        exact Bool.false_ne_true
      refine ⟨hinv.timer, ⟨?_, Nat.le_refl _, ?_⟩, Nat.not_le.mp hearly, hinv.controller⟩
      · exact (hfired.trans hend).trans hclock
      · exact hupdate.trans hclock
  | ticks hfires =>
      refine ⟨rfl, ⟨Nat.le_refl _, Nat.le_add_right _ _, Nat.le_refl _⟩,
        Nat.lt_add_of_pos_right (by decide), fun hticked => ?_⟩
      obtain ⟨_, hsome, hcontrols⟩ := (ticked_pidTick s a).mp hticked
      obtain ⟨pv, hpv⟩ := Option.isSome_iff_exists.mp hsome
      rw [pidTick, hpv]
      exact tempoAnterior_update s.peltier (a.now + a.work) pv hcontrols

/-- One iteration loses a tick unless there is a temperature and `update` reads
    the clock in time. -/
theorem ticked_step (hinv : Invariant s) (hticked : Ticked s) (h : step s a = some t) :
    Ticked t ↔ InTime s a ∧ Measured s a := by
  obtain ⟨hguard, hmoves⟩ := step_moves s t a h
  cases hmoves with
  | waits hfires =>
      refine iff_of_true hticked ⟨fun htrue => ?_, fun htrue => ?_⟩
      · rw [hfires] at htrue
        cases htrue
      · rw [hfires] at htrue
        cases htrue
  | ticks hfires =>
      rw [ticked_pidTick, controls_iff_inTime s a hinv hticked hfires hguard, Measured]
      simp only [hticked, hfires, true_and, true_implies]
      exact and_comm

end Steps

/-- Over any run, `update` takes a control step in every iteration in which the
    timer fires, exactly if each of its clock readings is in time. -/
theorem ticks_iff_inTime (setup : Nat) (acts : List Iteration) (t : Loop)
    (hvalid : ∀ a ∈ acts, a.ds18Temp.isSome = true)
    (hrun : run step (initial setup) acts = some t) :
    Throughout step Ticked (initial setup) acts ↔ Along step InTime (initial setup) acts := by
  have hticked : Ticked (initial setup) := fun tick htick => absurd htick List.not_mem_nil
  rw [throughout_iff_along_of_invariant step (fun s a => InTime s a ∧ Measured s a) Invariant
    Ticked (fun s a t hinv h => invariant_step s t a hinv h)
    (fun s a t hinv hticked h => ticked_step s t a hinv hticked h) acts (initial setup) t
    (invariant_initial setup) hticked hrun]
  constructor
  · exact along_of_invariant step _ _ (fun _ => True) (fun _ _ _ _ _ _ => trivial)
      (fun _ _ _ h => h.1) acts (initial setup) trivial
  · intro hintime
    -- With a valid reading there is always a temperature.
    have hmeasured := along_of_forall step (fun a => a.ds18Temp.isSome = true) acts
      (initial setup) hvalid
    refine along_of_invariant step _ _ (fun _ => True) (fun _ _ _ _ _ _ => trivial)
      (fun s a _ h => ⟨h.1, fun _ => ?_⟩) acts (initial setup) trivial
      (along_and step _ _ (initial setup) acts hintime hmeasured)
    rw [dissT, Option.isSome_or, h.2, Bool.true_or]

/-- Two firings with the same work ahead of `update`. -/
theorem ticks_iff_inTime_steady : Throughout step Ticked (initial 50)
    [⟨250, 5, some 20⟩, ⟨300, 0, some 20⟩, ⟨450, 5, some 20⟩] :=
  (ticks_iff_inTime 50 [⟨250, 5, some 20⟩, ⟨300, 0, some 20⟩, ⟨450, 5, some 20⟩] _
    (by decide +kernel) rfl).mpr (by decide +kernel)

/-- The sensor takes 40 ms once and 5 ms the next time, and the tick is lost. -/
theorem tick_lost : ∃ t, run step (initial 50) [⟨250, 40, some 20⟩, ⟨450, 5, some 20⟩] = some t ∧
    t.ticks = [true, false] :=
  ⟨_, rfl, by decide +kernel⟩

end PidLoop

end Firmware

end Vena
