import Mathlib.Data.Rat.Floor
import Mathlib.Algebra.Order.Field.Basic
import Mathlib.Tactic.Linarith
import Mathlib.Tactic.NormNum
import Vena.Core.Saturation
import Vena.Core.Clock32

/-!
# The Cooling Controller

`PeltierController`: a PID controller that is sampled whenever the loop gets
round to it and drives the Peltier element through an inverted PWM channel.
Its doubles are rational numbers here, so what is shown is about the control
law and not about rounding.

The integral is a saturating sum, and that gives the anti-windup its bound: the
integral may have been built up for hours, it is gone as soon as the negative
error has been seen for as long as it takes to use up fifty.

## Main definitions

* `Tuning`: What the constructor is given.
* `PeltierController`: The controller's fields and the duty of its channel.
* `begin`, `setSetpoint`, `update`: Its methods.
* `Call`, `calls`: Any use of it.
* `controlSteps`: What the updates of a list of calls have measured.
* `Safe`: Integral, output and duty are within their limits.

## Theorems

* `integral_calls`: The integral is a saturating sum of what was measured.
* `safe_of_calls`: The controller is safe, and recovers from any integral.
-/

namespace Vena

namespace Firmware

open Clock32 Saturation

/-- The arguments of the constructor, the pin apart. -/
structure Tuning where
  kp : ℚ
  ki : ℚ
  kd : ℚ
  sampleMs : Nat
  outputMin : ℚ
  outputMax : ℚ

/-- `SETPOINT_C`. -/
def setpointC : ℚ := 13

/-- The `PID_*` constants of `config.h`. -/
def pidTuning : Tuning :=
  { kp := 40, ki := 1 / 2, kd := 10, sampleMs := 200, outputMin := 0, outputMax := 255 }

/-- The fields that change, with the initial values the class gives them, and
    the duty last written to `LEDC_CH_PELTIER`. -/
structure PeltierController where
  setpoint : ℚ := setpointC
  erro : ℚ := 0
  erroAnterior : ℚ := 0
  integral : ℚ := 0
  saidaPID : ℚ := 0
  tempoAnterior : Nat := 0
  duty : Int := 0

/-- The conversion `(int)x` drops the fraction. -/
def truncToInt (x : ℚ) : Int := if 0 ≤ x then ⌊x⌋ else ⌈x⌉

theorem truncToInt_mono (x y : ℚ) (h : x ≤ y) : truncToInt x ≤ truncToInt y := by
  unfold truncToInt
  by_cases hx : 0 ≤ x
  · rw [if_pos hx, if_pos (le_trans hx h)]
    exact Int.floor_le_floor h
  · rw [if_neg hx]
    by_cases hy : 0 ≤ y
    -- A negative number is rounded up, to zero at most.
    · rw [if_pos hy]
      exact le_trans (Int.ceil_le.mpr (by exact_mod_cast le_of_not_ge hx)) (Int.floor_nonneg.mpr hy)
    · rw [if_neg hy]
      exact Int.ceil_le_ceil h

namespace PeltierController

/-- At real time `now`, the channel off. -/
def begin (s : PeltierController) (now : Nat) : PeltierController :=
  { s with duty := 255, tempoAnterior := millis now }

def setSetpoint (s : PeltierController) (c : ℚ) : PeltierController :=
  { s with setpoint := c }

/-- `agora - _tempoAnterior`. -/
def elapsed (s : PeltierController) (now : Nat) : Nat := sub32 (millis now) s.tempoAnterior

def dt (s : PeltierController) (now : Nat) : ℚ := (s.elapsed now : ℚ) / 1000

def erroOf (s : PeltierController) (pvTemperature : ℚ) : ℚ := pvTemperature - s.setpoint

/-- The integral with its anti-windup. -/
def integralOf (s : PeltierController) (now : Nat) (pvTemperature : ℚ) : ℚ :=
  constrain (s.integral + s.erroOf pvTemperature * s.dt now) (-50) 50

def derivativo (s : PeltierController) (now : Nat) (pvTemperature : ℚ) : ℚ :=
  (s.erroOf pvTemperature - s.erroAnterior) / s.dt now

def saidaOf (p : Tuning) (s : PeltierController) (now : Nat) (pvTemperature : ℚ) : ℚ :=
  constrain (p.kp * s.erroOf pvTemperature + p.ki * s.integralOf now pvTemperature +
    p.kd * s.derivativo now pvTemperature) p.outputMin p.outputMax

/-- `valorPWMFinal`, inverted because of the transistor in between. -/
def valorPWMFinal (saidaPID : ℚ) : Int := 255 - truncToInt saidaPID

/-- A call before the sample period is over does nothing. -/
def update (p : Tuning) (s : PeltierController) (now : Nat) (pvTemperature : ℚ) :
    PeltierController :=
  if s.elapsed now < p.sampleMs then s
  else
    { s with
      tempoAnterior := millis now
      erro := s.erroOf pvTemperature
      integral := s.integralOf now pvTemperature
      erroAnterior := s.erroOf pvTemperature
      saidaPID := saidaOf p s now pvTemperature
      duty := valorPWMFinal (saidaOf p s now pvTemperature) }

theorem update_of_early (p : Tuning) (s : PeltierController) (now : Nat) (pv : ℚ)
    (h : s.elapsed now < p.sampleMs) : update p s now pv = s := by
  rw [update, if_pos h]

theorem integral_update (p : Tuning) (s : PeltierController) (now : Nat) (pv : ℚ)
    (h : ¬ s.elapsed now < p.sampleMs) : (update p s now pv).integral = s.integralOf now pv := by
  rw [update, if_neg h]

theorem saidaPID_update (p : Tuning) (s : PeltierController) (now : Nat) (pv : ℚ)
    (h : ¬ s.elapsed now < p.sampleMs) : (update p s now pv).saidaPID = saidaOf p s now pv := by
  rw [update, if_neg h]

theorem duty_update (p : Tuning) (s : PeltierController) (now : Nat) (pv : ℚ)
    (h : ¬ s.elapsed now < p.sampleMs) :
    (update p s now pv).duty = valorPWMFinal (saidaOf p s now pv) := by
  rw [update, if_neg h]

/-- The divisor of the derivative. -/
theorem dt_pos (p : Tuning) (s : PeltierController) (now : Nat) (hsample : 0 < p.sampleMs)
    (h : ¬ s.elapsed now < p.sampleMs) : 0 < s.dt now := by
  have hpos : 0 < s.elapsed now := lt_of_lt_of_le hsample (Nat.not_lt.mp h)
  exact div_pos (Nat.cast_pos.mpr hpos) (by norm_num)

theorem dt_nonneg (s : PeltierController) (now : Nat) : 0 ≤ s.dt now :=
  div_nonneg (Nat.cast_nonneg _) (by norm_num)

/-- A call from the loop or of a setter. -/
inductive Call where
  | setSetpoint (c : ℚ)
  | update (now : Nat) (pvTemperature : ℚ)

def call (p : Tuning) (s : PeltierController) : Call → PeltierController
  | .setSetpoint c => s.setSetpoint c
  | .update now pvTemperature => update p s now pvTemperature

def calls (p : Tuning) : PeltierController → List Call → PeltierController
  | s, [] => s
  | s, c :: cs => calls p (call p s c) cs

/-- What an update that is not early has measured. -/
structure ControlStep where
  erro : ℚ
  dt : ℚ

def controlStep (p : Tuning) (s : PeltierController) : Call → Option ControlStep
  | .setSetpoint _ => none
  | .update now pvTemperature =>
      if s.elapsed now < p.sampleMs then none
      else some { erro := s.erroOf pvTemperature, dt := s.dt now }

def controlSteps (p : Tuning) : PeltierController → List Call → List ControlStep
  | _, [] => []
  | s, c :: cs => (controlStep p s c).toList ++ controlSteps p (call p s c) cs

def ControlStep.area (e : ControlStep) : ℚ := e.erro * e.dt

theorem calls_append (p : Tuning) (cs ds : List Call) :
    ∀ s : PeltierController, calls p s (cs ++ ds) = calls p (calls p s cs) ds := by
  induction cs with
  | nil => exact fun _ => rfl
  | cons c cs ih => exact fun s => ih (call p s c)

/-- One call adds what it has measured. -/
theorem integral_call (p : Tuning) (s : PeltierController) (c : Call) :
    (call p s c).integral =
      accumulate (-50) 50 s.integral ((controlStep p s c).toList.map ControlStep.area) := by
  cases c with
  | setSetpoint c => rfl
  | update now pv =>
      by_cases hearly : s.elapsed now < p.sampleMs
      · rw [call, update_of_early p s now pv hearly, controlStep, if_pos hearly]
        rfl
      · rw [call, integral_update p s now pv hearly, controlStep, if_neg hearly]
        rfl

/-- The integral is a saturating sum of what was measured. -/
theorem integral_calls (p : Tuning) (cs : List Call) :
    ∀ s : PeltierController, (calls p s cs).integral =
      accumulate (-50) 50 s.integral ((controlSteps p s cs).map ControlStep.area) := by
  induction cs with
  | nil => exact fun _ => rfl
  | cons c cs ih =>
      intro s
      rw [calls, controlSteps, List.map_append, accumulate_append, ← integral_call, ih]

/-- What is measured is measured over some time. -/
theorem dt_nonneg_of_mem (p : Tuning) (cs : List Call) :
    ∀ (s : PeltierController) (e : ControlStep), e ∈ controlSteps p s cs → 0 ≤ e.dt := by
  induction cs with
  | nil => exact fun _ _ h => absurd h List.not_mem_nil
  | cons c cs ih =>
      intro s e he
      rw [controlSteps, List.mem_append] at he
      rcases he with hfirst | hrest
      · cases c with
        | setSetpoint c => exact absurd hfirst List.not_mem_nil
        | update now pv =>
            rw [controlStep] at hfirst
            split at hfirst
            · exact absurd hfirst List.not_mem_nil
            · rw [Option.toList_some, List.mem_singleton] at hfirst
              rw [hfirst]
              exact dt_nonneg s now
      · exact ih (call p s c) e hrest

/-- Integral, output and duty are within their limits. -/
structure Safe (s : PeltierController) : Prop where
  integral_ge : -50 ≤ s.integral
  integral_le : s.integral ≤ 50
  saida_ge : 0 ≤ s.saidaPID
  saida_le : s.saidaPID ≤ 255
  duty_ge : 0 ≤ s.duty
  duty_le : s.duty ≤ 255

theorem valorPWMFinal_bounds (x : ℚ) (hlo : 0 ≤ x) (hhi : x ≤ 255) :
    0 ≤ valorPWMFinal x ∧ valorPWMFinal x ≤ 255 := by
  have hle : truncToInt x ≤ 255 := by
    rw [truncToInt, if_pos hlo]
    exact Int.floor_le_iff.mpr (lt_of_le_of_lt hhi (by norm_num))
  have hge : 0 ≤ truncToInt x := by
    rw [truncToInt, if_pos hlo]
    exact Int.floor_nonneg.mpr hlo
  unfold valorPWMFinal
  omega

theorem safe_begin (now : Nat) : Safe (begin {} now) :=
  ⟨by norm_num [begin], by norm_num [begin], le_refl 0, by norm_num [begin],
    by norm_num [begin], le_refl 255⟩

theorem safe_call (p : Tuning) (hmin : p.outputMin = 0) (hmax : p.outputMax = 255)
    (s : PeltierController) (c : Call) (h : Safe s) : Safe (call p s c) := by
  cases c with
  | setSetpoint c => exact ⟨h.1, h.2, h.3, h.4, h.5, h.6⟩
  | update now pv =>
      by_cases hearly : s.elapsed now < p.sampleMs
      · rw [call, update_of_early p s now pv hearly]
        exact h
      · have hlimits : p.outputMin ≤ p.outputMax := by
          rw [hmin, hmax]
          norm_num
        have hge := le_constrain (p.kp * s.erroOf pv + p.ki * s.integralOf now pv +
          p.kd * s.derivativo now pv) p.outputMin p.outputMax hlimits
        have hle := constrain_le (p.kp * s.erroOf pv + p.ki * s.integralOf now pv +
          p.kd * s.derivativo now pv) p.outputMin p.outputMax hlimits
        have hduty := valorPWMFinal_bounds (saidaOf p s now pv) (hmin ▸ hge) (hmax ▸ hle)
        refine ⟨?_, ?_, ?_, ?_, ?_, ?_⟩
        · rw [call, integral_update p s now pv hearly]
          exact le_constrain _ _ _ (by norm_num)
        · rw [call, integral_update p s now pv hearly]
          exact constrain_le _ _ _ (by norm_num)
        · rw [call, saidaPID_update p s now pv hearly]
          exact hmin ▸ hge
        · rw [call, saidaPID_update p s now pv hearly]
          exact hmax ▸ hle
        · rw [call, duty_update p s now pv hearly]
          exact hduty.1
        · rw [call, duty_update p s now pv hearly]
          exact hduty.2

theorem safe_calls (p : Tuning) (hmin : p.outputMin = 0) (hmax : p.outputMax = 255)
    (cs : List Call) : ∀ s : PeltierController, Safe s → Safe (calls p s cs) := by
  induction cs with
  | nil => exact fun _ h => h
  | cons c cs ih => exact fun s h => ih (call p s c) (safe_call p hmin hmax s c h)

/-- A negative error over `dt` takes at least its share of `δ` per second. -/
theorem sum_area_le (δ : ℚ) (es : List ControlStep) (herro : ∀ e ∈ es, e.erro ≤ -δ)
    (hdt : ∀ e ∈ es, 0 ≤ e.dt) :
    (es.map ControlStep.area).sum ≤ -δ * (es.map ControlStep.dt).sum := by
  induction es with
  | nil => rw [List.map_nil, List.map_nil, List.sum_nil, mul_zero]
  | cons e es ih =>
      rw [List.forall_mem_cons] at herro hdt
      rw [List.map_cons, List.map_cons, List.sum_cons, List.sum_cons, mul_add]
      exact add_le_add (mul_le_mul_of_nonneg_right herro.1 hdt.1) (ih herro.2 hdt.2)

/-- An integral that is at most fifty is used up by a negative error that lasts. -/
theorem integral_recovers (p : Tuning) (s : PeltierController) (hs : s.integral ≤ 50)
    (ds : List Call) (δ : ℚ) (hδ : 0 < δ) (herro : ∀ e ∈ controlSteps p s ds, e.erro ≤ -δ)
    (htime : 50 / δ ≤ ((controlSteps p s ds).map ControlStep.dt).sum) :
    (calls p s ds).integral ≤ 0 := by
  have hdt := dt_nonneg_of_mem p ds s
  have harea := sum_area_le δ (controlSteps p s ds) herro hdt
  have hneg : ∀ x ∈ (controlSteps p s ds).map ControlStep.area, x ≤ 0 := by
    intro x hx
    rcases List.mem_map.mp hx with ⟨e, he, heq⟩
    have hle : e.erro ≤ 0 := le_trans (herro e he) (by linarith)
    exact heq ▸ mul_nonpos_of_nonpos_of_nonneg hle (hdt e he)
  have hfifty : 50 ≤ δ * ((controlSteps p s ds).map ControlStep.dt).sum := by
    rw [mul_comm]
    exact (div_le_iff₀ hδ).mp htime
  have hsum := accumulate_le (-50) 50 _ s.integral hneg
  rw [integral_calls]
  exact le_trans hsum (max_le (by norm_num) (by linarith))

/-- Any use of a controller leaves it safe, with a positive divisor, and a
    negative error that lasts long enough brings the integral back to zero or
    below. -/
theorem safe_of_calls (p : Tuning) (hmin : p.outputMin = 0) (hmax : p.outputMax = 255)
    (hsample : 0 < p.sampleMs) (t : Nat) (cs : List Call) :
    Safe (calls p (begin {} t) cs) ∧
    (∀ now, ¬ (calls p (begin {} t) cs).elapsed now < p.sampleMs →
      0 < (calls p (begin {} t) cs).dt now) ∧
    ∀ (ds : List Call) (δ : ℚ), 0 < δ →
      (∀ e ∈ controlSteps p (calls p (begin {} t) cs) ds, e.erro ≤ -δ) →
      50 / δ ≤ ((controlSteps p (calls p (begin {} t) cs) ds).map ControlStep.dt).sum →
      (calls p (begin {} t) (cs ++ ds)).integral ≤ 0 := by
  have hsafe := safe_calls p hmin hmax cs (begin {} t) (safe_begin t)
  refine ⟨hsafe, fun now => dt_pos p _ now hsample, ?_⟩
  intro ds δ hδ herro htime
  rw [calls_append]
  exact integral_recovers p _ hsafe.integral_le ds δ hδ herro htime

/-- A second at 40 degrees, then a reading of 12 after another fifty. -/
theorem safe_of_calls_config :
    Safe (calls pidTuning (begin {} 0) [.update 1000 40]) ∧
    (calls pidTuning (begin {} 0) [.update 1000 40, .update 51000 12]).integral ≤ 0 := by
  have h := safe_of_calls pidTuning rfl rfl (by decide) 0 [.update 1000 40]
  exact ⟨h.1, h.2.2 [.update 51000 12] 1 (by decide) (by decide +kernel) (by decide +kernel)⟩

end PeltierController

end Firmware

end Vena
