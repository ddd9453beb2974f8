import Vena.Firmware.PeltierController

/-!
# Cooling Grows with the Temperature

Two updates of one controller state, at the same moment. Each of the three
terms grows with the error: the proportional one is the error, the integral one
has its error over a time that is not negative and is clamped, and the
derivative one compares both errors with the same earlier one. What is clamped
and truncated afterwards keeps the order, so the warmer reading never gets the
higher duty, and the duty is the channel's off time.

A lower setpoint is a higher error, which makes the second half of
`update_mono` the first one again.

## Theorems

* `saidaOf_mono`: The output grows with the error.
* `update_mono`: More temperature, or a lower setpoint, never gives less cooling.
-/

namespace Vena

namespace Firmware

open Clock32 Saturation

namespace PeltierController

/-- Two controllers that differ in the setpoint at most. -/
structure SameBut (s t : PeltierController) : Prop where
  erroAnterior : s.erroAnterior = t.erroAnterior
  integral : s.integral = t.integral
  saidaPID : s.saidaPID = t.saidaPID
  tempoAnterior : s.tempoAnterior = t.tempoAnterior
  duty : s.duty = t.duty

theorem sameBut_setSetpoint (s : PeltierController) (c₁ c₂ : ℚ) :
    SameBut (s.setSetpoint c₁) (s.setSetpoint c₂) :=
  ⟨rfl, rfl, rfl, rfl, rfl⟩

theorem sameBut_refl (s : PeltierController) : SameBut s s :=
  ⟨rfl, rfl, rfl, rfl, rfl⟩

variable {s t : PeltierController} {now : Nat} {pv₁ pv₂ : ℚ}

theorem elapsed_eq (h : SameBut s t) : s.elapsed now = t.elapsed now := by
  rw [elapsed, elapsed, h.tempoAnterior]

theorem dt_eq (h : SameBut s t) : s.dt now = t.dt now := by
  rw [dt, dt, elapsed_eq h]

theorem integralOf_mono (now : Nat) (h : SameBut s t) (herro : s.erroOf pv₁ ≤ t.erroOf pv₂) :
    s.integralOf now pv₁ ≤ t.integralOf now pv₂ := by
  refine constrain_mono _ _ _ _ (by norm_num) ?_
  rw [h.integral, dt_eq h]
  exact add_le_add_right (mul_le_mul_of_nonneg_right herro (dt_nonneg t now)) _

theorem derivativo_mono (now : Nat) (h : SameBut s t) (herro : s.erroOf pv₁ ≤ t.erroOf pv₂) :
    s.derivativo now pv₁ ≤ t.derivativo now pv₂ := by
  rw [derivativo, derivativo, h.erroAnterior, dt_eq h]
  exact div_le_div_of_nonneg_right (sub_le_sub_right herro _) (dt_nonneg t now)

theorem saidaOf_mono (p : Tuning) (now : Nat) (hkp : 0 ≤ p.kp) (hki : 0 ≤ p.ki)
    (hkd : 0 ≤ p.kd) (hlimits : p.outputMin ≤ p.outputMax) (h : SameBut s t)
    (herro : s.erroOf pv₁ ≤ t.erroOf pv₂) :
    saidaOf p s now pv₁ ≤ saidaOf p t now pv₂ := by
  refine constrain_mono _ _ _ _ hlimits ?_
  have hprop := mul_le_mul_of_nonneg_left herro hkp
  have hint := mul_le_mul_of_nonneg_left (integralOf_mono now h herro) hki
  have hder := mul_le_mul_of_nonneg_left (derivativo_mono now h herro) hkd
  exact add_le_add (add_le_add hprop hint) hder

theorem valorPWMFinal_antitone (x y : ℚ) (h : x ≤ y) : valorPWMFinal y ≤ valorPWMFinal x :=
  Int.sub_le_sub_left (truncToInt_mono x y h) 255

/-- The update with the greater error cools no less. -/
theorem update_mono_of_erro (p : Tuning) (hkp : 0 ≤ p.kp) (hki : 0 ≤ p.ki) (hkd : 0 ≤ p.kd)
    (hlimits : p.outputMin ≤ p.outputMax) (h : SameBut s t)
    (herro : s.erroOf pv₁ ≤ t.erroOf pv₂) :
    (update p s now pv₁).saidaPID ≤ (update p t now pv₂).saidaPID ∧
    (update p t now pv₂).duty ≤ (update p s now pv₁).duty := by
  by_cases hearly : s.elapsed now < p.sampleMs
  · rw [update_of_early p s now pv₁ hearly,
      update_of_early p t now pv₂ (elapsed_eq h ▸ hearly)]
    exact ⟨le_of_eq h.saidaPID, le_of_eq h.duty.symm⟩
  · have hlate : ¬ t.elapsed now < p.sampleMs := elapsed_eq h ▸ hearly
    have hout := saidaOf_mono p now hkp hki hkd hlimits h herro
    rw [saidaPID_update p s now pv₁ hearly, saidaPID_update p t now pv₂ hlate,
      duty_update p s now pv₁ hearly, duty_update p t now pv₂ hlate]
    exact ⟨hout, valorPWMFinal_antitone _ _ hout⟩

/-- More temperature never gives less cooling, and neither does a lower
    setpoint, whatever state the controller is in. -/
theorem update_mono (p : Tuning) (hkp : 0 ≤ p.kp) (hki : 0 ≤ p.ki) (hkd : 0 ≤ p.kd)
    (hlimits : p.outputMin ≤ p.outputMax) (s : PeltierController) (now : Nat) :
    (∀ pv₁ pv₂, pv₁ ≤ pv₂ →
      (update p s now pv₁).saidaPID ≤ (update p s now pv₂).saidaPID ∧
      (update p s now pv₂).duty ≤ (update p s now pv₁).duty) ∧
    ∀ pv c₁ c₂, c₁ ≤ c₂ →
      (update p (s.setSetpoint c₂) now pv).saidaPID ≤
        (update p (s.setSetpoint c₁) now pv).saidaPID ∧
      (update p (s.setSetpoint c₁) now pv).duty ≤ (update p (s.setSetpoint c₂) now pv).duty := by
  constructor
  · intro pv₁ pv₂ hpv
    exact update_mono_of_erro p hkp hki hkd hlimits (sameBut_refl s) (sub_le_sub_right hpv _)
  · intro pv c₁ c₂ hc
    exact update_mono_of_erro p hkp hki hkd hlimits (sameBut_setSetpoint s c₂ c₁)
      (sub_le_sub_left hc pv)

/-- Half a second after the start, at 13.5 and at 20 degrees. -/
theorem update_mono_config :
    (update pidTuning (begin {} 0) 500 (27 / 2)).saidaPID ≤
      (update pidTuning (begin {} 0) 500 20).saidaPID ∧
    (update pidTuning (begin {} 0) 500 20).duty ≤
      (update pidTuning (begin {} 0) 500 (27 / 2)).duty :=
  (update_mono pidTuning (by norm_num [pidTuning]) (by norm_num [pidTuning])
    (by norm_num [pidTuning]) (by norm_num [pidTuning]) (begin {} 0) 500).1
    (27 / 2) 20 (by norm_num)

end PeltierController

end Firmware

end Vena
