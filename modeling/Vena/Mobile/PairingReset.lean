import Vena.Mobile.Pairing

/-!
# Resetting the pairing wizard

Two things are expected of the wizard: whatever step it shows but the first and
the error, it knows the device it is about, and a reset ends what was going on
before. `reset()` clears the state and stops the scan. It does not stop the
operations in flight, and these set the state when they go on, on top of
whatever is there by then: the step of a device that is no longer known, or an
error on the page of the next one.

`pairing_consistent` is about runs and their variations. Where a reset found
something in flight, what happens next may still be harmless, for instance when
the claim of a wizard that was reset finds no device. So the resets of a run are
all harmless if and only if no continuation from any point of the run goes
wrong.

## Main definitions

* `Consistent`: The step goes with what is known.
* `Inert`: An operation from before the reset leaves the state alone.
* `Claimed`: Both, in a whole run.
* `Careful`: A reset finds no operation in flight.

## Theorems

* `step_settled`: What a careful step keeps.
* `resume_inert`: An operation in flight sets the state sooner or later.
* `pairing_consistent`: Careful runs, and no others, cannot go wrong.
* `pairing_overtaken`: A run that does.
-/

namespace Vena

namespace Mobile

namespace Pairing

open Run

/-- Which device the wizard is about is known. -/
def Identified (p : PairingState) : Prop := p.deviceId ≠ none ∧ p.pairingCode ≠ none

/-- In every step but the first and the error, the device is known. -/
def Consistent (p : PairingState) : Prop := p.step ≠ .idle → p.step ≠ .error → Identified p

/-- An operation started before the last reset leaves the state alone. -/
def Inert (s : Wizard) : Action → Prop
  | .resume i outcome => i < s.before →
      ∀ s', step s (.resume i outcome) = some s' → s'.pairing = s.pairing
  | _ => True

/-- What is expected of a run. -/
def Claimed (as : List Action) : Prop :=
  Throughout step (fun s => Consistent s.pairing) initial as ∧ Along step Inert initial as

def Action.IsReset : Action → Prop
  | .reset => True
  | _ => False

/-- A reset finds no operation in flight. -/
def Careful (s : Wizard) : Action → Prop
  | .reset => s.pairing.step ≠ .idle → ∀ task ∈ s.tasks, task = .done
  | _ => True

/-- What holds as long as nothing is in flight at a reset. -/
structure Settled (s : Wizard) : Prop where
  consistent : Consistent s.pairing
  /-- Whatever is in flight was started with a device. -/
  identified : ∀ task ∈ s.tasks, task ≠ .done → Identified s.pairing
  /-- What was started before the reset is over. -/
  before : ∀ (i : Nat) (task : Task), s.tasks[i]? = some task → i < s.before → task = .done
  bound : s.before ≤ s.tasks.length

theorem identified_of_step (p : PairingState) (h : Consistent p) (step : PairingStep)
    (hstep : p.step = step) (hidle : step ≠ .idle) (herror : step ≠ .error) : Identified p :=
  h (hstep ▸ hidle) (hstep ▸ herror)

/-- An operation keeps the device the state is about. -/
theorem resume_ids (p : PairingState) (task : Task) (outcome : Outcome)
    (next : PairingState × Task) (h : resume p task outcome = some next) :
    next.1.deviceId = p.deviceId ∧ next.1.pairingCode = p.pairingCode := by
  have hclaim :
      (doClaim p).1.deviceId = p.deviceId ∧ (doClaim p).1.pairingCode = p.pairingCode := by
    unfold doClaim
    split
    · exact ⟨rfl, rfl⟩
    · exact ⟨rfl, rfl⟩
  unfold resume at h
  split at h
  -- The Wi-Fi status was read: claim or ask for the credentials.
  case h_3 =>
      split at h
      · rw [Option.some.injEq] at h
        rw [← h]
        exact hclaim
      · rw [Option.some.injEq] at h
        rw [← h]
        exact ⟨rfl, rfl⟩
  -- The device is provisioned: claim.
  case h_5 =>
      rw [Option.some.injEq] at h
      rw [← h]
      exact hclaim
  case h_17 => exact absurd h (by simp only [reduceCtorEq, not_false_eq_true])
  all_goals
    rw [Option.some.injEq] at h
    rw [← h]
    exact ⟨rfl, rfl⟩

theorem resume_done (p : PairingState) (outcome : Outcome) : resume p .done outcome = none := by
  cases outcome with
  | ok => rfl
  | wifi connected => rfl
  | failed msg => rfl

/-- A new state about the same device, as long as there was one where the step
    or something in flight asks for it. -/
theorem settled_of_ids (s : Wizard) (p : PairingState) (scanning : Bool) (h : Settled s)
    (hids : p.deviceId = s.pairing.deviceId ∧ p.pairingCode = s.pairing.pairingCode)
    (hconsistent : Consistent p) : Settled { s with pairing := p, scanning } := by
  refine ⟨hconsistent, fun task hmem htask => ?_, h.before, h.bound⟩
  have hknown := h.identified task hmem htask
  rw [Identified, ← hids.1, ← hids.2] at hknown
  exact hknown

/-- An operation starts, with the device known. -/
theorem settled_concat (s : Wizard) (task : Task) (h : Settled s) (hknown : Identified s.pairing) :
    Settled { s with tasks := s.tasks ++ [task] } := by
  refine ⟨h.consistent, fun _ _ _ => hknown, fun i other hget hlt => ?_, ?_⟩
  · rcases Processes.getElem?_concat_cases s.tasks i task other hget with hold | ⟨hi, _⟩
    · exact h.before i other hold hlt
    -- The new operation comes after the last reset.
    · exact absurd (hi ▸ hlt) (Nat.not_lt.mpr h.bound)
  · rw [List.length_append]
    exact Nat.le_trans h.bound (Nat.le_add_right _ _)

/-- An operation goes on. -/
theorem settled_put (s : Wizard) (i : Nat) (task : Task) (outcome : Outcome)
    (next : PairingState × Task) (h : Settled s) (hget : s.tasks[i]? = some task)
    (hresume : resume s.pairing task outcome = some next) : Settled (put i s next) := by
  have hflight : task ≠ .done := by
    intro hdone
    rw [hdone, resume_done] at hresume
    exact absurd hresume (by simp only [reduceCtorEq, not_false_eq_true])
  -- It was started with a device, and the device is still there.
  have hknown := h.identified task (List.mem_of_getElem? hget) hflight
  have hids := resume_ids s.pairing task outcome next hresume
  rw [Identified, ← hids.1, ← hids.2] at hknown
  refine ⟨fun _ _ => hknown, fun _ _ _ => hknown, fun j other hj hlt => ?_, ?_⟩
  · rcases Processes.getElem?_set_cases s.tasks i j next.2 other hj with ⟨hji, _⟩ | ⟨_, hold⟩
    · exact absurd (h.before i task hget (hji ▸ hlt)) hflight
    · exact h.before j other hold hlt
  · rw [put, List.length_set]
    exact h.bound

theorem consistent_fail (p : PairingState) (msg : String) : Consistent (p.fail msg) :=
  fun _ herror => absurd rfl herror

theorem step_settled (s : Wizard) (a : Action) (s' : Wizard) (h : Settled s)
    (hcareful : Careful s a) (hstep : step s a = some s') : Settled s' := by
  -- A scan, like every later step, is only offered once the device is known.
  have hoffer : ∀ offered : PairingStep, s.pairing.step = offered → offered ≠ .idle →
      offered ≠ .error → Identified s.pairing :=
    fun offered heq => identified_of_step s.pairing h.consistent offered heq
  cases a with
  | qr uri decoded =>
      rcases Option.ite_none_right_eq_some.mp hstep with ⟨hidle, heq⟩
      rw [← Option.some.inj heq, onQrDetected]
      split
      · exact settled_of_ids s _ s.scanning h ⟨rfl, rfl⟩ (consistent_fail _ _)
      · next deviceId code _ =>
          -- A code that is accepted names a device, whatever was there before.
          have hknown : Identified { s.pairing.goto .confirming with
              deviceId := some deviceId, pairingCode := some code } :=
            ⟨Option.some_ne_none deviceId, Option.some_ne_none code⟩
          exact ⟨fun _ _ => hknown, fun _ _ _ => hknown, h.before, h.bound⟩
  | startBleScan =>
      rcases Option.ite_none_right_eq_some.mp hstep with ⟨hoffered, heq⟩
      have hknown : Identified s.pairing := by
        rcases hoffered with hconfirming | hscan
        · exact hoffer _ hconfirming PairingStep.noConfusion PairingStep.noConfusion
        · exact hoffer _ hscan PairingStep.noConfusion PairingStep.noConfusion
      rw [← Option.some.inj heq]
      exact settled_of_ids s _ true h ⟨rfl, rfl⟩ (fun _ _ => hknown)
  | selectDevice d =>
      rcases Option.ite_none_right_eq_some.mp hstep with ⟨hoffered, heq⟩
      have hknown := hoffer _ hoffered.1 PairingStep.noConfusion PairingStep.noConfusion
      rw [← Option.some.inj heq]
      exact settled_concat _ .connecting (settled_of_ids s (selectDevice d s).pairing false h
        ⟨rfl, rfl⟩ (fun _ _ => hknown)) hknown
  | submitProvisioning ssid psk =>
      rcases Option.ite_none_right_eq_some.mp hstep with ⟨hoffered, heq⟩
      have hknown := hoffer _ hoffered PairingStep.noConfusion PairingStep.noConfusion
      rw [← Option.some.inj heq, submitProvisioning]
      split
      · exact settled_concat _ _ (settled_of_ids s (s.pairing.goto .claiming) s.scanning h
          ⟨rfl, rfl⟩ (fun _ _ => hknown)) hknown
      · exact h
  | skipProvisioning =>
      rcases Option.ite_none_right_eq_some.mp hstep with ⟨hoffered, heq⟩
      have hknown := hoffer _ hoffered PairingStep.noConfusion PairingStep.noConfusion
      have hids := resume_ids s.pairing (.provisioning "" "" "" "") .ok _ rfl
      have hknown' : Identified (doClaim s.pairing).1 := by
        rwa [Identified, hids.1, hids.2]
      rw [← Option.some.inj heq]
      exact settled_concat _ _
        (settled_of_ids s (doClaim s.pairing).1 s.scanning h hids (fun _ _ => hknown')) hknown'
  | finishWithAlias deviceAlias storedContent =>
      rcases Option.ite_none_right_eq_some.mp hstep with ⟨hoffered, heq⟩
      have hknown := hoffer _ hoffered PairingStep.noConfusion PairingStep.noConfusion
      rw [← Option.some.inj heq, finishWithAlias]
      split
      · exact h
      · exact settled_concat s _ h hknown
  | reset =>
      rcases Option.ite_none_right_eq_some.mp hstep with ⟨hoffered, heq⟩
      -- Nothing is in flight, so nothing asks for the device that is forgotten.
      have hover := hcareful hoffered
      rw [← Option.some.inj heq]
      refine ⟨fun hidle => absurd rfl hidle, fun task hmem htask => ?_,
        fun i task hget _ => ?_, Nat.le_refl _⟩
      · exact absurd (hover task hmem) htask
      · exact hover task (List.mem_of_getElem? hget)
  | deviceFound d =>
      rcases Option.ite_none_right_eq_some.mp hstep with ⟨_, heq⟩
      rw [← Option.some.inj heq]
      exact settled_of_ids s _ s.scanning h ⟨rfl, rfl⟩ h.consistent
  | scanError =>
      rcases Option.ite_none_right_eq_some.mp hstep with ⟨_, heq⟩
      rw [← Option.some.inj heq]
      exact settled_of_ids s _ s.scanning h ⟨rfl, rfl⟩ (consistent_fail _ _)
  | resume i outcome =>
      rcases Option.bind_eq_some_iff.mp hstep with ⟨task, hget, hrest⟩
      rcases Option.bind_eq_some_iff.mp hrest with ⟨next, hresume, hput⟩
      rw [← Option.some.inj hput]
      exact settled_put s i task outcome next h hget hresume

/-- With everything from before the reset over, nothing of it goes on. -/
theorem inert_of_settled (s : Wizard) (a : Action) (h : Settled s) : Inert s a := by
  cases a with
  | resume i outcome =>
      intro hlt s' hstep
      rw [step] at hstep
      rcases Option.bind_eq_some_iff.mp hstep with ⟨task, hget, hrest⟩
      rcases Option.bind_eq_some_iff.mp hrest with ⟨next, hresume, _⟩
      rw [h.before i task hget hlt, resume_done] at hresume
      exact absurd hresume (by simp only [reduceCtorEq, not_false_eq_true])
  | _ => trivial

theorem settled_initial : Settled initial :=
  ⟨fun hidle => absurd rfl hidle, fun task hmem => absurd hmem List.not_mem_nil,
    fun _ _ hget => absurd hget (by simp only [initial, List.getElem?_nil, reduceCtorEq,
      not_false_eq_true]), Nat.le_refl _⟩

theorem claimed_of_careful (as : List Action) (h : Along step Careful initial as) : Claimed as :=
  ⟨throughout_of_along step Careful Settled _ step_settled (fun _ hs => hs.consistent) as initial
      settled_initial h,
    along_of_invariant step Careful Inert Settled step_settled
      (fun s a hs _ => inert_of_settled s a hs) as initial settled_initial h⟩

theorem careful_of_not_isReset (s : Wizard) (a : Action) (h : ¬a.IsReset) : Careful s a := by
  cases a with
  | reset => exact absurd trivial h
  | _ => trivial

/-- However things go on until the next reset, what was started before the last
    one leaves the state alone. -/
def Unmoved (s : Wizard) : Prop :=
  ∀ bs : List Action, (∀ b ∈ bs, ¬ b.IsReset) → Along step Inert s bs

theorem unmoved_resume (s : Wizard) (i : Nat) (task : Task) (outcome : Outcome)
    (next : PairingState × Task) (h : Unmoved s) (hlt : i < s.before)
    (hget : s.tasks[i]? = some task) (hresume : resume s.pairing task outcome = some next) :
    next.1 = s.pairing ∧ Unmoved (put i s next) := by
  have hstep : step s (.resume i outcome) = some (put i s next) := by
    simp only [step, hget, hresume, Option.bind_eq_bind, Option.bind_some, Option.pure_def]
  have hsteady : ∀ b ∈ [Action.resume i outcome], ¬ b.IsReset := by
    intro b hb
    rw [List.mem_singleton.mp hb]
    exact fun hreset => hreset
  refine ⟨(h [.resume i outcome] hsteady).1 hlt _ hstep, fun bs hbs => ?_⟩
  have hall := h (.resume i outcome :: bs) (fun b hb => ?_)
  · exact ((along_cons step Inert s _ _ bs hstep).mp hall).2
  · rcases List.mem_cons.mp hb with heq | hin
    · rw [heq]
      exact fun hreset => hreset
    · exact hbs b hin

theorem storeContent_cases (deviceId deviceAlias : String) (storedContent : Option String) :
    (∃ content, storeContent deviceId deviceAlias storedContent =
      .storing deviceId deviceAlias content) ∨
    storeContent deviceId deviceAlias storedContent = .finishing deviceAlias storedContent := by
  cases storedContent with
  | none => exact Or.inr rfl
  | some content =>
      by_cases hcontent : trim content ≠ ""
      · exact Or.inl ⟨content, if_pos hcontent⟩
      · exact Or.inr (if_neg hcontent)

/-- The end of the naming goes to the success step, from whatever step. -/
theorem unmoved_finishing (s : Wizard) (i : Nat) (deviceAlias : String)
    (storedContent : Option String) (h : Unmoved s) (hlt : i < s.before)
    (hidle : s.pairing.step = .idle) :
    s.tasks[i]? ≠ some (.finishing deviceAlias storedContent) := by
  intro hget
  have hsame := (unmoved_resume s i _ .ok _ h hlt hget rfl).1
  rw [← hsame] at hidle
  exact absurd hidle PairingStep.noConfusion

/-- An update of the content that goes through leads there. -/
theorem unmoved_storing (s : Wizard) (i : Nat) (deviceId deviceAlias storedContent : String)
    (h : Unmoved s) (hlt : i < s.before) (hidle : s.pairing.step = .idle) :
    s.tasks[i]? ≠ some (.storing deviceId deviceAlias storedContent) := by
  intro hget
  have hnext := (unmoved_resume s i _ .ok _ h hlt hget rfl).2
  exact unmoved_finishing _ i deviceAlias (some storedContent) hnext hlt hidle
    (Processes.getElem?_set_of_some s.tasks i _ _ hget)

/-- An operation in flight at a reset can set the state of the wizard that has
    been reset: it fails, or, where it is about the name, it goes through. -/
theorem resume_inert (s : Wizard) (i : Nat) (h : Unmoved s) (hlt : i < s.before)
    (hidle : s.pairing.step = .idle) (task : Task) (hget : s.tasks[i]? = some task) :
    task = .done := by
  -- Everything before the naming shows an error where it fails.
  have herror : ∀ outcome p, resume s.pairing task outcome = some p → p.1.step = .error →
      task = .done := by
    intro outcome p hresume herror
    have hsame := (unmoved_resume s i task outcome p h hlt hget hresume).1
    rw [hsame, hidle] at herror
    exact absurd herror PairingStep.noConfusion
  cases task with
  | connecting => exact herror (.failed "") _ rfl rfl
  | readingWifi => exact herror (.failed "") _ rfl rfl
  | provisioning deviceId pairingCode ssid psk => exact herror (.failed "") _ rfl rfl
  | claiming deviceId pairingCode => exact herror (.failed "") _ rfl rfl
  | syncing => exact herror (.failed "") _ rfl rfl
  | settingAlias deviceId deviceAlias storedContent =>
      have hnext := (unmoved_resume s i _ .ok _ h hlt hget rfl).2
      have hput : (put i s (s.pairing, storeContent deviceId deviceAlias storedContent)).tasks[i]? =
          some (storeContent deviceId deviceAlias storedContent) :=
        Processes.getElem?_set_of_some s.tasks i _ _ hget
      -- After the rename comes the content, if there is any, and then the sync.
      rcases storeContent_cases deviceId deviceAlias storedContent with ⟨content, hstore⟩ | hfinish
      · rw [hstore] at hput hnext
        exact absurd hput (unmoved_storing _ i _ _ _ hnext hlt hidle)
      · rw [hfinish] at hput hnext
        exact absurd hput (unmoved_finishing _ i _ _ hnext hlt hidle)
  | storing deviceId deviceAlias storedContent =>
      exact absurd hget (unmoved_storing s i _ _ _ h hlt hidle)
  | finishing deviceAlias storedContent =>
      exact absurd hget (unmoved_finishing s i _ _ h hlt hidle)
  | done => rfl

/-- A run in which every reset finds nothing in flight is as expected, and so is
    whatever follows any of its initial segments until another reset. With any
    other run, something can go wrong that way. -/
theorem pairing_consistent (as : List Action) : Along step Careful initial as ↔
    ∀ (m : Nat) (bs : List Action), (∀ b ∈ bs, ¬ b.IsReset) → Claimed (as.take m ++ bs) := by
  constructor
  · intro hcareful m bs hbs
    refine claimed_of_careful _ (along_append_of step Careful _ bs (fun t => ?_) initial
      (along_take step Careful as m initial hcareful))
    exact along_of_steps step Careful bs t (fun k b u hb _ =>
      careful_of_not_isReset u b (hbs b (List.mem_of_getElem? hb)))
  · intro hall
    refine along_of_steps step Careful as initial (fun m a t ha hrun => ?_)
    cases a with
    | reset =>
        intro hoffered task hmem
        rcases List.getElem?_of_mem hmem with ⟨i, hget⟩
        have hstep : step t .reset = some (reset t) := by
          rw [step, if_pos hoffered]
        have hseg : as.take (m + 1) = as.take m ++ [.reset] := by
          rw [List.take_add_one, ha]
          rfl
        have hreach : run step initial (as.take (m + 1)) = some (reset t) := by
          rw [hseg]
          exact (run_concat step initial (reset t) (as.take m) .reset).mpr ⟨t, hrun, hstep⟩
        -- After the reset, nothing that was in flight may set the state.
        have hunmoved : Unmoved (reset t) := fun bs hbs =>
          ((along_append step Inert initial (reset t) _ bs hreach).mp (hall (m + 1) bs hbs).2).2
        exact resume_inert (reset t) i hunmoved (List.getElem?_eq_some_iff.mp hget).1 rfl task hget
    | _ => exact careful_of_not_isReset t _ id

def found : DiscoveredVenaDevice := ⟨"aa", "Vena", -60⟩

/-- The user goes back while the wizard connects, and it turns out that the
    device has no Wi-Fi: the wizard asks for the credentials of a device it does
    not know any more. -/
theorem pairing_overtaken : ¬ ∀ as : List Action, Claimed as := by
  intro hall
  have hend := throughout_last step _ [.qr (some ⟨"vena", "vena-abc1", [], some "A1B2C3D4"⟩) none,
    .startBleScan, .deviceFound found, .selectDevice found, .reset, .resume 0 .ok,
    .resume 0 (.wifi (some false))] initial _ (hall _).1 rfl
  exact absurd rfl (hend PairingStep.noConfusion PairingStep.noConfusion).1

end Pairing

end Mobile

end Vena
