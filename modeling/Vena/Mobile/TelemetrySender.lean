import Vena.Mobile.BleService

/-!
# Who telemetry over BLE is attributed to

A notification is attributed to `_logicalDeviceId`, a field that the last read
of a `device_info` has set, whichever board that was, and that neither a
disconnect nor a failed read clears. The subscription knows the board it belongs
to, but uses that only where the field is null. `telemetry_attributed` states
when the two go together: at the moment a subscription is made, and at the
moment a read completes while one is there.

## Main definitions

* `Belongs`: An id is the board's own.
* `Attributed`: All telemetry so far has an id of its sender.
* `Careful`: A subscription is made with an id of its board, and no read changes
  that.

## Theorems

* `step_cases`: What a step can do.
* `step_matched`, `careless_breaks`: Careful steps keep the id and the
  subscription together, and no others do.
* `telemetry_attributed`: Careful runs, and no others, attribute whatever is
  notified.
* `telemetry_misattributed`: A run that does not.
-/

namespace Vena

namespace Mobile

namespace BleService

open Run

/-- The id is the board's logical id or its BLE id. -/
def Belongs (own : String → String) (bleDeviceId id : String) : Prop :=
  id = own bleDeviceId ∨ id = bleDeviceId

instance (own : String → String) (bleDeviceId id : String) :
    Decidable (Belongs own bleDeviceId id) := inferInstanceAs (Decidable (_ ∨ _))

/-- All telemetry so far has an id of the board that sent it. -/
def Attributed (own : String → String) (s : Service) : Prop :=
  ∀ e ∈ s.emitted, Belongs own e.sender e.deviceId

/-- `_onConnected` gets to subscribe while `_logicalDeviceId` is null or an id
    of its board, and a read that completes while a board is subscribed to
    yields an id of that board. -/
def Careful (own : String → String) (s : Service) : Action → Prop
  | .subscribe i => ∀ bleDeviceId : String, s.tasks[i]? = some (.subscribing bleDeviceId) →
      ∀ id ∈ s.logicalDeviceId, Belongs own bleDeviceId id
  | .read i .id => ∀ (target : String) (next : Option String),
      s.tasks[i]? = some (.reading target next) →
      ∀ bleDeviceId ∈ s.notifySub, Belongs own bleDeviceId (own target)
  | _ => True

/-- A notification that comes now is attributed to its sender. -/
def Matched (own : String → String) (s : Service) : Prop :=
  ∀ bleDeviceId ∈ s.notifySub, ∀ id ∈ s.logicalDeviceId, Belongs own bleDeviceId id

/-- What a step does to the three fields that matter: the subscription, the id
    and the telemetry. -/
theorem step_cases (own : String → String) (s : Service) (a : Action) (s' : Service)
    (hstep : step own s a = some s') :
    (∃ i bleDeviceId, a = .subscribe i ∧ s.tasks[i]? = some (.subscribing bleDeviceId) ∧
      s'.notifySub = some bleDeviceId ∧ s'.logicalDeviceId = s.logicalDeviceId ∧
      s'.emitted = s.emitted) ∨
    (∃ i info target next, a = .read i info ∧ s.tasks[i]? = some (.reading target next) ∧
      s'.notifySub = s.notifySub ∧
      s'.logicalDeviceId = readInfo own target s.logicalDeviceId info ∧
      s'.emitted = s.emitted) ∨
    (∃ bleDeviceId, a = .notify ∧ s.notifySub = some bleDeviceId ∧ s' = notified bleDeviceId s) ∨
    ((s'.notifySub = s.notifySub ∨ s'.notifySub = none) ∧
      s'.logicalDeviceId = s.logicalDeviceId ∧ s'.emitted = s.emitted) := by
  cases a with
  | connectToDevice bleDeviceId =>
      rw [step, Option.some.injEq] at hstep
      rw [← hstep]
      exact Or.inr (Or.inr (Or.inr ⟨Or.inl rfl, rfl, rfl⟩))
  | disconnectDevice =>
      rw [step, Option.some.injEq] at hstep
      rw [← hstep]
      exact Or.inr (Or.inr (Or.inr ⟨Or.inr rfl, rfl, rfl⟩))
  | readDeviceId =>
      rw [step, Option.some.injEq] at hstep
      rw [← hstep]
      exact Or.inr (Or.inr (Or.inr ⟨Or.inl rfl, rfl, rfl⟩))
  -- The three callbacks find nobody to call once the subscription is cancelled.
  | connected =>
      rw [step] at hstep
      split at hstep
      · exact absurd hstep (by simp only [reduceCtorEq, not_false_eq_true])
      · rw [Option.some.injEq] at hstep
        rw [← hstep]
        exact Or.inr (Or.inr (Or.inr ⟨Or.inl rfl, rfl, rfl⟩))
  | disconnected =>
      rw [step] at hstep
      split at hstep
      · exact absurd hstep (by simp only [reduceCtorEq, not_false_eq_true])
      · rw [Option.some.injEq] at hstep
        rw [← hstep]
        exact Or.inr (Or.inr (Or.inr ⟨Or.inl rfl, rfl, rfl⟩))
  | connectionError =>
      rw [step] at hstep
      split at hstep
      · exact absurd hstep (by simp only [reduceCtorEq, not_false_eq_true])
      · rw [Option.some.injEq] at hstep
        rw [← hstep]
        exact Or.inr (Or.inr (Or.inr ⟨Or.inl rfl, rfl, rfl⟩))
  | negotiated i =>
      rw [step] at hstep
      split at hstep
      · rw [Option.some.injEq] at hstep
        rw [← hstep]
        exact Or.inr (Or.inr (Or.inr ⟨Or.inl rfl, rfl, rfl⟩))
      · exact absurd hstep (by simp only [reduceCtorEq, not_false_eq_true])
  | read i info =>
      rw [step] at hstep
      split at hstep
      · next target next hget =>
          rw [Option.some.injEq] at hstep
          rw [← hstep]
          exact Or.inr (Or.inl ⟨i, info, target, next, rfl, hget, rfl, rfl, rfl⟩)
      · exact absurd hstep (by simp only [reduceCtorEq, not_false_eq_true])
  | subscribe i =>
      rw [step] at hstep
      split at hstep
      · next bleDeviceId hget =>
          rw [Option.some.injEq] at hstep
          rw [← hstep]
          exact Or.inl ⟨i, bleDeviceId, rfl, hget, rfl, rfl, rfl⟩
      · exact absurd hstep (by simp only [reduceCtorEq, not_false_eq_true])
  | notify =>
      rw [step] at hstep
      split at hstep
      · exact absurd hstep (by simp only [reduceCtorEq, not_false_eq_true])
      · next bleDeviceId hsub =>
          rw [Option.some.injEq] at hstep
          exact Or.inr (Or.inr (Or.inl ⟨bleDeviceId, rfl, hsub, hstep.symm⟩))

theorem step_matched (own : String → String) (s : Service) (a : Action) (s' : Service)
    (h : Matched own s) (hcareful : Careful own s a) (hstep : step own s a = some s') :
    Matched own s' := by
  intro bleDeviceId hsub id hid
  rw [Option.mem_def] at hsub hid
  rcases step_cases own s a s' hstep with ⟨i, board, ha, hget, hsub', hid', _⟩ |
    ⟨i, info, target, next, ha, hget, hsub', hid', _⟩ | ⟨board, ha, _, hs'⟩ | ⟨hsub', hid', _⟩
  · -- The new subscription meets the id that is there.
    rw [ha] at hcareful
    rw [hsub', Option.some.injEq] at hsub
    rw [hid'] at hid
    rw [← hsub]
    exact hcareful board hget id hid
  · rw [hsub'] at hsub
    rw [hid'] at hid
    cases info with
    | id =>
        -- The new id meets the subscription that is there.
        rw [ha] at hcareful
        rw [readInfo, Option.some.injEq] at hid
        rw [← hid]
        exact hcareful target next hget bleDeviceId hsub
    -- Without an id, notifications carry the BLE id, which is the board's own.
    | absent => exact absurd hid (by simp only [readInfo, reduceCtorEq, not_false_eq_true])
    | failed => exact h bleDeviceId hsub id hid
  · rw [hs'] at hsub hid
    exact h bleDeviceId hsub id hid
  · rw [hid'] at hid
    rcases hsub' with hsame | hnone
    · rw [hsame] at hsub
      exact h bleDeviceId hsub id hid
    · rw [hnone] at hsub
      exact absurd hsub (by simp only [reduceCtorEq, not_false_eq_true])

/-- A careless step is one that parts the id and the subscription. -/
theorem careless_breaks (own : String → String) (s : Service) (a : Action)
    (hcareless : ¬ Careful own s a) : ∃ s', step own s a = some s' ∧ ¬ Matched own s' := by
  cases a with
  | subscribe i =>
      simp only [Careful, not_forall] at hcareless
      rcases hcareless with ⟨bleDeviceId, hget, id, hid, hother⟩
      refine ⟨{ s with notifySub := some bleDeviceId, tasks := s.tasks.set i .done },
        by simp only [step, hget], fun hmatched => hother ?_⟩
      exact hmatched bleDeviceId rfl id hid
  | read i info =>
      cases info with
      | id =>
          simp only [Careful, not_forall] at hcareless
          rcases hcareless with ⟨target, next, hget, bleDeviceId, hsub, hother⟩
          refine ⟨{ s with
              logicalDeviceId := readInfo own target s.logicalDeviceId .id
              tasks := s.tasks.set i (afterRead next) },
            by simp only [step, hget], fun hmatched => hother ?_⟩
          exact hmatched bleDeviceId hsub (own target) rfl
      | absent => exact absurd trivial hcareless
      | failed => exact absurd trivial hcareless
  | connectToDevice bleDeviceId => exact absurd trivial hcareless
  | disconnectDevice => exact absurd trivial hcareless
  | readDeviceId => exact absurd trivial hcareless
  | connected => exact absurd trivial hcareless
  | disconnected => exact absurd trivial hcareless
  | connectionError => exact absurd trivial hcareless
  | negotiated i => exact absurd trivial hcareless
  | notify => exact absurd trivial hcareless

theorem belongs_notified (own : String → String) (s : Service) (bleDeviceId : String) :
    (∀ id ∈ s.logicalDeviceId, Belongs own bleDeviceId id) ↔
      Belongs own bleDeviceId (s.logicalDeviceId.getD bleDeviceId) := by
  cases s.logicalDeviceId with
  | none => exact ⟨fun _ => Or.inr rfl, fun _ id hid => absurd hid (Option.not_mem_none id)⟩
  | some logical =>
      refine ⟨fun h => h logical rfl, fun h id hid => ?_⟩
      rw [Option.mem_def, Option.some.injEq] at hid
      rwa [← hid]

/-- Only a notification adds telemetry. -/
theorem step_attributed (own : String → String) (s : Service) (a : Action) (s' : Service)
    (h : Attributed own s) (hmatched : Matched own s) (hstep : step own s a = some s') :
    Attributed own s' := by
  rcases step_cases own s a s' hstep with ⟨_, _, _, _, _, _, hsame⟩ |
    ⟨_, _, _, _, _, _, _, _, hsame⟩ | ⟨bleDeviceId, _, hsub, hs'⟩ | ⟨_, _, hsame⟩
  · rwa [Attributed, hsame]
  · rwa [Attributed, hsame]
  · rw [hs']
    intro e he
    rcases List.mem_append.mp he with hold | hnew
    · exact h e hold
    · rw [List.mem_singleton.mp hnew]
      exact (belongs_notified own s bleDeviceId).mp (hmatched bleDeviceId hsub)
  · rwa [Attributed, hsame]

/-- A run of careful steps attributes all telemetry to its sender, whatever is
    notified at any point of it. In any other run, something can be notified at
    some point that is attributed to another board. -/
theorem telemetry_attributed (own : String → String) (as : List Action) :
    Along (step own) (Careful own) initial as ↔
      ∀ (m : Nat) (bs : List Action), (∀ b ∈ bs, b = .notify) →
        Throughout (step own) (Attributed own) initial (as.take m ++ bs) := by
  have hinitial : Matched own initial := fun bleDeviceId hsub =>
    absurd hsub (Option.not_mem_none bleDeviceId)
  constructor
  · intro hcareful m bs hbs
    refine throughout_of_along (step own) (Careful own)
      (fun s => Attributed own s ∧ Matched own s) (Attributed own)
      (fun s a s' hs hC hstep => ⟨step_attributed own s a s' hs.1 hs.2 hstep,
        step_matched own s a s' hs.2 hC hstep⟩)
      (fun s hs => hs.1) _ initial ⟨fun e he => absurd he List.not_mem_nil, hinitial⟩ ?_
    refine along_append_of (step own) (Careful own) _ bs (fun t => ?_) initial
      (along_take (step own) (Careful own) as m initial hcareful)
    -- A notification is always careful.
    refine along_of_steps (step own) (Careful own) bs t (fun k b u hb _ => ?_)
    rw [hbs b (List.mem_of_getElem? hb)]
    trivial
  · intro hall
    refine (throughout_iff_along (step own) (Careful own) (Matched own) (step_matched own)
      (fun s a _ hcareless => careless_breaks own s a hcareless) as initial hinitial).mp ?_
    refine throughout_of_states (step own) (Matched own) as initial (fun m t hrun => ?_)
    -- Whoever is subscribed to may notify right now.
    intro bleDeviceId hsub
    rw [Option.mem_def] at hsub
    have hnotify : step own t .notify = some (notified bleDeviceId t) := by
      simp only [step, hsub]
    have hattributed := throughout_last (step own) (Attributed own) _ initial _
      (hall m [.notify] (fun b hb => List.mem_singleton.mp hb))
      ((run_concat (step own) initial _ (as.take m) .notify).mpr ⟨t, hrun, hnotify⟩)
    exact (belongs_notified own t bleDeviceId).mpr
      (hattributed _ (List.mem_append_right _ (List.mem_singleton.mpr rfl)))

/-- The phone has been connected to one board, and the read of the next one
    fails: its telemetry is attributed to the first. -/
theorem telemetry_misattributed : ¬ ∀ (own : String → String) (as : List Action),
    Throughout (step own) (Attributed own) initial as := by
  intro hall
  have hattributed := throughout_last _ _ [.connectToDevice "aa", .connected, .negotiated 0,
    .read 0 .id, .subscribe 0, .disconnectDevice, .connectToDevice "bb", .connected, .negotiated 1,
    .read 1 .failed, .subscribe 1, .notify] initial _
    (hall (fun bleDeviceId => "vena-" ++ bleDeviceId) _) rfl
  exact absurd (hattributed ⟨"bb", "vena-aa"⟩ (by decide)) (by decide)

end BleService

end Mobile

end Vena
