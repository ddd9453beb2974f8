import Vena.Mobile.Monitoring

/-!
# Devices left to nobody

The converse of the careful sessions. A step that is not careful leaves a device
of the table out of the service's list and out of every list that will still be
handed over. Nothing but a further login makes up for it: once the calls in
flight have ended and the service has dialled again, the new client has the
list and the device is not on it.

## Main definitions

* `Known`: Nothing but devices of the table is handed over, and no topic belongs
  to a client to come.
* `inFlight`: How many calls have not ended.

## Theorems

* `known_step`: `Known` holds of every session.
* `uncovered_of_careless`: What a careless step breaks.
* `settles`, `redials`: The calls end and the service dials again.
* `careless_shows`: The device is there and not subscribed to.
-/

namespace Vena

namespace Mobile

namespace Monitoring

open Run DeviceList DeviceSync
open MqttService (Service isConnected kept_step connack_step)

structure Known (s : Session) : Prop where
  list : ∀ id ∈ s.service.deviceIds, id ∈ getAllDeviceIds s.table
  answers : ∀ c ∈ s.calls, ∀ answer ∈ c.stage.answer, ∀ id ∈ answer, id ∈ getAllDeviceIds s.table
  topics : ∀ p ∈ s.subscriptions, p.1 < s.service.clients.length

theorem known_login (table : LocalDevices) : Known (login table) where
  list := fun _ hid => absurd hid List.not_mem_nil
  answers := by
    intro c hc answer hanswer
    rw [List.mem_singleton.mp hc] at hanswer
    exact absurd hanswer (Option.not_mem_none answer)
  topics := fun _ hp => absurd hp List.not_mem_nil

theorem length_step (s s' : Service) (a : MqttService.Action)
    (hstep : MqttService.step s a = some s') (hsubscribe : ∀ ids, a ≠ .subscribe ids) :
    s.clients.length ≤ s'.clients.length := by
  by_cases hconnack : ∃ k, a = .connack k
  · rcases hconnack with ⟨k, rfl⟩
    rw [(connack_step s s' k hstep).2.2, List.length_set]
  · exact (kept_step s a s' hstep (fun k heq => hconnack ⟨k, heq⟩) hsubscribe).length

/-- The new topics are those of the list, for the client that is held. -/
theorem mem_doSubscribe (s : Service) (deviceIds : List String) (subs : Subscriptions)
    (p : Nat × String) (h : p ∈ doSubscribe s deviceIds subs) :
    p ∈ subs ∨ (s.client = some p.1 ∧ p.1 < s.clients.length ∧
      ∃ id ∈ deviceIds, p.2 = telemetryTopic id ∨ p.2 = statusTopic id) := by
  unfold doSubscribe at h
  split at h
  · exact Or.inl h
  · next k hclient =>
      split at h
      · next hconnected =>
          rcases List.mem_append.mp h with hold | hnew
          · exact Or.inl hold
          · rcases List.mem_flatMap.mp hnew with ⟨id, hid, hp⟩
            have hk : s.clients[k]? = some .connected := by
              unfold isConnected at hconnected
              rw [hclient] at hconnected
              exact beq_iff_eq.mp hconnected
            have hlt : k < s.clients.length := (List.getElem?_eq_some_iff.mp hk).1
            rcases List.mem_cons.mp hp with rfl | hp
            · exact Or.inr ⟨hclient, hlt, id, hid, Or.inl rfl⟩
            · rw [List.mem_singleton.mp hp]
              exact Or.inr ⟨hclient, hlt, id, hid, Or.inr rfl⟩
      · exact Or.inl h

theorem topics_doSubscribe (s : Service) (deviceIds : List String) (subs : Subscriptions)
    (h : ∀ p ∈ subs, p.1 < s.clients.length) :
    ∀ p ∈ doSubscribe s deviceIds subs, p.1 < s.clients.length := by
  intro p hp
  rcases mem_doSubscribe s deviceIds subs p hp with hold | ⟨_, hlt, _⟩
  · exact h p hold
  · exact hlt

theorem topics_resubscribe (a : MqttService.Action) (s : Service) (subs : Subscriptions)
    (h : ∀ p ∈ subs, p.1 < s.clients.length) :
    ∀ p ∈ resubscribe a s subs, p.1 < s.clients.length := by
  unfold resubscribe
  split
  · exact topics_doSubscribe s s.deviceIds subs h
  · exact h

theorem answer_store (caller : Caller) (devices : List DeviceDto) :
    (store caller devices).answer = none := by
  cases devices with
  | nil =>
      cases caller with
      | postLoginSetup => rfl
      | devicesScreen => rfl
      | claimDevice => rfl
      | doClaim => rfl
      | finishWithAlias => rfl
  | cons dto devices => rfl

/-- The answer of a call that moves is the table's, or there is none. -/
theorem answer_move (table : LocalDevices) (c : Call) (m : Move) (stage : Stage)
    (table' : LocalDevices) (hmove : move table c m = some (stage, table')) :
    stage.answer = none ∨ stage = .answered (getAllDeviceIds table) := by
  unfold move at hmove
  split at hmove
  · rw [Option.some.injEq, Prod.mk.injEq] at hmove
    exact Or.inl (hmove.1 ▸ rfl)
  · rw [Option.some.injEq, Prod.mk.injEq] at hmove
    exact Or.inl (hmove.1 ▸ answer_store _ _)
  · rw [Option.some.injEq, Prod.mk.injEq] at hmove
    exact Or.inl (hmove.1 ▸ answer_store _ _)
  · rw [Option.some.injEq, Prod.mk.injEq] at hmove
    exact Or.inr hmove.1.symm
  · rw [Option.some.injEq, Prod.mk.injEq] at hmove
    exact Or.inl (hmove.1 ▸ rfl)
  · rw [Option.some.injEq, Prod.mk.injEq] at hmove
    exact Or.inl (hmove.1 ▸ answer_store _ [])
  · rw [Option.some.injEq, Prod.mk.injEq] at hmove
    exact Or.inl (hmove.1 ▸ answer_store _ [])
  · rw [Option.some.injEq, Prod.mk.injEq] at hmove
    exact Or.inl (hmove.1 ▸ rfl)
  · exact absurd hmove (by simp only [reduceCtorEq, not_false_eq_true])

/-- The table forgets no device. -/
theorem ids_move (table : LocalDevices) (c : Call) (m : Move) (stage : Stage)
    (table' : LocalDevices) (hmove : move table c m = some (stage, table')) (id : String)
    (hid : id ∈ getAllDeviceIds table) : id ∈ getAllDeviceIds table' := by
  rcases table_move table c m stage table' hmove with ⟨_, rfl⟩ | ⟨dto, devices, _, _, _, rfl⟩
  · exact hid
  · exact (mem_upsertDevice table dto id).mpr (Or.inl hid)

theorem known_move (s : Session) (i : Nat) (m : Move) (c : Call) (stage : Stage)
    (table : LocalDevices) (h : Known s)
    (hmove : move s.table c m = some (stage, table)) :
    Known { s with table, calls := s.calls.set i { c with stage } } := by
  have hids := ids_move s.table c m stage table hmove
  refine ⟨fun id hid => hids id (h.list id hid), fun d hd answer hanswer id hid => ?_, h.topics⟩
  rcases List.mem_or_eq_of_mem_set hd with hold | rfl
  · exact hids id (h.answers d hold answer hanswer id hid)
  · rcases answer_move s.table c m stage table hmove with hnone | rfl
    · rw [hnone] at hanswer
      exact absurd hanswer (Option.not_mem_none answer)
    · rw [Stage.answer, Option.mem_some_iff] at hanswer
      rw [← hanswer] at hid
      exact hids id hid

theorem known_subscribe (s : Session) (i : Nat) (caller : Caller) (answer : List String)
    (h : Known s) (hget : s.calls[i]? = some ⟨caller, .answered answer⟩) :
    Known (subscribe answer { s with calls := s.calls.set i ⟨caller, .done⟩ }) := by
  refine ⟨fun id hid => ?_, fun d hd answer' hanswer id hid => ?_, fun p hp => ?_⟩
  · rw [deviceIds_subscribe] at hid
    exact h.answers _ (List.mem_of_getElem? hget) answer rfl id hid
  · rcases List.mem_or_eq_of_mem_set hd with hold | rfl
    · exact h.answers d hold answer' hanswer id hid
    · exact absurd hanswer (Option.not_mem_none answer')
  · have hclients := (connect_fields { s.service with deviceIds := answer }).2.2
    have hlt := topics_doSubscribe s.service answer s.subscriptions h.topics p hp
    exact Nat.lt_of_lt_of_eq hlt (congrArg List.length hclients.symm)

theorem known_step (s : Session) (a : Action) (s' : Session) (h : Known s)
    (hstep : step s a = some s') : Known s' := by
  cases a with
  | call caller =>
      rw [step, Option.some.injEq] at hstep
      rw [← hstep]
      refine ⟨h.list, fun c hc answer hanswer => ?_, h.topics⟩
      rcases List.mem_append.mp hc with hold | hnew
      · exact h.answers c hold answer hanswer
      · rw [List.mem_singleton.mp hnew] at hanswer
        cases caller with
        | postLoginSetup => exact absurd hanswer (Option.not_mem_none answer)
        | devicesScreen => exact absurd hanswer (Option.not_mem_none answer)
        | claimDevice => exact absurd hanswer (Option.not_mem_none answer)
        | doClaim => exact absurd hanswer (Option.not_mem_none answer)
        | finishWithAlias => exact absurd hanswer (Option.not_mem_none answer)
  | move i m =>
      rw [step] at hstep
      split at hstep
      · next c _ =>
          rcases Option.map_eq_some_iff.mp hstep with ⟨⟨stage, table⟩, hmove, rfl⟩
          exact known_move s i m c stage table h hmove
      · exact absurd hstep (by simp only [reduceCtorEq, not_false_eq_true])
  | subscribe i =>
      rw [step] at hstep
      split at hstep
      · next caller answer hget =>
          rw [Option.some.injEq] at hstep
          rw [← hstep]
          exact known_subscribe s i caller answer h hget
      · exact absurd hstep (by simp only [reduceCtorEq, not_false_eq_true])
  | updateAlias deviceId deviceAlias =>
      rw [step, Option.some.injEq] at hstep
      rw [← hstep]
      have hids := ids_updateAlias s.table deviceId deviceAlias
      exact ⟨hids.symm ▸ h.list, hids.symm ▸ h.answers, h.topics⟩
  | updateStoredContent deviceId content =>
      rw [step, Option.some.injEq] at hstep
      rw [← hstep]
      have hids := ids_updateStoredContent s.table deviceId content
      exact ⟨hids.symm ▸ h.list, hids.symm ▸ h.answers, h.topics⟩
  | service a =>
      rcases service_step s s' a hstep with ⟨hsubscribe, service, hservice, rfl⟩
      have hlength := length_step s.service service a hservice hsubscribe
      refine ⟨fun id hid => h.list id ?_, h.answers, ?_⟩
      · exact (deviceIds_step s.service service a hservice hsubscribe) ▸ hid
      · exact topics_resubscribe a service s.subscriptions
          (fun p hp => Nat.lt_of_lt_of_le (h.topics p hp) hlength)

theorem not_covers_done (deviceIds : List String) (caller : Caller) :
    ¬ Covers deviceIds ⟨caller, .done⟩ :=
  fun h => absurd (setup_of_covers deviceIds _ h rfl).2 Bool.false_ne_true

/-- Where call `i` has ended and all is covered, it left nothing to nobody. -/
theorem leftTo_of_covered (s s' : Session) (i : Nat) (caller : Caller) (h : Covered s')
    (htable : s'.table = s.table) (hcalls : s'.calls = s.calls.set i ⟨caller, .done⟩) :
    LeftTo i s'.service.deviceIds s := by
  unfold Covered at h
  rw [htable, hcalls] at h
  refine h.imp_right (fun ⟨d, hd, hcovers⟩ => ?_)
  rcases List.getElem?_of_mem hd with ⟨j, hj⟩
  rcases Processes.getElem?_set_cases s.calls i j _ d hj with ⟨_, rfl⟩ | ⟨hne, hold⟩
  · exact absurd hcovers (not_covers_done _ caller)
  · exact ⟨d, List.mem_eraseIdx_iff_getElem?.mpr ⟨j, hne, hold⟩, hcovers⟩

/-- A new device that no setup will find is on no list. -/
theorem uncovered_upsert (s : Session) (i : Nat) (caller : Caller) (dto : DeviceDto)
    (devices : List DeviceDto) (h : Known s)
    (hget : s.calls[i]? = some ⟨caller, .storing (dto :: devices)⟩)
    (hnew : dto.deviceId ∉ getAllDeviceIds s.table) (hnone : ¬ ∃ c ∈ s.calls, Ahead c) :
    ¬ Covered { s with
      table := upsertDevice s.table dto
      calls := s.calls.set i ⟨caller, store caller devices⟩ } := by
  have hid : dto.deviceId ∈ getAllDeviceIds (upsertDevice s.table dto) :=
    (mem_upsertDevice s.table dto dto.deviceId).mpr (Or.inr rfl)
  rintro (hall | ⟨d, hd, hcovers⟩)
  · exact hnew (h.list dto.deviceId (hall dto.deviceId hid))
  · rcases List.mem_or_eq_of_mem_set hd with hold | rfl
    · rcases hcovers with hahead | ⟨answer, hanswer, hall⟩
      · exact hnone ⟨d, hold, hahead⟩
      · exact hnew (h.answers d hold answer hanswer dto.deviceId (hall dto.deviceId hid))
    -- The call that stored it is no setup, or it would be ahead itself.
    · have hsetup := setup_of_covers _ _ hcovers (answer_store caller devices)
      exact hnone ⟨_, List.mem_of_getElem? hget, hsetup.1, rfl⟩

theorem uncovered_of_careless (s : Session) (a : Action) (s' : Session) (h : Known s)
    (hcareless : ¬ Careful s a) (hstep : step s a = some s') : ¬ Covered s' := by
  cases a with
  | move i m =>
      rw [step] at hstep
      split at hstep
      · next c hget =>
          rcases Option.map_eq_some_iff.mp hstep with ⟨⟨stage, table⟩, hmove, rfl⟩
          cases m with
          -- Only an insert, a query that fails and a subscription can be careless.
          | upsert =>
              rcases table_move s.table c .upsert stage table hmove with
                ⟨hnot, _⟩ | ⟨dto, devices, _, hstoring, rfl, rfl⟩
              · exact absurd rfl hnot
              rcases c with ⟨caller, stage₀⟩
              have hstoring' : stage₀ = .storing (dto :: devices) := hstoring
              rw [hstoring'] at hget
              rw [careful_upsert s i caller dto devices hget, not_or] at hcareless
              exact uncovered_upsert s i caller dto devices h hget hcareless.1 hcareless.2
          | fail =>
              rcases c with ⟨caller, stage₀⟩
              cases stage₀ with
              | querying =>
                  rw [careful_fail s i caller hget] at hcareless
                  rw [move, Option.some.injEq, Prod.mk.injEq] at hmove
                  rcases hmove with ⟨rfl, rfl⟩
                  intro hcovered
                  exact hcareless (leftTo_of_covered s
                    { s with calls := s.calls.set i ⟨caller, .done⟩ } i caller hcovered rfl rfl)
              | before => exact absurd (by simp only [Careful, hget]) hcareless
              | listing => exact absurd (by simp only [Careful, hget]) hcareless
              | storing devices => exact absurd (by simp only [Careful, hget]) hcareless
              | answered answer => exact absurd (by simp only [Careful, hget]) hcareless
              | done => exact absurd (by simp only [Careful, hget]) hcareless
          | sync => exact absurd trivial hcareless
          | list devices => exact absurd trivial hcareless
          | query => exact absurd trivial hcareless
      · exact absurd hstep (by simp only [reduceCtorEq, not_false_eq_true])
  | subscribe i =>
      rw [step] at hstep
      split at hstep
      · next caller answer hget =>
          rw [Option.some.injEq] at hstep
          rw [careful_subscribe s i caller answer hget] at hcareless
          rw [← hstep]
          intro hcovered
          have hleft := leftTo_of_covered s _ i caller hcovered rfl rfl
          rw [deviceIds_subscribe] at hleft
          exact hcareless hleft
      · exact absurd hstep (by simp only [reduceCtorEq, not_false_eq_true])
  | call caller => exact absurd trivial hcareless
  | updateAlias deviceId deviceAlias => exact absurd trivial hcareless
  | updateStoredContent deviceId content => exact absurd trivial hcareless
  | service a => exact absurd trivial hcareless

/-- The calls that have not ended. -/
def inFlight (s : Session) : Nat := s.calls.countP (fun c => c.stage ≠ .done)

theorem inFlight_ends (s s' : Session) (i : Nat) (c : Call) (caller : Caller)
    (hget : s.calls[i]? = some c) (hlive : c.stage ≠ .done)
    (hcalls : s'.calls = s.calls.set i ⟨caller, .done⟩) : inFlight s' < inFlight s := by
  rcases List.getElem?_eq_some_iff.mp hget with ⟨hlt, hc⟩
  have hpos : 0 < s.calls.countP (fun d => d.stage ≠ .done) :=
    List.countP_pos_iff.mpr ⟨c, List.mem_of_getElem? hget, decide_eq_true hlive⟩
  unfold inFlight
  rw [hcalls, List.countP_set hlt, hc, if_pos (decide_eq_true hlive), if_neg (by simp)]
  omega

/-- Without cover, each call in flight can end at once and leaves the rest
    without cover: no setup is on its way to the table, and a list that is
    handed over lacks a device. -/
theorem ends_uncovered (s : Session) (i : Nat) (c : Call) (h : ¬ Covered s)
    (hget : s.calls[i]? = some c) (hlive : c.stage ≠ .done) :
    ∃ a s' caller, (∀ caller', a ≠ .call caller') ∧ step s a = some s' ∧
      s'.calls = s.calls.set i ⟨caller, .done⟩ ∧ ¬ Covered s' := by
  have hmem := List.mem_of_getElem? hget
  rcases c with ⟨caller, stage⟩
  -- Where only the call ends, the others cover no more than before.
  have hkept : ¬ Covered { s with calls := s.calls.set i ⟨caller, .done⟩ } := by
    intro hcovered
    refine h ((leftTo_of_covered s _ i caller hcovered rfl rfl).imp_right ?_)
    rintro ⟨d, hd, hcovers⟩
    exact ⟨d, List.mem_of_mem_eraseIdx hd, hcovers⟩
  -- A setup that is syncing would cover the table.
  have hafter : stage.beforeQuery = true → afterSync caller = .done := by
    intro hbefore
    cases caller with
    | postLoginSetup => exact absurd (Or.inr ⟨_, hmem, Or.inl ⟨rfl, hbefore⟩⟩) h
    | devicesScreen => rfl
    | claimDevice => rfl
    | doClaim => rfl
    | finishWithAlias => rfl
  cases stage with
  | before =>
      refine ⟨.move i .fail, _, caller, by simp only [ne_eq, reduceCtorEq, not_false_eq_true,
        implies_true], ?_, rfl, hkept⟩
      simp only [step, hget, move, Option.map_some]
  | listing =>
      refine ⟨.move i .fail, _, caller, by simp only [ne_eq, reduceCtorEq, not_false_eq_true,
        implies_true], ?_, rfl, hkept⟩
      simp only [step, hget, move, Option.map_some, hafter rfl]
  | storing devices =>
      refine ⟨.move i .fail, _, caller, by simp only [ne_eq, reduceCtorEq, not_false_eq_true,
        implies_true], ?_, rfl, hkept⟩
      simp only [step, hget, move, Option.map_some, hafter rfl]
  | querying =>
      refine ⟨.move i .fail, _, caller, by simp only [ne_eq, reduceCtorEq, not_false_eq_true,
        implies_true], ?_, rfl, hkept⟩
      simp only [step, hget, move, Option.map_some]
  | answered answer =>
      refine ⟨.subscribe i, _, caller, by simp only [ne_eq, reduceCtorEq, not_false_eq_true,
        implies_true], by simp only [step, hget]; rfl, rfl, fun hcovered => ?_⟩
      have hleft := leftTo_of_covered s _ i caller hcovered rfl rfl
      rw [deviceIds_subscribe] at hleft
      rcases hleft with hall | ⟨d, hd, hcovers⟩
      · exact h (Or.inr ⟨_, hmem, Or.inr ⟨answer, rfl, hall⟩⟩)
      · exact h (Or.inr ⟨d, List.mem_of_mem_eraseIdx hd, hcovers⟩)
  | done => exact absurd rfl hlive

/-- The calls in flight end, and what was left to nobody still is. -/
theorem settles (s : Session) (hknown : Known s) (h : ¬ Covered s) :
    ∃ as t, (∀ a ∈ as, ∀ caller, a ≠ .call caller) ∧ run step s as = some t ∧
      (Known t ∧ ¬ Covered t) ∧ Settled t := by
  refine run_reaches step (fun a => ∀ caller, a ≠ .call caller)
    (fun t => Known t ∧ ¬ Covered t) Settled inFlight ?_ s ⟨hknown, h⟩
  rintro t ⟨hknown, h⟩
  by_cases hsettled : Settled t
  · exact Or.inl hsettled
  · unfold Settled at hsettled
    push Not at hsettled
    rcases hsettled with ⟨c, hc, hlive⟩
    rcases List.getElem?_of_mem hc with ⟨i, hget⟩
    rcases ends_uncovered t i c h hget hlive with ⟨a, t', caller, ha, hstep, hcalls, h'⟩
    exact Or.inr ⟨a, t', ha, hstep, ⟨known_step t a t' hknown hstep, h'⟩,
      inFlight_ends t t' i c caller hget hlive hcalls⟩

/-- The steps of the service that leave the topics alone. -/
def Silent (a : MqttService.Action) : Prop := isSubscribe a = false ∧ ∀ k, a ≠ .connack k

theorem run_service (as : List MqttService.Action) (hsilent : ∀ a ∈ as, Silent a) :
    ∀ (s : Session) (service : Service), run MqttService.step s.service as = some service →
      run step s (as.map .service) = some { s with service } := by
  induction as with
  | nil =>
      intro s service hrun
      rw [run, Option.some.injEq] at hrun
      rw [← hrun]
      rfl
  | cons a as ih =>
      intro s service hrun
      rcases (run_cons_eq_some MqttService.step _ _ a as).mp hrun with ⟨next, hnext, hrest⟩
      rcases hsilent a List.mem_cons_self with ⟨hsubscribe, hconnack⟩
      have hsame : resubscribe a next s.subscriptions = s.subscriptions := by
        unfold resubscribe
        split
        · next k => exact absurd rfl (hconnack k)
        · rfl
      refine (run_cons_eq_some step _ _ (.service a) _).mpr ⟨{ s with service := next }, ?_,
        ih (fun b hb => hsilent b (List.mem_cons_of_mem _ hb)) { s with service := next }
          service hrest⟩
      rw [step, hsubscribe, if_neg Bool.false_ne_true, hnext, Option.map_some, hsame]

/-- Whatever the service is doing, it can give up its client and dial a new one. -/
theorem dials (s : Service) : ∃ as t k, (∀ a ∈ as, Silent a) ∧
    run MqttService.step s as = some t ∧ t.client = some k ∧
    t.clients[k]? = some .connecting ∧ s.clients.length ≤ k ∧ t.deviceIds = s.deviceIds := by
  have hfirst : MqttService.step s (.disconnect false) =
      some (MqttService.disconnect false s) := rfl
  have hkept := kept_step s _ _ hfirst (fun k => by simp only [ne_eq, reduceCtorEq,
    not_false_eq_true]) (fun ids => by simp only [ne_eq, reduceCtorEq, not_false_eq_true])
  have hclient := (MqttService.disconnected false s).client
  generalize MqttService.disconnect false s = u at hfirst hkept hclient
  have hidle : isConnected u = false := by
    unfold isConnected
    rw [hclient]
  -- The attempt that `connect` starts gets the last place.
  have hconnect : MqttService.step u .connect = some { u with
      intentionalDisconnect := false
      reconnectTimer := u.reconnectTimer.cancel
      tasks := u.tasks ++ [MqttService.Task.attempt .connect .fetch] } := by
    rw [MqttService.step, MqttService.connect, hidle, if_neg Bool.false_ne_true]
  have hfetched := Processes.getElem?_set_of_some
    (u.tasks ++ [MqttService.Task.attempt .connect .fetch]) u.tasks.length
    (MqttService.Task.attempt .connect .save) _ List.getElem?_concat_length
  refine ⟨[.disconnect false, .connect, .fetched u.tasks.length, .saved u.tasks.length false],
    MqttService.connectWithCredentials u.tasks.length .connect { u with
      intentionalDisconnect := false
      reconnectTimer := u.reconnectTimer.cancel
      tasks := (u.tasks ++ [MqttService.Task.attempt .connect .fetch]).set u.tasks.length
        (MqttService.Task.attempt .connect .save) }, u.clients.length, ?_, ?_, rfl, ?_,
    hkept.length, hkept.deviceIds⟩
  · intro a ha
    simp only [List.mem_cons, List.not_mem_nil, or_false] at ha
    rcases ha with rfl | rfl | rfl | rfl
    all_goals exact ⟨rfl, fun k => by simp only [ne_eq, reduceCtorEq, not_false_eq_true]⟩
  · rw [run_cons_eq_some]
    refine ⟨u, hfirst, ?_⟩
    rw [run_cons_eq_some]
    refine ⟨_, hconnect, ?_⟩
    simp only [run, MqttService.step, List.getElem?_concat_length, hfetched]
  · exact List.getElem?_concat_length

theorem telemetryTopic_inj (id id' : String) (h : telemetryTopic id = telemetryTopic id') :
    id = id' := by
  unfold telemetryTopic at h
  have hlist := congrArg String.toList h
  simp only [String.toList_append] at hlist
  exact String.toList_inj.mp (List.append_cancel_left (List.append_cancel_right hlist))

/-- The last letters differ. -/
theorem telemetryTopic_ne (id id' : String) : telemetryTopic id ≠ statusTopic id' := by
  intro h
  unfold telemetryTopic statusTopic at h
  have hlast := congrArg (fun t : String => t.toList.getLast?) h
  have htelemetry : "/telemetry".toList.getLast? = some 'y' := by decide
  have hstatus : "/status".toList.getLast? = some 's' := by decide
  simp only [String.toList_append, List.getLast?_append, htelemetry, hstatus, Option.some_or]
    at hlast
  exact absurd hlast (by decide)

/-- The client that is connected at the end has the service's list and nothing
    else. -/
theorem redials (s : Session) (hknown : Known s) : ∃ as t k,
    (∀ a ∈ as, ∀ caller, a ≠ .call caller) ∧ run step s as = some t ∧
      t.calls = s.calls ∧ t.table = s.table ∧ t.service.client = some k ∧
      t.service.clients[k]? = some .connected ∧
      ∀ id, Subscribed t.subscriptions k id → id ∈ s.service.deviceIds := by
  rcases dials s.service with ⟨as, service, k, hsilent, hrun, hheld, hk, hlength, hids⟩
  have hrun' := run_service as hsilent s service hrun
  rcases hconnack : MqttService.step service (.connack k) with _ | connected
  · rw [MqttService.step, if_pos hk] at hconnack
    exact absurd hconnack (by simp only [reduceCtorEq, not_false_eq_true])
  · rcases connack_step service connected k hconnack with ⟨hids', hheld', hclients⟩
    refine ⟨as.map .service ++ [.service (.connack k)], { s with
      service := connected
      subscriptions := doSubscribe connected connected.deviceIds s.subscriptions }, k, ?_, ?_,
      rfl, rfl, hheld'.trans hheld, ?_, ?_⟩
    · intro a ha caller heq
      rcases List.mem_append.mp ha with hold | hnew
      · rcases List.mem_map.mp hold with ⟨b, _, rfl⟩
        exact absurd heq (by simp only [reduceCtorEq, not_false_eq_true])
      · rw [List.mem_singleton.mp hnew] at heq
        exact absurd heq (by simp only [reduceCtorEq, not_false_eq_true])
    · refine (run_concat step s _ _ _).mpr ⟨{ s with service }, hrun', ?_⟩
      simp only [step, isSubscribe, Bool.false_eq_true, if_false, hconnack, Option.map_some,
        resubscribe]
    · rw [hclients]
      exact Processes.getElem?_set_of_some service.clients k _ _ hk
    · rintro id ⟨htelemetry, _⟩
      rcases mem_doSubscribe connected _ _ _ htelemetry with hold | ⟨_, _, id', hid', htopic⟩
      -- The client is new, so the topics of before are not its own.
      · exact absurd (hknown.topics _ hold) (Nat.not_lt.mpr hlength)
      · rcases htopic with htopic | htopic
        · rw [telemetryTopic_inj id id' htopic, ← hids, ← hids']
          exact hid'
        · exact absurd htopic (telemetryTopic_ne id id')

/-- After a careless step, in whatever session, the calls in flight can end and
    the service dial again, with a device in the table that it does not listen
    to. -/
theorem careless_shows (table : LocalDevices) (as : List Action) (s s' : Session) (a : Action)
    (hrun : run step (login table) as = some s) (hstep : step s a = some s')
    (hcareless : ¬ Careful s a) : ∃ bs t, (∀ b ∈ bs, ∀ caller, b ≠ .call caller) ∧
      run step s' bs = some t ∧ ¬ Monitored t := by
  have hknown := run_invariant step Known known_step as (login table) s (known_login table) hrun
  have hnot := uncovered_of_careless s a s' hknown hcareless hstep
  rcases settles s' (known_step s a s' hknown hstep) hnot with
    ⟨bs, t, hbs, hbrun, ⟨htknown, htnot⟩, hsettled⟩
  rcases redials t htknown with ⟨cs, u, k, hcs, hcrun, hcalls, htable, hheld, hk, honly⟩
  refine ⟨bs ++ cs, u, fun b hb => ?_, (run_append step s' u bs cs).mpr ⟨t, hbrun, hcrun⟩,
    fun hmonitored => htnot (Or.inl (fun id hid => ?_))⟩
  · rcases List.mem_append.mp hb with hold | hnew
    · exact hbs b hold
    · exact hcs b hnew
  · have hsettled' : Settled u := by
      unfold Settled
      rw [hcalls]
      exact hsettled
    exact honly id (hmonitored hsettled' k hheld hk id (htable ▸ hid))

end Monitoring

end Mobile

end Vena
