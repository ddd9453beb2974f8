import Vena.Mobile.MqttService

/-!
# What a disconnect leaves behind

`disconnect()` is meant to be final, and `_intentionalDisconnect` is there to
keep the callbacks from reconnecting. But it reaches only what the fields hold:
the calls that wait for credentials, for the storage or for a client go on, an
overwritten timer still fires, and a client that `_client` no longer holds still
gets its CONNACK. `disconnect_final` states exactly which of these have to be
absent.

## Main definitions

* `Final`: Without another call of `connect` from outside, nothing is dialed and
  nothing connects.
* `Quiet`: What has to hold before the disconnect.
* `Over`: What then holds after it for good.

## Theorems

* `step_over`: A service that is over stays so, and silent.
* `final_step`, `final_fetch`, `final_save`: What finality excludes.
* `disconnect_final`: A disconnect is final exactly in a quiet state.
* `disconnect_overtaken`: One that is not.
-/

namespace Vena

namespace Mobile

namespace MqttService

open Run

/-- Until `connect` is called again from outside, the service starts no
    connection and does not emit the connected status. -/
def Final (s : Service) : Prop :=
  ∀ (as : List Action) (t : Service), (∀ a ∈ as, a ≠ .connect) → run step s as = some t →
    t.dials = s.dials ∧ t.emitted.count .connected = s.emitted.count .connected

/-- The only call that may still be in flight is a token refresh that waits for
    its client: its failure is logged and that is all. -/
def Task.Harmless : Task → Prop
  | .done => True
  | .attempt .refresh (.dial _) => True
  | _ => False

/-- Nothing is under way that a disconnect does not reach. -/
structure Quiet (s : Service) : Prop where
  tasks : ∀ task ∈ s.tasks, task.Harmless
  reconnectTimer : s.reconnectTimer.orphans = []
  refreshTimer : s.refreshTimer.orphans = []
  clients : ∀ k, s.clients[k]? = some .connecting → s.client = some k

/-- Nothing is under way. -/
structure Over (s : Service) : Prop where
  intentional : s.intentionalDisconnect = true
  tasks : ∀ task ∈ s.tasks, task.Harmless
  reconnectTimer : s.reconnectTimer = ⟨none, []⟩
  refreshTimer : s.refreshTimer = ⟨none, []⟩
  clients : ∀ k : Nat, s.clients[k]? ≠ some Phase.connecting

theorem fire_nothing (orphan : Option Nat) : TimerField.fire ⟨none, []⟩ orphan = none := by
  cases orphan with
  | none => rfl
  | some j =>
      have hnone : ¬ j < ([] : List Int).length := Nat.not_lt_zero j
      simp only [TimerField.fire, hnone, if_false]

theorem connecting_of_closed (ps : List Phase) (k j : Nat)
    (h : (ps.set k .closed)[j]? = some .connecting) : j ≠ k ∧ ps[j]? = some .connecting := by
  rcases Processes.getElem?_set_cases ps k j .closed .connecting h with ⟨_, hphase⟩ | hother
  · exact absurd hphase Phase.noConfusion
  · exact hother

theorem silent_onDisconnected (s : Service) (h : s.intentionalDisconnect = true) :
    Silent s (onDisconnected s) := by
  rw [onDisconnected_intentional s h]
  refine ⟨rfl, ?_⟩
  simp only [emitState, List.count_append, List.count_singleton, beq_iff_eq, reduceCtorEq, if_false,
    Nat.add_zero]

theorem over_disconnect (told : Bool) (s : Service) (h : Quiet s) : Over (disconnect told s) := by
  have hd := disconnected told s
  refine ⟨hd.intentional, ?_, ?_, ?_, ?_⟩
  · rw [hd.tasks]
    exact h.tasks
  · rw [hd.reconnectTimer, TimerField.cancel, h.reconnectTimer]
  · rw [hd.refreshTimer, TimerField.cancel, h.refreshTimer]
  · intro k hk
    rw [hd.clients] at hk
    cases hclient : s.client with
    | none =>
        rw [hclient] at hk
        exact absurd (hclient.symm.trans (h.clients k hk)) (by simp only [reduceCtorEq,
          not_false_eq_true])
    | some j =>
        -- The one client that may be connecting is the one that was closed.
        rw [hclient] at hk
        rcases connecting_of_closed s.clients j k hk with ⟨hne, hold⟩
        have hheld := h.clients k hold
        rw [hclient, Option.some.injEq] at hheld
        exact hne hheld.symm

theorem quiet_of_over (s : Service) (h : Over s) : Quiet s :=
  ⟨h.tasks, by rw [h.reconnectTimer], by rw [h.refreshTimer], fun k hk => absurd hk (h.clients k)⟩

/-- A service that is over stays so, and silent. -/
theorem step_over (s s' : Service) (a : Action) (h : Over s) (ha : a ≠ .connect)
    (hstep : step s a = some s') : Over s' ∧ Silent s s' := by
  -- No call in flight waits for credentials or for the storage.
  have htask : ∀ (i : Nat) (task : Task), s.tasks[i]? = some task → task.Harmless :=
    fun i task hget => h.tasks task (List.mem_of_getElem? hget)
  cases step_moves s s' a hstep with
  | connect => exact absurd rfl ha
  -- Disconnecting again finds even less to do.
  | disconnect told =>
      exact ⟨over_disconnect told s (quiet_of_over s h), (disconnected told s).silent⟩
  | scheduleBackgroundDisconnect =>
      exact ⟨⟨h.intentional, h.tasks, h.reconnectTimer, h.refreshTimer, h.clients⟩, silent_refl s⟩
  | cancelBackgroundDisconnect =>
      exact ⟨⟨h.intentional, h.tasks, h.reconnectTimer, h.refreshTimer, h.clients⟩, silent_refl s⟩
  | subscribe deviceIds =>
      exact ⟨⟨h.intentional, h.tasks, h.reconnectTimer, h.refreshTimer, h.clients⟩, silent_refl s⟩
  -- No timer is armed, so none fires.
  | reconnectFires orphan reconnectTimer hfire =>
      rw [h.reconnectTimer, fire_nothing] at hfire
      exact absurd hfire (by simp only [reduceCtorEq, not_false_eq_true])
  | refreshFires orphan refreshTimer hfire =>
      rw [h.refreshTimer, fire_nothing] at hfire
      exact absurd hfire (by simp only [reduceCtorEq, not_false_eq_true])
  | disconnectFires told =>
      have hquiet : Quiet { s with disconnectTimer := false } := quiet_of_over _
        ⟨h.intentional, h.tasks, h.reconnectTimer, h.refreshTimer, h.clients⟩
      exact ⟨over_disconnect told _ hquiet, (disconnected told _).silent⟩
  -- No call waits for credentials or for the storage, so none gets to dial.
  | fetched i caller hget =>
      have hharm := htask i _ hget
      cases caller with
      | connect => exact absurd hharm (fun hf => hf)
      | refresh => exact absurd hharm (fun hf => hf)
  | savedConnect i told hget => exact absurd (htask i _ hget) (fun hf => hf)
  | savedRefresh i told hget => exact absurd (htask i _ hget) (fun hf => hf)
  | failedDial i caller k hget =>
      have hharm := htask i _ hget
      cases caller with
      | connect => exact absurd hharm (fun hf => hf)
      -- The refresh that gives up only logs.
      | refresh =>
          refine ⟨⟨h.intentional, ?_, h.reconnectTimer, h.refreshTimer, ?_⟩, silent_refl s⟩
          · intro task htasks
            rcases List.mem_or_eq_of_mem_set htasks with hold | hdone
            · exact h.tasks task hold
            · rw [hdone]
              trivial
          · exact fun j hj => h.clients j (connecting_of_closed s.clients k j hj).2
  | failedBefore i caller await hne hget =>
      have hharm := htask i _ hget
      cases caller with
      | connect => exact absurd hharm (fun hf => hf)
      | refresh =>
          cases await with
          | fetch => exact absurd hharm (fun hf => hf)
          | save => exact absurd hharm (fun hf => hf)
          | dial k => exact absurd rfl (hne k)
  | read i token hget => exact absurd (htask i _ hget) (fun hf => hf)
  -- No client is connecting, so none reports the connected status.
  | connack k hk => exact absurd hk (h.clients k)
  | closed k hlive =>
      -- The callback finds the disconnect intentional and schedules nothing.
      have hkept :
          ({ s with clients := s.clients.set k .closed } : Service).intentionalDisconnect =
            true := h.intentional
      have hsilent := silent_onDisconnected _ hkept
      rw [onDisconnected_intentional _ hkept] at hsilent ⊢
      exact ⟨⟨h.intentional, h.tasks, h.reconnectTimer, h.refreshTimer,
        fun j hj => h.clients j (connecting_of_closed s.clients k j hj).2⟩, hsilent⟩

theorem final_of_over (s : Service) (h : Over s) : Final s := by
  intro as t has hrun
  have hkeep := run_invariant_along step (fun _ a => a ≠ .connect)
    (fun t => Over t ∧ Silent s t)
    (fun u a u' hu ha hstep => by
      rcases step_over u u' a hu.1 ha hstep with ⟨hover, hsilent⟩
      exact ⟨hover, silent_trans s u u' hu.2 hsilent⟩)
    as s t ⟨h, silent_refl s⟩ (along_of_forall step (fun a => a ≠ .connect) as s has) hrun
  exact hkeep.2

/-- What is final stays final, and is silent meanwhile. -/
theorem final_step (s s' : Service) (a : Action) (h : Final s) (ha : a ≠ .connect)
    (hstep : step s a = some s') : Silent s s' ∧ Final s' := by
  have hsilent : Silent s s' := by
    refine h [a] s' (fun b hb => ?_) ((run_cons_eq_some step s s' a []).mpr ⟨s', hstep, rfl⟩)
    rwa [List.mem_singleton.mp hb]
  refine ⟨hsilent, fun as t has hrun => ?_⟩
  have hall := h (a :: as) t (fun b hb => ?_)
    ((run_cons_eq_some step s t a as).mpr ⟨s', hstep, hrun⟩)
  · exact ⟨hall.1.trans hsilent.1.symm, hall.2.trans hsilent.2.symm⟩
  · rcases List.mem_cons.mp hb with heq | hin
    · rwa [heq]
    · exact has b hin

/-- A call whose credentials are being saved is about to dial. -/
theorem final_save (s : Service) (i : Nat) (caller : Caller) (h : Final s) :
    s.tasks[i]? ≠ some (Task.attempt caller .save) := by
  intro hget
  cases caller with
  | connect =>
      have hstep : step s (.saved i false) = some (connectWithCredentials i .connect s) := by
        simp only [step, hget]
      -- Once the storage answers, the service has dialled once more.
      have hdials := (final_step s _ _ h Action.noConfusion hstep).1.1
      exact absurd hdials (Nat.succ_ne_self s.dials)
  | refresh =>
      have hstep : step s (.saved i false) =
          some (connectWithCredentials i .refresh (closeClient false s)) := by
        simp only [step, hget]
      have hdials := (final_step s _ _ h Action.noConfusion hstep).1.1
      have hclose : (closeClient false s).dials = s.dials := by
        unfold closeClient
        cases s.client with
        | none => rfl
        | some k => rfl
      have hsucc : (closeClient false s).dials + 1 = s.dials := hdials
      rw [hclose] at hsucc
      exact absurd hsucc (Nat.succ_ne_self s.dials)

theorem final_fetch (s : Service) (i : Nat) (caller : Caller) (h : Final s) :
    s.tasks[i]? ≠ some (Task.attempt caller .fetch) := by
  intro hget
  have hstep : step s (.fetched i) =
      some { s with tasks := s.tasks.set i (.attempt caller .save) } := by
    simp only [step, hget]
  exact final_save _ i caller (final_step s _ _ h Action.noConfusion hstep).2
    (Processes.getElem?_set_of_some s.tasks i _ _ hget)

/-- A timer that would refresh the token. -/
theorem final_refreshFires (s : Service) (orphan : Option Nat) (h : Final s) :
    s.refreshTimer.fire orphan = none := by
  cases hfire : s.refreshTimer.fire orphan with
  | none => rfl
  | some refreshTimer =>
      have hstep :
          step s (.refreshFires orphan) = some (doTokenRefresh { s with refreshTimer }) := by
        simp only [step, hfire, Option.bind_eq_bind, Option.bind_some, Option.pure_def]
      exact absurd List.getElem?_concat_length
        (final_fetch _ s.tasks.length .refresh (final_step s _ _ h Action.noConfusion hstep).2)

/-- A timer that would reconnect, where there is no client any more. -/
theorem final_reconnectFires (s : Service) (orphan : Option Nat) (h : Final s)
    (hclient : s.client = none) : s.reconnectTimer.fire orphan = none := by
  cases hfire : s.reconnectTimer.fire orphan with
  | none => rfl
  | some reconnectTimer =>
      have hstep : step s (.reconnectFires orphan) = some { s with
          intentionalDisconnect := false
          reconnectTimer := reconnectTimer.cancel
          tasks := s.tasks ++ [.attempt .connect .fetch] } := by
        simp only [step, hfire, Option.bind_eq_bind, Option.bind_some, Option.pure_def, connect,
          isConnected, hclient, Bool.false_eq_true, if_false]
      exact absurd List.getElem?_concat_length
        (final_fetch _ s.tasks.length .connect (final_step s _ _ h Action.noConfusion hstep).2)

theorem orphans_nil (t : TimerField) (h : ∀ orphan, t.fire orphan = none) : t.orphans = [] := by
  have hfire := h (some 0)
  rw [TimerField.fire] at hfire
  split at hfire
  · exact absurd hfire (by simp only [reduceCtorEq, not_false_eq_true])
  · next hlen => exact List.length_eq_zero_iff.mp (Nat.eq_zero_of_not_pos hlen)

theorem final_readToken (s : Service) (i : Nat) (h : Final s) :
    s.tasks[i]? ≠ some Task.readToken := by
  intro hget
  -- A token that is about to expire is refreshed at once.
  have hstep : step s (.read i (.expiring 0 0)) =
      some { s with tasks := s.tasks.set i (.attempt .refresh .fetch) } := by
    simp only [step, hget, tokenRead]
    rfl
  exact final_fetch _ i .refresh (final_step s _ _ h Action.noConfusion hstep).2
    (Processes.getElem?_set_of_some s.tasks i _ _ hget)

/-- A `connect` that waits for its client schedules a reconnect when that fails. -/
theorem final_dial (s : Service) (i k : Nat) (h : Final s) (hclient : s.client = none) :
    s.tasks[i]? ≠ some (Task.attempt .connect (.dial k)) := by
  intro hget
  have hstep : step s (.failed i) =
      some (attemptFailed i .connect { s with clients := s.clients.set k .closed }) := by
    simp only [step, hget]
  exact absurd (final_reconnectFires _ none (final_step s _ _ h Action.noConfusion hstep).2 hclient)
    (by simp only [attemptFailed, scheduleReconnect, emitState, TimerField.set, TimerField.fire,
      Option.isSome_some, if_true, reduceCtorEq, not_false_eq_true])

/-- A client that is still connecting, where `_client` is null. -/
theorem final_connack (s : Service) (k : Nat) (h : Final s) (hclient : s.client = none) :
    s.clients[k]? ≠ some Phase.connecting := by
  intro hget
  have hstep : step s (.connack k) = some (onConnected { s with
      clients := s.clients.set k .connected
      tasks := s.tasks.map (Task.dialed k) }) := by
    rw [step, if_pos hget]
  -- Its callback emits the status before it fails on the missing client.
  have hcount := (final_step s _ _ h Action.noConfusion hstep).1.2
  simp only [onConnected, emitState, hclient, List.count_append,
    List.count_singleton_self] at hcount
  exact absurd hcount (Nat.succ_ne_self _)

theorem harmless_of_final (s : Service) (h : Final s) (hclient : s.client = none) (task : Task)
    (hmem : task ∈ s.tasks) : task.Harmless := by
  rcases List.getElem?_of_mem hmem with ⟨i, hget⟩
  cases task with
  | done => trivial
  | readToken => exact absurd hget (final_readToken s i h)
  | attempt caller await =>
      cases await with
      | fetch => exact absurd hget (final_fetch s i caller h)
      | save => exact absurd hget (final_save s i caller h)
      | dial k =>
          cases caller with
          | connect => exact absurd hget (final_dial s i k h hclient)
          | refresh => trivial

theorem quiet_of_final (s : Service) (told : Bool) (h : Final (disconnect told s)) : Quiet s := by
  have hd := disconnected told s
  refine ⟨fun task hmem => ?_, ?_, ?_, fun k hk => ?_⟩
  · exact harmless_of_final _ h hd.client task (hd.tasks.symm ▸ hmem)
  · have horphans := orphans_nil _ (fun orphan => final_reconnectFires _ orphan h hd.client)
    rwa [hd.reconnectTimer] at horphans
  · have horphans := orphans_nil _ (fun orphan => final_refreshFires _ orphan h)
    rwa [hd.refreshTimer] at horphans
  · have hnone := final_connack _ k h hd.client
    rw [hd.clients] at hnone
    cases hclient : s.client with
    | none =>
        rw [hclient] at hnone
        exact absurd hk hnone
    | some j =>
        rw [hclient] at hnone
        by_cases hjk : j = k
        · rw [hjk]
        · exact absurd (Processes.getElem?_set_of_ne s.clients j k .closed .connecting
            (Ne.symm hjk) hk) hnone

/-- A disconnect is final exactly where no call is in flight but a token refresh
    that waits for its client, no overwritten timer is armed, and the only
    client that is still connecting is the one `_client` holds. -/
theorem disconnect_final (s : Service) (told : Bool) : Final (disconnect told s) ↔ Quiet s :=
  ⟨quiet_of_final s told, fun h => final_of_over _ (over_disconnect told s h)⟩

/-- The app connects, and the user logs out while the credentials are on their
    way: the service dials, with nobody logged in. -/
theorem disconnect_overtaken : ¬ ∀ (as : List Action) (s : Service) (told : Bool),
    run step initial as = some s → Final (disconnect told s) := by
  intro hall
  have hfinal := hall [.connect] _ false rfl
  have hdials := (hfinal [.fetched 0, .saved 0 false] _ (by decide) rfl).1
  exact absurd hdials (by decide)

end MqttService

end Mobile

end Vena
