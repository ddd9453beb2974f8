import Vena.Mobile.MqttService

/-!
# One client at a time

The service means to own one MQTT client. A token refresh closes the one in
`_client` before it dials, but `connect()` only looks whether that client is
connected, before it waits for the credentials. Two attempts then overlap and
each makes a client of its own: the first is lost while it is still connecting,
its CONNACK subscribes on the second, and it stays connected with nobody
listening. `one_client` states that nothing else goes wrong.

## Main definitions

* `Dark`: Every client is closed.
* `OneClient`: The client that is not closed is the one the fields are about.
* `Careful`: An attempt of `connect` that gets to dial finds every client closed.

## Theorems

* `step_oneClient`: What a careful step keeps.
* `careless_breaks`: What any other step breaks.
* `one_client`: The careful runs are the ones with one client throughout.
* `two_clients`: A run with two.
-/

namespace Vena

namespace Mobile

namespace MqttService

open Run

def Dark (s : Service) : Prop := ∀ p ∈ s.clients, p = .closed

instance (s : Service) : Decidable (Dark s) := List.decidableBAll _ s.clients

/-- At most one client is connecting or connected. It is the one `_client`
    holds, and once it is connected the updates listened to are its own. -/
structure OneClient (s : Service) : Prop where
  held : ∀ (k : Nat) (p : Phase), s.clients[k]? = some p → p ≠ .closed → s.client = some k
  heard : ∀ k : Nat, s.clients[k]? = some .connected → s.updatesSubscription = some k

/-- An attempt of `connect` that gets to dial finds every client closed. -/
def Careful (s : Service) : Action → Prop
  | .saved i _ => s.tasks[i]? = some (.attempt .connect .save) → Dark s
  | _ => True

instance (s : Service) : (a : Action) → Decidable (Careful s a)
  | .saved _ _ => inferInstanceAs (Decidable (_ → _))
  | .connect => instDecidableTrue
  | .disconnect _ => instDecidableTrue
  | .scheduleBackgroundDisconnect => instDecidableTrue
  | .cancelBackgroundDisconnect => instDecidableTrue
  | .subscribe _ => instDecidableTrue
  | .reconnectFires _ => instDecidableTrue
  | .refreshFires _ => instDecidableTrue
  | .disconnectFires _ => instDecidableTrue
  | .fetched _ => instDecidableTrue
  | .failed _ => instDecidableTrue
  | .read _ _ => instDecidableTrue
  | .connack _ => instDecidableTrue
  | .closed _ => instDecidableTrue

theorem oneClient_of_dark (s : Service) (h : Dark s) : OneClient s := by
  refine ⟨fun k p hk hp => ?_, fun k hk => ?_⟩
  · exact absurd (h p (List.mem_of_getElem? hk)) hp
  · exact absurd (h .connected (List.mem_of_getElem? hk)) Phase.noConfusion

/-- Closing the held client closes the last one. -/
theorem closed_of_set (s : Service) (k : Nat) (h : OneClient s) (hclient : s.client = some k)
    (p : Phase) (hp : p ∈ s.clients.set k .closed) : p = .closed := by
  rcases List.getElem?_of_mem hp with ⟨j, hj⟩
  rcases Processes.getElem?_set_cases s.clients k j .closed p hj with ⟨_, hclosed⟩ | ⟨hne, hold⟩
  · exact hclosed
  · by_contra hlive
    have hheld := h.held j p hold hlive
    rw [hclient, Option.some.injEq] at hheld
    exact hne hheld.symm

/-- Closing a client that is not closed yet closes the last one. -/
theorem closed_of_live (s : Service) (k : Nat) (q : Phase) (h : OneClient s)
    (hk : s.clients[k]? = some q) (hq : q ≠ .closed) (p : Phase)
    (hp : p ∈ s.clients.set k .closed) : p = .closed :=
  closed_of_set s k h (h.held k q hk hq) p hp

theorem dark_of_none (s : Service) (h : OneClient s) (hclient : s.client = none) : Dark s := by
  intro p hp
  rcases List.getElem?_of_mem hp with ⟨k, hk⟩
  by_contra hlive
  exact absurd (hclient.symm.trans (h.held k p hk hlive)) (by simp only [reduceCtorEq,
    not_false_eq_true])

theorem clients_onDisconnected (s : Service) : (onDisconnected s).clients = s.clients := by
  unfold onDisconnected
  dsimp only
  split
  · rfl
  · rfl

theorem dark_closeClient (told : Bool) (s : Service) (h : OneClient s) :
    Dark (closeClient told s) := by
  rw [closeClient]
  cases hclient : s.client with
  | none => exact dark_of_none s h hclient
  | some k =>
      cases told with
      | false => exact closed_of_set s k h hclient
      | true =>
          intro p hp
          simp only [if_true, clients_onDisconnected] at hp
          exact closed_of_set s k h hclient p hp

theorem dark_disconnect (told : Bool) (s : Service) (h : OneClient s) :
    Dark (disconnect told s) := by
  intro p hp
  rw [(disconnected told s).clients] at hp
  cases hclient : s.client with
  | none =>
      rw [hclient] at hp
      exact dark_of_none s h hclient p hp
  | some k =>
      rw [hclient] at hp
      exact closed_of_set s k h hclient p hp

/-- The new client is the only one, and it is not connected yet. -/
theorem oneClient_connectWithCredentials (i : Nat) (caller : Caller) (s : Service) (h : Dark s) :
    OneClient (connectWithCredentials i caller s) := by
  refine ⟨fun k p hk hp => ?_, fun k hk => ?_⟩
  · rcases Processes.getElem?_concat_cases s.clients k .connecting p hk with hold | ⟨hlast, _⟩
    · exact absurd (h p (List.mem_of_getElem? hold)) hp
    · rw [hlast]
      rfl
  · rcases Processes.getElem?_concat_cases s.clients k .connecting .connected hk with
      hold | ⟨_, hphase⟩
    · exact absurd (h _ (List.mem_of_getElem? hold)) Phase.noConfusion
    · exact absurd hphase Phase.noConfusion

/-- The CONNACK of the held client: its callback works on the right client. -/
theorem oneClient_onConnected (s : Service) (k : Nat) (tasks : List Task) (h : OneClient s)
    (hk : s.clients[k]? = some .connecting) :
    OneClient (onConnected { s with clients := s.clients.set k .connected, tasks }) := by
  have hclient : s.client = some k := h.held k .connecting hk Phase.noConfusion
  have hget : (s.clients.set k .connected)[k]? = some .connected :=
    Processes.getElem?_set_of_some s.clients k .connected .connecting hk
  -- All other clients were closed, so they are not the ones in question.
  have hothers : ∀ (j : Nat) (p : Phase), (s.clients.set k .connected)[j]? = some p →
      p ≠ .closed → j = k := by
    intro j p hj hp
    rcases Processes.getElem?_set_cases s.clients k j .connected p hj with ⟨hjk, _⟩ | ⟨hne, hold⟩
    · exact hjk
    · have hheld := h.held j p hold hp
      rw [hclient, Option.some.injEq] at hheld
      exact absurd hheld.symm hne
  have hopen : ¬ (s.clients.set k .connected)[k]? = some .closed := by
    rw [hget]
    simp only [Option.some.injEq, reduceCtorEq, not_false_eq_true]
  simp only [onConnected, emitState, hclient, hget, ne_eq, not_true_eq_false, and_false, if_false,
    Option.some.injEq, reduceCtorEq, scheduleTokenRefresh]
  refine ⟨fun j p hj hp => ?_, fun j hj => ?_⟩
  · rw [hothers j p hj hp]
  · rw [hothers j .connected hj Phase.noConfusion]

theorem oneClient_connect (s : Service) (h : OneClient s) : OneClient (connect s) := by
  rw [connect]
  split
  · exact h
  · exact ⟨h.held, h.heard⟩

theorem oneClient_attemptFailed (i : Nat) (caller : Caller) (s : Service) (h : OneClient s) :
    OneClient (attemptFailed i caller s) := by
  cases caller with
  | connect => exact ⟨h.held, h.heard⟩
  | refresh => exact ⟨h.held, h.heard⟩

theorem oneClient_close (s : Service) (k : Nat) (h : OneClient s) :
    OneClient { s with clients := s.clients.set k .closed } := by
  refine ⟨fun j p hj hp => ?_, fun j hj => ?_⟩
  · rcases Processes.getElem?_set_cases s.clients k j .closed p hj with ⟨_, hclosed⟩ | ⟨_, hold⟩
    · exact absurd hclosed hp
    · exact h.held j p hold hp
  · rcases Processes.getElem?_set_cases s.clients k j .closed .connected hj with
      ⟨_, hclosed⟩ | ⟨_, hold⟩
    · exact absurd hclosed Phase.noConfusion
    · exact h.heard j hold

theorem step_oneClient (s : Service) (a : Action) (s' : Service) (h : OneClient s)
    (hcareful : Careful s a) (hstep : step s a = some s') : OneClient s' := by
  cases step_moves s s' a hstep with
  | connect => exact oneClient_connect s h
  | disconnect told => exact oneClient_of_dark _ (dark_disconnect told s h)
  | scheduleBackgroundDisconnect => exact ⟨h.held, h.heard⟩
  | cancelBackgroundDisconnect => exact ⟨h.held, h.heard⟩
  | subscribe deviceIds => exact ⟨h.held, h.heard⟩
  | reconnectFires orphan reconnectTimer hfire =>
      exact oneClient_connect _ ⟨h.held, h.heard⟩
  | refreshFires orphan refreshTimer hfire => exact ⟨h.held, h.heard⟩
  | disconnectFires told =>
      have hkept : OneClient { s with disconnectTimer := false } := ⟨h.held, h.heard⟩
      exact oneClient_of_dark _ (dark_disconnect told _ hkept)
  | fetched i caller hget => exact ⟨h.held, h.heard⟩
  | savedConnect i told hget =>
      -- `connect` closes nothing itself: that all is closed is the condition.
      exact oneClient_connectWithCredentials i .connect s (hcareful hget)
  | savedRefresh i told hget =>
      -- A refresh closes the held client first, and that was the only one.
      exact oneClient_connectWithCredentials i .refresh _ (dark_closeClient told s h)
  | failedDial i caller k hget =>
      exact oneClient_attemptFailed i caller _ (oneClient_close s k h)
  | failedBefore i caller await hne hget => exact oneClient_attemptFailed i caller s h
  | read i token hget =>
      rcases tokenRead_eq i s token with ⟨tasks, refreshTimer, heq⟩
      rw [heq]
      exact ⟨h.held, h.heard⟩
  | connack k hk =>
      -- The client is the held one, since it was not closed.
      exact oneClient_onConnected s k _ h hk
  | closed k hlive =>
      -- With the only client closed, none is left.
      have hclients := clients_onDisconnected { s with clients := s.clients.set k .closed }
      refine oneClient_of_dark _ (fun p hp => ?_)
      rw [hclients] at hp
      rcases hlive with hconnecting | hconnected
      · exact closed_of_live s k .connecting h hconnecting Phase.noConfusion p hp
      · exact closed_of_live s k .connected h hconnected Phase.noConfusion p hp

/-- A client that is made beside one that is not closed takes its place in
    `_client`. -/
theorem careless_breaks (s : Service) (a : Action) (hcareless : ¬ Careful s a) :
    ∃ s', step s a = some s' ∧ ¬ OneClient s' := by
  cases a with
  | saved i told =>
      simp only [Careful, Classical.not_imp, Dark, not_forall] at hcareless
      rcases hcareless with ⟨hget, p, hmem, hp⟩
      refine ⟨connectWithCredentials i .connect s, by simp only [step, hget], fun hone => ?_⟩
      rcases List.getElem?_of_mem hmem with ⟨k, hk⟩
      -- The older client is not closed, yet `_client` holds the newer one.
      have hheld : some s.clients.length = some k :=
        hone.held k p (Processes.getElem?_concat_of_some s.clients k .connecting p hk) hp
      rw [Option.some.injEq] at hheld
      have hlt := (List.getElem?_eq_some_iff.mp hk).1
      omega
  | connect => exact absurd trivial hcareless
  | disconnect told => exact absurd trivial hcareless
  | scheduleBackgroundDisconnect => exact absurd trivial hcareless
  | cancelBackgroundDisconnect => exact absurd trivial hcareless
  | subscribe deviceIds => exact absurd trivial hcareless
  | reconnectFires orphan => exact absurd trivial hcareless
  | refreshFires orphan => exact absurd trivial hcareless
  | disconnectFires told => exact absurd trivial hcareless
  | fetched i => exact absurd trivial hcareless
  | failed i => exact absurd trivial hcareless
  | read i token => exact absurd trivial hcareless
  | connack k => exact absurd trivial hcareless
  | closed k => exact absurd trivial hcareless

/-- There is one client throughout a run exactly where every attempt of
    `connect` that gets to dial finds all clients closed. -/
theorem one_client (as : List Action) :
    Throughout step OneClient initial as ↔ Along step Careful initial as := by
  refine throughout_iff_along step Careful OneClient step_oneClient
    (fun s a _ hcareless => careless_breaks s a hcareless) as initial ?_
  exact oneClient_of_dark initial (fun p hp => absurd hp List.not_mem_nil)

/-- The app resumes before the connection made after the login is there: both
    attempts dial. -/
theorem two_clients : ¬ ∀ as : List Action, Throughout step OneClient initial as := by
  intro hall
  have hone := throughout_last step OneClient [.connect, .connect, .fetched 0, .fetched 1,
    .saved 0 false, .saved 1 false] initial _ (hall _) rfl
  exact absurd (hone.held 0 .connecting rfl Phase.noConfusion) (by decide)

end MqttService

end Mobile

end Vena
