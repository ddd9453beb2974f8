import Vena.Firmware.Board

/-!
# What wifi_status Says

The phone polls `wifi_status` for the outcome of a provisioning. The firmware
writes the characteristic only when the association differs from
`wifiWasConnected`, so that it says what that flag says. `setup()` sets the two
from two readings of the radio. Where the second does not find what the first
found, the characteristic is left wrong, and `loop()` sees no difference to
correct it.

Everything else keeps the two together, whatever is written, wherever the
association changes and whenever the board is reset.

## Main definitions

* `Honest`: The characteristic says what the flag says.
* `Careful`: The second reading of `setup()` finds what the first one found.
* `Stuck`: An idle loop with a characteristic that is wrong.

## Theorems

* `advance_piece`: What a piece does to the two.
* `wifiStatus_honest`: The characteristic is right throughout exactly the runs
  that are careful.
* `wifiStatus_stuck`: Once it is wrong, iterations without a change of the
  association leave it so.
-/

namespace Vena

namespace Firmware

open Run

namespace WifiStatus

open Board

/-- Between a reading and the update that belongs to it. -/
def Updating : Pc → Bool
  | .setupTrack => true
  | .publish => true
  | .setupWifi => false
  | .setupMqtt _ => false
  | .setupStatus => false
  | .setupPublish _ => false
  | .pending => false
  | .provision => false
  | .track => false
  | .trackBegin => false
  | .ensureWifi => false
  | .ensureMqtt => false

/-- The characteristic says what the flag says. -/
def Honest (s : Board) : Prop :=
  Updating s.pc = false → s.wifiStatus.connected = s.net.wifiWasConnected

/-- The second reading of `setup()` finds what the characteristic says. -/
def Careful (s : Board) : Act → Prop
  | .advance _ => s.pc = .setupTrack → s.radio.isSome = s.wifiStatus.connected
  | .write _ => True
  | .radio _ => True
  | .reset => True

/-- The flag is set before the connection is announced. -/
def Announcing (s : Board) : Prop := s.pc = .publish → s.net.wifiWasConnected = true

theorem wifiWasConnected_adoptJwt (jwt : String) (s : Network) :
    (Network.adoptJwt jwt s).wifiWasConnected = s.wifiWasConnected := by
  unfold Network.adoptJwt
  split
  · rfl
  · rfl

theorem wifiWasConnected_ensureWifi (up : Bool) (t : Nat) (s : Network) :
    (Network.ensureWifi up t s).wifiWasConnected = s.wifiWasConnected := by
  unfold Network.ensureWifi
  split
  · rfl
  · split
    · rfl
    · rfl

theorem wifiWasConnected_ensureMqtt (up ok : Bool) (t : Nat) (s : Network) :
    (Network.ensureMqtt up ok t s).wifiWasConnected = s.wifiWasConnected := by
  unfold Network.ensureMqtt
  split
  · rfl
  · split
    · rfl
    · split
      · rfl
      · rfl

theorem wifiWasConnected_onWrite (creds : WifiCredentials) (s : Network) :
    (onWrite creds s).wifiWasConnected = s.wifiWasConnected := by
  unfold onWrite
  dsimp only
  split
  · rfl
  · rfl

/-- A piece that neither tracks nor updates leaves the flag and the
    characteristic alone, and goes on to none that updates. -/
structure Aside (s t : Board) : Prop where
  flag : t.net.wifiWasConnected = s.net.wifiWasConnected
  status : t.wifiStatus = s.wifiStatus
  pc : Updating t.pc = false

theorem aside_setupWifi (r : Readings) (s : Board) : Aside s (setupWifi r s) := by
  unfold setupWifi
  cases s.net.nvs.provisioned with
  | none => exact ⟨rfl, rfl, rfl⟩
  | some creds => exact ⟨rfl, rfl, rfl⟩

theorem aside_setupMqtt (provisioned : Bool) (r : Readings) (s : Board) :
    Aside s (setupMqtt provisioned r s) := by
  refine ⟨?_, rfl, rfl⟩
  simp only [setupMqtt]
  split
  · rfl
  · split
    · exact wifiWasConnected_adoptJwt _ _
    · rfl

theorem aside_pending (s : Board) : Aside s (pending s) := by
  unfold pending
  split
  · exact ⟨rfl, rfl, rfl⟩
  · exact ⟨rfl, rfl, rfl⟩

theorem aside_provision (r : Readings) (s : Board) : Aside s (provision r s) := by
  refine ⟨?_, rfl, rfl⟩
  simp only [provision]
  exact wifiWasConnected_adoptJwt _ _

/-- What a piece does to the flag and the characteristic. -/
inductive Piece (r : Readings) (s t : Board) : Prop where
  | aside (h : Aside s t) (hfrom : Updating s.pc = false)
  | setupPublish (up : Bool) (hpc : t.pc = .setupTrack)
  | setupTrack (hfrom : s.pc = .setupTrack) (hpc : Updating t.pc = false)
      (hflag : t.net.wifiWasConnected = s.radio.isSome) (hstatus : t.wifiStatus = s.wifiStatus)
  | found (hflag : t.net.wifiWasConnected = true) (hpc : t.pc = .publish)
  | lost (hflag : t.net.wifiWasConnected = false) (hstatus : t.wifiStatus.connected = false)
      (hpc : Updating t.pc = false) (hfrom : Updating s.pc = false)
  | publish (hfrom : s.pc = .publish) (hpc : Updating t.pc = false)
      (hflag : t.net.wifiWasConnected = s.net.wifiWasConnected)
      (hstatus : t.wifiStatus.connected = true)

theorem advance_piece (r : Readings) (s : Board) : Piece r s (advance r s) := by
  unfold advance
  cases hpc : s.pc with
  | setupWifi => exact .aside (aside_setupWifi r s) (by rw [hpc]; rfl)
  | setupMqtt provisioned => exact .aside (aside_setupMqtt provisioned r s) (by rw [hpc]; rfl)
  | setupStatus => exact .aside ⟨rfl, rfl, rfl⟩ (by rw [hpc]; rfl)
  | setupPublish up => exact .setupPublish up rfl
  | setupTrack => exact .setupTrack hpc rfl rfl rfl
  | pending => exact .aside (aside_pending s) (by rw [hpc]; rfl)
  | provision => exact .aside (aside_provision r s) (by rw [hpc]; rfl)
  | track =>
      simp only []
      unfold track
      split
      · exact .found rfl rfl
      · split
        · exact .lost rfl rfl rfl (by rw [hpc]; rfl)
        · exact .aside ⟨rfl, rfl, rfl⟩ (by rw [hpc]; rfl)
  | publish => exact .publish hpc rfl rfl rfl
  | trackBegin =>
      refine .aside ⟨?_, rfl, rfl⟩ (by rw [hpc]; rfl)
      simp only []
      split
      · rfl
      · rfl
  | ensureWifi =>
      exact .aside ⟨wifiWasConnected_ensureWifi _ _ _, rfl, rfl⟩ (by rw [hpc]; rfl)
  | ensureMqtt =>
      refine .aside ⟨?_, rfl, rfl⟩ (by rw [hpc]; rfl)
      simp only []
      split
      · exact wifiWasConnected_ensureMqtt _ _ _ _
      · rfl

instance : ∀ (s : Board) (a : Act), Decidable (Careful s a)
  | s, .advance _ => inferInstanceAs (Decidable (s.pc = .setupTrack → _))
  | _, .write _ => isTrue trivial
  | _, .radio _ => isTrue trivial
  | _, .reset => isTrue trivial

theorem honest_boot (config : Config) (nvs : Nvs) : Honest (boot config nvs) := fun _ => rfl

theorem announcing_boot (config : Config) (nvs : Nvs) : Announcing (boot config nvs) := by
  intro hpc
  rw [boot] at hpc
  exact absurd hpc (by simp only [reduceCtorEq, not_false_eq_true])

/-- The connection is announced only after the flag was set. -/
theorem announcing_step (s s' : Board) (a : Act) (h : Announcing s)
    (hstep : step s a = some s') : Announcing s' := by
  cases a with
  | advance r =>
      rw [step, Option.ite_none_right_eq_some, Option.some.injEq] at hstep
      rw [← hstep.2]
      intro hpc
      rw [tick_pc] at hpc
      -- Only one piece leads to the announcement, and it sets the flag.
      cases advance_piece r s with
      | aside haside _ => exact absurd (hpc ▸ haside.pc) (by decide)
      | setupPublish up hset => exact absurd (hpc ▸ hset) (by decide)
      | setupTrack _ hset _ _ => exact absurd (hpc ▸ hset) (by decide)
      | found hflag _ => exact hflag
      | lost _ _ hset _ => exact absurd (hpc ▸ hset) (by decide)
      | publish _ hset _ _ => exact absurd (hpc ▸ hset) (by decide)
  | write creds =>
      rw [step, Option.some.injEq] at hstep
      rw [← hstep]
      exact fun hpc => (wifiWasConnected_onWrite creds s.net).trans (h hpc)
  | radio ssid =>
      rw [step, Option.some.injEq] at hstep
      rw [← hstep]
      exact h
  | reset =>
      rw [step, Option.some.injEq] at hstep
      rw [← hstep]
      exact announcing_boot _ _

/-- After a piece the characteristic is right, provided the piece was careful. -/
theorem honest_advance (r : Readings) (s : Board) (hannounce : Announcing s) (h : Honest s) :
    Honest (tick r s) ↔ Careful s (.advance r) := by
  cases advance_piece r s with
  | aside haside hfrom =>
      refine ⟨fun _ hpc => absurd (hpc ▸ hfrom) (by decide), fun _ _ => ?_⟩
      exact (congrArg WifiStatus.connected haside.status).trans
        ((h hfrom).trans haside.flag.symm)
  | setupPublish up hset =>
      have hupdating : Updating (tick r s).pc = true := by
        rw [tick_pc, hset]
        rfl
      refine ⟨fun _ hpc => ?_, fun _ hpc => absurd (hpc.symm.trans hupdating) (by decide)⟩
      -- The piece behind `setupTrack` is not `setupTrack`.
      rw [advance, hpc] at hset
      exact absurd hset (by simp only [reduceCtorEq, not_false_eq_true])
  | setupTrack hfrom hset hflag hstatus =>
      -- The flag is the second reading, and the characteristic the first one.
      refine ⟨fun hafter _ => ?_, fun hcareful _ => ?_⟩
      · exact hflag.symm.trans ((hafter hset).symm.trans (congrArg WifiStatus.connected hstatus))
      · exact (congrArg WifiStatus.connected hstatus).trans ((hcareful hfrom).symm.trans hflag.symm)
  | found hflag hset =>
      have hupdating : Updating (tick r s).pc = true := by
        rw [tick_pc, hset]
        rfl
      refine ⟨fun _ hpc => ?_, fun _ hpc => absurd (hpc.symm.trans hupdating) (by decide)⟩
      rw [advance, hpc] at hset
      exact absurd hset (by simp only [reduceCtorEq, not_false_eq_true])
  | lost hflag hstatus hset hfrom =>
      exact ⟨fun _ hpc => absurd (hpc ▸ hfrom) (by decide), fun _ _ => hstatus.trans hflag.symm⟩
  | publish hfrom hset hflag hstatus =>
      refine ⟨fun _ hpc => absurd (hfrom.symm.trans hpc) (by decide), fun _ _ => ?_⟩
      exact hstatus.trans (hflag.trans (hannounce hfrom)).symm

theorem honest_step (s s' : Board) (a : Act) (hannounce : Announcing s) (h : Honest s)
    (hstep : step s a = some s') : Honest s' ↔ Careful s a := by
  cases a with
  | advance r =>
      rw [step, Option.ite_none_right_eq_some, Option.some.injEq] at hstep
      rw [← hstep.2]
      exact honest_advance r s hannounce h
  | write creds =>
      rw [step, Option.some.injEq] at hstep
      rw [← hstep]
      exact ⟨fun _ => trivial,
        fun _ hpc => (h hpc).trans (wifiWasConnected_onWrite creds s.net).symm⟩
  | radio ssid =>
      rw [step, Option.some.injEq] at hstep
      rw [← hstep]
      exact ⟨fun _ => trivial, fun _ => h⟩
  | reset =>
      rw [step, Option.some.injEq] at hstep
      rw [← hstep]
      exact ⟨fun _ => trivial, fun _ => honest_boot _ _⟩

/-- The characteristic says what the flag says throughout exactly the runs in
    which the second reading of `setup()` finds what the first one found. -/
theorem wifiStatus_honest (config : Config) (nvs : Nvs) (as : List Act) (t : Board)
    (hrun : run step (boot config nvs) as = some t) :
    Throughout step Honest (boot config nvs) as ↔ Along step Careful (boot config nvs) as :=
  throughout_iff_along_of_invariant step Careful Announcing Honest
    (fun s a s' hannounce hstep => announcing_step s s' a hannounce hstep)
    (fun s a s' hannounce h hstep => honest_step s s' a hannounce h hstep) as
    (boot config nvs) t (announcing_boot config nvs) (honest_boot config nvs) hrun

def atHome : Config := ⟨"home", "home-password", false⟩

/-- The association is lost between the two readings of `setup()`. -/
def lostInSetup : List Act :=
  [.advance (timed 1), .advance (timed 2), .radio (some "home"), .advance (timed 3),
    .advance (timed 4), .radio none, .advance (timed 5)]

theorem wifiStatus_honest_lost : ∃ t, run step (boot atHome ⟨none, ""⟩) lostInSetup = some t ∧
    t.wifiStatus.connected = true ∧ t.radio = none ∧
    ¬Along step Careful (boot atHome ⟨none, ""⟩) lostInSetup ∧
    (Throughout step Honest (boot atHome ⟨none, ""⟩) lostInSetup ↔
      Along step Careful (boot atHome ⟨none, ""⟩) lostInSetup) :=
  ⟨_, rfl, rfl, rfl, by decide, wifiStatus_honest atHome ⟨none, ""⟩ lostInSetup _ rfl⟩

/-- An idle loop that sees no difference, and a characteristic that is wrong. -/
structure Stuck (s : Board) : Prop where
  loop : s.pc = .pending ∨ s.pc = .track ∨ s.pc = .ensureWifi ∨ s.pc = .ensureMqtt
  idle : s.net.pendingProvision = false
  seen : s.net.wifiWasConnected = s.radio.isSome
  wrong : s.wifiStatus.connected ≠ s.net.wifiWasConnected

theorem pendingProvision_ensureWifi (up : Bool) (t : Nat) (s : Network) :
    (Network.ensureWifi up t s).pendingProvision = s.pendingProvision := by
  unfold Network.ensureWifi
  split
  · rfl
  · split
    · rfl
    · rfl

theorem pendingProvision_ensureMqtt (up ok : Bool) (t : Nat) (s : Network) :
    (Network.ensureMqtt up ok t s).pendingProvision = s.pendingProvision := by
  unfold Network.ensureMqtt
  split
  · rfl
  · split
    · rfl
    · split
      · rfl
      · rfl

theorem stuck_tick (r : Readings) (s : Board) (h : Stuck s) : Stuck (tick r s) := by
  rcases h.loop with hpc | hpc | hpc | hpc
  · have hstay : advance r s = { s with pc := .track } := by
      rw [advance, hpc]
      exact if_neg (h.idle ▸ Bool.false_ne_true)
    rw [tick, hstay]
    exact ⟨Or.inr (Or.inl rfl), h.idle, h.seen, h.wrong⟩
  -- The comparison finds nothing.
  · have hstay : advance r s = { s with pc := .ensureWifi } := by
      rw [advance, hpc]
      simp only [track, h.seen, Bool.and_not_self, Bool.not_and_self, Bool.false_eq_true, if_false]
    rw [tick, hstay]
    exact ⟨Or.inr (Or.inr (Or.inl rfl)), h.idle, h.seen, h.wrong⟩
  · have hstay : advance r s = { s with
        net := Network.ensureWifi s.radio.isSome r.time s.net, pc := .ensureMqtt } := by
      rw [advance, hpc]
    -- Connecting again does not touch the flag.
    have hflag := wifiWasConnected_ensureWifi s.radio.isSome r.time s.net
    rw [tick, hstay]
    exact ⟨Or.inr (Or.inr (Or.inr rfl)), (pendingProvision_ensureWifi _ _ _).trans h.idle,
      hflag.trans h.seen, fun heq => h.wrong (heq.trans hflag)⟩
  · have hstay : ∃ net, advance r s = { s with net, pc := .pending } ∧
        net.wifiWasConnected = s.net.wifiWasConnected ∧
        net.pendingProvision = s.net.pendingProvision := by
      rw [advance, hpc]
      refine ⟨_, rfl, ?_⟩
      split
      · exact ⟨wifiWasConnected_ensureMqtt _ _ _ _, pendingProvision_ensureMqtt _ _ _ _⟩
      · exact ⟨rfl, rfl⟩
    rcases hstay with ⟨net, hadvance, hflag, hpending⟩
    rw [tick, hadvance]
    exact ⟨Or.inl rfl, hpending.trans h.idle, hflag.trans h.seen,
      fun heq => h.wrong (heq.trans hflag)⟩

/-- Iterations in which nothing happens leave it wrong. -/
theorem wifiStatus_stuck (s t : Board) (h : Stuck s) (as : List Act)
    (hadvance : ∀ a ∈ as, ∃ r, a = .advance r) (hrun : run step s as = some t) :
    t.wifiStatus.connected ≠ t.radio.isSome := by
  have hstuck : Stuck t := by
    refine run_invariant_along step (fun _ a => ∃ r, a = .advance r) Stuck ?_ as s t h
      (along_of_forall step (fun a => ∃ r, a = .advance r) as s hadvance) hrun
    rintro u a u' hu ⟨r, rfl⟩ hstep
    rw [step, Option.ite_none_right_eq_some, Option.some.injEq] at hstep
    exact hstep.2 ▸ stuck_tick r u hu
  exact fun heq => hstuck.wrong (heq.trans hstuck.seen.symm)

end WifiStatus

end Firmware

end Vena
