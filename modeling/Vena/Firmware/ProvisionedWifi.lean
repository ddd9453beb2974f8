import Vena.Firmware.Board

/-!
# Provisioned Credentials in Force

Once the board has provisioned credentials, found in the flash at boot or taken
from a BLE write, it should join that network and no other. Four places call
`WiFi.begin`. Two use the provisioned credentials, `setup()` and the pending
block of `loop()`; the other two, `MqttPublisher::begin` and `ensureWifi`, only
know the pair the publisher was built with. `provisioned_wins` states exactly
when that does no harm: whenever one of those two calls is made, no provisioned
credentials are in force, or they are those of the build.

## Main definitions

* `Call.Right`, `ProvisionedWins`: The calls use the credentials in force.
* `compileTimeBegin`: The next piece joins with the credentials of the build.
* `Careful`: It does so only where these are the ones in force.

## Theorems

* `begun_advance`: The calls a piece makes.
* `provisioned_wins`: When the provisioned credentials win.
* `provisioned_loses`: A boot on which they do not.
-/

namespace Vena

namespace Firmware

namespace Board

open Network Run

/-- The call uses the provisioned credentials in force, if there are any. -/
def Call.Right (call : Call) : Prop :=
  ∀ creds ∈ call.inForce, call.begin.ssid = creds.ssid ∧ call.begin.psk = creds.psk

/-- Every call of `WiFi.begin` so far did. -/
def ProvisionedWins (s : Board) : Prop :=
  ∀ call ∈ s.calls, Call.Right call

/-- The next piece joins with the credentials of the build. -/
def compileTimeBegin (r : Readings) (s : Board) : Bool :=
  match s.pc with
  | .setupMqtt _ => true
  | .trackBegin => s.net.wifiProvisioned
  | .ensureWifi => !s.radio.isSome && s.net.publisher.wifi.ready r.time
  | _ => false

/-- The build was made with the provisioned credentials. -/
def SameAsBuild (config : Config) (creds : WifiCredentials) : Prop :=
  config.wifiSsid = creds.ssid ∧ config.wifiPass = creds.psk

instance (config : Config) (creds : WifiCredentials) : Decidable (SameAsBuild config creds) :=
  inferInstanceAs (Decidable (_ ∧ _))

/-- A piece that joins with the credentials of the build finds no others in
    force. -/
def Careful (s : Board) : Act → Prop
  | .advance r => compileTimeBegin r s = true → ∀ creds ∈ s.inForce, SameAsBuild s.net.config creds
  | _ => True

instance (s : Board) : (a : Act) → Decidable (Careful s a)
  | .advance _ => inferInstanceAs (Decidable (_ → ∀ creds ∈ _, _))
  | .write _ => instDecidableTrue
  | .radio _ => instDecidableTrue
  | .reset => instDecidableTrue

theorem begun_same (old new : Network) (h : new.wifiBegins = old.wifiBegins) :
    begun old new = [] := by
  rw [begun, h, Nat.sub_self, List.take_zero]

theorem begun_cons (old new : Network) (call : WifiBegin)
    (h : new.wifiBegins = call :: old.wifiBegins) : begun old new = [call] := by
  rw [begun, h, List.length_cons, Nat.add_sub_cancel_left, List.take_succ_cons, List.take_zero]

@[simp] theorem adoptJwt_wifiBegins (jwt : String) (s : Network) :
    (adoptJwt jwt s).wifiBegins = s.wifiBegins := by
  unfold adoptJwt
  split
  · rfl
  · rfl

theorem setupMqtt_wifiBegins (provisioned : Bool) (r : Readings) (s : Board) :
    (setupMqtt provisioned r s).net.wifiBegins = (mqttBegin r.time s.net).wifiBegins := by
  simp only [setupMqtt]
  split
  · rfl
  · split
    · exact adoptJwt_wifiBegins _ _
    · rfl

theorem pending_wifiBegins (s : Board) : (pending s).net.wifiBegins = s.net.wifiBegins := by
  unfold pending
  split
  · rfl
  · rfl

theorem track_wifiBegins (s : Board) : (track s).net.wifiBegins = s.net.wifiBegins := by
  unfold track
  split
  · rfl
  · split
    · rfl
    · rfl

/-- The call of the next piece: with the credentials of the build, with the
    ones it puts in force, or none. -/
theorem begun_advance (r : Readings) (s : Board) :
    (compileTimeBegin r s = true ∧ (advance r s).inForce = s.inForce ∧
      begun s.net (advance r s).net = [⟨s.net.config.wifiSsid, s.net.config.wifiPass, r.time⟩]) ∨
    (compileTimeBegin r s = false ∧
      ((∃ creds, (advance r s).inForce = some creds ∧
        begun s.net (advance r s).net = [⟨creds.ssid, creds.psk, r.time⟩]) ∨
      begun s.net (advance r s).net = [])) := by
  unfold compileTimeBegin advance
  cases s.pc with
  -- The first join of `setup()` is the one that uses the stored credentials.
  | setupWifi =>
      refine Or.inr ⟨rfl, ?_⟩
      unfold setupWifi
      cases s.net.nvs.provisioned with
      | some creds => exact Or.inl ⟨creds, rfl, begun_cons _ _ _ rfl⟩
      | none => exact Or.inr (begun_same _ _ rfl)
  -- `mqtt.begin` joins again, with the credentials of the build.
  | setupMqtt provisioned =>
      exact Or.inl ⟨rfl, rfl, begun_cons _ _ _ (setupMqtt_wifiBegins provisioned r s)⟩
  | setupStatus => exact Or.inr ⟨rfl, Or.inr (begun_same _ _ rfl)⟩
  | setupPublish up => exact Or.inr ⟨rfl, Or.inr (begun_same _ _ rfl)⟩
  | setupTrack => exact Or.inr ⟨rfl, Or.inr (begun_same _ _ rfl)⟩
  | pending => exact Or.inr ⟨rfl, Or.inr (begun_same _ _ (pending_wifiBegins s))⟩
  | provision =>
      refine Or.inr ⟨rfl, Or.inl ⟨s.net.pendingCreds, rfl, begun_cons _ _ _ ?_⟩⟩
      simp only [provision, adoptJwt_wifiBegins]
      rfl
  | track => exact Or.inr ⟨rfl, Or.inr (begun_same _ _ (track_wifiBegins s))⟩
  | publish => exact Or.inr ⟨rfl, Or.inr (begun_same _ _ rfl)⟩
  | trackBegin =>
      cases hprovisioned : s.net.wifiProvisioned with
      | true =>
          refine Or.inl ⟨rfl, rfl, begun_cons _ _ _ ?_⟩
          simp only [if_true]
          rfl
      | false =>
          refine Or.inr ⟨rfl, Or.inr (begun_same _ _ ?_)⟩
          simp only [Bool.false_eq_true, if_false]
  | ensureWifi =>
      unfold Network.ensureWifi
      cases s.radio.isSome with
      | true => exact Or.inr ⟨rfl, Or.inr (begun_same _ _ rfl)⟩
      | false =>
          cases s.net.publisher.wifi.ready r.time with
          | true => exact Or.inl ⟨rfl, rfl, begun_cons _ _ _ rfl⟩
          | false => exact Or.inr ⟨rfl, Or.inr (begun_same _ _ rfl)⟩
  | ensureMqtt =>
      refine Or.inr ⟨rfl, Or.inr (begun_same _ _ ?_)⟩
      simp only []
      split
      · exact ensureMqtt_wifiBegins _ _ _ _
      · rfl

/-- A step keeps the log, and what it adds is right if and only if the step is
    careful. -/
theorem step_calls (s s' : Board) (a : Act) (hstep : step s a = some s') :
    (∀ call ∈ s.calls, call ∈ s'.calls) ∧
    (ProvisionedWins s → (ProvisionedWins s' ↔ Careful s a)) := by
  cases a with
  | advance r =>
      rw [step] at hstep
      split at hstep
      · rw [Option.some.injEq] at hstep
        have hcalls : s'.calls = (begun s.net (advance r s).net).map
            (fun call => ⟨call, (advance r s).inForce⟩) ++ s.calls := by
          rw [← hstep]
          rfl
        refine ⟨fun call hcall => by rw [hcalls]; exact List.mem_append_right _ hcall,
          fun hright => ?_⟩
        rw [ProvisionedWins, hcalls, List.forall_mem_append, Careful]
        rcases begun_advance r s
          with ⟨hbuild, hforce, hbegun⟩ | ⟨hother, ⟨creds, hforce, hbegun⟩ | hnone⟩
        -- With the credentials of the build the new call is right exactly on the condition.
        · rw [hbegun, hforce, List.map_singleton, List.forall_mem_singleton]
          exact ⟨fun h _ => h.1, fun h => ⟨h hbuild, hright⟩⟩
        -- With its own credentials it is right in any case.
        · rw [hbegun, hforce, List.map_singleton, List.forall_mem_singleton, hother]
          refine ⟨fun _ h => absurd h Bool.false_ne_true, fun _ => ⟨?_, hright⟩⟩
          intro creds' heq
          rw [Option.mem_def, Option.some.injEq] at heq
          rw [← heq]
          exact ⟨rfl, rfl⟩
        · rw [hnone, hother]
          exact ⟨fun _ h => absurd h Bool.false_ne_true,
            fun _ => ⟨fun call hcall => absurd hcall List.not_mem_nil, hright⟩⟩
      · exact absurd hstep (by simp only [reduceCtorEq, not_false_eq_true])
  | write creds =>
      rw [step, Option.some.injEq] at hstep
      rw [← hstep]
      exact ⟨fun call hcall => hcall, fun hright => ⟨fun _ => trivial, fun _ => hright⟩⟩
  | radio ssid =>
      rw [step, Option.some.injEq] at hstep
      rw [← hstep]
      exact ⟨fun call hcall => hcall, fun hright => ⟨fun _ => trivial, fun _ => hright⟩⟩
  | reset =>
      rw [step, Option.some.injEq] at hstep
      rw [← hstep]
      exact ⟨fun call hcall => hcall, fun hright => ⟨fun _ => trivial, fun _ => hright⟩⟩

/-- The provisioned credentials win if and only if every step of the run is
    careful. -/
theorem provisioned_wins (config : Config) (nvs : Nvs) (as : List Act) (t : Board)
    (hrun : run step (boot config nvs) as = some t) :
    ProvisionedWins t ↔ Along step Careful (boot config nvs) as := by
  have hstart : ProvisionedWins (boot config nvs) :=
    fun call hcall => absurd hcall List.not_mem_nil
  -- A wrong call stays in the log, so one careless step settles the run.
  rcases run_dichotomy step Careful ProvisionedWins (fun s => ¬ ProvisionedWins s)
    (fun s a s' h hC hstep => ((step_calls s s' a hstep).2 h).mpr hC)
    (fun s a s' h hC hstep h' => hC (((step_calls s s' a hstep).2 h).mp h'))
    (fun s a s' h hstep h' => h (fun call hcall =>
      h' call ((step_calls s s' a hstep).1 call hcall)))
    as (boot config nvs) t hstart hrun with ⟨halong, ht⟩ | ⟨hno, ht⟩
  · exact ⟨fun _ => halong, fun _ => ht⟩
  · exact ⟨fun h => absurd h ht, fun h => absurd h hno⟩

def demoConfig : Config := ⟨"factory", "factory-psk", false⟩

def demoCreds : WifiCredentials := ⟨"home", "home-psk-1", ""⟩

/-- A board without stored credentials is provisioned, and the network it was
    sent to does not answer. -/
def provisionedLater : List Act :=
  [.advance (timed 0), .advance (timed 1), .advance (timed 15000), .advance (timed 15000),
    .advance (timed 15000), .write demoCreds, .advance (timed 15001), .advance (timed 15601),
    .advance (timed 15602)]

theorem provisionedLater_wins : ∃ t,
    run step (boot demoConfig ⟨none, ""⟩) provisionedLater = some t ∧
    t.inForce = some demoCreds ∧ ProvisionedWins t :=
  ⟨_, rfl, rfl, (provisioned_wins demoConfig ⟨none, ""⟩ provisionedLater _ rfl).mpr (by decide)⟩

/-- A board with stored credentials calls `WiFi.begin` with them, and in
    `mqtt.begin` at once with those of the build. -/
theorem provisioned_loses : ¬ ∀ (config : Config) (nvs : Nvs) (as : List Act) (t : Board),
    run step (boot config nvs) as = some t → ProvisionedWins t := by
  intro hall
  have hwins := hall demoConfig ⟨some demoCreds, ""⟩ [.advance (timed 0), .advance (timed 1)] _ rfl
  have hright := hwins ⟨⟨"factory", "factory-psk", 1⟩, some demoCreds⟩ List.mem_cons_self
  exact absurd (hright demoCreds rfl).1 (by decide)

end Board

end Firmware

end Vena
