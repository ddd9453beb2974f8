import Vena.Firmware.Network

/-!
# Reconnection

How long the firmware may leave a broken link alone. Both `ensureWifi` and
`ensureMqtt` throttle themselves with a retry timer of at most
`BACKOFF_MAX_MS`, so thirty seconds after the last attempt the next one should
go out. `Prompt` says that of one call of `MqttPublisher::loop`.

The throttle compares 32-bit readings through the sign of their difference,
and a deadline is only ever moved by a failed attempt. A link that has been up
for longer than half a turn of the counter, some 24.8 days, has left a
deadline behind that looks like the future, and the calls that then find the
link down make no attempt. `prompt_iff_recent` turns this into an
equivalence for every call of every run: a call is prompt exactly when the
deadline of each timer that is due lies in the first half of a turn.

## Main definitions

* `Timers`: Both retry timers track their real deadlines.
* `mqttDue`, `wifiDue`: The link is down and the last attempt is old.
* `Prompt`: A call that finds a due link makes an attempt.
* `Recent`: The deadlines behind a due link lie in the first half of a turn.
* `PacedFrom`: Consecutive iterations start less than thirty seconds apart.

## Theorems

* `step_timers`, `run_timers`: Every run keeps the timers tracked.
* `prompt_iff_recent`: When the calls of a run are prompt.
* `reconnect_blocked`: A paced run with a call that is not.
-/

namespace Vena

namespace Firmware

open Clock32

namespace Network

/-- Both retry timers track their real deadlines, as of real time `now`. -/
structure Timers (s : Network) (now : Nat) : Prop where
  wifi : s.publisher.wifi.Tracks backoffMaxMs s.wifiDeadline
    (s.wifiBegins.head?.map WifiBegin.time) now
  mqtt : s.publisher.mqtt.Tracks backoffMaxMs s.mqttDeadline s.mqttConnects.head? now

theorem timers_later (s : Network) (now now' : Nat) (hle : now ≤ now') (h : Timers s now) :
    Timers s now' :=
  ⟨Backoff.tracks_later _ _ _ now now' _ hle h.wifi,
    Backoff.tracks_later _ _ _ now now' _ hle h.mqtt⟩

theorem timers_wifiBegin (s : Network) (ssid psk : String) (now t : Nat) (hle : now ≤ t)
    (h : Timers s now) : Timers (wifiBegin ssid psk t s) t :=
  ⟨Backoff.tracks_attempt _ _ _ now t _ hle h.wifi,
    Backoff.tracks_later _ _ _ now t _ hle h.mqtt⟩

theorem timers_setJwt (s : Network) (jwt : String) (now : Nat) (h : Timers s now) :
    Timers (setJwt jwt s) now :=
  ⟨h.wifi, h.mqtt⟩

theorem timers_adoptJwt (s : Network) (jwt : String) (now : Nat) (h : Timers s now) :
    Timers (adoptJwt jwt s) now := by
  unfold adoptJwt
  split
  · exact timers_setJwt s jwt now h
  · exact h

theorem timers_mqttBegin (s : Network) (now t : Nat) (hle : now ≤ t) (h : Timers s now) :
    Timers (mqttBegin t s) t :=
  ⟨Backoff.tracks_armed _ _ t _ h.wifi.backoff_le rfl h.wifi.backoff_le,
    Backoff.tracks_later _ _ _ now t _ hle h.mqtt⟩

theorem timers_ensureWifi (s : Network) (wifiUp : Bool) (now t : Nat) (hle : now ≤ t)
    (h : Timers s now) : Timers (ensureWifi wifiUp t s) t := by
  have hmqtt := Backoff.tracks_later _ _ _ now t _ hle h.mqtt
  unfold ensureWifi
  by_cases hup : wifiUp = true
  · rw [if_pos hup]
    -- A link that is up puts its delay back, the deadline stays where it was.
    exact ⟨Backoff.tracks_later _ _ _ now t _ hle
      (Backoff.tracks_reset _ _ _ _ now _ (by decide) h.wifi), hmqtt⟩
  · rw [if_neg hup]
    by_cases hblocked : (!s.publisher.wifi.ready t) = true
    · rw [if_pos hblocked]
      exact timers_later s now t hle h
    · rw [if_neg hblocked]
      exact ⟨Backoff.tracks_postpone _ _ t, hmqtt⟩

theorem timers_ensureMqtt (s : Network) (sessionUp connectOk : Bool) (now t : Nat) (hle : now ≤ t)
    (h : Timers s now) : Timers (ensureMqtt sessionUp connectOk t s) t := by
  have hwifi := Backoff.tracks_later _ _ _ now t _ hle h.wifi
  unfold ensureMqtt
  by_cases hup : sessionUp = true
  · rw [if_pos hup]
    exact ⟨hwifi, Backoff.tracks_later _ _ _ now t _ hle
      (Backoff.tracks_reset _ _ _ _ now _ (by decide) h.mqtt)⟩
  · rw [if_neg hup]
    by_cases hblocked : (!s.publisher.mqtt.ready t) = true
    · rw [if_pos hblocked]
      exact timers_later s now t hle h
    · rw [if_neg hblocked]
      by_cases hok : connectOk = true
      · rw [if_pos hok]
        exact ⟨hwifi, Backoff.tracks_attempt _ _ _ now t _ hle
          (Backoff.tracks_reset _ _ _ _ now _ (by decide) h.mqtt)⟩
      · rw [if_neg hok]
        exact ⟨hwifi, Backoff.tracks_postpone _ _ t⟩

theorem timers_onProvisionReceived (s : Network) (creds : WifiCredentials) (now : Nat)
    (h : Timers s now) : Timers (onProvisionReceived creds s) now :=
  ⟨h.wifi, h.mqtt⟩

theorem timers_consumeProvision (s : Network) (i : LoopInput) (now : Nat)
    (hle : now ≤ i.provisionAt) (h : Timers s now) :
    Timers (consumeProvision i s) i.provisionAt := by
  unfold consumeProvision
  by_cases hpending : s.pendingProvision = true
  · rw [if_pos hpending]
    -- The block calls `WiFi.begin` itself and leaves the deadline alone.
    have hbegin := timers_wifiBegin { s with pendingProvision := false }
      s.pendingCreds.ssid s.pendingCreds.psk now i.provisionAt hle ⟨h.wifi, h.mqtt⟩
    have hjwt := timers_adoptJwt _ s.pendingCreds.jwt i.provisionAt hbegin
    exact ⟨hjwt.wifi, hjwt.mqtt⟩
  · rw [if_neg hpending]
    exact timers_later s now i.provisionAt hle h

theorem timers_trackWifi (s : Network) (i : LoopInput) (now : Nat) (hle : now ≤ i.trackAt)
    (h : Timers s now) : Timers (trackWifi i s) i.trackAt := by
  unfold trackWifi
  by_cases hconn : (i.wifiUpAtTrack && !s.wifiWasConnected) = true
  · rw [if_pos hconn]
    by_cases hprov : s.wifiProvisioned = true
    · simp only [if_pos hprov]
      exact timers_mqttBegin { s with wifiWasConnected := true } now i.trackAt hle
        ⟨h.wifi, h.mqtt⟩
    · simp only [if_neg hprov]
      exact timers_later _ now i.trackAt hle ⟨h.wifi, h.mqtt⟩
  · rw [if_neg hconn]
    split
    · exact timers_later _ now i.trackAt hle ⟨h.wifi, h.mqtt⟩
    · exact timers_later s now i.trackAt hle h

theorem timers_mqttLoop (s : Network) (i : LoopInput) (now : Nat)
    (hwifi : now ≤ i.ensureWifiAt) (hmqtt : i.ensureWifiAt ≤ i.ensureMqttAt)
    (h : Timers s now) : Timers (mqttLoop i s) i.ensureMqttAt := by
  have hfirst := timers_ensureWifi s i.wifiUpAtEnsure now i.ensureWifiAt hwifi h
  unfold mqttLoop
  by_cases hup : i.wifiUpAtLoop = true
  · simp only [if_pos hup]
    exact timers_ensureMqtt _ i.sessionUp i.connectOk i.ensureWifiAt i.ensureMqttAt hmqtt hfirst
  · simp only [if_neg hup]
    exact timers_later _ i.ensureWifiAt i.ensureMqttAt hmqtt hfirst

theorem timers_atMqttLoop (s : Network) (i : LoopInput) (now : Nat)
    (horder : LoopInput.InOrder i now) (h : Timers s now) :
    Timers (atMqttLoop i s) i.trackAt := by
  rcases horder with ⟨h1, h2, h3, h4, h5⟩
  exact timers_trackWifi _ i i.provisionAt h3
    (timers_consumeProvision s i now (Nat.le_trans h1 h2) h)

/-- `setup()` leaves both timers tracked. -/
theorem setup_timers (config : Config) (nvs : Nvs) (b : SetupInput) (s : Network)
    (hsetup : setup config nvs b = some s) : Timers s s.clock := by
  unfold setup at hsetup
  by_cases horder : b.provisionedAt ≤ b.beginAt ∧ b.beginAt ≤ b.doneAt
  · rw [if_pos horder, Option.some.injEq] at hsetup
    rcases horder with ⟨h1, h2⟩
    -- Before the first attempt both timers are due at once.
    have hinit : Timers (init config nvs) 0 := by
      have hle : backoffStartMs ≤ backoffMaxMs := by decide
      exact ⟨⟨rfl, hle, fun t ht => absurd ht (Option.not_mem_none t), fun _ => rfl⟩,
        ⟨rfl, hle, fun t ht => absurd ht (Option.not_mem_none t), fun _ => rfl⟩⟩
    rw [← hsetup]
    refine timers_later _ b.beginAt b.doneAt h2 ?_
    cases hprov : nvs.provisioned with
    | some creds =>
        -- With stored credentials `setup()` joins twice.
        have hfirst := timers_wifiBegin _ creds.ssid creds.psk 0 b.provisionedAt
          (Nat.zero_le _) hinit
        have hbegin := timers_mqttBegin _ b.provisionedAt b.beginAt h1
          (timers_setJwt _ creds.jwt _ hfirst)
        exact ⟨hbegin.wifi, hbegin.mqtt⟩
    | none =>
        have hbegin := timers_mqttBegin _ 0 b.beginAt (Nat.zero_le _) hinit
        have hjwt := timers_adoptJwt _ nvs.deviceJwt b.beginAt hbegin
        by_cases hauth : config.mqttUseAuth = true
        · simp only [if_pos hauth]
          exact ⟨hjwt.wifi, hjwt.mqtt⟩
        · simp only [if_neg hauth]
          exact ⟨hbegin.wifi, hbegin.mqtt⟩
  · rw [if_neg horder] at hsetup
    exact absurd hsetup (by simp only [reduceCtorEq, not_false_eq_true])

/-- Every step keeps the timers tracked. -/
theorem step_timers (s s' : Network) (a : Act) (h : Timers s s.clock)
    (hstep : step s a = some s') : Timers s' s'.clock := by
  cases a with
  | provision creds =>
      simp only [step, Option.some.injEq] at hstep
      rw [← hstep]
      exact timers_onProvisionReceived s creds s.clock h
  | loop i =>
      simp only [step] at hstep
      by_cases horder : LoopInput.InOrder i s.clock
      · rw [if_pos horder, Option.some.injEq] at hstep
        -- The iteration in the order of its readings: provisioning, tracking, MQTT.
        have hbefore := timers_atMqttLoop s i s.clock horder h
        rcases horder with ⟨h1, h2, h3, h4, h5⟩
        have hloop := timers_mqttLoop (atMqttLoop i s) i i.trackAt h4 h5 hbefore
        rw [← hstep]
        exact ⟨hloop.wifi, hloop.mqtt⟩
      · rw [if_neg horder] at hstep
        exact absurd hstep (by simp only [reduceCtorEq, not_false_eq_true])

theorem run_timers (config : Config) (nvs : Nvs) (b : SetupInput) (s₀ s : Network)
    (as : List Act) (hsetup : setup config nvs b = some s₀) (hrun : Run.run step s₀ as = some s) :
    Timers s s.clock :=
  Run.run_invariant step (fun u => Timers u u.clock)
    (fun u a u' hu hu' => step_timers u u' a hu hu')
    as s₀ s (setup_timers config nvs b s₀ hsetup) hrun

/-- The broker session is down while Wi-Fi is up, and the last connect attempt
    is at least `BACKOFF_MAX_MS` old. -/
def mqttDue (i : LoopInput) (s : Network) : Prop :=
  i.wifiUpAtLoop = true ∧ i.sessionUp = false ∧
    ∀ t ∈ s.mqttConnects.head?, t + backoffMaxMs ≤ i.ensureMqttAt

/-- Wi-Fi is down and the last `WiFi.begin` is at least `BACKOFF_MAX_MS` old. -/
def wifiDue (i : LoopInput) (s : Network) : Prop :=
  i.wifiUpAtEnsure = false ∧
    ∀ t ∈ s.wifiBegins.head?.map WifiBegin.time, t + backoffMaxMs ≤ i.ensureWifiAt

/-- A call of `MqttPublisher::loop` that finds a due link makes an attempt. -/
structure Prompt (i : LoopInput) (s : Network) : Prop where
  mqtt : mqttDue i s → (mqttLoop i s).mqttConnects = i.ensureMqttAt :: s.mqttConnects
  wifi : wifiDue i s → (mqttLoop i s).wifiBegins =
    ⟨s.config.wifiSsid, s.config.wifiPass, i.ensureWifiAt⟩ :: s.wifiBegins

/-- The deadline behind a due link lies in the first half of a turn of the
    counter. -/
structure Recent (i : LoopInput) (s : Network) : Prop where
  mqtt : mqttDue i s → (i.ensureMqttAt - s.mqttDeadline) % turn < halfTurn
  wifi : wifiDue i s → (i.ensureWifiAt - s.wifiDeadline) % turn < halfTurn

theorem ensureWifi_mqtt (s : Network) (wifiUp : Bool) (t : Nat) :
    (ensureWifi wifiUp t s).mqttConnects = s.mqttConnects ∧
      (ensureWifi wifiUp t s).publisher.mqtt = s.publisher.mqtt ∧
      (ensureWifi wifiUp t s).mqttDeadline = s.mqttDeadline := by
  unfold ensureWifi
  split
  · exact ⟨rfl, rfl, rfl⟩
  · split
    · exact ⟨rfl, rfl, rfl⟩
    · exact ⟨rfl, rfl, rfl⟩

/-- `ensureMqtt` connects on a session that is down exactly when its timer is
    ready. -/
theorem ensureMqtt_connects_iff (s : Network) (connectOk : Bool) (t : Nat) :
    (ensureMqtt false connectOk t s).mqttConnects = t :: s.mqttConnects ↔
      s.publisher.mqtt.ready t = true := by
  unfold ensureMqtt
  cases hready : s.publisher.mqtt.ready t with
  | false =>
      simp only [Bool.false_eq_true, if_false, Bool.not_false, if_true, iff_false]
      exact (List.cons_ne_self t s.mqttConnects).symm
  | true =>
      cases connectOk with
      | false => simp only [Bool.false_eq_true, if_false, Bool.not_true]
      | true => simp only [Bool.false_eq_true, if_false, Bool.not_true, if_true]

theorem ensureWifi_begins_iff (s : Network) (t : Nat) :
    (ensureWifi false t s).wifiBegins =
      ⟨s.config.wifiSsid, s.config.wifiPass, t⟩ :: s.wifiBegins ↔
      s.publisher.wifi.ready t = true := by
  unfold ensureWifi
  cases hready : s.publisher.wifi.ready t with
  | false =>
      simp only [Bool.false_eq_true, if_false, Bool.not_false, if_true, iff_false]
      exact (List.cons_ne_self _ s.wifiBegins).symm
  | true => simp only [Bool.false_eq_true, if_false, Bool.not_true, wifiBegin]

/-- A call that finds the session down and due connects exactly while its
    deadline is in the first half of a turn. -/
theorem mqttLoop_connects_iff (s : Network) (i : LoopInput) (now : Nat) (h : Timers s now)
    (hdue : mqttDue i s) : (mqttLoop i s).mqttConnects = i.ensureMqttAt :: s.mqttConnects ↔
      (i.ensureMqttAt - s.mqttDeadline) % turn < halfTurn := by
  rcases hdue with ⟨hup, hdown, hold⟩
  rcases ensureWifi_mqtt s i.wifiUpAtEnsure i.ensureWifiAt with ⟨hlog, htimer, _⟩
  -- The Wi-Fi half does not touch the timer of the session.
  have hcall : (mqttLoop i s).mqttConnects = (ensureMqtt false i.connectOk i.ensureMqttAt
      (ensureWifi i.wifiUpAtEnsure i.ensureWifiAt s)).mqttConnects := by
    unfold mqttLoop
    rw [hdown]
    simp only [if_pos hup]
  rw [hcall, ← hlog, ensureMqtt_connects_iff, htimer]
  exact Backoff.ready_iff _ backoffMaxMs s.mqttDeadline now i.ensureMqttAt _ h.mqtt hold

theorem mqttLoop_wifiBegins (s : Network) (i : LoopInput) : (mqttLoop i s).wifiBegins =
    (ensureWifi i.wifiUpAtEnsure i.ensureWifiAt s).wifiBegins := by
  unfold mqttLoop
  by_cases hup : i.wifiUpAtLoop = true
  · simp only [if_pos hup]
    rw [ensureMqtt_wifiBegins]
  · simp only [if_neg hup]

theorem mqttLoop_begins_iff (s : Network) (i : LoopInput) (now : Nat) (h : Timers s now)
    (hdue : wifiDue i s) : (mqttLoop i s).wifiBegins =
      ⟨s.config.wifiSsid, s.config.wifiPass, i.ensureWifiAt⟩ :: s.wifiBegins ↔
      (i.ensureWifiAt - s.wifiDeadline) % turn < halfTurn := by
  rcases hdue with ⟨hdown, hold⟩
  have hcall := mqttLoop_wifiBegins s i
  rw [hdown] at hcall
  rw [hcall, ensureWifi_begins_iff]
  exact Backoff.ready_iff _ backoffMaxMs s.wifiDeadline now i.ensureWifiAt _ h.wifi hold

/-- What a call of `MqttPublisher::loop` does about a due link is decided by
    the age of the deadline alone. -/
theorem prompt_iff_of_timers (s : Network) (i : LoopInput) (now : Nat) (h : Timers s now) :
    Prompt i s ↔ Recent i s := by
  constructor
  · intro hp
    exact ⟨fun hd => (mqttLoop_connects_iff s i now h hd).mp (hp.mqtt hd),
      fun hd => (mqttLoop_begins_iff s i now h hd).mp (hp.wifi hd)⟩
  · intro hr
    exact ⟨fun hd => (mqttLoop_connects_iff s i now h hd).mpr (hr.mqtt hd),
      fun hd => (mqttLoop_begins_iff s i now h hd).mpr (hr.wifi hd)⟩

/-- An iteration that finds both links up, taking all its readings at `t`. -/
def idleAt (t : Nat) : LoopInput where
  startAt := t
  provisionAt := t
  trackAt := t
  wifiUpAtTrack := true
  ensureWifiAt := t
  wifiUpAtEnsure := true
  wifiUpAtLoop := true
  ensureMqttAt := t
  sessionUp := true
  connectOk := false

/-- The first iteration, whose connect succeeds at once. -/
def firstConnect : LoopInput :=
  { idleAt 1000 with sessionUp := false, connectOk := true }

/-- A build without provisioning, on a network that comes up within a second. -/
def bench : Config := ⟨"lab", "lab-password", false⟩

def benchBoot : SetupInput := ⟨0, 0, 1000, true⟩

/-- The state `benchBoot` leaves. -/
def benchStart : Network :=
  { init bench ⟨none, ""⟩ with
    wifiWasConnected := true
    clock := 1000
    publisher := { jwtCredential := "", wifi := ⟨1000, 1000⟩, mqtt := ⟨0, 1000⟩ }
    wifiBegins := [⟨"lab", "lab-password", 0⟩]
    wifiDeadline := 1000 }

/-- In every run since boot, a call of `MqttPublisher::loop` is prompt exactly
    when the deadline behind each due link lies in the first half of a turn. -/
theorem prompt_iff_recent (config : Config) (nvs : Nvs) (b : SetupInput) (s₀ s s' : Network)
    (as : List Act) (i : LoopInput) (hsetup : setup config nvs b = some s₀)
    (hrun : Run.run step s₀ as = some s) (hstep : step s (.loop i) = some s') :
    Prompt i (atMqttLoop i s) ↔ Recent i (atMqttLoop i s) := by
  have htimers := run_timers config nvs b s₀ s as hsetup hrun
  simp only [step] at hstep
  by_cases horder : LoopInput.InOrder i s.clock
  · exact prompt_iff_of_timers _ i i.trackAt (timers_atMqttLoop s i s.clock horder htimers)
  · rw [if_neg horder] at hstep
    exact absurd hstep (by simp only [reduceCtorEq, not_false_eq_true])

/-- The first iteration after `benchBoot`, where the first connect is due. -/
theorem prompt_iff_recent_boot : Prompt firstConnect (atMqttLoop firstConnect benchStart) ↔
    Recent firstConnect (atMqttLoop firstConnect benchStart) :=
  prompt_iff_recent bench ⟨none, ""⟩ benchBoot benchStart benchStart _ [] firstConnect rfl rfl rfl

/-- Consecutive iterations start less than thirty seconds apart, counting from
    time `t`. -/
def PacedFrom : Nat → List Act → Prop
  | _, [] => True
  | t, .provision _ :: as => PacedFrom t as
  | t, .loop i :: as => i.startAt < t + 30000 ∧ PacedFrom i.startAt as

/-- `n` idle iterations twenty seconds apart, the first twenty seconds after
    time `t`. -/
def idles : Nat → Nat → List Act
  | _, 0 => []
  | t, n + 1 => .loop (idleAt (t + 20000)) :: idles (t + 20000) n

/-- Both links are up and neither timer holds a failure. -/
structure Settled (s : Network) : Prop where
  connected : s.wifiWasConnected = true
  idle : s.pendingProvision = false
  wifi : s.publisher.wifi.backoffMs = backoffStartMs
  mqtt : s.publisher.mqtt.backoffMs = backoffStartMs

theorem mqttLoop_idle (s : Network) (t : Nat) (h : Settled s) : mqttLoop (idleAt t) s = s := by
  have hwifi : s.publisher.wifi.reset backoffStartMs = s.publisher.wifi := by
    rw [← h.wifi]
    rfl
  have hmqtt : s.publisher.mqtt.reset backoffStartMs = s.publisher.mqtt := by
    rw [← h.mqtt]
    rfl
  have hfirst : ensureWifi true t s = s := by
    unfold ensureWifi
    rw [if_pos rfl, hwifi]
  have hsecond : ensureMqtt true false t s = s := by
    unfold ensureMqtt
    rw [if_pos rfl, hmqtt]
  change (if true = true then ensureMqtt true false t (ensureWifi true t s)
    else ensureWifi true t s) = s
  rw [if_pos rfl, hfirst, hsecond]

theorem atMqttLoop_settled (s : Network) (i : LoopInput) (hi : i.wifiUpAtTrack = true)
    (h : Settled s) : atMqttLoop i s = s := by
  have hconsume : consumeProvision i s = s := by
    unfold consumeProvision
    rw [h.idle, if_neg Bool.false_ne_true]
  have htrack : trackWifi i s = s := by
    unfold trackWifi
    rw [h.connected, hi, if_neg (by simp only [Bool.not_true, Bool.and_false, Bool.false_eq_true,
      not_false_eq_true]), if_neg (by simp only [Bool.not_true, Bool.false_and, Bool.false_eq_true,
      not_false_eq_true])]
  rw [atMqttLoop, hconsume, htrack]

theorem step_idle (s : Network) (t : Nat) (h : Settled s) (hle : s.clock ≤ t) :
    step s (.loop (idleAt t)) = some { s with clock := t } := by
  have horder : LoopInput.InOrder (idleAt t) s.clock :=
    ⟨hle, le_refl t, le_refl t, le_refl t, le_refl t⟩
  unfold step
  simp only []
  rw [if_pos horder, atMqttLoop_settled s (idleAt t) rfl h, mqttLoop_idle s t h]
  rfl

theorem run_idles (n : Nat) : ∀ (s : Network), Settled s →
    Run.run step s (idles s.clock n) = some { s with clock := s.clock + 20000 * n } := by
  induction n with
  | zero =>
      intro s _
      rfl
  | succ k ih =>
      intro s h
      rw [idles, Run.run_cons_eq_some]
      refine ⟨_, step_idle s _ h (by omega), ?_⟩
      rw [ih { s with clock := s.clock + 20000 } ⟨h.connected, h.idle, h.wifi, h.mqtt⟩]
      simp only [Option.some.injEq, Network.mk.injEq, and_self, and_true, true_and]
      omega

theorem pacedFrom_idles (n : Nat) : ∀ (t : Nat) (i : LoopInput),
    i.startAt < t + 20000 * n + 30000 → PacedFrom t (idles t n ++ [.loop i]) := by
  induction n with
  | zero =>
      intro t i hi
      exact ⟨by omega, trivial⟩
  | succ k ih =>
      intro t i hi
      refine ⟨by simp only [idleAt]; omega, ?_⟩
      exact ih (t + 20000) i (by omega)

/-- The iteration that finds the session gone after 24.9 days. -/
def sessionLost : LoopInput :=
  { idleAt 2147501000 with sessionUp := false, connectOk := true }

/-- A session that was connected once and then stayed up for `n` idle
    iterations, as a run since boot. -/
theorem run_stable (n : Nat) : ∃ s₀ s, setup bench ⟨none, ""⟩ benchBoot = some s₀ ∧
    Run.run step s₀ (.loop firstConnect :: idles 1000 n) = some s ∧ s₀.clock = 1000 ∧
    s.clock = 1000 + 20000 * n ∧ Settled s ∧ s.mqttConnects = [1000] ∧ s.mqttDeadline = 0 := by
  have hfirst : ∃ s₀ s₁, setup bench ⟨none, ""⟩ benchBoot = some s₀ ∧ s₀.clock = 1000 ∧
      step s₀ (.loop firstConnect) = some s₁ ∧ s₁.clock = 1000 ∧ Settled s₁ ∧
      s₁.mqttConnects = [1000] ∧ s₁.mqttDeadline = 0 :=
    ⟨_, _, rfl, rfl, rfl, rfl, ⟨rfl, rfl, rfl, rfl⟩, rfl, rfl⟩
  rcases hfirst with ⟨s₀, s₁, hsetup, hclock₀, hstep₁, hclock₁, hsettled, hlog, hdeadline⟩
  have hidles := run_idles n s₁ hsettled
  rw [hclock₁] at hidles
  exact ⟨s₀, _, hsetup, (Run.run_cons_eq_some _ _ _ _ _).mpr ⟨s₁, hstep₁, hidles⟩, hclock₀, rfl,
    ⟨hsettled.connected, hsettled.idle, hsettled.wifi, hsettled.mqtt⟩, hlog, hdeadline⟩

theorem step_sessionLost (s : Network) (h : s.clock ≤ 2147501000) :
    ∃ s', step s (.loop sessionLost) = some s' := by
  have horder : LoopInput.InOrder sessionLost s.clock :=
    ⟨h, le_refl _, le_refl _, le_refl _, le_refl _⟩
  unfold step
  simp only []
  rw [if_pos horder]
  exact ⟨_, rfl⟩

/-- The session is lost for the first time after 24.9 days, and the next call
    of `MqttPublisher::loop` makes no attempt. -/
theorem reconnect_blocked : ¬ ∀ (config : Config) (nvs : Nvs) (b : SetupInput)
    (s₀ s s' : Network) (as : List Act) (i : LoopInput), setup config nvs b = some s₀ →
    Run.run step s₀ as = some s → step s (.loop i) = some s' →
    PacedFrom s₀.clock (as ++ [.loop i]) → Prompt i (atMqttLoop i s) := by
  intro hall
  -- the run is kept symbolic, so that nothing unfolds its 107374 iterations
  rcases (⟨107374, rfl⟩ : ∃ n, n = 107374) with ⟨n, hn⟩
  rcases run_stable n with ⟨s₀, s, hsetup, hrun, hclock₀, hclock, hsettled, hlog, hdeadline⟩
  rcases step_sessionLost s (by omega) with ⟨s', hstep⟩
  have hpaced :
      PacedFrom s₀.clock ((.loop firstConnect :: idles 1000 n) ++ [.loop sessionLost]) := by
    rw [hclock₀]
    exact ⟨by decide,
      pacedFrom_idles n 1000 sessionLost (by simp only [sessionLost, idleAt]; omega)⟩
  have hprompt := hall bench ⟨none, ""⟩ benchBoot s₀ s s' _ sessionLost hsetup hrun hstep hpaced
  rw [atMqttLoop_settled s sessionLost rfl hsettled] at hprompt
  have hdue : mqttDue sessionLost s := by
    refine ⟨rfl, rfl, fun t ht => ?_⟩
    rw [hlog, List.head?_cons, Option.mem_some_iff] at ht
    rw [← ht]
    decide
  -- The deadline is still the one of the boot, more than half a turn ago.
  have htimers := run_timers _ _ _ s₀ s _ hsetup hrun
  have hrecent := ((prompt_iff_of_timers s sessionLost _ htimers).mp hprompt).mqtt hdue
  rw [hdeadline] at hrecent
  exact absurd hrecent (by decide)

end Network

end Firmware

end Vena
