import Vena.Firmware.Network

/-!
# The Board, Piece by Piece

The networking half of the firmware once more, cut at every point where
something else can happen: a BLE write, which the NimBLE task handles while
`setup()` or `loop()` runs on, a change of the radio's association, a read of
the `wifi_status` characteristic, or a reboot. Between two such points the
pieces are the functions of `Network`; `run_iteration` shows that an iteration
whose pieces run without anything in between is the one of `Network.step`.

`calls` logs every call of `WiFi.begin` together with the provisioned
credentials in force: those a boot found in the flash, or those `loop()` took
from the last write it consumed. The firmware keeps no such record.

## Main definitions

* `WifiStatus`: The `wifi_status` characteristic.
* `Pc`: The next piece.
* `Board`: The state.
* `onWrite`: The write callback of `wifi_provisioning`.
* `Board.advance`: One piece of `setup()` or `loop()`.
* `Board.Act`, `Board.step`: The runs.

## Theorems

* `Board.run_iteration`: The pieces of an iteration make up `Network.step`.
-/

namespace Vena

namespace Firmware

open Network Run

/-- The `wifi_status` characteristic, as the phone decodes it. -/
structure WifiStatus where
  connected : Bool
  ssid : Option String
  ip : Option String
  rssi : Option Int
  deriving DecidableEq, Repr

/-- `BleManager::updateWifiStatus`. -/
def updateWifiStatus (connected : Bool) (ssid ip : String) (rssi : Int) : WifiStatus :=
  if connected then ⟨true, some ssid, some ip, some rssi⟩ else ⟨false, none, none, none⟩

/-- The next piece of `setup()` or `loop()`. -/
inductive Pc where
  | setupWifi
  | setupMqtt (provisioned : Bool)
  | setupStatus
  | setupPublish (up : Bool)
  | setupTrack
  | pending
  | provision
  | track
  | publish
  | trackBegin
  | ensureWifi
  | ensureMqtt
  deriving DecidableEq, Repr

/-- A call of `WiFi.begin`, with the provisioned credentials in force. -/
structure Call where
  begin : WifiBegin
  inForce : Option WifiCredentials
  deriving DecidableEq, Repr

structure Board where
  net : Network
  pc : Pc
  radio : Option String
  wifiStatus : WifiStatus
  inForce : Option WifiCredentials
  calls : List Call
  deriving DecidableEq, Repr

/-- What a piece reads besides the association: the clock, the address and the
    signal, the broker session and the outcome of a connect. -/
structure Readings where
  time : Nat
  ip : String
  rssi : Int
  sessionUp : Bool
  connectOk : Bool
  deriving DecidableEq, Repr

/-- The characters of a string that a C string carries. -/
def cString (s : String) : String :=
  String.ofList (s.toList.takeWhile (fun c => c ≠ '\x00'))

/-- `ProvisionWriteCallbacks::onWrite`: credentials that cannot work are
    dropped without a word. -/
def onWrite (creds : WifiCredentials) (s : Network) : Network :=
  let creds := ⟨cString creds.ssid, cString creds.psk, cString creds.jwt⟩
  -- WPA2 asks for eight characters at least.
  if creds.ssid = "" ∨ creds.psk.utf8ByteSize < 8 then s else onProvisionReceived creds s

namespace Board

/-- The board after a reset, up to the point where the GATT service runs. -/
def boot (config : Config) (nvs : Nvs) : Board where
  net := Network.init config nvs
  pc := .setupWifi
  radio := none
  wifiStatus := updateWifiStatus false "" "" 0
  inForce := none
  calls := []

/-- What `WiFi.SSID()` answers. -/
def ssid (s : Board) : String := s.radio.getD ""

/-- The first branch of `setup()`: join with what the flash holds. -/
def setupWifi (r : Readings) (s : Board) : Board :=
  match s.net.nvs.provisioned with
  | some creds => { s with
      net := setJwt creds.jwt (wifiBegin creds.ssid creds.psk r.time s.net)
      pc := .setupMqtt true
      inForce := some creds }
  | none => { s with pc := .setupMqtt false }

/-- `mqtt.begin` and what follows it in either branch of `setup()`. -/
def setupMqtt (provisioned : Bool) (r : Readings) (s : Board) : Board :=
  let net := mqttBegin r.time s.net
  { s with
    net :=
      if provisioned then { net with wifiProvisioned := true }
      else if net.config.mqttUseAuth then adoptJwt net.nvs.deviceJwt net else net
    pc := .setupStatus }

/-- The flag of the pending write. Its block starts by switching the radio off. -/
def pending (s : Board) : Board :=
  if s.net.pendingProvision then
    { s with net := { s.net with pendingProvision := false }, radio := none, pc := .provision }
  else { s with pc := .track }

/-- The rest of the block, after its delays. -/
def provision (r : Readings) (s : Board) : Board :=
  let creds := s.net.pendingCreds
  { s with
    net := { adoptJwt creds.jwt (wifiBegin creds.ssid creds.psk r.time s.net) with
      wifiProvisioned := true }
    pc := .track
    inForce := some creds }

/-- The comparison of the tracking block. -/
def track (s : Board) : Board :=
  if s.radio.isSome && !s.net.wifiWasConnected then
    { s with net := { s.net with wifiWasConnected := true }, pc := .publish }
  else if !s.radio.isSome && s.net.wifiWasConnected then
    { s with
      net := { s.net with wifiWasConnected := false }
      wifiStatus := updateWifiStatus false "" "" 0
      pc := .ensureWifi }
  else { s with pc := .ensureWifi }

/-- One piece of `setup()` or `loop()`. -/
def advance (r : Readings) (s : Board) : Board :=
  match s.pc with
  | .setupWifi => setupWifi r s
  | .setupMqtt provisioned => setupMqtt provisioned r s
  -- The association is read once to choose, and the SSID again to report.
  | .setupStatus => { s with pc := .setupPublish s.radio.isSome }
  | .setupPublish up =>
    { s with wifiStatus := updateWifiStatus up s.ssid r.ip r.rssi, pc := .setupTrack }
  | .setupTrack =>
    { s with net := { s.net with wifiWasConnected := s.radio.isSome }, pc := .pending }
  | .pending => pending s
  | .provision => provision r s
  | .track => track s
  | .publish =>
    { s with wifiStatus := updateWifiStatus true s.ssid r.ip r.rssi, pc := .trackBegin }
  -- The connection was announced: restart MQTT, which also calls `WiFi.begin`.
  | .trackBegin =>
    { s with
      net := if s.net.wifiProvisioned then mqttBegin r.time s.net else s.net
      pc := .ensureWifi }
  | .ensureWifi =>
    { s with net := Network.ensureWifi s.radio.isSome r.time s.net, pc := .ensureMqtt }
  | .ensureMqtt =>
    { s with
      net :=
        if s.radio.isSome then Network.ensureMqtt r.sessionUp r.connectOk r.time s.net else s.net
      pc := .pending }

/-- The calls of `WiFi.begin` that lead from one log to another. -/
def begun (old new : Network) : List WifiBegin :=
  new.wifiBegins.take (new.wifiBegins.length - old.wifiBegins.length)

/-- One piece, with its time and the calls it made noted. -/
def tick (r : Readings) (s : Board) : Board :=
  let s' := advance r s
  { s' with
    net := { s'.net with clock := r.time }
    calls := (begun s.net s'.net).map (fun call => ⟨call, s'.inForce⟩) ++ s.calls }

/-- The firmware goes on, the phone writes credentials, the association
    changes, or the board is reset. -/
inductive Act where
  | advance (r : Readings)
  | write (creds : WifiCredentials)
  | radio (ssid : Option String)
  | reset
  deriving DecidableEq, Repr

def step (s : Board) : Act → Option Board
  | .advance r =>
    if s.net.clock ≤ r.time then some (tick r s) else none
  | .write creds => some { s with net := onWrite creds s.net }
  | .radio ssid => some { s with radio := ssid }
  -- Only the flash and the log survive.
  | .reset => some { boot s.net.config s.net.nvs with calls := s.calls }

/-- A state whose clock has moved on. -/
def atClock (t : Nat) (s : Network) : Network := { s with clock := t }

theorem adoptJwt_atClock (jwt : String) (t : Nat) (s : Network) :
    adoptJwt jwt (atClock t s) = atClock t (adoptJwt jwt s) := by
  unfold adoptJwt
  split
  · rfl
  · rfl

theorem ensureWifi_atClock (up : Bool) (t c : Nat) (s : Network) :
    Network.ensureWifi up t (atClock c s) = atClock c (Network.ensureWifi up t s) := by
  cases up with
  | true => rfl
  | false =>
      cases hready : s.publisher.wifi.ready t with
      | true =>
          simp only [Network.ensureWifi, atClock, hready, Bool.not_true, Bool.false_eq_true,
            if_false]
          rfl
      | false =>
          simp only [Network.ensureWifi, atClock, hready, Bool.not_false, Bool.false_eq_true,
            if_true, if_false]

theorem ensureMqtt_atClock (up ok : Bool) (t c : Nat) (s : Network) :
    Network.ensureMqtt up ok t (atClock c s) = atClock c (Network.ensureMqtt up ok t s) := by
  cases up with
  | true => rfl
  | false =>
      cases hready : s.publisher.mqtt.ready t with
      | true =>
          simp only [Network.ensureMqtt, atClock, hready, Bool.not_true, Bool.false_eq_true,
            if_false]
          cases ok with
          | true => rfl
          | false => rfl
      | false =>
          simp only [Network.ensureMqtt, atClock, hready, Bool.not_false, Bool.false_eq_true,
            if_true, if_false]

theorem trackWifi_atClock (i : LoopInput) (c : Nat) (s : Network) :
    trackWifi i (atClock c s) = atClock c (trackWifi i s) := by
  unfold trackWifi
  cases i.wifiUpAtTrack with
  | true =>
      cases hwas : s.wifiWasConnected with
      | true =>
          simp only [atClock, hwas, Bool.not_true, Bool.and_false, Bool.false_eq_true, if_false,
          Bool.and_true]
      | false =>
          cases hprovisioned : s.wifiProvisioned with
          | true =>
              simp only [atClock, hwas, hprovisioned, Bool.not_false, Bool.and_true, if_true]
              rfl
          | false =>
              simp only [atClock, hwas, hprovisioned, Bool.not_false, Bool.and_true, if_true,
                Bool.false_eq_true, if_false]
  | false =>
      cases hwas : s.wifiWasConnected with
      | true => simp only [atClock, hwas, Bool.not_true, Bool.not_false, Bool.and_self,
          Bool.false_eq_true, if_false, if_true]
      | false => simp only [atClock, hwas, Bool.not_false, Bool.and_true, Bool.and_false,
          Bool.false_eq_true, if_false]

theorem mqttLoop_atClock (i : LoopInput) (c : Nat) (s : Network) :
    mqttLoop i (atClock c s) = atClock c (mqttLoop i s) := by
  simp only [mqttLoop, ensureWifi_atClock, ensureMqtt_atClock]
  split
  · rfl
  · rfl

@[simp] theorem tick_net (r : Readings) (s : Board) :
    (tick r s).net = atClock r.time (advance r s).net := rfl

@[simp] theorem tick_pc (r : Readings) (s : Board) : (tick r s).pc = (advance r s).pc := rfl

theorem run_tick (s : Board) (r : Readings) (as : List Act) (htime : s.net.clock ≤ r.time) :
    run step s (.advance r :: as) = run step (tick r s) as := by
  simp only [run, step, if_pos htime]

/-- The pieces of an iteration that read nothing but the time. -/
def timed (t : Nat) : Readings := ⟨t, "", 0, false, false⟩

/-- The block of the pending write is `consumeProvision`. -/
theorem run_pending (s : Board) (i : LoopInput) (hpc : s.pc = .pending)
    (hstart : s.net.clock ≤ i.startAt) (hprovision : i.startAt ≤ i.provisionAt) :
    ∃ as t, run step s as = some t ∧ t.pc = .track ∧
      t.net = atClock i.provisionAt (consumeProvision i s.net) := by
  -- With a write pending the block takes two pieces, otherwise one.
  by_cases hpending : s.net.pendingProvision = true
  · refine ⟨[.advance (timed i.startAt), .advance (timed i.provisionAt)],
      tick (timed i.provisionAt) (tick (timed i.startAt) s), ?_, ?_, ?_⟩
    · rw [run_tick s _ _ hstart, run_tick _ _ _ hprovision]
      rfl
    · simp only [tick_pc, advance, hpc, pending, if_pos hpending, provision]
    · simp only [tick_net, tick_pc, advance, hpc, pending, if_pos hpending, provision,
        consumeProvision]
      exact congrArg (fun net => atClock i.provisionAt { net with wifiProvisioned := true })
        (adoptJwt_atClock s.net.pendingCreds.jwt i.startAt
          (wifiBegin s.net.pendingCreds.ssid s.net.pendingCreds.psk i.provisionAt
            { s.net with pendingProvision := false }))
  · refine ⟨[.advance (timed i.provisionAt)], tick (timed i.provisionAt) s, ?_, ?_, ?_⟩
    · rw [run_tick s _ _ (Nat.le_trans hstart hprovision)]
      rfl
    · simp only [tick_pc, advance, hpc, pending, if_neg hpending]
    · simp only [tick_net, advance, hpc, pending, if_neg hpending, consumeProvision]
      rfl

/-- The association that gives a reading of `WiFi.status()`. -/
def heard (up : Bool) : Option String := if up then some "" else none

@[simp] theorem isSome_heard (up : Bool) : (heard up).isSome = up := by
  cases up with
  | true => rfl
  | false => rfl

theorem run_radio (s : Board) (ssid : Option String) (as : List Act) :
    run step s (.radio ssid :: as) = run step { s with radio := ssid } as := rfl

/-- The tracking block is `trackWifi`. -/
theorem run_track (s : Board) (i : LoopInput) (hpc : s.pc = .track)
    (htime : s.net.clock ≤ i.trackAt) :
    ∃ as t, run step s as = some t ∧ t.pc = .ensureWifi ∧
      t.net = atClock i.trackAt (trackWifi i s.net) := by
  -- The association changes to what the iteration read, and the block runs on it.
  let s₁ : Board := { s with radio := heard i.wifiUpAtTrack }
  by_cases hnew : (i.wifiUpAtTrack && !s.net.wifiWasConnected) = true
  · refine ⟨[.radio (heard i.wifiUpAtTrack), .advance (timed i.trackAt),
      .advance (timed i.trackAt), .advance (timed i.trackAt)],
      tick (timed i.trackAt) (tick (timed i.trackAt) (tick (timed i.trackAt) s₁)), ?_, ?_, ?_⟩
    · rw [run_radio, run_tick s₁ _ _ htime, run_tick _ _ _ (Nat.le_refl _),
        run_tick _ _ _ (Nat.le_refl _)]
      rfl
    · simp only [tick_pc, advance, hpc, track, isSome_heard, if_pos hnew, s₁]
    · simp only [tick_net, tick_pc, advance, hpc, track, isSome_heard, if_pos hnew, s₁,
        trackWifi]
      cases hprovisioned : s.net.wifiProvisioned with
      | true =>
          simp only [atClock, if_true]
          rfl
      | false =>
          simp only [atClock, Bool.false_eq_true, if_false]
          rfl
  · refine ⟨[.radio (heard i.wifiUpAtTrack), .advance (timed i.trackAt)],
      tick (timed i.trackAt) s₁, ?_, ?_, ?_⟩
    · rw [run_radio, run_tick s₁ _ _ htime]
      rfl
    · simp only [tick_pc, advance, hpc, track, isSome_heard, if_neg hnew, s₁]
      split
      · rfl
      · rfl
    · simp only [tick_net, advance, hpc, track, isSome_heard, if_neg hnew, s₁, trackWifi]
      split
      · rfl
      · rfl

/-- The two pieces of `mqtt.loop()` are `mqttLoop`. -/
theorem run_mqttLoop (s : Board) (i : LoopInput) (hpc : s.pc = .ensureWifi)
    (hwifi : s.net.clock ≤ i.ensureWifiAt) (hmqtt : i.ensureWifiAt ≤ i.ensureMqttAt) :
    ∃ as t, run step s as = some t ∧ t.pc = .pending ∧
      t.net = atClock i.ensureMqttAt (mqttLoop i s.net) := by
  let s₁ : Board := { s with radio := heard i.wifiUpAtEnsure }
  let s₂ : Board := { tick (timed i.ensureWifiAt) s₁ with radio := heard i.wifiUpAtLoop }
  let r : Readings := ⟨i.ensureMqttAt, "", 0, i.sessionUp, i.connectOk⟩
  refine ⟨[.radio (heard i.wifiUpAtEnsure), .advance (timed i.ensureWifiAt),
    .radio (heard i.wifiUpAtLoop), .advance r], tick r s₂, ?_, ?_, ?_⟩
  · rw [run_radio, run_tick s₁ _ _ hwifi, run_radio, run_tick s₂ r _ hmqtt]
    rfl
  · simp only [tick_pc, advance, hpc, s₁, s₂]
  · simp only [tick_net, tick_pc, advance, hpc, isSome_heard, s₁, s₂, r, mqttLoop]
    by_cases hup : i.wifiUpAtLoop = true
    · simp only [if_pos hup, ensureMqtt_atClock]
      rfl
    · simp only [if_neg hup]
      rfl

/-- An iteration whose pieces run without anything in between is the one of
    `Network.step`. -/
theorem run_iteration (s : Board) (i : LoopInput) (net : Network) (hpc : s.pc = .pending)
    (hstep : Network.step s.net (.loop i) = some net) :
    ∃ as t, run step s as = some t ∧ t.pc = .pending ∧ t.net = net := by
  rw [Network.step] at hstep
  split at hstep
  · next horder =>
      rcases horder with ⟨hstart, hprovision, htrack, hwifi, hmqtt⟩
      -- The three blocks one after the other, each from where the last one stopped.
      rcases run_pending s i hpc hstart hprovision with ⟨as₁, s₁, hrun₁, hpc₁, hnet₁⟩
      rcases run_track s₁ i hpc₁ (by rw [hnet₁]; exact htrack) with ⟨as₂, s₂, hrun₂, hpc₂, hnet₂⟩
      rcases run_mqttLoop s₂ i hpc₂ (by rw [hnet₂]; exact hwifi) hmqtt
        with ⟨as₃, s₃, hrun₃, hpc₃, hnet₃⟩
      refine ⟨as₁ ++ (as₂ ++ as₃), s₃, ?_, hpc₃, ?_⟩
      · exact (run_append step s s₃ as₁ _).mpr ⟨s₁, hrun₁,
          (run_append step s₁ s₃ as₂ as₃).mpr ⟨s₂, hrun₂, hrun₃⟩⟩
      -- The clock only matters to the order of the readings, so it moves outwards.
      · rw [Option.some.injEq] at hstep
        rw [hnet₃, hnet₂, hnet₁, ← hstep, trackWifi_atClock, mqttLoop_atClock, mqttLoop_atClock]
        rfl
  · exact absurd hstep (by simp only [reduceCtorEq, not_false_eq_true])

end Board

end Firmware

end Vena
