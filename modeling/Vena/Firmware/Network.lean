import Vena.Core.Backoff
import Vena.Core.Run

/-!
# Wi-Fi, Provisioning and the Broker Session

The networking half of the firmware: what `setup()` does about Wi-Fi, the
first two blocks of `loop()`, and `MqttPublisher` with its two retry timers.

Every function that reads the clock reads it once, so each takes the time of
that reading as an argument; the readings of one iteration are fields of
`LoopInput`, in the order in which the code takes them. The radio and the
broker belong to the environment: what `WiFi.status()`, `_mqtt.connected()`
and `_mqtt.connect()` answer at each call is input too.

`wifiBegins` and `mqttConnects` log the calls of `WiFi.begin` and
`_mqtt.connect`, newest first, and the two deadlines are the real times the
retry timers were last set to. The firmware has none of the four; they only
observe.

## Main definitions

* `WifiCredentials`, `Nvs`: What provisioning delivers and what the flash keeps.
* `MqttPublisher`: The publisher's credentials and timers.
* `Network`: The networking state of the firmware.
* `MqttPublisher.begin`, `ensureWifi`, `ensureMqtt`: Lifted to `Network` as
  `mqttBegin`, `ensureWifi`, `ensureMqtt`.
* `setup`: The state at the end of `setup()`.
* `onProvisionReceived`, `consumeProvision`, `trackWifi`, `mqttLoop`: The
  pieces of `loop()`.
* `Act`, `step`: The runs of the firmware between two boots.
-/

namespace Vena

namespace Firmware

open Clock32

/-- A BLE provisioning write, and what `WifiProvisioner` stores of it. -/
structure WifiCredentials where
  ssid : String
  psk : String
  jwt : String
  deriving DecidableEq, Repr

/-- The build: `WIFI_SSID`, `WIFI_PASS` and `MQTT_USE_AUTH`. -/
structure Config where
  wifiSsid : String
  wifiPass : String
  mqttUseAuth : Bool
  deriving DecidableEq, Repr

/-- The two flash namespaces that survive a reboot: the provisioner's and the
    one of `NvsJwt`. -/
structure Nvs where
  provisioned : Option WifiCredentials
  deviceJwt : String
  deriving DecidableEq, Repr

/-- The members of `MqttPublisher` that change. -/
structure MqttPublisher where
  jwtCredential : String
  wifi : Backoff
  mqtt : Backoff
  deriving DecidableEq, Repr

/-- One call of `WiFi.begin`. -/
structure WifiBegin where
  ssid : String
  psk : String
  time : Nat
  deriving DecidableEq, Repr

/-- The networking state of the firmware and the log of the run. -/
structure Network where
  config : Config
  nvs : Nvs
  publisher : MqttPublisher
  pendingProvision : Bool
  pendingCreds : WifiCredentials
  wifiProvisioned : Bool
  wifiWasConnected : Bool
  clock : Nat
  wifiBegins : List WifiBegin
  mqttConnects : List Nat
  wifiDeadline : Nat
  mqttDeadline : Nat
  deriving DecidableEq, Repr

def backoffStartMs : Nat := 1000

def backoffMaxMs : Nat := 30000

namespace Network

/-- The globals before `setup()` runs. -/
def init (config : Config) (nvs : Nvs) : Network where
  config := config
  nvs := nvs
  publisher := { jwtCredential := "", wifi := ⟨0, backoffStartMs⟩, mqtt := ⟨0, backoffStartMs⟩ }
  pendingProvision := false
  pendingCreds := ⟨"", "", ""⟩
  wifiProvisioned := false
  wifiWasConnected := false
  clock := 0
  wifiBegins := []
  mqttConnects := []
  wifiDeadline := 0
  mqttDeadline := 0

/-- A call of `WiFi.begin`. -/
def wifiBegin (ssid psk : String) (t : Nat) (s : Network) : Network :=
  { s with wifiBegins := ⟨ssid, psk, t⟩ :: s.wifiBegins }

def setJwt (jwt : String) (s : Network) : Network :=
  { s with publisher := { s.publisher with jwtCredential := jwt } }

/-- `if (jwt.length() > 0) mqtt.setJwt(jwt)`. -/
def adoptJwt (jwt : String) (s : Network) : Network :=
  if jwt ≠ "" then setJwt jwt s else s

/-- `MqttPublisher::begin`: join with the compile-time credentials and arm the
    Wi-Fi timer with the current delay. -/
def mqttBegin (t : Nat) (s : Network) : Network :=
  let s := wifiBegin s.config.wifiSsid s.config.wifiPass t s
  { s with
    publisher := { s.publisher with
      wifi := { s.publisher.wifi with
        nextAttemptMs := add32 (millis t) s.publisher.wifi.backoffMs } }
    wifiDeadline := t + s.publisher.wifi.backoffMs }

/-- `MqttPublisher::ensureWifi`, with the status it reads. -/
def ensureWifi (wifiUp : Bool) (t : Nat) (s : Network) : Network :=
  if wifiUp then
    { s with publisher := { s.publisher with wifi := s.publisher.wifi.reset backoffStartMs } }
  -- The backoff has not run out yet.
  else if !s.publisher.wifi.ready t then s
  else
    let wifi := s.publisher.wifi.postpone backoffMaxMs t
    -- Always with the credentials of the build, whatever was provisioned.
    { wifiBegin s.config.wifiSsid s.config.wifiPass t s with
      publisher := { s.publisher with wifi := wifi }
      wifiDeadline := t + wifi.backoffMs }

/-- `MqttPublisher::ensureMqtt`, with the session state it finds and the
    outcome of the connect it may make. -/
def ensureMqtt (sessionUp connectOk : Bool) (t : Nat) (s : Network) : Network :=
  if sessionUp then
    { s with publisher := { s.publisher with mqtt := s.publisher.mqtt.reset backoffStartMs } }
  else if !s.publisher.mqtt.ready t then s
  -- A connect that succeeds puts the delay back to its start.
  else if connectOk then
    { s with
      publisher := { s.publisher with mqtt := s.publisher.mqtt.reset backoffStartMs }
      mqttConnects := t :: s.mqttConnects }
  else
    let mqtt := s.publisher.mqtt.postpone backoffMaxMs t
    { s with
      publisher := { s.publisher with mqtt := mqtt }
      mqttConnects := t :: s.mqttConnects
      mqttDeadline := t + mqtt.backoffMs }

@[simp] theorem ensureMqtt_wifiBegins (s : Network) (sessionUp connectOk : Bool) (t : Nat) :
    (ensureMqtt sessionUp connectOk t s).wifiBegins = s.wifiBegins := by
  unfold ensureMqtt
  split
  · rfl
  · split
    · rfl
    · split
      · rfl
      · rfl

/-- What `setup()` reads: the times of its `WiFi.begin` calls, its end, and
    whether Wi-Fi is up by then. -/
structure SetupInput where
  provisionedAt : Nat
  beginAt : Nat
  doneAt : Nat
  wifiUp : Bool
  deriving DecidableEq, Repr

/-- `setup()`: provisioned credentials if the flash holds any, the
    compile-time ones otherwise. -/
def setup (config : Config) (nvs : Nvs) (i : SetupInput) : Option Network :=
  if i.provisionedAt ≤ i.beginAt ∧ i.beginAt ≤ i.doneAt then
    let s := init config nvs
    let s := match nvs.provisioned with
      | some creds =>
        { mqttBegin i.beginAt (setJwt creds.jwt (wifiBegin creds.ssid creds.psk i.provisionedAt s))
          with wifiProvisioned := true }
      | none =>
        let s := mqttBegin i.beginAt s
        if config.mqttUseAuth then adoptJwt nvs.deviceJwt s else s
    some { s with wifiWasConnected := i.wifiUp, clock := i.doneAt }
  else none

/-- `onProvisionReceived`: store the write and leave it to `loop()`. -/
def onProvisionReceived (creds : WifiCredentials) (s : Network) : Network :=
  { s with
    -- A write without a JWT keeps the one that is stored.
    nvs := { provisioned := some creds
             deviceJwt := if creds.jwt ≠ "" then creds.jwt else s.nvs.deviceJwt }
    pendingCreds := creds
    pendingProvision := true }

/-- The readings one iteration of `loop()` takes. -/
structure LoopInput where
  startAt : Nat
  provisionAt : Nat
  trackAt : Nat
  wifiUpAtTrack : Bool
  ensureWifiAt : Nat
  wifiUpAtEnsure : Bool
  wifiUpAtLoop : Bool
  ensureMqttAt : Nat
  sessionUp : Bool
  connectOk : Bool
  deriving DecidableEq, Repr

/-- The pending-provisioning block of `loop()`. -/
def consumeProvision (i : LoopInput) (s : Network) : Network :=
  if s.pendingProvision then
    { adoptJwt s.pendingCreds.jwt (wifiBegin s.pendingCreds.ssid s.pendingCreds.psk i.provisionAt
        { s with pendingProvision := false })
      with wifiProvisioned := true }
  else s

/-- The Wi-Fi tracking block of `loop()`. -/
def trackWifi (i : LoopInput) (s : Network) : Network :=
  if i.wifiUpAtTrack && !s.wifiWasConnected then
    let s := { s with wifiWasConnected := true }
    -- Only after provisioning is MQTT restarted on the new connection.
    if s.wifiProvisioned then mqttBegin i.trackAt s else s
  else if !i.wifiUpAtTrack && s.wifiWasConnected then { s with wifiWasConnected := false }
  else s

/-- `MqttPublisher::loop`. -/
def mqttLoop (i : LoopInput) (s : Network) : Network :=
  let s := ensureWifi i.wifiUpAtEnsure i.ensureWifiAt s
  -- The Wi-Fi status is read a second time.
  if i.wifiUpAtLoop then ensureMqtt i.sessionUp i.connectOk i.ensureMqttAt s else s

/-- The state in which an iteration calls `mqtt.loop()`. -/
def atMqttLoop (i : LoopInput) (s : Network) : Network :=
  trackWifi i (consumeProvision i s)

/-- What happens to the firmware between two boots. -/
inductive Act where
  | provision (creds : WifiCredentials)
  | loop (i : LoopInput)
  deriving DecidableEq, Repr

/-- The readings of an iteration come in the order the code takes them. -/
def LoopInput.InOrder (i : LoopInput) (now : Nat) : Prop :=
  now ≤ i.startAt ∧ i.startAt ≤ i.provisionAt ∧ i.provisionAt ≤ i.trackAt ∧
    i.trackAt ≤ i.ensureWifiAt ∧ i.ensureWifiAt ≤ i.ensureMqttAt

instance (i : LoopInput) (now : Nat) : Decidable (LoopInput.InOrder i now) :=
  inferInstanceAs (Decidable (_ ∧ _))

def step (s : Network) : Act → Option Network
  | .provision creds => some (onProvisionReceived creds s)
  | .loop i => if LoopInput.InOrder i s.clock then
      some { mqttLoop i (atMqttLoop i s) with clock := i.ensureMqttAt }
    else none

end Network

end Firmware

end Vena
