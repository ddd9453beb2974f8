import Vena.Core.Run
import Vena.Core.Processes
import Vena.Core.Json
import Mathlib.Data.List.Sort
import Mathlib.Data.List.Infix

/-!
# The pairing wizard

`PairingNotifier` with the screen in front of it. The screen offers what fits
the step it shows; a tap runs the notifier's method up to its first await, and
the rest of the method is an operation in flight, resumed with whatever the
radio or the backend answers. An operation goes on from the state it finds then.
The stream of a scan is different, since `_scanSub` is cancelled with it.

What `Uri.tryParse` and `jsonDecode` make of a QR code is input, and so are the
texts of exceptions.

## Main definitions

* `PairingState`: What the screen shows.
* `Task`: An operation in flight.
* `step`: The user, the radio and the backend, interleaved.
-/

namespace Vena

namespace Mobile

namespace Pairing

inductive PairingStep where
  | idle
  | confirming
  | bleScan
  | bleConnecting
  | provisioning
  | claiming
  | naming
  | success
  | error
  deriving DecidableEq, Repr

structure DiscoveredVenaDevice where
  bleId : String
  name : String
  rssi : Int
  deriving DecidableEq, Repr

structure PairingState where
  step : PairingStep
  deviceId : Option String
  pairingCode : Option String
  deviceAlias : String
  storedContent : Option String
  errorMessage : Option String
  discoveredDevices : List DiscoveredVenaDevice
  selectedBleDeviceId : Option String
  selectedBleDeviceName : Option String
  deriving DecidableEq, Repr

/-- `const PairingState()` -/
def PairingState.fresh : PairingState where
  step := .idle
  deviceId := none
  pairingCode := none
  deviceAlias := ""
  storedContent := none
  errorMessage := none
  discoveredDevices := []
  selectedBleDeviceId := none
  selectedBleDeviceName := none

/-- `copyWith` keeps every field it is not given, but for the error message. -/
def PairingState.copy (p : PairingState) : PairingState := { p with errorMessage := none }

def PairingState.goto (p : PairingState) (step : PairingStep) : PairingState :=
  { p.copy with step }

def PairingState.fail (p : PairingState) (errorMessage : String) : PairingState :=
  { p with step := .error, errorMessage := some errorMessage }

/-- The parts of a `Uri` that the wizard reads, `code` being
    `queryParameters['code']`. -/
structure Uri where
  scheme : String
  host : String
  pathSegments : List String
  code : Option String

def nonEmpty (deviceId code : String) : Option (String × String) :=
  if deviceId ≠ "" ∧ code ≠ "" then some (deviceId, code) else none

def parseUri (uri : Uri) : Option (String × String) :=
  if uri.scheme = "vena" then do
    -- `vena://<id>?code=…`, or with the id as the first segment of the path.
    let deviceId ← if uri.host ≠ "" then some uri.host else uri.pathSegments.head?
    let code ← uri.code
    nonEmpty deviceId code
  else none

/-- A member that is no string throws, and the handler gives up. -/
def parseJson (decoded : Json) : Option (String × String) := do
  let members ← decoded.asObject
  let deviceId ← (← (Json.get members "device_id").asOptString)
  let code ← (← (Json.get members "pairing_code").asOptString)
  nonEmpty deviceId code

def parseQr (uri : Option Uri) (decoded : Option Json) : Option (String × String) :=
  -- The JSON form is tried only where the URI gives nothing.
  (uri.bind parseUri).or (decoded.bind parseJson)

def contains (msg part : String) : Bool := decide (part.toList <:+: msg.toList)

/-- From the text of the exception, in lower case. -/
def friendlyError (msg : String) : String :=
  if contains msg "timeout" then
    "Dispositivo não conectou ao Wi-Fi a tempo. Verifique as credenciais."
  else if contains msg "409" || contains msg "conflict" then
    "Este dispositivo já está pareado com outra conta."
  else if contains msg "404" then
    "Dispositivo não encontrado. Verifique o código QR."
  else if contains msg "403" || contains msg "forbidden" || contains msg "invalid pairing" then
    "Código de pareamento inválido. Reescanei o QR do dispositivo."
  else if contains msg "ble write" then
    "Falha ao enviar credenciais via Bluetooth. Aproxime o dispositivo."
  else if contains msg "socket" || contains msg "network" || contains msg "connection" then
    "Sem conexão. Verifique a internet e tente novamente."
  else "Erro ao parear dispositivo. Tente novamente."

/-- What `String.trim` removes. -/
def isWhiteSpace (c : Char) : Bool :=
  let n := c.toNat
  (0x09 ≤ n && n ≤ 0x0D) || n == 0x20 || n == 0x85 || n == 0xA0 || n == 0x1680 ||
    (0x2000 ≤ n && n ≤ 0x200A) || n == 0x2028 || n == 0x2029 || n == 0x202F || n == 0x205F ||
    n == 0x3000 || n == 0xFEFF

def trim (s : String) : String :=
  String.ofList (((s.toList.dropWhile isWhiteSpace).reverse.dropWhile isWhiteSpace).reverse)

/-- An operation in flight, by what it waits for: `selectDevice` for the
    connection and the Wi-Fi status, `submitProvisioning` for the device,
    `_doClaim` for the claim and the sync, `finishWithAlias` for the rename, the
    update and the sync. -/
inductive Task where
  | connecting
  | readingWifi
  | provisioning (deviceId pairingCode ssid psk : String)
  | claiming (deviceId pairingCode : String)
  | syncing
  | settingAlias (deviceId deviceAlias : String) (storedContent : Option String)
  | storing (deviceId deviceAlias storedContent : String)
  | finishing (deviceAlias : String) (storedContent : Option String)
  | done
  deriving DecidableEq, Repr

/-- How the wait ends. `wifi` is the flag of the status that was read, if one
    was, and `failed` carries the text of the exception. -/
inductive Outcome where
  | ok
  | wifi (connected : Option Bool)
  | failed (msg : String)
  deriving DecidableEq, Repr

/-- The notifier, with the number of operations started before the last reset. -/
structure Wizard where
  pairing : PairingState
  /-- `_scanSub` is set. -/
  scanning : Bool
  tasks : List Task
  before : Nat
  deriving DecidableEq, Repr

def initial : Wizard where
  pairing := .fresh
  scanning := false
  tasks := []
  before := 0

def onQrDetected (uri : Option Uri) (decoded : Option Json) (p : PairingState) : PairingState :=
  match parseQr uri decoded with
  | none => p.fail "QR inválido. Aproxime a câmera do código no dispositivo."
  | some (deviceId, code) =>
    { p.goto .confirming with deviceId := some deviceId, pairingCode := some code }

def startBleScan (s : Wizard) : Wizard :=
  { s with
    pairing := { s.pairing.goto .bleScan with discoveredDevices := [] }
    scanning := true }

/-- The strongest signal first. -/
def deviceFound (d : DiscoveredVenaDevice) (p : PairingState) : PairingState :=
  { p.copy with
    -- A device that is found again takes the place of its older entry.
    discoveredDevices := ((p.discoveredDevices.filter (fun e => e.bleId ≠ d.bleId)) ++
      [d]).insertionSort (fun a b => b.rssi ≤ a.rssi) }

def selectDevice (d : DiscoveredVenaDevice) (s : Wizard) : Wizard :=
  { s with
    pairing := { s.pairing.goto .bleConnecting with
      selectedBleDeviceId := some d.bleId
      selectedBleDeviceName := some d.name }
    -- The scan is cancelled before the connection is tried.
    scanning := false
    tasks := s.tasks ++ [.connecting] }

/-- `_doClaim`, up to its first await: it claims what the state names now. -/
def doClaim (p : PairingState) : PairingState × Task :=
  match p.deviceId, p.pairingCode with
  | some deviceId, some pairingCode => (p.goto .claiming, .claiming deviceId pairingCode)
  -- Without a device it returns, and the step stays as it is.
  | _, _ => (p, .done)

def submitProvisioning (ssid psk : String) (s : Wizard) : Wizard :=
  match s.pairing.deviceId, s.pairing.pairingCode with
  | some deviceId, some pairingCode =>
    { s with
      pairing := s.pairing.goto .claiming
      tasks := s.tasks ++ [.provisioning deviceId pairingCode ssid psk] }
  | _, _ => s

def skipProvisioning (s : Wizard) : Wizard :=
  { s with pairing := (doClaim s.pairing).1, tasks := s.tasks ++ [(doClaim s.pairing).2] }

/-- The part of `finishWithAlias` after the rename. -/
def storeContent (deviceId deviceAlias : String) : Option String → Task
  | none => .finishing deviceAlias none
  | some content =>
    if trim content ≠ "" then .storing deviceId deviceAlias content
    else .finishing deviceAlias (some content)

def finishWithAlias (deviceAlias : String) (storedContent : Option String) (s : Wizard) : Wizard :=
  match s.pairing.deviceId with
  | none => s
  | some deviceId =>
    let task :=
      if trim deviceAlias ≠ "" then .settingAlias deviceId deviceAlias storedContent
      else storeContent deviceId deviceAlias storedContent
    { s with tasks := s.tasks ++ [task] }

def finished (deviceAlias : String) (storedContent : Option String) (p : PairingState) :
    PairingState :=
  { p.goto .success with
    deviceAlias := trim deviceAlias
    storedContent := (storedContent.map trim).or p.storedContent }

def reset (s : Wizard) : Wizard :=
  -- Only the scan is cancelled: what is in flight goes on.
  { s with pairing := .fresh, scanning := false, before := s.tasks.length }

/-- Task `i` goes on as `task` after it has set the state. -/
def put (i : Nat) (s : Wizard) (next : PairingState × Task) : Wizard :=
  { s with pairing := next.1, tasks := s.tasks.set i next.2 }

/-- The handler of the `catch` in `selectDevice`. -/
def connectFailed (p : PairingState) : PairingState :=
  p.fail "Falha ao conectar. Aproxime o dispositivo e tente novamente."

/-- What an operation does when its wait is over: the state it leaves and what
    it waits for next. A rename or an update that throws ends the operation, the
    sync after them may throw. -/
def resume (p : PairingState) : Task → Outcome → Option (PairingState × Task)
  | .connecting, .ok => some (p, .readingWifi)
  | .connecting, .failed _ => some (connectFailed p, .done)
  | .readingWifi, .wifi connected =>
    -- A device that has Wi-Fi is claimed at once, any other asks for credentials.
    if connected = some true then some (doClaim p) else some (p.goto .provisioning, .done)
  | .readingWifi, .failed _ => some (connectFailed p, .done)
  -- The claim reads the state again, not the device that was provisioned.
  | .provisioning _ _ _ _, .ok => some (doClaim p)
  | .provisioning _ _ _ _, .failed msg => some (p.fail (friendlyError msg), .done)
  | .claiming _ _, .ok => some (p, .syncing)
  | .claiming _ _, .failed msg => some (p.fail (friendlyError msg), .done)
  | .syncing, .ok => some (p.goto .naming, .done)
  | .syncing, .failed msg => some (p.fail (friendlyError msg), .done)
  | .settingAlias deviceId deviceAlias storedContent, .ok =>
    some (p, storeContent deviceId deviceAlias storedContent)
  | .settingAlias _ _ _, .failed _ => some (p, .done)
  | .storing _ deviceAlias storedContent, .ok =>
    some (p, .finishing deviceAlias (some storedContent))
  | .storing _ _ _, .failed _ => some (p, .done)
  | .finishing deviceAlias storedContent, .ok => some (finished deviceAlias storedContent p, .done)
  -- The sync after the rename is best effort.
  | .finishing deviceAlias storedContent, .failed _ =>
    some (finished deviceAlias storedContent p, .done)
  | _, _ => none

inductive Action where
  | qr (uri : Option Uri) (decoded : Option Json)
  | startBleScan
  | selectDevice (d : DiscoveredVenaDevice)
  | submitProvisioning (ssid psk : String)
  | skipProvisioning
  | finishWithAlias (deviceAlias : String) (storedContent : Option String)
  | reset
  /-- An event of the scan. -/
  | deviceFound (d : DiscoveredVenaDevice)
  | scanError
  | resume (i : Nat) (outcome : Outcome)

/-- What the user does is offered by the screen of the current step. -/
def step (s : Wizard) : Action → Option Wizard
  | .qr uri decoded =>
    if s.pairing.step = .idle then some { s with pairing := onQrDetected uri decoded s.pairing }
    else none
  | .startBleScan =>
    if s.pairing.step = .confirming ∨ s.pairing.step = .bleScan then some (startBleScan s) else none
  | .selectDevice d =>
    if s.pairing.step = .bleScan ∧ d ∈ s.pairing.discoveredDevices then some (selectDevice d s)
    else none
  | .submitProvisioning ssid psk =>
    if s.pairing.step = .provisioning then some (submitProvisioning ssid psk s) else none
  | .skipProvisioning =>
    if s.pairing.step = .provisioning then some (skipProvisioning s) else none
  | .finishWithAlias deviceAlias storedContent =>
    if s.pairing.step = .naming then some (finishWithAlias deviceAlias storedContent s) else none
  | .reset => if s.pairing.step ≠ .idle then some (reset s) else none
  | .deviceFound d =>
    if s.scanning then some { s with pairing := deviceFound d s.pairing } else none
  | .scanError =>
    if s.scanning then some { s with
      pairing := s.pairing.fail "Erro ao escanear. Verifique as permissões Bluetooth." }
    else none
  | .resume i outcome => do
    let task ← s.tasks[i]?
    let next ← resume s.pairing task outcome
    return put i s next

end Pairing

end Mobile

end Vena
