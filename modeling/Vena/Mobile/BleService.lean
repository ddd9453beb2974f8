import Vena.Core.Run
import Vena.Core.Processes

/-!
# The BLE service of the app

`BleService`, which connects to one board at a time and turns the notifications
of its telemetry characteristic into telemetry. A board is named by its BLE id,
and `own` is what its `device_info` characteristic says. The service keeps one
subscription to the updates of a connection and one to the notifications of a
board, and cancelling either ends its events. What `_onConnected` and
`readDeviceId` do after an await is an operation in flight: nothing cancels it,
and it goes on whichever board is connected by then.

The readings of a notification pass through unchanged, so only the id that the
telemetry gets is kept, next to the board that sent it.

## Main definitions

* `Service`: The fields of the service, with its operations in flight.
* `connectToDevice`, `disconnectDevice`, `readDeviceId`, `notified`: The methods.
* `step`: The service, its callers and the boards, interleaved.
-/

namespace Vena

namespace Mobile

namespace BleService

inductive BleConnectionStatus where
  | scanning
  | connecting
  | connected
  | disconnected
  deriving DecidableEq, Repr

/-- An operation in flight: `_onConnected` while the MTU is negotiated, a read
    of `device_info` with the board it asks, and `_onConnected` about to
    subscribe. A read that `_onConnected` waits for names the board of that
    call too. -/
inductive Task where
  | negotiating (bleDeviceId : String)
  | reading (target : String) (next : Option String)
  | subscribing (bleDeviceId : String)
  | done
  deriving DecidableEq, Repr

/-- Telemetry, with the board whose notification it was made from. -/
structure Emitted where
  sender : String
  deviceId : String
  deriving DecidableEq, Repr

structure Service where
  /-- The board whose connection updates are listened to. -/
  connectionSub : Option String
  /-- The board whose notifications are listened to. -/
  notifySub : Option String
  connectedDeviceId : Option String
  logicalDeviceId : Option String
  status : BleConnectionStatus
  tasks : List Task
  emitted : List Emitted
  deriving DecidableEq, Repr

def initial : Service where
  connectionSub := none
  notifySub := none
  connectedDeviceId := none
  logicalDeviceId := none
  status := .disconnected
  tasks := []
  emitted := []

def connectToDevice (bleDeviceId : String) (s : Service) : Service :=
  -- Neither the logical id nor the subscription of the last board is dropped here.
  { s with status := .connecting, connectionSub := some bleDeviceId }

def disconnectDevice (s : Service) : Service :=
  { s with
    -- `_logicalDeviceId` stays what it was.
    notifySub := none
    connectionSub := none
    connectedDeviceId := none
    status := .disconnected }

/-- What is left of `_onConnected`, if that was waiting, when a read is over. -/
def afterRead : Option String → Task
  | none => .done
  | some bleDeviceId => .subscribing bleDeviceId

/-- `readDeviceId`, up to its await. -/
def readDeviceId (next : Option String) (s : Service) : Task :=
  match s.connectedDeviceId with
  -- The board that is asked is the connected one now, not the caller's.
  | none => afterRead next
  | some target => .reading target next

/-- How a read ends: with the id of the board, with JSON that has none, or with
    an exception, of the radio or of the decoder. -/
inductive Info where
  | id
  | absent
  | failed
  deriving DecidableEq, Repr

/-- `_logicalDeviceId` after a read of the board. -/
def readInfo (own : String → String) (target : String) (old : Option String) :
    Info → Option String
  | .id => some (own target)
  | .absent => none
  -- The exception is caught before the field is assigned.
  | .failed => old

/-- A notification of the board: `_logicalDeviceId ?? bleDeviceId`. -/
def notified (bleDeviceId : String) (s : Service) : Service :=
  { s with emitted := s.emitted ++ [⟨bleDeviceId, s.logicalDeviceId.getD bleDeviceId⟩] }

inductive Action where
  | connectToDevice (bleDeviceId : String)
  | disconnectDevice
  | readDeviceId
  /-- An update of the connection that is listened to. -/
  | connected
  | disconnected
  | connectionError
  /-- The MTU is negotiated, or that failed. -/
  | negotiated (i : Nat)
  | read (i : Nat) (info : Info)
  | subscribe (i : Nat)
  /-- A notification of the board that is listened to. -/
  | notify
  deriving DecidableEq, Repr

def step (own : String → String) (s : Service) : Action → Option Service
  | .connectToDevice bleDeviceId => some (connectToDevice bleDeviceId s)
  | .disconnectDevice => some (disconnectDevice s)
  | .readDeviceId => some { s with tasks := s.tasks ++ [readDeviceId none s] }
  | .connected => match s.connectionSub with
    | none => none
    | some bleDeviceId => some { s with
        connectedDeviceId := some bleDeviceId
        status := .connected
        tasks := s.tasks ++ [.negotiating bleDeviceId] }
  | .disconnected => match s.connectionSub with
    | none => none
    | some _ => some { s with connectedDeviceId := none, status := .disconnected }
  | .connectionError => match s.connectionSub with
    | none => none
    | some _ => some { s with status := .disconnected }
  | .negotiated i => match s.tasks[i]? with
    | some (.negotiating bleDeviceId) =>
      some { s with tasks := s.tasks.set i (readDeviceId (some bleDeviceId) s) }
    | _ => none
  | .read i info => match s.tasks[i]? with
    | some (.reading target next) => some { s with
        logicalDeviceId := readInfo own target s.logicalDeviceId info
        tasks := s.tasks.set i (afterRead next) }
    | _ => none
  | .subscribe i => match s.tasks[i]? with
    | some (.subscribing bleDeviceId) =>
      some { s with notifySub := some bleDeviceId, tasks := s.tasks.set i .done }
    | _ => none
  | .notify => match s.notifySub with
    | none => none
    | some bleDeviceId => some (notified bleDeviceId s)

end BleService

end Mobile

end Vena
