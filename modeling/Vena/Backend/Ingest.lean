import Vena.Backend.TelemetryStore
import Vena.Python.JsonLoads
import Vena.Python.Str
import Vena.Python.Timestamp

/-!
# Reading a Message

What `TelemetryIngestor` makes of one message before it awaits anything:
`parse_topic`, `_parse` and the decoding half of `_handle_meta`. Of the
exceptions along the way only `JSONDecodeError` is caught around `json.loads`,
and only `ValueError` and `OSError` around the conversion of `ts`.

## Main definitions

* `Message`: An entry of the queue.
* `parseTopic`, `timeOf`, `parse`, `loadMeta`: The functions of the source.
* `decode`: The branch of `_run` and of `stop` on a message.
-/

namespace Vena

namespace Backend

namespace Ingest

open Python

structure Message where
  topic : String
  payload : List UInt8
  deriving DecidableEq, Repr

/-- `parse_topic`. -/
def parseTopic (topic : String) : Option (String × String) :=
  match split '/' topic with
  | [first, deviceId, msgType] => if first = "vena" then some (deviceId, msgType) else none
  | _ => none

/-- `datetime.fromtimestamp(int(ts_raw) / 1000, tz=timezone.utc)`. -/
def timeOf (tsRaw : PyVal) : Except Exc Datetime :=
  match intOf tsRaw with
  | .error exc => .error exc
  | .ok n => fromMillis n

/-- The row of a document. -/
def rowOf (deviceId : String) (ts : Datetime) (data : List (PyStr × PyVal)) : Row where
  deviceId := deviceId
  ts := ts
  ambientT := getItem data (PyStr.ofString "ambient_t")
  ambientH := getItem data (PyStr.ofString "ambient_h")
  dissT := getItem data (PyStr.ofString "diss_t")
  dissH := getItem data (PyStr.ofString "diss_h")
  setpoint := getItem data (PyStr.ofString "setpoint")
  pidOut := getItem data (PyStr.ofString "pid_out")
  uptimeMs := getItem data (PyStr.ofString "uptime_ms")
  seq := getItem data (PyStr.ofString "seq")

/-- The part of `_parse` behind the test for a missing `ts`. -/
def parseTs (deviceId : String) (tsRaw : PyVal) (data : List (PyStr × PyVal)) :
    Except Exc (Option Row) :=
  match timeOf tsRaw with
  | .ok ts => .ok (some (rowOf deviceId ts data))
  -- `except (ValueError, OSError)`: an overflow is neither.
  | .error exc => if exc.isValueError || exc = .osError then .ok none else .error exc

/-- The part of `_parse` behind the test of the topic. -/
def parsePayload (env : Env) (deviceId : String) (payload : List UInt8) : Except Exc (Option Row) :=
  match loads env.depth payload with
  | .error .jsonDecodeError => .ok none
  | .error exc => .error exc
  | .ok (.dict data) => match getItem data (PyStr.ofString "ts") with
    | .none => .ok none
    | tsRaw => parseTs deviceId tsRaw data
  -- JSON that is no object has no `get`.
  | .ok _ => .error .attributeError

/-- `_parse`. -/
def parse (env : Env) (m : Message) : Except Exc (Option Row) :=
  match parseTopic m.topic with
  | none => .ok none
  | some (deviceId, msgType) =>
    if msgType ≠ "telemetry" then .ok none else parsePayload env deviceId m.payload

/-- The document `_handle_meta` upserts. -/
def loadMeta (env : Env) (payload : List UInt8) : Except Exc (Option PyVal) :=
  match loads env.depth payload with
  | .error .jsonDecodeError => .ok none
  | .error exc => .error exc
  | .ok data => .ok (some data)

/-- What a message asks for. -/
inductive Outcome where
  | row (row : Row)
  | upsert (deviceId : String) (data : PyVal)
  | discard

/-- The branch of `_run` and of `stop`: `_handle_meta` for the topics of type
    `meta`, `_parse` for all others. -/
def decode (env : Env) (m : Message) : Except Exc Outcome :=
  match parseTopic m.topic with
  | some (deviceId, "meta") => match loadMeta env m.payload with
    | .error exc => .error exc
    | .ok none => .ok .discard
    | .ok (some data) => .ok (.upsert deviceId data)
  | _ => match parse env m with
    | .error exc => .error exc
    | .ok none => .ok .discard
    | .ok (some row) => .ok (.row row)

/-- The messages `_parse` makes a row of are the ones a row comes from. -/
theorem decode_eq_row (env : Env) (m : Message) (row : Row) :
    decode env m = .ok (.row row) ↔ parse env m = .ok (some row) := by
  unfold decode
  split
  · next deviceId htopic =>
      have hparse : parse env m = .ok none := by
        rw [parse, htopic]
        rfl
      rw [hparse]
      split
      · simp only [reduceCtorEq, Except.ok.injEq]
      · simp only [Except.ok.injEq, reduceCtorEq]
      · simp only [Except.ok.injEq, reduceCtorEq]
  · split
    · next h => simp only [h, reduceCtorEq]
    · next h => simp only [h, Except.ok.injEq, reduceCtorEq]
    · next h => simp only [h, Except.ok.injEq, Outcome.row.injEq, Option.some.injEq]

/-- A host that stores every row and every document. -/
def lenient : Env where
  depth := 3
  storable := fun _ => true
  metaStorable := fun _ _ => true

/-- A sample of 5 ms after the epoch, without readings. -/
def sample : Message where
  topic := "vena/a/telemetry"
  payload := [0x7B, 0x22, 0x74, 0x73, 0x22, 0x3A, 0x35, 0x7D]

end Ingest

end Backend

end Vena
