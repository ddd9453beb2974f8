import Vena.Backend.Access
import Vena.Core.Processes

/-!
# The Outbox

The queue of local actions the phone still owes the backend, and the worker
that delivers them. `renameDevice` and `claimDevice` insert an entry with the
wall clock's reading in whole seconds. `OutboxWorker` learns about pending
entries from a stream of query results; a result starts a batch unless one is
being processed. A batch that fails arms a timer, whose callback queries once
more and starts a batch whatever is going on.

Query results travel: what a batch works through is the table as it was when
the query ran. Requests travel too, and a call that times out on the phone may
still reach the backend later. Every delay is left to the environment, as is
the order SQLite gives to rows with equal `createdAt`. The backend is
`updateDeviceAlias` and `claimDevice` on its database.

## Main definitions

* `Action`, `Entry`: A row of the outbox.
* `Batch`: How far a run of `_processBatch` has come.
* `Request`: An API call and where it is.
* `State`, `Act`, `step`: The phone, the network and the backend.
* `BatchMoves`, `Moves`: What a step can do, and when.

## Theorems

* `stepBatch_moves`, `step_moves`: A step does one of these.
-/

namespace Vena

namespace Mobile

namespace Outbox

open Backend Python Processes

/-- The action of an entry with its decoded payload. -/
inductive Action where
  | claim (deviceId pairingCode : String)
  | rename (deviceId deviceAlias : String)
  deriving DecidableEq, Repr

structure Entry where
  id : Nat
  action : Action
  createdAt : Int
  synced : Bool
  deriving DecidableEq, Repr

/-- A run of `_processBatch`: before its next item, waiting for a call,
    writing the mark of an item, after its loop, or returned. -/
inductive Batch where
  | next (items : List Entry)
  | calling (call : Nat) (item : Entry) (items : List Entry)
  | marking (item : Entry) (items : List Entry)
  | ending (hadNetworkError : Bool)
  | done
  deriving DecidableEq, Repr

/-- Where an API call is: on its way to the backend, on its way back with a
    status, or neither. -/
inductive Wire where
  | travelling
  | answered (status : Nat)
  | finished
  deriving DecidableEq, Repr

structure Request where
  action : Action
  wire : Wire
  deriving DecidableEq, Repr

/-- The outbox table, the query results on their way to the stream's listener
    and to callbacks of the retry timer, the worker, its API calls and the
    backend. `firing` counts the callbacks that have not queried yet. -/
structure State where
  table : List Entry
  nextId : Nat
  snapshots : List (List Entry)
  armed : Bool
  firing : Nat
  retries : List (List Entry)
  processing : Bool
  batches : List Batch
  wire : List Request
  db : Database

/-- The steps of a batch. -/
inductive BatchStmt where
  | call
  | respond
  | fail
  | mark
  | finish
  deriving DecidableEq, Repr

/-- What happens: an action of the user, a query for the stream and its
    delivery, the timer, its query and the batch it starts, a step of a batch,
    and the network's part of a call. -/
inductive Act where
  | claimDevice (deviceId pairingCode : String) (now : Int)
  | renameDevice (deviceId deviceAlias : String) (now : Int)
  | query (items : List Entry)
  | deliver
  | fire
  | requery (items : List Entry)
  | retry
  | batch (b : Nat) (stmt : BatchStmt)
  | serve (call : Nat) (now : Datetime)
  | lose (call : Nat)
  deriving DecidableEq, Repr

def pending (table : List Entry) : List Entry :=
  table.filter (fun e => !e.synced)

/-- `watchPending` may return these rows in this order. -/
def IsResult (table items : List Entry) : Prop :=
  items.Perm (pending table) ∧ items.Pairwise (fun e e' => e.createdAt ≤ e'.createdAt)

instance (table items : List Entry) : Decidable (IsResult table items) :=
  inferInstanceAs (Decidable (_ ∧ _))

/-- `insertAction`. -/
def insertAction (s : State) (action : Action) (now : Int) : State :=
  { s with
    table := s.table ++ [⟨s.nextId, action, now, false⟩]
    nextId := s.nextId + 1 }

/-- `markSynced`. -/
def markSynced (table : List Entry) (id : Nat) : List Entry :=
  table.map (fun e => if e.id = id then { e with synced := true } else e)

/-- The beginning of `_processBatch`. -/
def startBatch (s : State) (items : List Entry) : State :=
  { s with
    processing := true
    batches := s.batches ++ [.next items] }

/-- The status of a reply. -/
def status {α : Type} : Reply α → Nat
  | .ok _ => 200
  | .error status _ => status
  | .crash => 500

/-- The backend's handling of a call by the user. -/
def handle (env : Env) (user : User) (now : Datetime) (db : Database) : Action → Database × Nat
  | .claim deviceId pairingCode =>
    let r := Backend.claimDevice env db user deviceId pairingCode now
    (r.1, status r.2)
  | .rename deviceId deviceAlias =>
    let r := updateDeviceAlias db user deviceId deviceAlias
    (r.1, status r.2)

/-- One step of batch `b`. -/
def stepBatch (s : State) (b : Nat) (batch : Batch) : BatchStmt → Option State
  | .call => match batch with
    | .next [] => some { s with batches := s.batches.set b (.ending false) }
    | .next (item :: items) => some { s with
        batches := s.batches.set b (.calling s.wire.length item items)
        wire := s.wire ++ [⟨item.action, .travelling⟩] }
    | _ => none
  | .respond => match batch with
    | .calling call item items => match s.wire[call]? with
      | some ⟨action, .answered status⟩ => some { s with
          batches := s.batches.set b
            -- A conflict counts as done; any other failure ends the batch.
            (if status = 200 ∨ status = 409 then .marking item items else .ending true)
          wire := s.wire.set call ⟨action, .finished⟩ }
      | _ => none
    | _ => none
  | .fail => match batch with
    -- A timeout on the phone says nothing of the call, which may still arrive.
    | .calling _ _ _ => some { s with batches := s.batches.set b (.ending true) }
    | _ => none
  | .mark => match batch with
    | .marking item items => some { s with
        batches := s.batches.set b (.next items)
        table := markSynced s.table item.id }
    | _ => none
  | .finish => match batch with
    | .ending hadNetworkError => some { s with
        batches := s.batches.set b .done
        processing := false
        -- The flag is shared: it is cleared though another batch may be running.
        armed := s.armed || hadNetworkError }
    | _ => none

def step (env : Env) (user : User) (s : State) : Act → Option State
  | .claimDevice deviceId pairingCode now =>
    some (insertAction s (.claim deviceId pairingCode) now)
  | .renameDevice deviceId deviceAlias now =>
    some (insertAction s (.rename deviceId deviceAlias) now)
  | .query items =>
    if IsResult s.table items then some { s with snapshots := s.snapshots ++ [items] } else none
  | .deliver => match s.snapshots with
    | [] => none
    | items :: rest =>
      -- The stream drops a result that comes while a batch is running.
      if items ≠ [] ∧ s.processing = false then
        some (startBatch { s with snapshots := rest } items)
      else some { s with snapshots := rest }
  | .fire =>
    if s.armed then some { s with armed := false, firing := s.firing + 1 } else none
  | .requery items =>
    if 0 < s.firing ∧ IsResult s.table items then
      some { s with firing := s.firing - 1, retries := s.retries ++ [items] }
    else none
  | .retry => match s.retries with
    | [] => none
    | items :: rest =>
      -- The timer does not look at the flag.
      if items ≠ [] then some (startBatch { s with retries := rest } items)
      else some { s with retries := rest }
  | .batch b stmt => match s.batches[b]? with
    | none => none
    | some batch => stepBatch s b batch stmt
  | .serve call now => match s.wire[call]? with
    | some ⟨action, .travelling⟩ =>
      let r := handle env user now s.db action
      some { s with db := r.1, wire := s.wire.set call ⟨action, .answered r.2⟩ }
    | _ => none
  | .lose call => match s.wire[call]? with
    | some request => some { s with wire := s.wire.set call { request with wire := .finished } }
    | none => none

/-- An empty outbox and an idle worker. -/
def start (db : Database) : State where
  table := []
  nextId := 1
  snapshots := []
  armed := false
  firing := 0
  retries := []
  processing := false
  batches := []
  wire := []
  db := db

/-- What a step of a batch can do, and when. -/
inductive BatchMoves (s : State) (b : Nat) : Batch → BatchStmt → State → Prop
  | emptied : BatchMoves s b (.next []) .call { s with batches := s.batches.set b (.ending false) }
  | call (item : Entry) (items : List Entry) : BatchMoves s b (.next (item :: items)) .call { s with
      batches := s.batches.set b (.calling s.wire.length item items)
      wire := s.wire ++ [⟨item.action, .travelling⟩] }
  | respond (call : Nat) (item : Entry) (items : List Entry) (action : Action) (status : Nat)
      (hwire : s.wire[call]? = some ⟨action, .answered status⟩) :
    BatchMoves s b (.calling call item items) .respond { s with
      batches := s.batches.set b
        (if status = 200 ∨ status = 409 then .marking item items else .ending true)
      wire := s.wire.set call ⟨action, .finished⟩ }
  | fail (call : Nat) (item : Entry) (items : List Entry) :
    BatchMoves s b (.calling call item items) .fail
      { s with batches := s.batches.set b (.ending true) }
  | mark (item : Entry) (items : List Entry) : BatchMoves s b (.marking item items) .mark { s with
      batches := s.batches.set b (.next items)
      table := markSynced s.table item.id }
  | finish (hadNetworkError : Bool) : BatchMoves s b (.ending hadNetworkError) .finish { s with
      batches := s.batches.set b .done
      processing := false
      armed := s.armed || hadNetworkError }

theorem stepBatch_moves (s s' : State) (b : Nat) (batch : Batch) (stmt : BatchStmt)
    (hstep : stepBatch s b batch stmt = some s') : BatchMoves s b batch stmt s' := by
  cases stmt with
  | call =>
      cases batch with
      | next items =>
          cases items with
          | nil => exact Option.some.inj hstep ▸ .emptied
          | cons item items => exact Option.some.inj hstep ▸ .call item items
      | calling _ _ _ | marking _ _ | ending _ | done =>
          simp only [stepBatch, reduceCtorEq] at hstep
  | respond =>
      cases batch with
      | calling call item items =>
          rw [stepBatch] at hstep
          split at hstep
          · next action status hwire =>
              exact Option.some.inj hstep ▸ .respond call item items action status hwire
          · exact absurd hstep (by simp only [reduceCtorEq, not_false_eq_true])
      | next _ | marking _ _ | ending _ | done =>
          simp only [stepBatch, reduceCtorEq] at hstep
  | fail =>
      cases batch with
      | calling call item items => exact Option.some.inj hstep ▸ .fail call item items
      | next _ | marking _ _ | ending _ | done =>
          simp only [stepBatch, reduceCtorEq] at hstep
  | mark =>
      cases batch with
      | marking item items => exact Option.some.inj hstep ▸ .mark item items
      | next _ | calling _ _ _ | ending _ | done =>
          simp only [stepBatch, reduceCtorEq] at hstep
  | finish =>
      cases batch with
      | ending hadNetworkError => exact Option.some.inj hstep ▸ .finish hadNetworkError
      | next _ | calling _ _ _ | marking _ _ | done =>
          simp only [stepBatch, reduceCtorEq] at hstep

/-- What a step can do, and when. -/
inductive Moves (env : Env) (user : User) (s : State) : Act → State → Prop
  | claimDevice (deviceId pairingCode : String) (now : Int) :
    Moves env user s (.claimDevice deviceId pairingCode now)
      (insertAction s (.claim deviceId pairingCode) now)
  | renameDevice (deviceId deviceAlias : String) (now : Int) :
    Moves env user s (.renameDevice deviceId deviceAlias now)
      (insertAction s (.rename deviceId deviceAlias) now)
  | query (items : List Entry) (hresult : IsResult s.table items) :
    Moves env user s (.query items) { s with snapshots := s.snapshots ++ [items] }
  | deliver (items : List Entry) (rest : List (List Entry))
      (hsnapshots : s.snapshots = items :: rest) (hidle : items ≠ [] ∧ s.processing = false) :
    Moves env user s .deliver (startBatch { s with snapshots := rest } items)
  | drop (items : List Entry) (rest : List (List Entry))
      (hsnapshots : s.snapshots = items :: rest) :
    Moves env user s .deliver { s with snapshots := rest }
  | fire (harmed : s.armed = true) :
    Moves env user s .fire { s with armed := false, firing := s.firing + 1 }
  | requery (items : List Entry) (hfiring : 0 < s.firing) (hresult : IsResult s.table items) :
    Moves env user s (.requery items)
      { s with firing := s.firing - 1, retries := s.retries ++ [items] }
  | retry (items : List Entry) (rest : List (List Entry)) (hretries : s.retries = items :: rest)
      (hsome : items ≠ []) :
    Moves env user s .retry (startBatch { s with retries := rest } items)
  | forget (items : List Entry) (rest : List (List Entry)) (hretries : s.retries = items :: rest) :
    Moves env user s .retry { s with retries := rest }
  | batch (b : Nat) (stmt : BatchStmt) (batch : Batch) (s' : State)
      (hget : s.batches[b]? = some batch) (hbatch : BatchMoves s b batch stmt s') :
    Moves env user s (.batch b stmt) s'
  | serve (call : Nat) (now : Datetime) (action : Action)
      (hwire : s.wire[call]? = some ⟨action, .travelling⟩) :
    Moves env user s (.serve call now) { s with
      db := (handle env user now s.db action).1
      wire := s.wire.set call ⟨action, .answered (handle env user now s.db action).2⟩ }
  | lose (call : Nat) (request : Request) (hwire : s.wire[call]? = some request) :
    Moves env user s (.lose call)
      { s with wire := s.wire.set call { request with wire := .finished } }

theorem step_moves (env : Env) (user : User) (s s' : State) (a : Act)
    (hstep : step env user s a = some s') : Moves env user s a s' := by
  cases a with
  | claimDevice deviceId pairingCode now =>
      exact Option.some.inj hstep ▸ .claimDevice deviceId pairingCode now
  | renameDevice deviceId deviceAlias now =>
      exact Option.some.inj hstep ▸ .renameDevice deviceId deviceAlias now
  | query items =>
      rw [step] at hstep
      split at hstep
      · next hresult => exact Option.some.inj hstep ▸ .query items hresult
      · exact absurd hstep (by simp only [reduceCtorEq, not_false_eq_true])
  | deliver =>
      rw [step] at hstep
      split at hstep
      · exact absurd hstep (by simp only [reduceCtorEq, not_false_eq_true])
      · next items rest hsnapshots =>
          split at hstep
          · next hidle => exact Option.some.inj hstep ▸ .deliver items rest hsnapshots hidle
          · exact Option.some.inj hstep ▸ .drop items rest hsnapshots
  | fire =>
      rw [step] at hstep
      split at hstep
      · next harmed => exact Option.some.inj hstep ▸ .fire harmed
      · exact absurd hstep (by simp only [reduceCtorEq, not_false_eq_true])
  | requery items =>
      rw [step] at hstep
      split at hstep
      · next hboth => exact Option.some.inj hstep ▸ .requery items hboth.1 hboth.2
      · exact absurd hstep (by simp only [reduceCtorEq, not_false_eq_true])
  | retry =>
      rw [step] at hstep
      split at hstep
      · exact absurd hstep (by simp only [reduceCtorEq, not_false_eq_true])
      · next items rest hretries =>
          split at hstep
          · next hsome => exact Option.some.inj hstep ▸ .retry items rest hretries hsome
          · exact Option.some.inj hstep ▸ .forget items rest hretries
  | batch b stmt =>
      rw [step] at hstep
      split at hstep
      · exact absurd hstep (by simp only [reduceCtorEq, not_false_eq_true])
      · next batch hget =>
          exact .batch b stmt batch s' hget (stepBatch_moves s s' b batch stmt hstep)
  | serve call now =>
      rw [step] at hstep
      split at hstep
      · next action hwire => exact Option.some.inj hstep ▸ .serve call now action hwire
      · exact absurd hstep (by simp only [reduceCtorEq, not_false_eq_true])
  | lose call =>
      rw [step] at hstep
      split at hstep
      · next request hwire => exact Option.some.inj hstep ▸ .lose call request hwire
      · exact absurd hstep (by simp only [reduceCtorEq, not_false_eq_true])

end Outbox

end Mobile

end Vena
