import Vena.Mobile.Outbox
import Vena.Core.Run

/-!
# Accounts on one phone

Who the phone is, and on whose behalf it calls. `signIn`, `signOut`, the
interceptor's `onError` and the rebuild of `authNotifierProvider` read and write
three stores: the tokens, the cached session rows and the provider's state. The
outbox and its worker belong to none of them. An entry does not say who queued
it, and a call takes the access token that is stored when its `onRequest` runs,
or when `onError` retries it.

A token is represented by its user: the pair that an exchange returns belongs to
the user of the refresh token that was posted. Everything that awaits is a task
of a pool and interleaves with all others. A 401 is an input, as is any failure
of the network; other requests of the app get 401s as well.

## Main definitions

* `Account`: The tokens, the session rows and the provider's state.
* `Task`, `move`: The calls that change them, await by await.
* `ApiCall`: A call of the worker, with the token it was made with.
* `Phone`, `step`: The account, the outbox and what is in flight.
* `queuedBy`, `log`: Who was signed in when an entry was queued, and whose token
  each call for an entry had.
-/

namespace Vena

namespace Mobile

namespace Accounts

open Backend Python

/-- `vena_access_token` and `vena_refresh_token` by their users, the user in
    `UserSession` and the user `authNotifierProvider` holds. -/
structure Account where
  access : Option User
  refresh : Option User
  session : Option User
  signedIn : Option User
  deriving DecidableEq, Repr

/-- A call of the worker that was answered 401, and the entry it is for. -/
structure Rejected where
  call : Nat
  entry : Nat
  deriving DecidableEq, Repr

inductive Task where
  /-- `signIn`: with Google and the backend, in `saveTokens`, and in
      `_persistUserSession`. -/
  | signingIn
  | savingLogin (user : User) (accessDone refreshDone : Bool)
  | persisting (user : User)
  /-- `signOut`: in `clear`, and before the session rows are deleted. -/
  | clearing
  | deletingSession
  /-- `onError`, for a call of the worker or another request: before it reads
      the refresh token, with the POST on its way, in `saveTokens`, before it
      reads the access token, with the retry on its way, and in `onLogout`. -/
  | refreshing (rejected : Option Rejected)
  | posting (rejected : Option Rejected) (user : User)
  | savingRefresh (rejected : Option Rejected) (user : User) (accessDone refreshDone : Bool)
  | refreshed (rejected : Option Rejected)
  | retrying (rejected : Option Rejected)
  | loggingOut (rejected : Option Rejected)
  /-- `build` of the provider: before it reads the token, and the rows. -/
  | building
  | restoring
  | done
  deriving DecidableEq, Repr

/-- The steps of a task. -/
inductive Stmt where
  | exchange (user : User)
  | writeAccess
  | writeRefresh
  | persist
  | clear
  | deleteSession
  | readRefresh
  | receive
  | readAccess
  | resolve
  | readToken
  | readRows
  | fail
  deriving DecidableEq, Repr

/-- One step of a task. -/
def move (a : Account) : Task → Stmt → Option (Account × Task)
  | .signingIn, .exchange user => some (a, .savingLogin user false false)
  | .signingIn, .fail => some (a, .done)
  | .savingLogin user false refreshDone, .writeAccess => some ({ a with access := some user },
      if refreshDone then .persisting user else .savingLogin user true refreshDone)
  | .savingLogin user accessDone false, .writeRefresh => some ({ a with refresh := some user },
      if accessDone then .persisting user else .savingLogin user accessDone true)
  | .persisting user, .persist =>
    some ({ a with session := some user, signedIn := some user }, .done)
  -- The tokens stay, although nobody is signed in with them.
  | .persisting _, .fail => some (a, .done)
  | .clearing, .clear => some ({ a with access := none, refresh := none }, .deletingSession)
  | .deletingSession, .deleteSession => some ({ a with session := none, signedIn := none }, .done)
  | .refreshing rejected, .readRefresh => match a.refresh with
    | none => some (a, .loggingOut rejected)
    | some user => some (a, .posting rejected user)
  | .posting rejected user, .receive => some (a, .savingRefresh rejected user false false)
  | .posting rejected _, .fail => some (a, .loggingOut rejected)
  | .savingRefresh rejected user false refreshDone, .writeAccess =>
    some ({ a with access := some user },
      if refreshDone then .refreshed rejected else .savingRefresh rejected user true refreshDone)
  | .savingRefresh rejected user accessDone false, .writeRefresh =>
    some ({ a with refresh := some user },
      if accessDone then .refreshed rejected else .savingRefresh rejected user accessDone true)
  | .refreshed rejected, .readAccess => some (a, .retrying rejected)
  | .retrying _, .resolve => some (a, .done)
  -- Whatever the retry throws ends in a logout, a conflict included.
  | .retrying rejected, .fail => some (a, .loggingOut rejected)
  -- `onLogout` clears the storage and invalidates the provider; the rows stay.
  | .loggingOut _, .clear => some ({ a with access := none, refresh := none }, .building)
  | .building, .readToken => match a.access with
    | none => some ({ a with signedIn := none }, .done)
    | some _ => some (a, .restoring)
  | .restoring, .readRows => some ({ a with signedIn := a.session }, .done)
  | _, _ => none

/-- Where a call of the worker is with the interceptor: before `onRequest`, with
    the backend, in `onError` after a 401, with the backend again, given back to
    the worker by `onError`, or past any 401. -/
inductive Progress where
  | unsent
  | sent (token : Option User)
  | rejected
  | retried (token : Option User)
  | refused (token : Option User)
  | closed (token : Option User)
  deriving DecidableEq, Repr

structure ApiCall where
  entry : Nat
  progress : Progress
  deriving DecidableEq, Repr

/-- No 401 comes any more. -/
def Progress.close : Progress → Progress
  | .sent token => .closed token
  | progress => progress

/-- `onError` gives up. -/
def Progress.refuse : Progress → Progress
  | .rejected => .refused none
  | .retried token => .refused token
  | progress => progress

/-- The token a call was last made with. -/
def Progress.token : Progress → Option User
  | .unsent => none
  | .sent token => token
  | .rejected => none
  | .retried token => token
  | .refused token => token
  | .closed token => token

def update (calls : List ApiCall) (call : Nat) (f : Progress → Progress) : List ApiCall :=
  calls.modify call (fun c => { c with progress := f c.progress })

/-- The calls are numbered as those of the outbox. -/
structure Phone where
  account : Account
  outbox : Outbox.State
  calls : List ApiCall
  tasks : List Task
  queuedBy : List (Nat × Option User)
  log : List (Nat × Option User)

inductive Action where
  | signIn
  | signOut
  /-- The outbox, its worker and the backend. -/
  | outbox (a : Outbox.Act)
  /-- `onRequest` of a call. -/
  | authorize (call : Nat)
  /-- A call is answered 401, or another request of the app. -/
  | unauthorized (call : Nat)
  | unauthorizedOther
  | task (i : Nat) (stmt : Stmt)
  deriving DecidableEq, Repr

/-- The call a batch waits for. -/
def waitsFor (outbox : Outbox.State) (b : Nat) : Option Nat :=
  match outbox.batches[b]? with
  | some (.calling call _ _) => some call
  | _ => none

/-- The answer to a retry counts only if it is a success: `onError` catches the
    others. -/
def mayRespond (s : Phone) (call : Nat) : Bool :=
  match s.calls[call]?.map ApiCall.progress, s.outbox.wire[call]? with
  | some (.retried _), some ⟨_, .answered status⟩ => status = 200
  | _, _ => true

/-- A call fails while it is with the backend, or when `onError` gives it back. -/
def mayFail (s : Phone) (call : Nat) : Bool :=
  match s.calls[call]?.map ApiCall.progress with
  | some (.sent _) => true
  | some (.refused _) => true
  | some (.closed _) => true
  | _ => false

def permitted (s : Phone) : Outbox.Act → Bool
  | .batch b .respond => (waitsFor s.outbox b).all (mayRespond s)
  | .batch b .fail => (waitsFor s.outbox b).all (mayFail s)
  | _ => true

/-- Only `serve` looks at the user. -/
def nobody : User := ⟨0, "", ""⟩

/-- The step of the outbox; the backend serves a call for the user of its token. -/
def outboxStep (env : Env) (s : Phone) : Outbox.Act → Option Outbox.State
  | .serve call now => do
    let c ← s.calls[call]?
    let user ← c.progress.token
    Outbox.step env user s.outbox (.serve call now)
  | a => Outbox.step env nobody s.outbox a

/-- An entry that is queued gets the next identifier. -/
def queued (s : Phone) : Outbox.Act → List (Nat × Option User)
  | .claimDevice _ _ _ => s.queuedBy ++ [(s.outbox.nextId, s.account.signedIn)]
  | .renameDevice _ _ _ => s.queuedBy ++ [(s.outbox.nextId, s.account.signedIn)]
  | _ => s.queuedBy

/-- The calls after a step of the outbox. -/
def tracked (s : Phone) : Outbox.Act → List ApiCall
  | .batch b .call => match s.outbox.batches[b]? with
    | some (.next (item :: _)) => s.calls ++ [⟨item.id, .unsent⟩]
    | _ => s.calls
  | .batch b .fail => match waitsFor s.outbox b with
    | some call => update s.calls call Progress.close
    | none => s.calls
  | .serve call _ => update s.calls call Progress.close
  | .lose call => update s.calls call Progress.close
  | _ => s.calls

/-- The calls after a step of a task. -/
def settled (s : Phone) : Task → Stmt → List ApiCall
  | .refreshed (some r), .readAccess =>
    update s.calls r.call (fun _ => .retried s.account.access)
  | .loggingOut (some r), .clear => update s.calls r.call Progress.refuse
  | _, _ => s.calls

/-- The call that a step of a task makes for an entry. -/
def retry (s : Phone) : Task → Stmt → List (Nat × Option User)
  | .refreshed (some r), .readAccess => [(r.entry, s.account.access)]
  | _, _ => []

def step (env : Env) (s : Phone) : Action → Option Phone
  | .signIn => some { s with tasks := s.tasks ++ [.signingIn] }
  | .signOut => some { s with tasks := s.tasks ++ [.clearing] }
  | .outbox a =>
    if permitted s a then (outboxStep env s a).map (fun outbox =>
      { s with outbox, calls := tracked s a, queuedBy := queued s a })
    else none
  | .authorize call => match s.calls[call]? with
    | some ⟨entry, .unsent⟩ => some { s with
        calls := s.calls.set call ⟨entry, .sent s.account.access⟩
        log := s.log ++ [(entry, s.account.access)] }
    | _ => none
  | .unauthorized call => match s.calls[call]? with
    | some ⟨entry, .sent _⟩ => some { s with
        calls := s.calls.set call ⟨entry, .rejected⟩
        tasks := s.tasks ++ [.refreshing (some ⟨call, entry⟩)] }
    | _ => none
  | .unauthorizedOther => some { s with tasks := s.tasks ++ [.refreshing none] }
  | .task i stmt => match s.tasks[i]? with
    | some task => (move s.account task stmt).map (fun (account, task') => { s with
        account
        tasks := s.tasks.set i task'
        calls := settled s task stmt
        log := s.log ++ retry s task stmt })
    | none => none

/-- A phone on which nobody has signed in yet. -/
def start (db : Database) : Phone where
  account := ⟨none, none, none, none⟩
  outbox := Outbox.start db
  calls := []
  tasks := []
  queuedBy := []
  log := []

/-- Every call made for an entry had a token of the user who was signed in when
    the entry was queued. -/
def Isolated (s : Phone) : Prop :=
  ∀ made ∈ s.log, ∀ queued ∈ s.queuedBy, queued.1 = made.1 →
    ∀ user ∈ queued.2, made.2 = some user

end Accounts

end Mobile

end Vena
