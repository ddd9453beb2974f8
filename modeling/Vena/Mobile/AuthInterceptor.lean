import Vena.Backend.AtomicRefresh

/-!
# The Auth Interceptor

`AuthInterceptor.onError` for a number of requests that were all answered 401:
each handler reads the stored refresh token, exchanges it at the backend,
stores the new pair, reads the access token and retries. A handler that catches
an exception on the way calls `onLogout`, which clears the storage. The
handlers share nothing but the storage, whose reads and writes are single
steps here; `saveTokens` starts its two writes together, and they finish in
either order.

The backend answers one refresh at a time with `refreshAccessToken`. Requests
get through and the retried ones succeed, so the only exceptions left are a
refused refresh and an empty storage.

## Main definitions

* `TokenStorage`: The two keys of `SecureTokenStorage`.
* `Phase`: How far a handler has come.
* `State`, `Stmt`, `step`: The system of the handlers, the storage and the
  backend.
* `Live`: The row of the token a handler posts has not expired.
* `Served`: The backend serves a refresh of a live token, and what it draws is
  new.
* `Exclusive`: No handler reads the refresh token while another exchanges it.
* `Kept`: What holds of every exclusive run.
* `Doomed`: Some handler can only end in a logout.

## Theorems

* `step_kept`, `run_kept`: Every exclusive run keeps `Kept`.
* `step_doomed`: A doomed handler stays doomed.
* `no_logout_iff`: When no handler logs the user out.
* `logged_out`: Two handlers, one of which does.
-/

namespace Vena

namespace Mobile

namespace Auth

open Backend Python Processes

open Backend.Refresh (Issue TokenDb refreshAccessToken Current Spent demoEnv demoDb
  refreshAccessToken_current refreshAccessToken_spent spent_of_ok spent_refreshAccessToken
  hashes_refreshAccessToken)

/-- `vena_access_token` and `vena_refresh_token`. -/
structure TokenStorage where
  access : Option String
  refresh : Option String
  deriving DecidableEq, Repr

/-- How far a handler has come: before it reads the refresh token, with the
    POST on its way, with the answer on its way back, with one or both writes
    outstanding, with the new pair stored, with the retry on its way, inside
    `onLogout`, or done. -/
inductive Phase where
  | started
  | posting (refresh : String)
  | answered (reply : Reply TokenResponse)
  | saving (access refresh : String) (accessDone refreshDone : Bool)
  | saved
  | retrying (access : Option String)
  | loggingOut
  | resolved
  | loggedOut
  deriving DecidableEq, Repr

structure State where
  storage : TokenStorage
  db : TokenDb
  handlers : List Phase

/-- The steps of a handler; `serve` is the backend's. -/
inductive Stmt where
  | readRefresh
  | serve (now : Datetime) (issue : Issue)
  | receive
  | writeAccess
  | writeRefresh
  | readAccess
  | retried
  | clear
  deriving DecidableEq, Repr

structure Act where
  handler : Nat
  stmt : Stmt
  deriving DecidableEq, Repr

/-- One step of a handler in phase `h`. -/
def execute (env : Env) (s : State) (h : Phase) : Stmt → Option (TokenStorage × TokenDb × Phase)
  | .readRefresh => match h with
    | .started => match s.storage.refresh with
      | none => some (s.storage, s.db, .loggingOut)
      | some refresh => some (s.storage, s.db, .posting refresh)
    | _ => none
  | .serve now issue => match h with
    | .posting refresh =>
      let result := refreshAccessToken env s.db refresh now issue
      some (s.storage, result.1, .answered result.2)
    | _ => none
  | .receive => match h with
    | .answered (.ok resp) =>
      some (s.storage, s.db, .saving resp.accessToken resp.refreshToken false false)
    -- Any failure of the POST ends in a logout, also one that says nothing of the token.
    | .answered _ => some (s.storage, s.db, .loggingOut)
    | _ => none
  -- The two writes are awaited together, so they land in either order.
  | .writeAccess => match h with
    | .saving access refresh false refreshDone =>
      some ({ s.storage with access := some access }, s.db,
        if refreshDone then .saved else .saving access refresh true refreshDone)
    | _ => none
  | .writeRefresh => match h with
    | .saving access refresh accessDone false =>
      some ({ s.storage with refresh := some refresh }, s.db,
        if accessDone then .saved else .saving access refresh accessDone true)
    | _ => none
  | .readAccess => match h with
    -- The retry reads the storage again, which another handler may have written.
    | .saved => some (s.storage, s.db, .retrying s.storage.access)
    | _ => none
  | .retried => match h with
    | .retrying _ => some (s.storage, s.db, .resolved)
    | _ => none
  | .clear => match h with
    | .loggingOut => some (⟨none, none⟩, s.db, .loggedOut)
    | _ => none

def step (env : Env) (s : State) (a : Act) : Option State :=
  match s.handlers[a.handler]? with
  | none => none
  | some h => match execute env s h a.stmt with
    | none => none
    | some (storage, db, h') =>
      some { storage := storage, db := db, handlers := s.handlers.set a.handler h' }

/-- `n` requests were answered 401. -/
def start (n : Nat) (storage : TokenStorage) (db : TokenDb) : State where
  storage := storage
  db := db
  handlers := List.replicate n .started

/-- The handler has read a refresh token and not yet stored its successor. -/
def Phase.exchanging : Phase → Bool
  | .posting _ => true
  | .answered _ => true
  | .saving _ _ _ refreshDone => !refreshDone
  | _ => false

/-- The handler has called `onLogout`. -/
def Phase.logsOut : Phase → Bool
  | .loggingOut => true
  | .loggedOut => true
  | _ => false

def Phase.done : Phase → Bool
  | .resolved => true
  | .loggedOut => true
  | _ => false

/-- The row of the token a handler in phase `h` has posted is still in date at
    `now`. Other rows may have expired: the backend never deletes one. -/
def Live (env : Env) (db : TokenDb) (now : Datetime) : Phase → Prop
  | .posting refresh => ∀ r ∈ db.tokens, r.tokenHash = env.sha256hex refresh → r.expiresAt > now
  | _ => True

/-- When the backend serves a refresh, the row of the posted token has not
    expired, and the drawn token and primary key are new. -/
def Served (env : Env) (s : State) (a : Act) : Prop :=
  match a.stmt with
  | .serve now issue => (∀ h ∈ s.handlers[a.handler]?, Live env s.db now h) ∧
      ∀ r ∈ s.db.tokens, r.tokenHash ≠ env.sha256hex issue.raw.str ∧ r.id ≠ issue.rowId
  | _ => True

/-- No handler reads the stored refresh token while another has read it and
    not yet stored its successor. -/
def Exclusive (s : State) (a : Act) : Prop :=
  a.stmt = .readRefresh → ∀ h ∈ s.handlers, Phase.exchanging h = false

instance (env : Env) (db : TokenDb) (now : Datetime) (h : Phase) :
    Decidable (Live env db now h) := by
  cases h <;> unfold Live <;> infer_instance

instance (env : Env) (s : State) (a : Act) : Decidable (Served env s a) := by
  rcases a with ⟨i, stmt⟩
  cases stmt <;> unfold Served <;> infer_instance

instance (s : State) (a : Act) : Decidable (Exclusive s a) := by
  unfold Exclusive
  infer_instance

/-- What a handler relies on in each phase: the token it posts is the stored
    one and current; once it was exchanged the new one is current and the
    stored one is spent; it never logs out. -/
def Relies (env : Env) (storage : TokenStorage) (db : TokenDb) : Phase → Prop
  | .posting refresh => storage.refresh = some refresh ∧ Current env db refresh
  | .answered reply => (∃ resp, reply = .ok resp ∧ Current env db resp.refreshToken) ∧
      ∃ old, storage.refresh = some old ∧ Spent env db old
  | .saving _ refresh _ refreshDone => refreshDone = false → Current env db refresh ∧
      ∃ old, storage.refresh = some old ∧ Spent env db old
  | .loggingOut => False
  | .loggedOut => False
  | _ => True

/-- What holds of every exclusive run. -/
structure Kept (env : Env) (s : State) : Prop where
  hashes : (s.db.tokens.map RefreshToken.tokenHash).Nodup
  one : AtMostOne (fun h => Phase.exchanging h = true) s.handlers
  relies : ∀ h ∈ s.handlers, Relies env s.storage s.db h
  rest : (∀ h ∈ s.handlers, Phase.exchanging h = false) →
    ∃ refresh, s.storage.refresh = some refresh ∧ Current env s.db refresh

/-- The moves of a handler from one phase to the next. -/
inductive Moves (env : Env) (s : State) : Phase → Stmt → TokenStorage → TokenDb → Phase → Prop
  | readNothing (hnone : s.storage.refresh = none) :
      Moves env s .started .readRefresh s.storage s.db .loggingOut
  | readRefresh (refresh : String) (hsome : s.storage.refresh = some refresh) :
      Moves env s .started .readRefresh s.storage s.db (.posting refresh)
  | serve (refresh : String) (now : Datetime) (issue : Issue) :
      Moves env s (.posting refresh) (.serve now issue) s.storage
        (refreshAccessToken env s.db refresh now issue).1
        (.answered (refreshAccessToken env s.db refresh now issue).2)
  | receiveOk (resp : TokenResponse) :
      Moves env s (.answered (.ok resp)) .receive s.storage s.db
        (.saving resp.accessToken resp.refreshToken false false)
  | receiveError (reply : Reply TokenResponse) (hno : ∀ resp, reply ≠ .ok resp) :
      Moves env s (.answered reply) .receive s.storage s.db .loggingOut
  | writeAccess (access refresh : String) (refreshDone : Bool) :
      Moves env s (.saving access refresh false refreshDone) .writeAccess
        { s.storage with access := some access } s.db
        (if refreshDone then .saved else .saving access refresh true refreshDone)
  | writeRefresh (access refresh : String) (accessDone : Bool) :
      Moves env s (.saving access refresh accessDone false) .writeRefresh
        { s.storage with refresh := some refresh } s.db
        (if accessDone then .saved else .saving access refresh accessDone true)
  | readAccess : Moves env s .saved .readAccess s.storage s.db (.retrying s.storage.access)
  | retried (access : Option String) :
      Moves env s (.retrying access) .retried s.storage s.db .resolved
  | clear : Moves env s .loggingOut .clear ⟨none, none⟩ s.db .loggedOut

theorem moves_of_execute (env : Env) (s : State) (h h' : Phase) (stmt : Stmt)
    (storage : TokenStorage) (db : TokenDb)
    (hexec : execute env s h stmt = some (storage, db, h')) : Moves env s h stmt storage db h' := by
  cases stmt with
  | readRefresh =>
      cases h with
      | started =>
          cases hread : s.storage.refresh with
          | none =>
              simp only [execute, hread, Option.some.injEq, Prod.mk.injEq] at hexec
              rw [← hexec.1, ← hexec.2.1, ← hexec.2.2]
              exact .readNothing hread
          | some refresh =>
              simp only [execute, hread, Option.some.injEq, Prod.mk.injEq] at hexec
              rw [← hexec.1, ← hexec.2.1, ← hexec.2.2]
              exact .readRefresh refresh hread
      | _ => simp only [execute, reduceCtorEq] at hexec
  | serve now issue =>
      cases h with
      | posting refresh =>
          simp only [execute, Option.some.injEq, Prod.mk.injEq] at hexec
          rw [← hexec.1, ← hexec.2.1, ← hexec.2.2]
          exact .serve refresh now issue
      | _ => simp only [execute, reduceCtorEq] at hexec
  | receive =>
      cases h with
      | answered reply =>
          cases reply with
          | ok resp =>
              simp only [execute, Option.some.injEq, Prod.mk.injEq] at hexec
              rw [← hexec.1, ← hexec.2.1, ← hexec.2.2]
              exact .receiveOk resp
          | error status detail =>
              simp only [execute, Option.some.injEq, Prod.mk.injEq] at hexec
              rw [← hexec.1, ← hexec.2.1, ← hexec.2.2]
              exact .receiveError _ (fun _ => by simp only [ne_eq, reduceCtorEq,
                not_false_eq_true])
          | crash =>
              simp only [execute, Option.some.injEq, Prod.mk.injEq] at hexec
              rw [← hexec.1, ← hexec.2.1, ← hexec.2.2]
              exact .receiveError _ (fun _ => by simp only [ne_eq, reduceCtorEq,
                not_false_eq_true])
      | _ => simp only [execute, reduceCtorEq] at hexec
  | writeAccess =>
      cases h with
      | saving access refresh accessDone refreshDone =>
          -- The two writes of `saveTokens` run in either order, each once.
          cases accessDone with
          | false =>
              simp only [execute, Option.some.injEq, Prod.mk.injEq] at hexec
              rw [← hexec.1, ← hexec.2.1, ← hexec.2.2]
              exact .writeAccess access refresh refreshDone
          | true => simp only [execute, reduceCtorEq] at hexec
      | _ => simp only [execute, reduceCtorEq] at hexec
  | writeRefresh =>
      cases h with
      | saving access refresh accessDone refreshDone =>
          cases refreshDone with
          | false =>
              simp only [execute, Option.some.injEq, Prod.mk.injEq] at hexec
              rw [← hexec.1, ← hexec.2.1, ← hexec.2.2]
              exact .writeRefresh access refresh accessDone
          | true => simp only [execute, reduceCtorEq] at hexec
      | _ => simp only [execute, reduceCtorEq] at hexec
  | readAccess =>
      cases h with
      | saved =>
          simp only [execute, Option.some.injEq, Prod.mk.injEq] at hexec
          rw [← hexec.1, ← hexec.2.1, ← hexec.2.2]
          exact .readAccess
      | _ => simp only [execute, reduceCtorEq] at hexec
  | retried =>
      cases h with
      | retrying access =>
          simp only [execute, Option.some.injEq, Prod.mk.injEq] at hexec
          rw [← hexec.1, ← hexec.2.1, ← hexec.2.2]
          exact .retried access
      | _ => simp only [execute, reduceCtorEq] at hexec
  | clear =>
      cases h with
      | loggingOut =>
          simp only [execute, Option.some.injEq, Prod.mk.injEq] at hexec
          rw [← hexec.1, ← hexec.2.1, ← hexec.2.2]
          exact .clear
      | _ => simp only [execute, reduceCtorEq] at hexec

theorem step_cases (env : Env) (s s' : State) (a : Act) (hstep : step env s a = some s') :
    ∃ h storage db h', s.handlers[a.handler]? = some h ∧
      Moves env s h a.stmt storage db h' ∧ s' = ⟨storage, db, s.handlers.set a.handler h'⟩ := by
  unfold step at hstep
  cases hget : s.handlers[a.handler]? with
  | none => simp only [hget, reduceCtorEq] at hstep
  | some h =>
      simp only [hget] at hstep
      cases hexec : execute env s h a.stmt with
      | none => simp only [hexec, reduceCtorEq] at hstep
      | some r =>
          simp only [hexec, Option.some.injEq] at hstep
          exact ⟨h, r.1, r.2.1, r.2.2, rfl, moves_of_execute env s h r.2.2 a.stmt r.1 r.2.1 hexec,
            hstep.symm⟩

/-- A handler that exchanges nothing relies on nothing that changes. -/
theorem relies_of_not_exchanging (env : Env) (storage storage' : TokenStorage) (db db' : TokenDb)
    (h : Phase) (hno : h.exchanging = false) (hrelies : Relies env storage db h) :
    Relies env storage' db' h := by
  cases h with
  | posting refresh => exact absurd hno Bool.true_eq_false.mp
  | answered reply => exact absurd hno Bool.true_eq_false.mp
  | saving access refresh accessDone refreshDone =>
      intro hdone
      rw [hdone] at hno
      exact absurd hno Bool.true_eq_false.mp
  | loggingOut => exact hrelies
  | loggedOut => exact hrelies
  | started => trivial
  | saved => trivial
  | retrying access => trivial
  | resolved => trivial

theorem relies_congr (env : Env) (storage storage' : TokenStorage) (db : TokenDb) (h : Phase)
    (heq : storage'.refresh = storage.refresh) (hrelies : Relies env storage db h) :
    Relies env storage' db h := by
  cases h with
  | posting refresh =>
      rw [Relies, heq]
      exact hrelies
  | answered reply =>
      rw [Relies, heq]
      exact hrelies
  | saving access refresh accessDone refreshDone =>
      rw [Relies, heq]
      exact hrelies
  | _ => exact hrelies

/-- A step that leaves the stored refresh token and the tables alone, and the
    handler exchanging as it was, keeps `Kept`. -/
theorem kept_quiet (env : Env) (s : State) (i : Nat) (h h' : Phase) (storage : TokenStorage)
    (hkept : Kept env s) (hget : s.handlers[i]? = some h)
    (heq : storage.refresh = s.storage.refresh) (hex : h'.exchanging = h.exchanging)
    (hrelies : Relies env storage s.db h') : Kept env ⟨storage, s.db, s.handlers.set i h'⟩ := by
  refine ⟨hkept.hashes, ?_, ?_, ?_⟩
  -- The handler counts as exchanging after the step only if it did before.
  · exact atMostOne_set _ s.handlers i h h' hkept.one hget (fun hh => hex ▸ hh)
  · intro d hd
    rcases List.mem_or_eq_of_mem_set hd with hold | hnew
    · exact relies_congr env s.storage storage s.db d heq (hkept.relies d hold)
    · rw [hnew]
      exact hrelies
  · intro hnone
    simp only [heq]
    refine hkept.rest (fun d hd => ?_)
    rcases List.getElem?_of_mem hd with ⟨j, hj⟩
    -- Nothing was exchanged before either, so the stored token was current.
    by_cases hij : j = i
    · rw [hij, hget, Option.some.injEq] at hj
      rw [← hj, ← hex]
      exact hnone h' (List.mem_of_getElem? (getElem?_set_of_some s.handlers i h' h hget))
    · exact hnone d (List.mem_of_getElem? (getElem?_set_of_ne s.handlers i j h' d hij hj))

/-- While a handler exchanges, it alone relies on the storage and the tables. -/
theorem kept_exchange (env : Env) (s : State) (i : Nat) (h h' : Phase) (storage : TokenStorage)
    (db : TokenDb) (hkept : Kept env s) (hget : s.handlers[i]? = some h)
    (hex : h.exchanging = true) (hhash : (db.tokens.map RefreshToken.tokenHash).Nodup)
    (hrelies : Relies env storage db h')
    (hrest : h'.exchanging = false →
      ∃ refresh, storage.refresh = some refresh ∧ Current env db refresh) :
    Kept env ⟨storage, db, s.handlers.set i h'⟩ := by
  refine ⟨hhash, ?_, ?_, ?_⟩
  · exact atMostOne_set _ s.handlers i h h' hkept.one hget (fun _ => hex)
  · intro d hd
    rcases List.getElem?_of_mem hd with ⟨j, hj⟩
    rcases getElem?_set_cases s.handlers i j h' d hj with ⟨_, hnew⟩ | ⟨hne, hold⟩
    · rw [hnew]
      exact hrelies
    -- Nobody else exchanges, so nobody else relies on what the step changed.
    · have hno : d.exchanging = false := by
        by_contra hyes
        rw [Bool.not_eq_false] at hyes
        exact hne (hkept.one j i d h hold hget hyes hex)
      exact relies_of_not_exchanging env s.storage storage s.db db d hno
        (hkept.relies d (List.mem_of_getElem? hold))
  · intro hnone
    exact hrest (hnone h' (List.mem_of_getElem? (getElem?_set_of_some s.handlers i h' h hget)))

/-- Every exclusive step keeps `Kept`. -/
theorem step_kept (env : Env) (s s' : State) (a : Act) (hkept : Kept env s)
    (hserved : Served env s a) (hexcl : Exclusive s a) (hstep : step env s a = some s') :
    Kept env s' := by
  rcases a with ⟨i, stmt⟩
  rcases step_cases env s s' _ hstep with ⟨h, storage, db, h', hget, hmoves, heq⟩
  have hrelies := hkept.relies h (List.mem_of_getElem? hget)
  rw [heq]
  cases hmoves with
  | readNothing hnone =>
      -- While nothing is exchanged, a token is stored.
      rcases hkept.rest (hexcl rfl) with ⟨refresh, hsome, _⟩
      rw [hnone] at hsome
      exact absurd hsome (by simp only [reduceCtorEq, not_false_eq_true])
  | readRefresh refresh hsome =>
      have hnone := hexcl rfl
      rcases hkept.rest hnone with ⟨stored, hstored, hcurrent⟩
      rw [hsome, Option.some.injEq] at hstored
      rw [← hstored] at hcurrent
      refine ⟨hkept.hashes, ?_, ?_, ?_⟩
      · refine atMostOne_enter _ s.handlers i _ (fun j d _ hd hyes => ?_)
        rw [hnone d (List.mem_of_getElem? hd)] at hyes
        exact Bool.false_ne_true hyes
      · intro d hd
        rcases List.mem_or_eq_of_mem_set hd with hold | hnew
        · exact hkept.relies d hold
        · rw [hnew]
          exact ⟨hsome, hcurrent⟩
      · intro hrest
        exact ⟨refresh, hsome, hcurrent⟩
  | serve refresh now issue =>
      -- The posted token is current and in date, so the backend answers with its successor.
      rcases hserved with ⟨hlive, hnew⟩
      rcases refreshAccessToken_current env s.db refresh now issue hkept.hashes
        (hlive _ (Option.mem_def.mpr hget)) (fun r hr => (hnew r hr).2) hrelies.2
        with ⟨resp, hok, hcurrent⟩
      have hspent := spent_of_ok env s.db refresh now issue resp hok
      exact kept_exchange env s i _ _ _ _ hkept hget rfl
        (hashes_refreshAccessToken env s.db refresh now issue hkept.hashes
          (fun r hr => (hnew r hr).1))
        ⟨⟨resp, hok, hcurrent⟩, refresh, hrelies.1, hspent⟩
        (fun hno => absurd hno Bool.true_eq_false.mp)
  | receiveOk resp =>
      rcases hrelies with ⟨⟨resp', hresp, hcurrent⟩, hold⟩
      rw [Reply.ok.injEq] at hresp
      exact kept_quiet env s i _ _ _ hkept hget rfl rfl (fun _ => ⟨hresp ▸ hcurrent, hold⟩)
  | receiveError reply hno =>
      rcases hrelies with ⟨⟨resp, hresp, _⟩, _⟩
      exact absurd hresp (hno resp)
  | writeAccess access refresh refreshDone =>
      cases refreshDone with
      | true => exact kept_quiet env s i _ _ _ hkept hget rfl rfl trivial
      | false => exact kept_quiet env s i _ _ _ hkept hget rfl rfl hrelies
  | writeRefresh access refresh accessDone =>
      -- The successor is stored: the handler no longer exchanges.
      have hnext := (hrelies rfl).1
      refine kept_exchange env s i _ _ _ _ hkept hget rfl hkept.hashes ?_
        (fun _ => ⟨refresh, rfl, hnext⟩)
      cases accessDone with
      | true => trivial
      | false => exact fun hdone => absurd hdone Bool.true_eq_false.mp
  | readAccess => exact kept_quiet env s i _ _ _ hkept hget rfl rfl trivial
  | retried access => exact kept_quiet env s i _ _ _ hkept hget rfl rfl trivial
  | clear => exact False.elim hrelies

theorem start_kept (env : Env) (n : Nat) (storage : TokenStorage) (db : TokenDb) (refresh : String)
    (hhash : (db.tokens.map RefreshToken.tokenHash).Nodup)
    (hstored : storage.refresh = some refresh) (hcurrent : Current env db refresh) :
    Kept env (start n storage db) := by
  have hstarted : ∀ h ∈ (start n storage db).handlers, h = .started := fun h hh =>
    List.eq_of_mem_replicate hh
  refine ⟨hhash, ?_, ?_, ?_⟩
  · intro i j p q hp _ hyes _
    rw [hstarted p (List.mem_of_getElem? hp)] at hyes
    exact absurd hyes Bool.false_ne_true
  · intro h hh
    rw [hstarted h hh]
    trivial
  · intro _
    exact ⟨refresh, hstored, hcurrent⟩

theorem run_kept (env : Env) (as : List Act) (s s' : State) (hkept : Kept env s)
    (hserved : Run.Along (step env) (Served env) s as)
    (hexcl : Run.Along (step env) Exclusive s as) (hrun : Run.run (step env) s as = some s') :
    Kept env s' :=
  Run.run_invariant_along (step env) _ (Kept env)
    (fun t a t' ht ha ht' => step_kept env t t' a ht ha.1 ha.2 ht') as s s' hkept
    (Run.along_and (step env) _ _ s as hserved hexcl) hrun

/-- The handler can only end in a logout, whatever the others do. -/
def Phase.failing : Phase → Prop
  | .answered reply => ∀ resp, reply ≠ .ok resp
  | .loggingOut => True
  | .loggedOut => True
  | _ => False

/-- Some handler fails, posts a spent token, or posts the same token as
    another one. -/
def Doomed (env : Env) (s : State) : Prop :=
  (∃ h ∈ s.handlers, h.failing) ∨
  (∃ refresh, Phase.posting refresh ∈ s.handlers ∧ Spent env s.db refresh) ∨
  ∃ (i j : Nat) (refresh : String), i ≠ j ∧ s.handlers[i]? = some (.posting refresh) ∧
    s.handlers[j]? = some (.posting refresh)

theorem failing_moves (env : Env) (s : State) (h h' : Phase) (stmt : Stmt)
    (storage : TokenStorage) (db : TokenDb) (hfail : h.failing)
    (hmoves : Moves env s h stmt storage db h') : h'.failing := by
  cases hmoves with
  | readNothing _ => exact False.elim hfail
  | readRefresh _ _ => exact False.elim hfail
  | serve _ _ _ => exact False.elim hfail
  | receiveOk resp => exact absurd rfl (hfail resp)
  | receiveError _ _ => trivial
  | writeAccess _ _ _ => exact False.elim hfail
  | writeRefresh _ _ _ => exact False.elim hfail
  | readAccess => exact False.elim hfail
  | retried _ => exact False.elim hfail
  | clear => trivial

/-- The tables change only when the backend serves a refresh, and a spent token
    stays spent. -/
theorem spent_moves (env : Env) (s : State) (h h' : Phase) (stmt : Stmt) (storage : TokenStorage)
    (db : TokenDb) (refresh : String) (hspent : Spent env s.db refresh)
    (hmoves : Moves env s h stmt storage db h') : Spent env db refresh := by
  cases hmoves with
  | serve raw now issue => exact spent_refreshAccessToken env s.db raw refresh now issue hspent
  | _ => exact hspent

/-- What becomes of a handler that posts a token: it still posts it, or it
    failed, or the token is spent. -/
theorem posting_moves (env : Env) (s : State) (refresh : String) (h' : Phase) (stmt : Stmt)
    (storage : TokenStorage) (db : TokenDb)
    (hmoves : Moves env s (.posting refresh) stmt storage db h') :
    h'.failing ∨ Spent env db refresh := by
  cases hmoves with
  | serve _ now issue =>
      -- The backend spends the token that it answers with a new pair.
      by_cases hok : ∃ resp, (refreshAccessToken env s.db refresh now issue).2 = .ok resp
      · rcases hok with ⟨resp, hok⟩
        exact Or.inr (spent_of_ok env s.db refresh now issue resp hok)
      · exact Or.inl (fun resp heq => hok ⟨resp, heq⟩)

/-- A doomed system stays doomed. -/
theorem step_doomed (env : Env) (s s' : State) (a : Act)
    (hhash : (s.db.tokens.map RefreshToken.tokenHash).Nodup) (hdoom : Doomed env s)
    (hstep : step env s a = some s') : Doomed env s' := by
  rcases a with ⟨k, stmt⟩
  rcases step_cases env s s' _ hstep with ⟨h, storage, db, h', hget, hmoves, heq⟩
  have hmoved := getElem?_set_of_some s.handlers k h' h hget
  rw [heq]
  rcases hdoom with ⟨d, hd, hfail⟩ | ⟨refresh, hd, hspent⟩ | ⟨i, j, refresh, hij, hi, hj⟩
  -- A handler that fails goes on failing.
  · rcases List.getElem?_of_mem hd with ⟨i, hi⟩
    by_cases hik : i = k
    · rw [hik, hget, Option.some.injEq] at hi
      rw [← hi] at hfail
      exact Or.inl ⟨h', List.mem_of_getElem? hmoved,
        failing_moves env s h h' stmt storage db hfail hmoves⟩
    · exact Or.inl ⟨d, List.mem_of_getElem? (getElem?_set_of_ne s.handlers k i h' d hik hi), hfail⟩
  -- A spent token is refused, so the handler that posts it fails next.
  · have hstill := spent_moves env s h h' stmt storage db refresh hspent hmoves
    rcases List.getElem?_of_mem hd with ⟨i, hi⟩
    by_cases hik : i = k
    · rw [hik, hget, Option.some.injEq] at hi
      subst hi
      cases hmoves with
      | serve _ now issue =>
          refine Or.inl ⟨_, List.mem_of_getElem? hmoved, fun resp => ?_⟩
          rw [refreshAccessToken_spent env s.db refresh now issue hhash hspent]
          simp only [Backend.Refresh.invalidRefresh, ne_eq, reduceCtorEq, not_false_eq_true]
    · exact Or.inr (Or.inl ⟨refresh,
        List.mem_of_getElem? (getElem?_set_of_ne s.handlers k i h' _ hik hi), hstill⟩)
  · -- if one of the two moves, it fails or has spent the other's token
    have hone : ∀ (m l : Nat), m ≠ l → s.handlers[m]? = some (.posting refresh) →
        s.handlers[l]? = some (.posting refresh) → m = k →
        Doomed env ⟨storage, db, s.handlers.set k h'⟩ := by
      intro m l hml hm hl hmk
      rw [hmk, hget, Option.some.injEq] at hm
      subst hm
      rcases posting_moves env s refresh h' stmt storage db hmoves with hfail | hspent
      · exact Or.inl ⟨h', List.mem_of_getElem? hmoved, hfail⟩
      · exact Or.inr (Or.inl ⟨refresh, List.mem_of_getElem? (getElem?_set_of_ne s.handlers k l h' _
          (fun hlk => hml (hmk.trans hlk.symm)) hl), hspent⟩)
    by_cases hik : i = k
    · exact hone i j hij hi hj hik
    · by_cases hjk : j = k
      · exact hone j i (Ne.symm hij) hj hi hjk
      · exact Or.inr (Or.inr ⟨i, j, refresh, hij, getElem?_set_of_ne s.handlers k i h' _ hik hi,
          getElem?_set_of_ne s.handlers k j h' _ hjk hj⟩)

theorem step_hashes (env : Env) (s s' : State) (a : Act)
    (hhash : (s.db.tokens.map RefreshToken.tokenHash).Nodup) (hserved : Served env s a)
    (hstep : step env s a = some s') : (s'.db.tokens.map RefreshToken.tokenHash).Nodup := by
  rcases a with ⟨k, stmt⟩
  rcases step_cases env s s' _ hstep with ⟨h, storage, db, h', _, hmoves, heq⟩
  rw [heq]
  cases hmoves with
  | serve raw now issue =>
      exact hashes_refreshAccessToken env s.db raw now issue hhash
        (fun r hr => (hserved.2 r hr).1)
  | _ => exact hhash

theorem run_doomed (env : Env) (as : List Act) (s s' : State)
    (hhash : (s.db.tokens.map RefreshToken.tokenHash).Nodup) (hdoom : Doomed env s)
    (hserved : Run.Along (step env) (Served env) s as) (hrun : Run.run (step env) s as = some s') :
    Doomed env s' :=
  (Run.run_invariant_along (step env) (Served env)
    (fun t => (t.db.tokens.map RefreshToken.tokenHash).Nodup ∧ Doomed env t)
    (fun t a t' ht ha ht' => ⟨step_hashes env t t' a ht.1 ha ht',
      step_doomed env t t' a ht.1 ht.2 ht'⟩) as s s' ⟨hhash, hdoom⟩ hserved hrun).2

/-- No handler has called `onLogout`. -/
def NoLogout (s : State) : Prop :=
  ∀ h ∈ s.handlers, Phase.logsOut h = false

/-- Every handler has returned. -/
def Complete (s : State) : Prop :=
  ∀ h ∈ s.handlers, Phase.done h = true

instance (s : State) : Decidable (Complete s) :=
  inferInstanceAs (Decidable (∀ h ∈ s.handlers, Phase.done h = true))

theorem noLogout_of_kept (env : Env) (s : State) (hkept : Kept env s) : NoLogout s := by
  intro h hh
  have hrelies := hkept.relies h hh
  cases h with
  | loggingOut => exact False.elim hrelies
  | loggedOut => exact False.elim hrelies
  | _ => rfl

/-- When all handlers of a doomed system have returned, one has logged out. -/
theorem not_noLogout_of_doomed (env : Env) (s : State) (hdoom : Doomed env s)
    (hdone : Complete s) : ¬ NoLogout s := by
  intro hno
  have hposting : ∀ refresh, Phase.posting refresh ∉ s.handlers := fun refresh hh =>
    absurd (hdone _ hh) Bool.false_ne_true
  rcases hdoom with ⟨h, hh, hfail⟩ | ⟨refresh, hh, _⟩ | ⟨i, _, refresh, _, hi, _⟩
  · have hend := hdone h hh
    have hout := hno h hh
    cases h with
    | loggedOut => exact absurd hout Bool.true_eq_false.mp
    | answered reply => exact absurd hend Bool.false_ne_true
    | loggingOut => exact absurd hend Bool.false_ne_true
    | _ => exact hfail
  · exact hposting refresh hh
  · exact hposting refresh (List.mem_of_getElem? hi)

/-- A handler that reads the stored token while another exchanges it is about
    to post a token that is spent or will be. -/
theorem doomed_of_not_exclusive (env : Env) (s s' : State) (a : Act) (hkept : Kept env s)
    (hexcl : ¬ Exclusive s a) (hstep : step env s a = some s') : Doomed env s' := by
  rcases a with ⟨i, stmt⟩
  simp only [Exclusive, not_forall, Bool.not_eq_false] at hexcl
  rcases hexcl with ⟨hstmt, d, hd, hex⟩
  subst hstmt
  rcases List.getElem?_of_mem hd with ⟨j, hj⟩
  have hrelies := hkept.relies d hd
  rcases step_cases env s s' _ hstep with ⟨h, storage, db, h', hget, hmoves, heq⟩
  have hmoved := getElem?_set_of_some s.handlers i h' h hget
  rw [heq]
  cases hmoves with
  | readNothing _ => exact Or.inl ⟨_, List.mem_of_getElem? hmoved, trivial⟩
  | readRefresh refresh hsome =>
      have hji : j ≠ i := by
        intro hji
        rw [hji, hget, Option.some.injEq] at hj
        rw [← hj] at hex
        exact Bool.false_ne_true hex
      -- Once the other has its answer, the stored token is spent.
      have hspentcase : (∃ old, s.storage.refresh = some old ∧ Spent env s.db old) →
          Doomed env ⟨s.storage, s.db, s.handlers.set i (.posting refresh)⟩ := by
        rintro ⟨old, hold, hspent⟩
        rw [hsome, Option.some.injEq] at hold
        exact Or.inr (Or.inl ⟨refresh, List.mem_of_getElem? hmoved, hold ▸ hspent⟩)
      cases d with
      -- Before that, both post the same token.
      | posting posted =>
          have hposted := hrelies.1
          rw [hsome, Option.some.injEq] at hposted
          subst hposted
          exact Or.inr (Or.inr ⟨i, j, refresh, Ne.symm hji, hmoved,
            getElem?_set_of_ne s.handlers i j _ _ hji hj⟩)
      | answered reply => exact hspentcase hrelies.2
      | saving access next accessDone refreshDone =>
          cases refreshDone with
          | true => exact absurd hex Bool.false_ne_true
          | false => exact hspentcase (hrelies rfl).2
      | _ => exact absurd hex Bool.false_ne_true

theorem exclusive_of_noLogout (env : Env) (as : List Act) (s s' : State) (hkept : Kept env s)
    (hserved : Run.Along (step env) (Served env) s as) (hrun : Run.run (step env) s as = some s')
    (hdone : Complete s') (hno : NoLogout s') : Run.Along (step env) Exclusive s as := by
  induction as generalizing s with
  | nil => trivial
  | cons a as ih =>
      rcases (Run.run_cons_eq_some (step env) s s' a as).mp hrun with ⟨s₁, hstep, hrest⟩
      have hserved' := (Run.along_cons (step env) (Served env) s s₁ a as hstep).mp hserved
      rw [Run.along_cons (step env) Exclusive s s₁ a as hstep]
      -- The first step that is not exclusive dooms the run.
      by_cases hexcl : Exclusive s a
      · exact ⟨hexcl, ih s₁ (step_kept env s s₁ a hkept hserved'.1 hexcl hstep) hserved'.2 hrest⟩
      · have hdoom := doomed_of_not_exclusive env s s₁ a hkept hexcl hstep
        have hhash := step_hashes env s s₁ a hkept.hashes hserved'.1 hstep
        exact absurd hno (not_noLogout_of_doomed env s' (run_doomed env as s₁ s' hhash hdoom
          hserved'.2 hrest) hdone)

/-- With a valid refresh token in the storage, no handler calls `onLogout` in
    any run in which no handler reads the token while another exchanges it.
    Once all handlers have returned, these are all the runs without a logout. -/
theorem no_logout_iff (env : Env) (n : Nat) (storage : TokenStorage) (db : TokenDb)
    (refresh : String) (as : List Act) (s : State)
    (hhash : (db.tokens.map RefreshToken.tokenHash).Nodup)
    (hstored : storage.refresh = some refresh) (hcurrent : Current env db refresh)
    (hserved : Run.Along (step env) (Served env) (start n storage db) as)
    (hrun : Run.run (step env) (start n storage db) as = some s) :
    (Run.Along (step env) Exclusive (start n storage db) as → NoLogout s) ∧
    (Complete s → NoLogout s → Run.Along (step env) Exclusive (start n storage db) as) := by
  have hkept := start_kept env n storage db refresh hhash hstored hcurrent
  constructor
  · intro hexcl
    exact noLogout_of_kept env s (run_kept env as _ s hkept hserved hexcl hrun)
  · intro hdone hno
    exact exclusive_of_noLogout env as _ s hkept hserved hrun hdone hno

def demoStorage : TokenStorage := ⟨some "expired", some "old"⟩

/-- The row of a token that was rotated before and has expired since is still
    in the table. -/
def rotatedDb : TokenDb where
  users := demoDb.users
  tokens := ⟨6, 1, "older", 50, some 20⟩ :: demoDb.tokens
  userKey := demoDb.userKey
  tokenKey := by decide
  owner := by decide

/-- The steps of handler `i` from its first to its last, with its two writes in
    order. -/
def aloneRun (i : Nat) (now : Datetime) (issue : Issue) : List Act :=
  [⟨i, .readRefresh⟩, ⟨i, .serve now issue⟩, ⟨i, .receive⟩, ⟨i, .writeAccess⟩, ⟨i, .writeRefresh⟩,
    ⟨i, .readAccess⟩, ⟨i, .retried⟩]

/-- Two handlers, one after the other. -/
def serialRun : List Act :=
  aloneRun 0 100 ⟨101, 101, 11, 8⟩ ++ aloneRun 1 200 ⟨201, 201, 12, 9⟩

theorem no_logout_iff_demo : ∃ s,
    Run.run (step demoEnv) (start 2 demoStorage rotatedDb) serialRun = some s ∧
    (NoLogout s ↔ Run.Along (step demoEnv) Exclusive (start 2 demoStorage rotatedDb) serialRun) :=
  have hcurrent : Current demoEnv rotatedDb "old" :=
    ⟨_, List.mem_cons_of_mem _ (List.mem_singleton.mpr rfl), rfl, rfl⟩
  ⟨_, rfl, (no_logout_iff demoEnv 2 demoStorage rotatedDb "old" serialRun _ (by decide) rfl hcurrent
    (by decide) rfl).2 (by decide), (no_logout_iff demoEnv 2 demoStorage rotatedDb "old" serialRun _
    (by decide) rfl hcurrent (by decide) rfl).1⟩

/-- Two handlers that both read the stored token before either stores the next
    one: the second is refused and logs the user out. -/
def overlappingRun : List Act :=
  [⟨0, .readRefresh⟩, ⟨1, .readRefresh⟩, ⟨0, .serve 100 ⟨101, 101, 11, 8⟩⟩,
    ⟨1, .serve 102 ⟨103, 103, 12, 9⟩⟩, ⟨0, .receive⟩, ⟨1, .receive⟩]

theorem logged_out : ¬ ∀ (env : Env) (n : Nat) (storage : TokenStorage) (db : TokenDb)
    (refresh : String) (as : List Act) (s : State),
    (db.tokens.map RefreshToken.tokenHash).Nodup → storage.refresh = some refresh →
    Current env db refresh → Run.Along (step env) (Served env) (start n storage db) as →
    Run.run (step env) (start n storage db) as = some s → NoLogout s := by
  intro hall
  have hno := hall demoEnv 2 demoStorage demoDb "old" overlappingRun _ (by decide) rfl
    ⟨_, List.mem_singleton.mpr rfl, rfl, rfl⟩ (by decide) rfl
  exact absurd (hno .loggingOut (List.mem_of_getElem? (i := 1) rfl)) Bool.true_eq_false.mp

end Auth

end Mobile

end Vena
