import Vena.Backend.Jwt
import Vena.Core.Keyed
import Vena.Core.Processes
import Vena.Core.ReadCommitted
import Vena.Core.Run

/-!
# Rotation of Refresh Tokens

`refresh_access_token`, statement by statement. A call selects the row of the
presented token, loads its owner, revokes the row, inserts the row of a new
token and commits; other calls may execute between any two of its statements.
The session flushes at the commit, the UPDATE before the INSERT, so nothing of
a call is visible before that.

Every exception a call could run into is in the model: a token with two rows,
a row without an owner, an UPDATE that matches nothing, a primary key that is
taken. `progress_of_execute` shows that only the first of them can happen, given
the constraints of the schema and identifiers that are new when drawn.

## Main definitions

* `TokenResponse`: The body of a successful refresh.
* `Phase`, `Call`: How far a call has come.
* `State`: The two tables and the calls.
* `execute`, `step`: One statement of a call, and one event of the system.
* `Fresh`: Drawn identifiers are new.
* `Wf`: What holds of every run.
* `Progress`: What the statements of a call do in a run.

## Theorems

* `progress_of_execute`: A statement that executes makes progress.
* `step_wf`, `run_wf`: Every run keeps `Wf`.
-/

namespace Vena

namespace Backend

open Python ReadCommitted Processes

structure UserInfo where
  id : Uuid
  email : String
  deriving DecidableEq, Repr

structure TokenResponse where
  accessToken : String
  refreshToken : String
  tokenType : String := "bearer"
  expiresIn : Int
  user : UserInfo
  deriving DecidableEq, Repr

/-- `_token_response`. -/
def tokenResponse (env : Env) (user : User) (accessToken rawRefresh : String) : TokenResponse where
  accessToken := accessToken
  refreshToken := rawRefresh
  expiresIn := env.settings.jwtExpireMinutes * 60
  user := { id := user.id, email := user.email }

namespace Refresh

/-- What a call reads while it issues a new pair: the two clock readings, the
    raw token and the primary key of its row. -/
structure Issue where
  accessNow : Datetime
  refreshNow : Datetime
  raw : Uuid
  rowId : Uuid
  deriving DecidableEq, Repr

/-- How far a call of `refresh_access_token` has come: before its first
    statement, with the row of the token, with the pair it will hand out,
    after the UPDATE, after the INSERT, or returned. -/
inductive Phase where
  | started
  | found (rt : RefreshToken)
  | loaded (rt new : RefreshToken) (resp : TokenResponse)
  | revoked (rt new : RefreshToken) (resp : TokenResponse)
  | inserted (rt new : RefreshToken) (resp : TokenResponse)
  | finished (reply : Reply TokenResponse)
  deriving DecidableEq, Repr

/-- A call, with its argument and its reading of `_now()`. -/
structure Call where
  raw : String
  now : Datetime
  phase : Phase
  deriving DecidableEq, Repr

structure State where
  users : List User
  store : Store Uuid RefreshToken
  calls : List Call

/-- The statements of a call. -/
inductive Stmt where
  | selectToken
  | selectUser (issue : Issue)
  | update
  | insert
  | commit
  deriving DecidableEq, Repr

/-- A new request, or the next statement of call `i`. -/
inductive Act where
  | request (raw : String) (now : Datetime)
  | exec (i : Nat) (stmt : Stmt)
  deriving DecidableEq, Repr

def invalidRefresh : Reply TokenResponse :=
  .error 401 "Refresh token is invalid, expired, or already revoked"

/-- The WHERE clause of the SELECT. -/
def valid (tokenHash : String) (now : Datetime) (rt : RefreshToken) : Bool :=
  rt.tokenHash = tokenHash && rt.revokedAt.isNone && rt.expiresAt > now

def revoke (now : Datetime) (rt : RefreshToken) : RefreshToken :=
  { rt with revokedAt := some now }

/-- The row of a newly issued token. -/
def newToken (env : Env) (user : User) (issue : Issue) : RefreshToken where
  id := issue.rowId
  userId := user.id
  tokenHash := env.sha256hex (createRefreshToken env issue.raw issue.refreshNow).1
  expiresAt := (createRefreshToken env issue.raw issue.refreshNow).2
  revokedAt := none

def issueResponse (env : Env) (user : User) (issue : Issue) : TokenResponse :=
  tokenResponse env user (createAccessToken env user issue.accessNow)
    (createRefreshToken env issue.raw issue.refreshNow).1

/-- `scalar_one_or_none` on the SELECT of the token. -/
def afterSelectToken : List RefreshToken → Phase
  | [] => .finished invalidRefresh
  | [rt] => .found rt
  | _ :: _ :: _ => .finished .crash

/-- `scalar_one` on the SELECT of the owner, and the new pair. -/
def afterSelectUser (env : Env) (rt : RefreshToken) (issue : Issue) : List User → Phase
  | [user] => .loaded rt (newToken env user issue) (issueResponse env user issue)
  | _ => .finished .crash

/-- One statement of call `i`, or `none` while it waits for a lock and when it
    is not the call's next statement. -/
def execute (env : Env) (s : State) (i : Nat) (c : Call) :
    Stmt → Option (Store Uuid RefreshToken × Phase)
  | .selectToken => match c.phase with
    | .started => some (s.store, afterSelectToken
        (s.store.select RefreshToken.id i (valid (env.sha256hex c.raw) c.now)))
    | _ => none
  | .selectUser issue => match c.phase with
    | .found rt => some (s.store, afterSelectUser env rt issue
        (s.users.filter (fun u => u.id = rt.userId)))
    | _ => none
  | .update => match c.phase with
    | .loaded rt new resp =>
      if s.store.blocked RefreshToken.id i rt.id then none
      else if (s.store.visible RefreshToken.id i).any (fun r => r.id = rt.id) then
        some (s.store.write i (.update rt.id (revoke c.now)), .revoked rt new resp)
      else some (s.store.rollback i, .finished .crash)
    | _ => none
  | .insert => match c.phase with
    | .revoked rt new resp =>
      if s.store.blocked RefreshToken.id i new.id then none
      else if (s.store.visible RefreshToken.id i).any (fun r => r.id = new.id) then
        some (s.store.rollback i, .finished .crash)
      else some (s.store.write i (.insert new), .inserted rt new resp)
    | _ => none
  | .commit => match c.phase with
    | .inserted _ _ resp => some (s.store.commit RefreshToken.id i, .finished (.ok resp))
    | _ => none

def step (env : Env) (s : State) : Act → Option State
  | .request raw now => some { s with calls := s.calls ++ [⟨raw, now, .started⟩] }
  | .exec i stmt => match s.calls[i]? with
    | none => none
    | some c => match execute env s i c stmt with
      | none => none
      | some (store, phase) =>
        some { s with store := store, calls := s.calls.set i { c with phase := phase } }

/-- The two tables with the constraints the schema puts on them. -/
structure TokenDb where
  users : List User
  tokens : List RefreshToken
  userKey : (users.map User.id).Nodup
  tokenKey : (tokens.map RefreshToken.id).Nodup
  owner : ∀ rt ∈ tokens, ∃ user ∈ users, user.id = rt.userId

def start (db : TokenDb) : State where
  users := db.users
  store := ⟨db.tokens, []⟩
  calls := []

/-- The row a call has selected and not yet revoked in public. -/
def Phase.held : Phase → Option RefreshToken
  | .started => none
  | .found rt => some rt
  | .loaded rt _ _ => some rt
  | .revoked rt _ _ => some rt
  | .inserted rt _ _ => some rt
  | .finished _ => none

/-- The row of the new token of a call that has not committed it yet. -/
def Phase.minted : Phase → Option RefreshToken
  | .started => none
  | .found _ => none
  | .loaded _ new _ => some new
  | .revoked _ new _ => some new
  | .inserted _ new _ => some new
  | .finished _ => none

/-- The call returned a new pair. -/
def Call.succeeded (c : Call) : Bool := match c.phase with
  | .finished (.ok _) => true
  | _ => false

/-- The call returned. -/
def Call.returned (c : Call) : Bool := match c.phase with
  | .finished _ => true
  | _ => false

/-- A drawn token or primary key is one no row and no other call has. -/
def Fresh (env : Env) (s : State) : Act → Prop
  | .exec _ (.selectUser issue) =>
      (∀ r ∈ s.store.rows, r.tokenHash ≠ env.sha256hex issue.raw.str ∧ r.id ≠ issue.rowId) ∧
      ∀ c ∈ s.calls, ∀ new ∈ c.phase.minted,
        new.tokenHash ≠ env.sha256hex issue.raw.str ∧ new.id ≠ issue.rowId
  | _ => True

instance (env : Env) (s : State) : ∀ a, Decidable (Fresh env s a)
  | .exec _ (.selectUser _) => by unfold Fresh; infer_instance
  | .exec _ .selectToken => isTrue trivial
  | .exec _ .update => isTrue trivial
  | .exec _ .insert => isTrue trivial
  | .exec _ .commit => isTrue trivial
  | .request _ _ => isTrue trivial

theorem step_cases (env : Env) (s s' : State) (a : Act) (hstep : step env s a = some s') :
    (∃ raw now, a = .request raw now ∧ s' = { s with calls := s.calls ++ [⟨raw, now, .started⟩] }) ∨
    ∃ i stmt c store phase, a = .exec i stmt ∧ s.calls[i]? = some c ∧
      execute env s i c stmt = some (store, phase) ∧
      s' = { s with store := store, calls := s.calls.set i { c with phase := phase } } := by
  cases a with
  | request raw now =>
      simp only [step, Option.some.injEq] at hstep
      exact Or.inl ⟨raw, now, rfl, hstep.symm⟩
  | exec i stmt =>
      simp only [step] at hstep
      cases hget : s.calls[i]? with
      | none => simp only [hget, reduceCtorEq] at hstep
      | some c =>
          simp only [hget] at hstep
          cases hexec : execute env s i c stmt with
          | none => simp only [hexec, reduceCtorEq] at hstep
          | some r =>
              simp only [hexec, Option.some.injEq] at hstep
              exact Or.inr ⟨i, stmt, c, r.1, r.2, rfl, hget, hexec, hstep.symm⟩

/-- The uncommitted writes a call has made by each phase. -/
def Phase.writes (now : Datetime) : Phase → List (Write Uuid RefreshToken)
  | .started => []
  | .found _ => []
  | .loaded _ _ _ => []
  | .revoked rt _ _ => [.update rt.id (revoke now)]
  | .inserted rt new _ => [.update rt.id (revoke now), .insert new]
  | .finished _ => []

/-- A call's transaction has made the writes of its phase, the row it holds is
    in the table and has an owner, and the row it will add is new. -/
structure CallWf (s : State) (i : Nat) (c : Call) : Prop where
  own : s.store.own i = c.phase.writes c.now
  held : ∀ rt ∈ c.phase.held, (∃ r ∈ s.store.rows, r.id = rt.id) ∧
    ∃ user ∈ s.users, user.id = rt.userId
  minted : ∀ new ∈ c.phase.minted,
    (∀ r ∈ s.store.rows, r.id ≠ new.id ∧ r.tokenHash ≠ new.tokenHash) ∧
    ∃ user ∈ s.users, user.id = new.userId

/-- What holds of every run: the constraints of the schema, and well-formed
    calls whose new rows differ from each other. -/
structure Wf (s : State) : Prop where
  userKey : (s.users.map User.id).Nodup
  owner : ∀ r ∈ s.store.rows, ∃ user ∈ s.users, user.id = r.userId
  calls : Each (CallWf s) s.calls
  idle : ∀ i, s.calls.length ≤ i → s.store.own i = []
  apart : ∀ (i j : Nat) (c d : Call) (new other : RefreshToken), i ≠ j →
    s.calls[i]? = some c → s.calls[j]? = some d → c.phase.minted = some new →
    d.phase.minted = some other → new.id ≠ other.id ∧ new.tokenHash ≠ other.tokenHash

theorem start_wf (db : TokenDb) : Wf (start db) where
  userKey := db.userKey
  owner := db.owner
  calls := fun i c hget => absurd hget (by simp only [start, List.getElem?_nil, reduceCtorEq,
    not_false_eq_true])
  idle := fun _ _ => rfl
  apart := fun i _ c _ _ _ _ hget => absurd hget (by simp only [start, List.getElem?_nil,
    reduceCtorEq, not_false_eq_true])

/-- What the statements of a well-formed call do: none of them fails but the
    SELECT of the token. -/
inductive Progress (env : Env) (s : State) (i : Nat) (c : Call) :
    Stmt → Store Uuid RefreshToken → Phase → Prop
  | selectToken (hphase : c.phase = .started) :
      Progress env s i c .selectToken s.store
        (afterSelectToken (s.store.rows.filter (valid (env.sha256hex c.raw) c.now)))
  | selectUser (rt : RefreshToken) (issue : Issue) (user : User) (hphase : c.phase = .found rt)
      (hmem : user ∈ s.users) (hid : user.id = rt.userId) :
      Progress env s i c (.selectUser issue) s.store
        (.loaded rt (newToken env user issue) (issueResponse env user issue))
  | update (rt new : RefreshToken) (resp : TokenResponse) (hphase : c.phase = .loaded rt new resp) :
      Progress env s i c .update (s.store.write i (.update rt.id (revoke c.now)))
        (.revoked rt new resp)
  | insert (rt new : RefreshToken) (resp : TokenResponse)
      (hphase : c.phase = .revoked rt new resp) :
      Progress env s i c .insert (s.store.write i (.insert new)) (.inserted rt new resp)
  | commit (rt new : RefreshToken) (resp : TokenResponse)
      (hphase : c.phase = .inserted rt new resp)
      (hrows : s.store.visible RefreshToken.id i =
        (Write.update rt.id (revoke c.now)).apply RefreshToken.id s.store.rows ++ [new]) :
      Progress env s i c .commit (s.store.commit RefreshToken.id i) (.finished (.ok resp))

theorem progress_of_execute (env : Env) (s : State) (i : Nat) (c : Call) (stmt : Stmt)
    (store : Store Uuid RefreshToken) (phase : Phase) (hwf : Wf s) (hget : s.calls[i]? = some c)
    (hexec : execute env s i c stmt = some (store, phase)) :
    Progress env s i c stmt store phase := by
  have hcall := hwf.calls i c hget
  have hown := hcall.own
  cases stmt with
  | selectToken =>
      cases hphase : c.phase with
      | started =>
          -- The transaction has written nothing, so it sees the committed rows.
          rw [hphase] at hown
          simp only [execute, hphase, Store.select, Store.visible_of_own_nil _ s.store i hown,
            Option.some.injEq, Prod.mk.injEq] at hexec
          rw [← hexec.1, ← hexec.2]
          exact .selectToken hphase
      | _ => simp only [execute, hphase, reduceCtorEq] at hexec
  | selectUser issue =>
      cases hphase : c.phase with
      | found rt =>
          rcases (hcall.held rt (by rw [hphase]; rfl)).2 with ⟨user, hmem, hid⟩
          -- The foreign key gives the owner, and the primary key makes it the only one.
          have hfound : s.users.filter (fun u => u.id = rt.userId) = [user] := by
            rw [← hid]
            exact Keyed.filter_key User.id s.users user hwf.userKey hmem
          simp only [execute, hphase, hfound, afterSelectUser, Option.some.injEq,
            Prod.mk.injEq] at hexec
          rw [← hexec.1, ← hexec.2]
          exact .selectUser rt issue user hphase hmem hid
      | _ => simp only [execute, hphase, reduceCtorEq] at hexec
  | update =>
      cases hphase : c.phase with
      | loaded rt new resp =>
          rw [hphase] at hown
          rcases (hcall.held rt (by rw [hphase]; rfl)).1 with ⟨r, hr, hid⟩
          -- Rows are never deleted, so the UPDATE finds the row that was held.
          have hany : s.store.rows.any (fun r => r.id = rt.id) = true :=
            List.any_eq_true.mpr ⟨r, hr, by simp only [hid, decide_true]⟩
          simp only [execute, hphase, Store.visible_of_own_nil _ s.store i hown, hany,
            if_true] at hexec
          split at hexec
          · exact absurd hexec (by simp only [reduceCtorEq, not_false_eq_true])
          · simp only [Option.some.injEq, Prod.mk.injEq] at hexec
            rw [← hexec.1, ← hexec.2]
            exact .update rt new resp hphase
      | _ => simp only [execute, hphase, reduceCtorEq] at hexec
  | insert =>
      cases hphase : c.phase with
      | revoked rt new resp =>
          rw [hphase] at hown
          -- A revocation keeps the keys: the new one can only clash with a committed row.
          have hkeys : (s.store.visible RefreshToken.id i).map RefreshToken.id =
              s.store.rows.map RefreshToken.id := by
            rw [Store.visible, hown]
            exact map_key_update _ _ _ _ (fun _ => rfl)
          have hnew := (hcall.minted new (by rw [hphase]; rfl)).1
          have hany : (s.store.visible RefreshToken.id i).any (fun r => r.id = new.id) = false := by
            rw [List.any_eq_false]
            intro r hr hid
            have hin : r.id ∈ s.store.rows.map RefreshToken.id := hkeys ▸ List.mem_map_of_mem hr
            rcases List.mem_map.mp hin with ⟨old, hold, heq⟩
            rw [decide_eq_true_eq] at hid
            exact (hnew old hold).1 (heq.trans hid)
          simp only [execute, hphase, hany, Bool.false_eq_true, if_false] at hexec
          split at hexec
          · exact absurd hexec (by simp only [reduceCtorEq, not_false_eq_true])
          · simp only [Option.some.injEq, Prod.mk.injEq] at hexec
            rw [← hexec.1, ← hexec.2]
            exact .insert rt new resp hphase
      | _ => simp only [execute, hphase, reduceCtorEq] at hexec
  | commit =>
      cases hphase : c.phase with
      | inserted rt new resp =>
          rw [hphase] at hown
          simp only [execute, hphase, Option.some.injEq, Prod.mk.injEq] at hexec
          rw [← hexec.1, ← hexec.2]
          exact .commit rt new resp hphase (by rw [Store.visible, hown]; rfl)
      | _ => simp only [execute, hphase, reduceCtorEq] at hexec

/-- The state after a statement of call `i`. -/
def State.move (s : State) (i : Nat) (c : Call) (store : Store Uuid RefreshToken)
    (phase : Phase) : State :=
  { s with store := store, calls := s.calls.set i { c with phase := phase } }

/-- A statement that leaves the committed rows alone and touches no other
    transaction keeps `Wf` if the call itself stays well formed and its new
    row, if it only now draws one, differs from those of the others. -/
theorem wf_move (s : State) (i : Nat) (c : Call) (store : Store Uuid RefreshToken) (phase : Phase)
    (hwf : Wf s) (hget : s.calls[i]? = some c) (hrows : store.rows = s.store.rows)
    (hothers : ∀ j, j ≠ i → store.own j = s.store.own j)
    (hcall : CallWf (s.move i c store phase) i { c with phase := phase })
    (hnew : ∀ new ∈ phase.minted, c.phase.minted = some new ∨
      ∀ d ∈ s.calls, ∀ other ∈ d.phase.minted,
        other.tokenHash ≠ new.tokenHash ∧ other.id ≠ new.id) : Wf (s.move i c store phase) := by
  have hlt : i < s.calls.length := (List.getElem?_eq_some_iff.mp hget).1
  -- The new row of this call against that of another one.
  have hpair : ∀ (j : Nat) (d : Call) (new other : RefreshToken), j ≠ i →
      s.calls[j]? = some d → phase.minted = some new → d.phase.minted = some other →
      new.id ≠ other.id ∧ new.tokenHash ≠ other.tokenHash := by
    intro j d new other hne hd hm ho
    rcases hnew new hm with hold | hfresh
    · exact hwf.apart i j c d new other (Ne.symm hne) hget hd hold ho
    · have hdiff := hfresh d (List.mem_of_getElem? hd) other ho
      exact ⟨Ne.symm hdiff.2, Ne.symm hdiff.1⟩
  refine ⟨hwf.userKey, ?_, ?_, ?_, ?_⟩
  · intro r hr
    simp only [State.move, hrows] at hr
    exact hwf.owner r hr
  -- The other calls see the same committed rows and have the same writes of their own.
  · refine each_set (CallWf s) _ s.calls i _ hwf.calls ?_ hcall
    intro j d hne _ hd
    refine ⟨?_, ?_, ?_⟩
    · simp only [State.move, hothers j hne, hd.own]
    · simp only [State.move, hrows]
      exact hd.held
    · simp only [State.move, hrows]
      exact hd.minted
  · intro j hj
    simp only [State.move, List.length_set] at hj
    rw [State.move, hothers j (by omega)]
    exact hwf.idle j hj
  · intro j k d e new other hne hd he hm ho
    rcases getElem?_set_cases s.calls i j _ d hd with ⟨hji, hdp⟩ | ⟨hji, hdold⟩
    · rcases getElem?_set_cases s.calls i k _ e he with ⟨hki, _⟩ | ⟨hki, heold⟩
      · exact absurd (hji.trans hki.symm) hne
      · rw [hdp] at hm
        exact hpair k e new other hki heold hm ho
    · rcases getElem?_set_cases s.calls i k _ e he with ⟨hki, hep⟩ | ⟨hki, heold⟩
      · rw [hep] at ho
        have hdiff := hpair j d other new hji hdold ho hm
        exact ⟨Ne.symm hdiff.1, Ne.symm hdiff.2⟩
      · exact hwf.apart j k d e new other hne hdold heold hm ho

/-- A write of a call that keeps the row it holds and the one it will add. -/
theorem wf_write (s : State) (i : Nat) (c : Call) (w : Write Uuid RefreshToken) (phase : Phase)
    (hwf : Wf s) (hget : s.calls[i]? = some c)
    (hwrites : phase.writes c.now = c.phase.writes c.now ++ [w])
    (hheld : phase.held = c.phase.held) (hminted : phase.minted = c.phase.minted) :
    Wf (s.move i c (s.store.write i w) phase) := by
  have hcall := hwf.calls i c hget
  refine wf_move s i c _ _ hwf hget rfl (fun j hne => Store.own_write_of_ne _ _ _ _ hne)
    ⟨?_, fun held h => ?_, fun new h => ?_⟩ (fun new h => ?_)
  · rw [State.move, Store.own_write_self, hcall.own]
    exact hwrites.symm
  · exact hcall.held held (hheld ▸ h)
  · exact hcall.minted new (hminted ▸ h)
  · exact Or.inl (hminted ▸ h)

/-- The rows after a commit: the old ones, with the held one revoked, and the
    new one. -/
theorem mem_commit (rows : List RefreshToken) (k : Uuid) (now : Datetime) (new r : RefreshToken)
    (hr : r ∈ (Write.update k (revoke now)).apply RefreshToken.id rows ++ [new]) :
    r = new ∨ ∃ old ∈ rows, r = (if old.id = k then revoke now old else old) := by
  rcases List.mem_append.mp hr with hmap | hnew
  · rcases List.mem_map.mp hmap with ⟨old, hold, heq⟩
    exact Or.inr ⟨old, hold, heq.symm⟩
  · exact Or.inl (List.mem_singleton.mp hnew)

/-- A property of rows that a revocation does not change holds of all rows
    after a commit if it did before and holds of the new row. -/
theorem forall_commit (P : RefreshToken → Prop) (rows : List RefreshToken) (k : Uuid)
    (now : Datetime) (new : RefreshToken) (hP : ∀ r, P r → P (revoke now r))
    (hrows : ∀ r ∈ rows, P r) (hnew : P new) :
    ∀ r ∈ (Write.update k (revoke now)).apply RefreshToken.id rows ++ [new], P r := by
  intro r hr
  rcases List.mem_append.mp hr with hmap | hlast
  · exact forall_update RefreshToken.id P rows k (revoke now) hP hrows r hmap
  · rw [List.mem_singleton.mp hlast]
    exact hnew

theorem exists_commit (P : RefreshToken → Prop) (rows : List RefreshToken) (k : Uuid)
    (now : Datetime) (new : RefreshToken) (hP : ∀ r, P r → P (revoke now r))
    (hrows : ∃ r ∈ rows, P r) :
    ∃ r ∈ (Write.update k (revoke now)).apply RefreshToken.id rows ++ [new], P r := by
  rcases exists_update RefreshToken.id P rows k (revoke now) hP hrows with ⟨r, hr, hPr⟩
  exact ⟨r, List.mem_append_left _ hr, hPr⟩

theorem wf_commit (s : State) (i : Nat) (c : Call) (rt new : RefreshToken) (resp : TokenResponse)
    (hwf : Wf s) (hget : s.calls[i]? = some c) (hphase : c.phase = .inserted rt new resp)
    (hrows : s.store.visible RefreshToken.id i =
      (Write.update rt.id (revoke c.now)).apply RefreshToken.id s.store.rows ++ [new]) :
    Wf (s.move i c (s.store.commit RefreshToken.id i) (.finished (.ok resp))) := by
  have hminted := (hwf.calls i c hget).minted new (by rw [hphase]; rfl)
  have hlt : i < s.calls.length := (List.getElem?_eq_some_iff.mp hget).1
  refine ⟨hwf.userKey, ?_, ?_, ?_, ?_⟩
  · simp only [State.move, Store.rows_commit, hrows]
    exact forall_commit _ _ _ _ _ (fun _ h => h) hwf.owner hminted.2
  · refine each_set (CallWf s) _ s.calls i _ hwf.calls ?_ ?_
    -- Another call: its row may be revoked by now, but it is there, and its new row is
    -- still new, being apart from the one committed.
    · intro j d hne hd hcall
      refine ⟨?_, ?_, ?_⟩
      · rw [State.move, Store.own_commit_of_ne _ _ _ _ hne, hcall.own]
      · intro held hheld
        simp only [State.move, Store.rows_commit, hrows]
        have hold := hcall.held held hheld
        exact ⟨exists_commit _ _ _ _ _ (fun _ h => h) hold.1, hold.2⟩
      · intro other hother
        simp only [State.move, Store.rows_commit, hrows]
        have hold := hcall.minted other hother
        have hdiff := hwf.apart i j c d new other (Ne.symm hne) hget hd (by rw [hphase]; rfl) hother
        exact ⟨forall_commit _ _ _ _ _ (fun _ h => h) hold.1 hdiff, hold.2⟩
    -- The call itself has nothing left to write and holds nothing any more.
    · refine ⟨?_, ?_, ?_⟩
      · exact Store.own_commit_self _ _ _
      · intro held hheld
        exact absurd hheld (Option.not_mem_none held)
      · intro other hother
        exact absurd hother (Option.not_mem_none other)
  · intro j hj
    simp only [State.move, List.length_set] at hj
    rw [State.move, Store.own_commit_of_ne _ _ _ _ (by omega)]
    exact hwf.idle j hj
  · intro j k d e m other hne hd he hm ho
    rcases getElem?_set_cases s.calls i j _ d hd with ⟨_, hdp⟩ | ⟨_, hdold⟩
    · rw [hdp] at hm
      exact absurd hm (by simp only [Phase.minted, reduceCtorEq, not_false_eq_true])
    · rcases getElem?_set_cases s.calls i k _ e he with ⟨_, hep⟩ | ⟨_, heold⟩
      · rw [hep] at ho
        exact absurd ho (by simp only [Phase.minted, reduceCtorEq, not_false_eq_true])
      · exact hwf.apart j k d e m other hne hdold heold hm ho

theorem wf_request (s : State) (raw : String) (now : Datetime) (hwf : Wf s) :
    Wf { s with calls := s.calls ++ [⟨raw, now, .started⟩] } := by
  refine ⟨hwf.userKey, hwf.owner, ?_, ?_, ?_⟩
  · refine each_concat _ s.calls _ (fun i c hget => ?_) ?_
    · exact ⟨(hwf.calls i c hget).own, (hwf.calls i c hget).held, (hwf.calls i c hget).minted⟩
    · exact ⟨hwf.idle _ (Nat.le_refl _), fun rt hrt => absurd hrt (Option.not_mem_none rt),
        fun new hnew => absurd hnew (Option.not_mem_none new)⟩
  · intro i hi
    simp only [List.length_append, List.length_singleton] at hi
    exact hwf.idle i (by omega)
  · intro j k d e new other hne hd he hm ho
    rcases getElem?_concat_cases s.calls j _ d hd with hdold | ⟨_, hdp⟩
    · rcases getElem?_concat_cases s.calls k _ e he with heold | ⟨_, hep⟩
      · exact hwf.apart j k d e new other hne hdold heold hm ho
      · rw [hep] at ho
        exact absurd ho (by simp only [Phase.minted, reduceCtorEq, not_false_eq_true])
    · rw [hdp] at hm
      exact absurd hm (by simp only [Phase.minted, reduceCtorEq, not_false_eq_true])

/-- After the SELECT a call holds a row the SELECT returned, and no new one. -/
theorem held_afterSelectToken (rows : List RefreshToken) (rt : RefreshToken)
    (h : rt ∈ (afterSelectToken rows).held) : rows = [rt] := by
  match rows, h with
  | [], h => exact absurd h (Option.not_mem_none rt)
  | [r], h =>
      rw [afterSelectToken, Phase.held, Option.mem_some_iff] at h
      rw [h]
  | _ :: _ :: _, h => exact absurd h (Option.not_mem_none rt)

theorem minted_afterSelectToken (rows : List RefreshToken) :
    (afterSelectToken rows).minted = none := by
  match rows with
  | [] => rfl
  | [_] => rfl
  | _ :: _ :: _ => rfl

theorem writes_afterSelectToken (rows : List RefreshToken) (now : Datetime) :
    (afterSelectToken rows).writes now = [] := by
  match rows with
  | [] => rfl
  | [_] => rfl
  | _ :: _ :: _ => rfl

/-- Every statement keeps `Wf`, as long as drawn identifiers are new. -/
theorem progress_wf (env : Env) (s : State) (i : Nat) (c : Call) (stmt : Stmt)
    (store : Store Uuid RefreshToken) (phase : Phase) (hwf : Wf s) (hget : s.calls[i]? = some c)
    (hfresh : Fresh env s (.exec i stmt)) (h : Progress env s i c stmt store phase) :
    Wf (s.move i c store phase) := by
  have hcall := hwf.calls i c hget
  cases h with
  | selectToken hphase =>
      refine wf_move s i c _ _ hwf hget rfl (fun _ _ => rfl) ⟨?_, ?_, ?_⟩ ?_
      · simp only [State.move, hcall.own, hphase, writes_afterSelectToken]
        rfl
      -- The row it holds now is one the SELECT returned.
      · intro rt hrt
        have hmem : rt ∈ s.store.rows.filter (valid (env.sha256hex c.raw) c.now) := by
          rw [held_afterSelectToken _ rt hrt]
          exact List.mem_singleton.mpr rfl
        have hin := List.mem_of_mem_filter hmem
        exact ⟨⟨rt, hin, rfl⟩, hwf.owner rt hin⟩
      · intro new hnew
        simp only [minted_afterSelectToken, Option.mem_def, reduceCtorEq] at hnew
      · intro new hnew
        simp only [minted_afterSelectToken, Option.mem_def, reduceCtorEq] at hnew
  | selectUser rt issue user hphase hmem hid =>
      -- Here the token is drawn; `hfresh` is about exactly this one.
      have hdraw : ∀ new ∈ (Phase.loaded rt (newToken env user issue)
          (issueResponse env user issue)).minted, new = newToken env user issue := by
        intro new hnew
        exact (Option.mem_some_iff.mp hnew).symm
      refine wf_move s i c _ _ hwf hget rfl (fun _ _ => rfl) ⟨?_, ?_, ?_⟩ ?_
      · simp only [State.move, hcall.own, hphase]
        rfl
      · intro held hheld
        exact hcall.held held (by rw [hphase]; exact hheld)
      · intro new hnew
        rw [hdraw new hnew]
        exact ⟨fun r hr => ⟨(hfresh.1 r hr).2, (hfresh.1 r hr).1⟩, user, hmem, rfl⟩
      · intro new hnew
        rw [hdraw new hnew]
        exact Or.inr hfresh.2
  | update rt new resp hphase =>
      exact wf_write s i c _ _ hwf hget (by rw [hphase]; rfl) (by rw [hphase]; rfl)
        (by rw [hphase]; rfl)
  | insert rt new resp hphase =>
      exact wf_write s i c _ _ hwf hget (by rw [hphase]; rfl) (by rw [hphase]; rfl)
        (by rw [hphase]; rfl)
  | commit rt new resp hphase hrows =>
      exact wf_commit s i c rt new resp hwf hget hphase hrows

theorem step_wf (env : Env) (s s' : State) (a : Act) (hwf : Wf s) (hfresh : Fresh env s a)
    (hstep : step env s a = some s') : Wf s' := by
  rcases step_cases env s s' a hstep with ⟨raw, now, _, heq⟩ |
    ⟨i, stmt, c, store, phase, ha, hget, hexec, heq⟩
  · rw [heq]
    exact wf_request s raw now hwf
  · rw [ha] at hfresh
    have hprog := progress_of_execute env s i c stmt store phase hwf hget hexec
    rw [heq]
    exact progress_wf env s i c stmt store phase hwf hget hfresh hprog

theorem run_wf (env : Env) (as : List Act) (s s' : State) (hwf : Wf s)
    (hfresh : Run.Along (step env) (Fresh env) s as) (hrun : Run.run (step env) s as = some s') :
    Wf s' :=
  Run.run_invariant_along (step env) (Fresh env) Wf
    (fun t a t' ht ha ht' => step_wf env t t' a ht ha ht') as s s' hwf hfresh hrun

/-- A call on its own, from the request to the commit, as call `i`. -/
def aloneRun (i : Nat) (raw : String) (now : Datetime) (issue : Issue) : List Act :=
  [.request raw now, .exec i .selectToken, .exec i (.selectUser issue), .exec i .update,
    .exec i .insert, .exec i .commit]

/-- One user with one session, and a service that hashes and signs in the
    simplest way. -/
def demoEnv : Env where
  settings := {}
  sha256hex := fun raw => raw
  encode := fun claims => claims.sub.getD ""
  decode := fun _ _ => none
  checkpw := fun code hashed => some (code = hashed)
  verifyOauth2Token := fun _ => .error "Token expired"

def demoDb : TokenDb where
  users := [⟨1, "google-1", "ana@vena.test"⟩]
  tokens := [⟨7, 1, "old", 5000, none⟩]
  userKey := by decide
  tokenKey := by decide
  owner := by decide

end Refresh

end Backend

end Vena
