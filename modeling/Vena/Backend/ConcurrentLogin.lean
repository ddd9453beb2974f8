import Vena.Backend.Access

/-!
# Concurrent Logins

`login_with_google`, statement by statement, for any number of people who log
in at once, from one device or from several. A call looks for the user of the
Google account, inserts one or brings the email up to date, inserts the row of
a refresh token and commits. Under READ COMMITTED two first logins of one
account may both find no user; the unique constraint on `google_sub` lets one
of them through, and the other one waits for its COMMIT and then raises, which
nothing handles.

`logins_sound` says that nothing worse can happen. An account never has two
users, a session that was opened belongs to the user of the account, and a call
for an account only fails if the account had no user at the start and another
call has opened a session for it. A call whose token names no account or no
email fails before it gets to the tables.

## Main definitions

* `Phase`, `Call`, `Tables`, `State`: The calls and what they work on.
* `Stmt`, `Act`, `execute`, `step`: The statements.
* `Fresh`: Drawn identifiers are new.
* `CallWf`, `Wf`: What holds in every run.
* `Progress`: What the statements do in a run.

## Theorems

* `progress_of_execute`: A statement that executes makes progress.
* `wf_move`, `wf_commit`: What a statement and a COMMIT keep.
* `step_wf`, `run_wf`: Every run keeps `Wf`.
* `logins_sound`: What concurrent logins do.
* `login_alone`: A login on its own is the one of `Access`.
-/

namespace Vena

namespace Backend

namespace ConcurrentLogin

open Python ReadCommitted Processes Refresh

/-- What a call has written to `users`. -/
inductive UserWrite where
  | none
  | insert
  | update
  deriving DecidableEq, Repr

/-- How far a call has come: before the SELECT, with no user found, with the user
    found, with the user in the session and written, after the INSERT of the
    token, or returned. -/
inductive Phase where
  | started
  | missing
  | found (user : User)
  | ready (user : User) (w : UserWrite)
  | issued (user : User) (w : UserWrite) (rt : RefreshToken) (resp : TokenResponse)
  | finished (reply : Reply TokenResponse)
  deriving DecidableEq, Repr

/-- A call, with the identity Google has confirmed. -/
structure Call where
  info : Option GoogleUserInfo
  phase : Phase
  deriving DecidableEq, Repr

structure Tables where
  users : Store Uuid User
  tokens : Store Uuid RefreshToken

namespace Tables

def rollback (t : Tables) (i : Nat) : Tables :=
  ⟨t.users.rollback i, t.tokens.rollback i⟩

def commit (t : Tables) (i : Nat) : Tables :=
  ⟨t.users.commit User.id i, t.tokens.commit RefreshToken.id i⟩

end Tables

structure State where
  tables : Tables
  calls : List Call

/-- The statements of a call. -/
inductive Stmt where
  | selectUser
  | insertUser (drawn : Uuid)
  | syncEmail
  | insertToken (issue : Issue)
  | commit
  deriving DecidableEq, Repr

/-- A new request, or the next statement of call `i`. -/
inductive Act where
  | request (idToken : String)
  | exec (i : Nat) (stmt : Stmt)
  deriving DecidableEq, Repr

def start (db : Database) : State where
  tables := ⟨⟨db.users, []⟩, ⟨db.tokens, []⟩⟩
  calls := []

/-- `scalar_one_or_none` on the SELECT. -/
def afterSelectUser : List User → Phase
  | [] => .missing
  | [user] => .found user
  | _ :: _ :: _ => .finished .crash

/-- Another transaction has written a row under the id or the Google account. -/
def waits (users : Store Uuid User) (i : Nat) (drawn : Uuid) (sub : String) : Bool :=
  users.pending.any (fun w => w.1 ≠ i && match w.2 with
    | .insert u => u.id = drawn || u.googleSub = sub
    | .update k _ => k = drawn || users.rows.any (fun u => u.id = k && u.googleSub = sub))

/-- The INSERT of `session.flush()`; `none` while it waits. -/
def insertUser (t : Tables) (i : Nat) (info : GoogleUserInfo) (drawn : Uuid) :
    Option (Tables × Phase) :=
  if waits t.users i drawn info.sub then none
  else if (t.users.visible User.id i).any (fun u => u.id = drawn || u.googleSub = info.sub) then
    some (t.rollback i, .finished .crash)
  else some ({ t with users := t.users.write i (.insert ⟨drawn, info.sub, info.email⟩) },
    .ready ⟨drawn, info.sub, info.email⟩ .insert)

/-- The UPDATE of the email, which is sent if it has changed. -/
def syncEmail (t : Tables) (i : Nat) (info : GoogleUserInfo) (user : User) :
    Option (Tables × Phase) :=
  if user.email = info.email then some (t, .ready user .none)
  else if t.users.blocked User.id i user.id then none
  else if (t.users.visible User.id i).any (fun u => u.id = user.id) then
    some ({ t with users := t.users.write i (.update user.id (Database.withEmail info.email)) },
      .ready (Database.withEmail info.email user) .update)
  else some (t.rollback i, .finished .crash)

/-- The INSERT of the refresh token. -/
def insertToken (env : Env) (t : Tables) (i : Nat) (user : User) (w : UserWrite) (issue : Issue) :
    Option (Tables × Phase) :=
  let rt := newToken env user issue
  if t.tokens.blocked RefreshToken.id i rt.id then none
  else if (t.tokens.visible RefreshToken.id i).any (fun r => r.id = rt.id) ||
      !(t.users.visible User.id i).any (fun u => u.id = rt.userId) then
    some (t.rollback i, .finished .crash)
  else some ({ t with tokens := t.tokens.write i (.insert rt) },
    .issued user w rt (issueResponse env user issue))

/-- One statement of call `i`, or `none` while it waits for a lock and when it is
    not the call's next statement. -/
def execute (env : Env) (t : Tables) (i : Nat) (info : GoogleUserInfo) (phase : Phase) :
    Stmt → Option (Tables × Phase)
  | .selectUser => match phase with
    | .started => some (t, afterSelectUser
        (t.users.select User.id i (fun u => u.googleSub = info.sub)))
    | _ => none
  | .insertUser drawn => match phase with
    | .missing => insertUser t i info drawn
    | _ => none
  | .syncEmail => match phase with
    | .found user => syncEmail t i info user
    | _ => none
  | .insertToken issue => match phase with
    | .ready user w => insertToken env t i user w issue
    | _ => none
  | .commit => match phase with
    | .issued _ _ _ resp => some (t.commit i, .finished (.ok resp))
    | _ => none

/-- A request that Google does not confirm is answered at once, and so is one whose
    token has no subject or no email. -/
def arrive (env : Env) (idToken : String) : Call :=
  match verifyGoogleToken env idToken with
  | .error (.valueError detail) => ⟨none, .finished (.error 401 detail)⟩
  | .error .keyError => ⟨none, .finished .crash⟩
  | .ok info => ⟨some info, .started⟩

/-- The state after a statement of call `i`. -/
def State.move (s : State) (i : Nat) (c : Call) (tables : Tables) (phase : Phase) : State :=
  ⟨tables, s.calls.set i { c with phase := phase }⟩

def step (env : Env) (s : State) : Act → Option State
  | .request idToken => some { s with calls := s.calls ++ [arrive env idToken] }
  | .exec i stmt => do
    let c ← s.calls[i]?
    let info ← c.info
    let (tables, phase) ← execute env s.tables i info c.phase stmt
    return s.move i c tables phase

/-- The identifier a statement draws is one no committed row has. -/
def Fresh (s : State) : Act → Prop
  | .exec _ (.insertUser drawn) => ∀ u ∈ s.tables.users.rows, u.id ≠ drawn
  | .exec _ (.insertToken issue) => ∀ r ∈ s.tables.tokens.rows, r.id ≠ issue.rowId
  | _ => True

instance (s : State) : ∀ a, Decidable (Fresh s a)
  | .exec _ (.insertUser _) => by unfold Fresh; infer_instance
  | .exec _ (.insertToken _) => by unfold Fresh; infer_instance
  | .exec _ .selectUser => isTrue trivial
  | .exec _ .syncEmail => isTrue trivial
  | .exec _ .commit => isTrue trivial
  | .request _ => isTrue trivial

/-- The id and the Google account of a user, which no statement changes. -/
def ids (u : User) : Uuid × String := (u.id, u.googleSub)

/-- The committed users. -/
def accounts (t : Tables) : List (Uuid × String) := t.users.rows.map ids

/-- The uncommitted writes of a call to `users`. -/
def UserWrite.writes (user : User) : UserWrite → List (Write Uuid User)
  | .none => []
  | .insert => [.insert user]
  | .update => [.update user.id (Database.withEmail user.email)]

/-- The account they add. -/
def UserWrite.adds (user : User) : UserWrite → List (Uuid × String)
  | .insert => [ids user]
  | .none | .update => []

def Phase.userWrites : Phase → List (Write Uuid User)
  | .ready user w | .issued user w _ _ => w.writes user
  | .started | .missing | .found _ | .finished _ => []

def Phase.tokenWrites : Phase → List (Write Uuid RefreshToken)
  | .issued _ _ rt _ => [.insert rt]
  | .started | .missing | .found _ | .ready _ _ | .finished _ => []

/-- The user a call has inserted and not yet committed. -/
def Phase.inserting : Phase → Option User
  | .ready user .insert | .issued user .insert _ _ => some user
  | _ => none

/-- The call has opened a session. -/
def Call.succeeded (c : Call) : Bool := match c.phase with
  | .finished (.ok _) => true
  | _ => false

/-- Where the user of a call is: in the table, or about to come to it. -/
def Written (keys : List (Uuid × String)) (user : User) : UserWrite → Prop
  | .insert => ∀ k ∈ keys, k.1 ≠ user.id ∧ k.2 ≠ user.googleSub
  | .none | .update => ids user ∈ keys

/-- The session that was handed out is one of the account's user. -/
structure Owned (env : Env) (t : Tables) (sub : String) (resp : TokenResponse) : Prop where
  user : (resp.user.id, sub) ∈ accounts t
  token : ∃ rt ∈ t.tokens.rows,
    rt.tokenHash = env.sha256hex resp.refreshToken ∧ rt.userId = resp.user.id

/-- The row of the token and the response are about the user. -/
structure IssuedFor (env : Env) (user : User) (rt : RefreshToken) (resp : TokenResponse) :
    Prop where
  owner : rt.userId = user.id
  hash : rt.tokenHash = env.sha256hex resp.refreshToken
  user : resp.user.id = user.id

/-- What a call has found out, for the account it logs in to. -/
def Fits (env : Env) (db : Database) (t : Tables) (info : GoogleUserInfo) : Phase → Prop
  | .started => True
  | .missing => info.sub ∉ db.users.map User.googleSub
  | .found user => user.googleSub = info.sub ∧ ids user ∈ accounts t
  | .ready user w => user.googleSub = info.sub ∧ Written (accounts t) user w
  | .issued user w rt resp =>
    user.googleSub = info.sub ∧ Written (accounts t) user w ∧ IssuedFor env user rt resp
  | .finished (.ok resp) => Owned env t info.sub resp
  | .finished (.error _ _) => True
  | .finished .crash =>
    info.sub ∉ db.users.map User.googleSub ∧ info.sub ∈ (accounts t).map Prod.snd

structure CallWf (env : Env) (db : Database) (t : Tables) (i : Nat) (c : Call) : Prop where
  users : t.users.own i = c.phase.userWrites
  tokens : t.tokens.own i = c.phase.tokenWrites
  fits : ∀ info ∈ c.info, Fits env db t info c.phase
  rejected : c.info = none →
    (∃ detail, c.phase = .finished (.error 401 detail)) ∨ c.phase = .finished .crash

/-- What holds in every run that starts with `db`. -/
structure Wf (env : Env) (db : Database) (s : State) : Prop where
  idKey : ((accounts s.tables).map Prod.fst).Nodup
  subKey : ((accounts s.tables).map Prod.snd).Nodup
  kept : ∀ u ∈ db.users, ids u ∈ accounts s.tables
  calls : Each (CallWf env db s.tables) s.calls
  idle : ∀ i, s.calls.length ≤ i → s.tables.users.own i = [] ∧ s.tables.tokens.own i = []
  apart : ∀ (i j : Nat) (c d : Call) (u v : User), i ≠ j → s.calls[i]? = some c →
    s.calls[j]? = some d → c.phase.inserting = some u → d.phase.inserting = some v →
    u.id ≠ v.id ∧ u.googleSub ≠ v.googleSub
  /-- Every account that is new has a session that a call has opened. -/
  opened : ∀ k ∈ accounts s.tables, k.2 ∈ db.users.map User.googleSub ∨
    ∃ c ∈ s.calls, c.info.map GoogleUserInfo.sub = some k.2 ∧ c.succeeded = true

/-- What the statements of a well-formed call do. -/
inductive Progress (env : Env) (t : Tables) (i : Nat) (info : GoogleUserInfo) (phase : Phase) :
    Stmt → Tables → Phase → Prop
  | selectNone (hphase : phase = .started) (hno : info.sub ∉ (accounts t).map Prod.snd) :
      Progress env t i info phase .selectUser t .missing
  | selectOne (user : User) (hphase : phase = .started) (hin : ids user ∈ accounts t)
      (hsub : user.googleSub = info.sub) :
      Progress env t i info phase .selectUser t (.found user)
  | insert (drawn : Uuid) (hphase : phase = .missing)
      (hnew : ∀ k ∈ accounts t, k.1 ≠ drawn ∧ k.2 ≠ info.sub)
      (hothers : ∀ j, j ≠ i → ∀ v, .insert v ∈ t.users.own j →
        v.id ≠ drawn ∧ v.googleSub ≠ info.sub) :
      Progress env t i info phase (.insertUser drawn)
        { t with users := t.users.write i (.insert ⟨drawn, info.sub, info.email⟩) }
        (.ready ⟨drawn, info.sub, info.email⟩ .insert)
  | refused (drawn : Uuid) (hphase : phase = .missing)
      (hsub : info.sub ∈ (accounts t).map Prod.snd) :
      Progress env t i info phase (.insertUser drawn) (t.rollback i) (.finished .crash)
  | unchanged (user : User) (hphase : phase = .found user) :
      Progress env t i info phase .syncEmail t (.ready user .none)
  | synced (user : User) (hphase : phase = .found user) :
      Progress env t i info phase .syncEmail
        { t with users := t.users.write i (.update user.id (Database.withEmail info.email)) }
        (.ready (Database.withEmail info.email user) .update)
  | token (user : User) (w : UserWrite) (issue : Issue) (hphase : phase = .ready user w) :
      Progress env t i info phase (.insertToken issue)
        { t with tokens := t.tokens.write i (.insert (newToken env user issue)) }
        (.issued user w (newToken env user issue) (issueResponse env user issue))
  | commit (user : User) (w : UserWrite) (rt : RefreshToken) (resp : TokenResponse)
      (hphase : phase = .issued user w rt resp) :
      Progress env t i info phase .commit (t.commit i) (.finished (.ok resp))

/-- What a call sees of `users` with its own writes. -/
theorem accounts_visible (t : Tables) (i : Nat) (user : User) (w : UserWrite)
    (hown : t.users.own i = w.writes user) :
    (t.users.visible User.id i).map ids = accounts t ++ w.adds user := by
  rw [Store.visible, hown]
  cases w with
  | none => rw [UserWrite.writes, UserWrite.adds, List.append_nil]; rfl
  | insert =>
      rw [UserWrite.writes, UserWrite.adds, List.foldl_cons, List.foldl_nil, Write.apply,
        List.map_append]
      rfl
  | update =>
      rw [UserWrite.writes, UserWrite.adds, List.foldl_cons, List.foldl_nil, List.append_nil]
      exact Keyed.map_key_update ids t.users.rows _ _ (fun _ _ => rfl)

/-- A user who is in the table or about to come to it is seen by the call. -/
theorem mem_visible (t : Tables) (i : Nat) (user : User) (w : UserWrite)
    (hown : t.users.own i = w.writes user) (hwritten : Written (accounts t) user w) :
    ids user ∈ (t.users.visible User.id i).map ids := by
  rw [accounts_visible t i user w hown]
  cases w with
  | none => exact List.mem_append_left _ hwritten
  | insert => exact List.mem_append_right _ (List.mem_singleton_self _)
  | update => exact List.mem_append_left _ hwritten

theorem progress_select (env : Env) (db : Database) (t : Tables) (i : Nat) (c : Call)
    (info : GoogleUserInfo) (h : CallWf env db t i c) (hphase : c.phase = .started)
    (hkey : ((accounts t).map Prod.snd).Nodup) :
    Progress env t i info c.phase .selectUser t
      (afterSelectUser (t.users.select User.id i (fun u => u.googleSub = info.sub))) := by
  have hown : t.users.own i = [] := by rw [h.users, hphase]; rfl
  rw [Store.select, Store.visible_of_own_nil _ _ _ hown]
  by_cases hin : info.sub ∈ (accounts t).map Prod.snd
  · rw [accounts, List.map_map] at hin hkey
    rcases List.mem_map.mp hin with ⟨user, huser, hsub⟩
    -- The unique constraint leaves one row for the account.
    have hfound : t.users.rows.filter (fun u => u.googleSub = info.sub) = [user] := by
      have hone := Keyed.filter_key (Prod.snd ∘ ids) t.users.rows user hkey huser
      rw [hsub] at hone
      exact hone
    rw [hfound]
    exact .selectOne user hphase (List.mem_map_of_mem huser) hsub
  · have hnone : t.users.rows.filter (fun u => u.googleSub = info.sub) = [] := by
      rw [List.filter_eq_nil_iff]
      intro u hu hsub
      rw [decide_eq_true_eq] at hsub
      exact hin (List.mem_map.mpr ⟨ids u, List.mem_map_of_mem hu, hsub⟩)
    rw [hnone]
    exact .selectNone hphase hin

theorem progress_insertUser (env : Env) (db : Database) (t : Tables) (i : Nat) (c : Call)
    (info : GoogleUserInfo) (drawn : Uuid) (next : Tables × Phase) (h : CallWf env db t i c)
    (hphase : c.phase = .missing) (hfresh : ∀ u ∈ t.users.rows, u.id ≠ drawn)
    (hexec : insertUser t i info drawn = some next) :
    Progress env t i info c.phase (.insertUser drawn) next.1 next.2 := by
  have hown : t.users.own i = [] := by rw [h.users, hphase]; rfl
  unfold insertUser at hexec
  rw [Store.visible_of_own_nil _ _ _ hown] at hexec
  split at hexec
  · simp only [reduceCtorEq] at hexec
  · next hwaits =>
      split at hexec
      · next hany =>
          rcases List.any_eq_true.mp hany with ⟨u, hu, htaken⟩
          rw [Bool.or_eq_true, decide_eq_true_eq, decide_eq_true_eq] at htaken
          rw [Option.some.injEq] at hexec
          rw [← hexec]
          -- The id is new, so it is the account that is taken.
          exact .refused drawn hphase (List.mem_map.mpr ⟨ids u, List.mem_map_of_mem hu,
            htaken.resolve_left (hfresh u hu)⟩)
      · next hfree =>
          rw [Bool.not_eq_true, List.any_eq_false] at hfree
          rw [Option.some.injEq] at hexec
          rw [← hexec]
          refine .insert drawn hphase (fun k hk => ?_) (fun j hne v hv => ?_)
          · rcases List.mem_map.mp hk with ⟨u, hu, rfl⟩
            have hno := hfree u hu
            rw [Bool.or_eq_true, decide_eq_true_eq, decide_eq_true_eq, not_or] at hno
            exact hno
          -- An INSERT of another transaction would have been waited for.
          · rcases List.mem_map.mp hv with ⟨p, hp, hpv⟩
            rw [List.mem_filter, decide_eq_true_eq] at hp
            rw [Bool.not_eq_true, waits, List.any_eq_false] at hwaits
            have hno := hwaits p hp.1
            rw [hpv, hp.2] at hno
            simp only [ne_eq, hne, not_false_eq_true, decide_true, Bool.true_and, Bool.or_eq_true,
              decide_eq_true_eq, not_or] at hno
            exact hno

theorem progress_syncEmail (env : Env) (db : Database) (t : Tables) (i : Nat) (c : Call)
    (info : GoogleUserInfo) (user : User) (next : Tables × Phase) (h : CallWf env db t i c)
    (hinfo : c.info = some info) (hphase : c.phase = .found user)
    (hexec : syncEmail t i info user = some next) :
    Progress env t i info c.phase .syncEmail next.1 next.2 := by
  have hown : t.users.own i = [] := by rw [h.users, hphase]; rfl
  have hfits := h.fits info (Option.mem_def.mpr hinfo)
  rw [hphase] at hfits
  rcases List.mem_map.mp hfits.2 with ⟨u, hu, heq⟩
  have hany : t.users.rows.any (fun u => u.id = user.id) = true :=
    List.any_eq_true.mpr ⟨u, hu, decide_eq_true (congrArg Prod.fst heq)⟩
  unfold syncEmail at hexec
  rw [Store.visible_of_own_nil _ _ _ hown] at hexec
  split at hexec
  · rw [Option.some.injEq] at hexec
    rw [← hexec]
    exact .unchanged user hphase
  · split at hexec
    · simp only [reduceCtorEq] at hexec
    · rw [Option.some.injEq] at hexec
      rw [← hexec]
      exact .synced user hphase

theorem progress_insertToken (env : Env) (db : Database) (t : Tables) (i : Nat) (c : Call)
    (info : GoogleUserInfo) (user : User) (w : UserWrite) (issue : Issue) (next : Tables × Phase)
    (h : CallWf env db t i c) (hinfo : c.info = some info) (hphase : c.phase = .ready user w)
    (hfresh : ∀ r ∈ t.tokens.rows, r.id ≠ issue.rowId)
    (hexec : insertToken env t i user w issue = some next) :
    Progress env t i info c.phase (.insertToken issue) next.1 next.2 := by
  have htokens : t.tokens.own i = [] := by rw [h.tokens, hphase]; rfl
  have husers : t.users.own i = w.writes user := by rw [h.users, hphase]; rfl
  have hfits := h.fits info (Option.mem_def.mpr hinfo)
  rw [hphase] at hfits
  have hfree : t.tokens.rows.any (fun r => r.id = (newToken env user issue).id) = false := by
    rw [List.any_eq_false]
    exact fun r hr hid => hfresh r hr (of_decide_eq_true hid)
  have howner : (t.users.visible User.id i).any
      (fun u => u.id = (newToken env user issue).userId) = true := by
    rcases List.mem_map.mp (mem_visible t i user w husers hfits.2) with ⟨u, hu, heq⟩
    exact List.any_eq_true.mpr ⟨u, hu, decide_eq_true (congrArg Prod.fst heq)⟩
  unfold insertToken at hexec
  dsimp only at hexec
  rw [Store.visible_of_own_nil _ _ _ htokens] at hexec
  split at hexec
  · simp only [reduceCtorEq] at hexec
  · rw [hfree, howner, Bool.not_true, Bool.or_self, if_neg Bool.false_ne_true,
      Option.some.injEq] at hexec
    rw [← hexec]
    exact .token user w issue hphase

/-- No statement fails but an INSERT for an account that is taken by now. -/
theorem progress_of_execute (env : Env) (db : Database) (s : State) (i : Nat) (c : Call)
    (info : GoogleUserInfo) (stmt : Stmt) (next : Tables × Phase) (h : Wf env db s)
    (hget : s.calls[i]? = some c) (hinfo : c.info = some info) (hfresh : Fresh s (.exec i stmt))
    (hexec : execute env s.tables i info c.phase stmt = some next) :
    Progress env s.tables i info c.phase stmt next.1 next.2 := by
  have hcall := h.calls i c hget
  cases stmt with
  | selectUser =>
      cases hphase : c.phase with
      | started =>
          rw [hphase, execute, Option.some.injEq] at hexec
          rw [← hexec, ← hphase]
          exact progress_select env db s.tables i c info hcall hphase h.subKey
      | _ => simp only [hphase, execute, reduceCtorEq] at hexec
  | insertUser drawn =>
      cases hphase : c.phase with
      | missing =>
          rw [hphase, execute] at hexec
          rw [← hphase]
          exact progress_insertUser env db s.tables i c info drawn next hcall hphase hfresh hexec
      | _ => simp only [hphase, execute, reduceCtorEq] at hexec
  | syncEmail =>
      cases hphase : c.phase with
      | found user =>
          rw [hphase, execute] at hexec
          rw [← hphase]
          exact progress_syncEmail env db s.tables i c info user next hcall hinfo hphase hexec
      | _ => simp only [hphase, execute, reduceCtorEq] at hexec
  | insertToken issue =>
      cases hphase : c.phase with
      | ready user w =>
          rw [hphase, execute] at hexec
          rw [← hphase]
          exact progress_insertToken env db s.tables i c info user w issue next hcall hinfo hphase
            hfresh hexec
      | _ => simp only [hphase, execute, reduceCtorEq] at hexec
  | commit =>
      cases hphase : c.phase with
      | issued user w rt resp =>
          rw [hphase, execute, Option.some.injEq] at hexec
          rw [← hexec]
          exact .commit user w rt resp rfl
      | _ => simp only [hphase, execute, reduceCtorEq] at hexec

theorem insert_mem_own (env : Env) (db : Database) (t : Tables) (j : Nat) (d : Call) (v : User)
    (h : CallWf env db t j d) (hv : d.phase.inserting = some v) :
    .insert v ∈ t.users.own j := by
  rw [h.users]
  cases hphase : d.phase with
  | ready user w =>
      rw [hphase] at hv
      cases w with
      | insert =>
          rw [Phase.inserting, Option.some.injEq] at hv
          rw [hv]
          exact List.mem_singleton_self _
      | _ => simp only [Phase.inserting, reduceCtorEq] at hv
  | issued user w rt resp =>
      rw [hphase] at hv
      cases w with
      | insert =>
          rw [Phase.inserting, Option.some.injEq] at hv
          rw [hv]
          exact List.mem_singleton_self _
      | _ => simp only [Phase.inserting, reduceCtorEq] at hv
  | _ => simp only [hphase, Phase.inserting, reduceCtorEq] at hv

/-- What a call has found out stays true in tables that have grown, if the rows
    that are new leave room for its INSERT. -/
theorem fits_grow (env : Env) (db : Database) (t t' : Tables) (info : GoogleUserInfo)
    (phase : Phase) (hkeys : ∀ k ∈ accounts t, k ∈ accounts t')
    (htokens : ∀ rt ∈ t.tokens.rows, rt ∈ t'.tokens.rows)
    (hroom : ∀ v, phase.inserting = some v → Written (accounts t) v .insert →
      Written (accounts t') v .insert)
    (h : Fits env db t info phase) : Fits env db t' info phase := by
  have hwritten : ∀ user w, (w = .insert → phase.inserting = some user) →
      Written (accounts t) user w → Written (accounts t') user w := by
    intro user w hw hold
    cases w with
    | none => exact hkeys _ hold
    | insert => exact hroom user (hw rfl) hold
    | update => exact hkeys _ hold
  cases phase with
  | started => trivial
  | missing => exact h
  | found user => exact ⟨h.1, hkeys _ h.2⟩
  | ready user w => exact ⟨h.1, hwritten user w (fun hw => by rw [hw]; rfl) h.2⟩
  | issued user w rt resp =>
      exact ⟨h.1, hwritten user w (fun hw => by rw [hw]; rfl) h.2.1, h.2.2⟩
  | finished reply =>
      cases reply with
      | ok resp =>
          rcases h with ⟨huser, rt, hrt, hfor⟩
          exact ⟨hkeys _ huser, rt, htokens rt hrt, hfor⟩
      | error status detail => trivial
      | crash =>
          rcases List.mem_map.mp h.2 with ⟨k, hk, heq⟩
          exact ⟨h.1, List.mem_map.mpr ⟨k, hkeys k hk, heq⟩⟩

/-- What a statement that commits nothing keeps. -/
theorem wf_move (env : Env) (db : Database) (s : State) (i : Nat) (c : Call) (t : Tables)
    (phase : Phase) (h : Wf env db s) (hget : s.calls[i]? = some c)
    (hrows : t.users.rows = s.tables.users.rows) (htokens : t.tokens.rows = s.tables.tokens.rows)
    (hothers : ∀ j, j ≠ i → t.users.own j = s.tables.users.own j ∧
      t.tokens.own j = s.tables.tokens.own j)
    (hback : c.succeeded = false) (hcall : CallWf env db t i { c with phase := phase })
    (hinserting : ∀ u, phase.inserting = some u → c.phase.inserting = some u ∨
      ∀ j, j ≠ i → ∀ v, .insert v ∈ s.tables.users.own j →
        v.id ≠ u.id ∧ v.googleSub ≠ u.googleSub) :
    Wf env db (s.move i c t phase) := by
  have hkeys : accounts t = accounts s.tables := by rw [accounts, accounts, hrows]
  have hlt : i < s.calls.length := (List.getElem?_eq_some_iff.mp hget).1
  have hpair : ∀ (j : Nat) (d : Call) (u v : User), j ≠ i → s.calls[j]? = some d →
      phase.inserting = some u → d.phase.inserting = some v →
      u.id ≠ v.id ∧ u.googleSub ≠ v.googleSub := by
    intro j d u v hne hd hu hv
    rcases hinserting u hu with hold | hnew
    · exact h.apart i j c d u v (Ne.symm hne) hget hd hold hv
    · have hdiff := hnew j hne v (insert_mem_own env db s.tables j d v (h.calls j d hd) hv)
      exact ⟨Ne.symm hdiff.1, Ne.symm hdiff.2⟩
  refine ⟨?_, ?_, ?_, ?_, ?_, ?_, ?_⟩
  · rw [State.move, hkeys]
    exact h.idKey
  · rw [State.move, hkeys]
    exact h.subKey
  · rw [State.move, hkeys]
    exact h.kept
  · refine each_set (CallWf env db s.tables) _ s.calls i _ h.calls ?_ hcall
    intro j d hne _ hd
    refine ⟨(hothers j hne).1.trans hd.users, (hothers j hne).2.trans hd.tokens, ?_, hd.rejected⟩
    intro info hinfo
    exact fits_grow env db s.tables t info d.phase (fun k hk => hkeys ▸ hk)
      (fun rt hrt => htokens ▸ hrt) (fun v _ hv => hkeys ▸ hv) (hd.fits info hinfo)
  · intro j hj
    rw [State.move, List.length_set] at hj
    have hne : j ≠ i := by omega
    rw [State.move, (hothers j hne).1, (hothers j hne).2]
    exact h.idle j hj
  · intro j k d e u v hne hd he hu hv
    rcases getElem?_set_cases s.calls i j _ d hd with ⟨hji, hdp⟩ | ⟨hji, hdold⟩
    · rcases getElem?_set_cases s.calls i k _ e he with ⟨hki, _⟩ | ⟨hki, heold⟩
      · exact absurd (hji.trans hki.symm) hne
      · rw [hdp] at hu
        exact hpair k e u v hki heold hu hv
    · rcases getElem?_set_cases s.calls i k _ e he with ⟨hki, hep⟩ | ⟨hki, heold⟩
      · rw [hep] at hv
        have hdiff := hpair j d v u hji hdold hv hu
        exact ⟨Ne.symm hdiff.1, Ne.symm hdiff.2⟩
      · exact h.apart j k d e u v hne hdold heold hu hv
  · intro k hk
    rw [State.move, hkeys] at hk
    refine (h.opened k hk).imp_right (fun ⟨d, hd, hsub, hok⟩ => ?_)
    -- A call that has opened a session is not the one that moves.
    refine ⟨d, (mem_set_of_mem s.calls i c _ d hget hd).resolve_right (fun heq => ?_), hsub, hok⟩
    rw [heq, hback] at hok
    exact absurd hok Bool.false_ne_true

theorem accounts_commit (t : Tables) (i : Nat) (user : User) (w : UserWrite)
    (hown : t.users.own i = w.writes user) :
    accounts (t.commit i) = accounts t ++ w.adds user :=
  accounts_visible t i user w hown

theorem nodup_adds {β : Type} (f : Uuid × String → β) (keys : List (Uuid × String)) (user : User)
    (w : UserWrite) (h : (keys.map f).Nodup)
    (hnew : w = .insert → ∀ k ∈ keys, f k ≠ f (ids user)) :
    ((keys ++ w.adds user).map f).Nodup := by
  cases w with
  | none => rwa [UserWrite.adds, List.append_nil]
  | insert => exact Keyed.nodup_concat f keys (ids user) h (hnew rfl)
  | update => rwa [UserWrite.adds, List.append_nil]

/-- A COMMIT makes the user and the token of the call public, at once. -/
theorem wf_commit (env : Env) (db : Database) (s : State) (i : Nat) (c : Call)
    (info : GoogleUserInfo) (user : User) (w : UserWrite) (rt : RefreshToken)
    (resp : TokenResponse) (h : Wf env db s) (hget : s.calls[i]? = some c)
    (hinfo : c.info = some info) (hphase : c.phase = .issued user w rt resp) :
    Wf env db (s.move i c (s.tables.commit i) (.finished (.ok resp))) := by
  have hcall := h.calls i c hget
  have hlt : i < s.calls.length := (List.getElem?_eq_some_iff.mp hget).1
  have hfits := hcall.fits info (Option.mem_def.mpr hinfo)
  rw [hphase] at hfits
  rcases hfits with ⟨hsub, hwritten, hfor⟩
  have hkeys : accounts (s.tables.commit i) = accounts s.tables ++ w.adds user :=
    accounts_commit s.tables i user w (by rw [hcall.users, hphase]; rfl)
  have hrows : (s.tables.commit i).tokens.rows = s.tables.tokens.rows ++ [rt] := by
    have hown : s.tables.tokens.own i = [.insert rt] := by rw [hcall.tokens, hphase]; rfl
    rw [Tables.commit, Store.rows_commit, Store.visible, hown]
    rfl
  -- The account is there after the COMMIT, whichever way it came to be.
  have hin : ids user ∈ accounts (s.tables.commit i) := by
    rw [hkeys]
    cases w with
    | none => exact List.mem_append_left _ hwritten
    | insert => exact List.mem_append_right _ (List.mem_singleton_self _)
    | update => exact List.mem_append_left _ hwritten
  refine ⟨?_, ?_, ?_, ?_, ?_, ?_, ?_⟩
  · rw [State.move, hkeys]
    exact nodup_adds Prod.fst _ user w h.idKey (fun hw k hk => by
      rw [hw] at hwritten
      exact (hwritten k hk).1)
  · rw [State.move, hkeys]
    exact nodup_adds Prod.snd _ user w h.subKey (fun hw k hk => by
      rw [hw] at hwritten
      exact (hwritten k hk).2)
  · rw [State.move, hkeys]
    exact fun u hu => List.mem_append_left _ (h.kept u hu)
  · refine each_set (CallWf env db s.tables) _ s.calls i _ h.calls ?_ ?_
    · intro j d hne hd hwf
      refine ⟨?_, ?_, fun info' hinfo' => ?_, hwf.rejected⟩
      · rw [State.move, Tables.commit, Store.own_commit_of_ne _ _ _ _ hne]
        exact hwf.users
      · rw [State.move, Tables.commit, Store.own_commit_of_ne _ _ _ _ hne]
        exact hwf.tokens
      · refine fits_grow env db s.tables _ info' d.phase (fun k hk => ?_) (fun r hr => ?_)
          (fun v hv hroom k hk => ?_) (hwf.fits info' hinfo')
        · rw [State.move, hkeys]
          exact List.mem_append_left _ hk
        · rw [State.move, hrows]
          exact List.mem_append_left _ hr
        · rw [State.move, hkeys] at hk
          rcases List.mem_append.mp hk with hold | hnew
          · exact hroom k hold
          -- Two calls that insert do not insert the same account.
          · cases w with
            | none => exact absurd hnew List.not_mem_nil
            | update => exact absurd hnew List.not_mem_nil
            | insert =>
                rw [List.mem_singleton.mp hnew]
                exact h.apart i j c d user v (Ne.symm hne) hget hd (by rw [hphase]; rfl) hv
    · refine ⟨Store.own_commit_self _ _ _, Store.own_commit_self _ _ _, fun info' hinfo' => ?_, ?_⟩
      · rw [hinfo, Option.mem_some_iff] at hinfo'
        rw [← hinfo']
        refine ⟨?_, rt, ?_, hfor.hash, hfor.owner.trans hfor.user.symm⟩
        · rw [hfor.user, ← hsub]
          exact hin
        · rw [State.move, hrows]
          exact List.mem_append_right _ (List.mem_singleton_self _)
      · exact fun hnone => absurd (hinfo.symm.trans hnone) (by simp only [reduceCtorEq,
          not_false_eq_true])
  · intro j hj
    rw [State.move, List.length_set] at hj
    have hne : j ≠ i := by omega
    rw [State.move, Tables.commit, Store.own_commit_of_ne _ _ _ _ hne,
      Store.own_commit_of_ne _ _ _ _ hne]
    exact h.idle j hj
  · intro j k d e u v hne hd he hu hv
    rcases getElem?_set_cases s.calls i j _ d hd with ⟨_, hdp⟩ | ⟨_, hdold⟩
    · rw [hdp] at hu
      exact absurd hu (by simp only [Phase.inserting, reduceCtorEq, not_false_eq_true])
    · rcases getElem?_set_cases s.calls i k _ e he with ⟨_, hep⟩ | ⟨_, heold⟩
      · rw [hep] at hv
        exact absurd hv (by simp only [Phase.inserting, reduceCtorEq, not_false_eq_true])
      · exact h.apart j k d e u v hne hdold heold hu hv
  · intro k hk
    rw [State.move, hkeys] at hk
    rcases List.mem_append.mp hk with hold | hnew
    · refine (h.opened k hold).imp_right (fun hopened => ?_)
      rcases hopened with ⟨d, hd, hdsub, hok⟩
      refine ⟨d, (mem_set_of_mem s.calls i c _ d hget hd).resolve_right (fun heq => ?_), hdsub, hok⟩
      rw [heq, Call.succeeded, hphase] at hok
      exact absurd hok Bool.false_ne_true
    · cases w with
      | none => exact absurd hnew List.not_mem_nil
      | update => exact absurd hnew List.not_mem_nil
      | insert =>
          refine Or.inr ⟨_, mem_set_of_some s.calls i c _ hget, ?_, rfl⟩
          rw [List.mem_singleton.mp hnew, hinfo, Option.map_some, ids, hsub]

theorem wf_rollback_own (t : Tables) (i : Nat) (husers : t.users.own i = [])
    (htokens : t.tokens.own i = []) :
    (∀ j, (t.rollback i).users.own j = t.users.own j) ∧
      ∀ j, (t.rollback i).tokens.own j = t.tokens.own j := by
  constructor
  · intro j
    by_cases hne : j = i
    · rw [hne, Tables.rollback, Store.own_rollback_self, husers]
    · exact Store.own_rollback_of_ne t.users i j hne
  · intro j
    by_cases hne : j = i
    · rw [hne, Tables.rollback, Store.own_rollback_self, htokens]
    · exact Store.own_rollback_of_ne t.tokens i j hne

/-- A statement of a confirmed call, by what it writes and finds out. -/
theorem wf_next (env : Env) (db : Database) (s : State) (i : Nat) (c : Call)
    (info : GoogleUserInfo) (t : Tables) (phase : Phase) (h : Wf env db s)
    (hget : s.calls[i]? = some c) (hinfo : c.info = some info) (hback : c.succeeded = false)
    (hrows : t.users.rows = s.tables.users.rows) (htokens : t.tokens.rows = s.tables.tokens.rows)
    (hothers : ∀ j, j ≠ i → t.users.own j = s.tables.users.own j ∧
      t.tokens.own j = s.tables.tokens.own j)
    (hown : t.users.own i = phase.userWrites ∧ t.tokens.own i = phase.tokenWrites)
    (hfits : Fits env db t info phase)
    (hinserting : ∀ u, phase.inserting = some u → c.phase.inserting = some u ∨
      ∀ j, j ≠ i → ∀ v, .insert v ∈ s.tables.users.own j →
        v.id ≠ u.id ∧ v.googleSub ≠ u.googleSub) :
    Wf env db (s.move i c t phase) := by
  refine wf_move env db s i c t phase h hget hrows htokens hothers hback
    ⟨hown.1, hown.2, fun info' hinfo' => ?_, fun hnone => ?_⟩ hinserting
  · rw [hinfo, Option.mem_some_iff] at hinfo'
    rwa [← hinfo']
  · exact absurd (hinfo.symm.trans hnone) (by simp only [reduceCtorEq, not_false_eq_true])

/-- A call that goes on without a write. -/
theorem wf_stay (env : Env) (db : Database) (s : State) (i : Nat) (c : Call)
    (info : GoogleUserInfo) (phase : Phase) (h : Wf env db s) (hget : s.calls[i]? = some c)
    (hinfo : c.info = some info) (hback : c.succeeded = false)
    (husers : c.phase.userWrites = [] ∧ phase.userWrites = [])
    (htokens : c.phase.tokenWrites = [] ∧ phase.tokenWrites = [])
    (hinserting : phase.inserting = none) (hfits : Fits env db s.tables info phase) :
    Wf env db (s.move i c s.tables phase) := by
  have hcall := h.calls i c hget
  refine wf_next env db s i c info s.tables phase h hget hinfo hback rfl rfl
    (fun _ _ => ⟨rfl, rfl⟩) ⟨?_, ?_⟩ hfits (fun u hu => ?_)
  · rw [hcall.users, husers.1, husers.2]
  · rw [hcall.tokens, htokens.1, htokens.2]
  · rw [hinserting] at hu
    exact absurd hu (by simp only [reduceCtorEq, not_false_eq_true])

/-- Every statement keeps `Wf`. -/
theorem progress_wf (env : Env) (db : Database) (s : State) (i : Nat) (c : Call)
    (info : GoogleUserInfo) (stmt : Stmt) (t : Tables) (phase : Phase) (h : Wf env db s)
    (hget : s.calls[i]? = some c) (hinfo : c.info = some info)
    (hprog : Progress env s.tables i info c.phase stmt t phase) :
    Wf env db (s.move i c t phase) := by
  have hcall := h.calls i c hget
  have husers := hcall.users
  have htokens := hcall.tokens
  have hfits := hcall.fits info (Option.mem_def.mpr hinfo)
  cases hprog with
  | selectNone hphase hno =>
      refine wf_stay env db s i c info .missing h hget hinfo ?_ ?_ ?_ rfl (fun hin => ?_)
      · rw [Call.succeeded, hphase]
      · exact ⟨by rw [hphase]; rfl, rfl⟩
      · exact ⟨by rw [hphase]; rfl, rfl⟩
      -- The users of the start are never deleted.
      · rcases List.mem_map.mp hin with ⟨u, hu, heq⟩
        exact hno (List.mem_map.mpr ⟨ids u, h.kept u hu, heq⟩)
  | selectOne user hphase hin hsub =>
      refine wf_stay env db s i c info (.found user) h hget hinfo ?_ ?_ ?_ rfl ⟨hsub, hin⟩
      · rw [Call.succeeded, hphase]
      · exact ⟨by rw [hphase]; rfl, rfl⟩
      · exact ⟨by rw [hphase]; rfl, rfl⟩
  | insert drawn hphase hnew hothers =>
      rw [hphase] at husers htokens
      refine wf_next env db s i c info _ _ h hget hinfo ?_ rfl rfl (fun j hne => ⟨?_, rfl⟩)
        ⟨?_, htokens⟩ ⟨rfl, hnew⟩ (fun u hu => Or.inr ?_)
      · rw [Call.succeeded, hphase]
      · exact Store.own_write_of_ne _ _ _ _ hne
      · rw [Store.own_write_self, husers]
        rfl
      · rw [Phase.inserting, Option.some.injEq] at hu
        rw [← hu]
        exact hothers
  | refused drawn hphase hsub =>
      rw [hphase] at husers htokens hfits
      have hown := wf_rollback_own s.tables i husers htokens
      refine wf_next env db s i c info _ _ h hget hinfo ?_ rfl rfl
        (fun j _ => ⟨hown.1 j, hown.2 j⟩) ⟨(hown.1 i).trans husers, (hown.2 i).trans htokens⟩
        ⟨hfits, hsub⟩ (fun u hu => ?_)
      · rw [Call.succeeded, hphase]
      · simp only [Phase.inserting, reduceCtorEq] at hu
  | unchanged user hphase =>
      rw [hphase] at hfits
      refine wf_stay env db s i c info (.ready user .none) h hget hinfo ?_ ?_ ?_ rfl hfits
      · rw [Call.succeeded, hphase]
      · exact ⟨by rw [hphase]; rfl, rfl⟩
      · exact ⟨by rw [hphase]; rfl, rfl⟩
  | synced user hphase =>
      rw [hphase] at husers htokens hfits
      refine wf_next env db s i c info _ _ h hget hinfo ?_ rfl rfl (fun j hne => ⟨?_, rfl⟩)
        ⟨?_, htokens⟩ hfits (fun u hu => ?_)
      · rw [Call.succeeded, hphase]
      · exact Store.own_write_of_ne _ _ _ _ hne
      · rw [Store.own_write_self, husers]
        rfl
      · simp only [Phase.inserting, reduceCtorEq] at hu
  | token user w issue hphase =>
      rw [hphase] at husers htokens hfits
      refine wf_next env db s i c info _ _ h hget hinfo ?_ rfl rfl (fun j hne => ⟨rfl, ?_⟩)
        ⟨husers, ?_⟩ ⟨hfits.1, hfits.2, rfl, rfl, rfl⟩ (fun u hu => Or.inl ?_)
      · rw [Call.succeeded, hphase]
      · exact Store.own_write_of_ne _ _ _ _ hne
      · rw [Store.own_write_self, htokens]
        rfl
      · rw [hphase, ← hu]
        cases w with
        | none => rfl
        | insert => rfl
        | update => rfl
  | commit user w rt resp hphase =>
      exact wf_commit env db s i c info user w rt resp h hget hinfo hphase

theorem wf_arrive (env : Env) (db : Database) (s : State) (idToken : String) (h : Wf env db s) :
    Wf env db { s with calls := s.calls ++ [arrive env idToken] } := by
  have hidle := h.idle s.calls.length (Nat.le_refl _)
  have hnew : (arrive env idToken).phase.inserting = none ∧
      CallWf env db s.tables s.calls.length (arrive env idToken) := by
    unfold arrive
    split
    · next detail _ =>
        exact ⟨rfl, hidle.1, hidle.2, fun _ hinfo => absurd hinfo (Option.not_mem_none _),
          fun _ => Or.inl ⟨detail, rfl⟩⟩
    · exact ⟨rfl, hidle.1, hidle.2, fun _ hinfo => absurd hinfo (Option.not_mem_none _),
        fun _ => Or.inr rfl⟩
    · exact ⟨rfl, hidle.1, hidle.2, fun _ _ => trivial,
        fun hnone => absurd hnone (by simp only [reduceCtorEq, not_false_eq_true])⟩
  refine ⟨h.idKey, h.subKey, h.kept, each_concat _ s.calls _ h.calls hnew.2, fun i hi => ?_, ?_,
    fun k hk => ?_⟩
  · rw [List.length_append, List.length_singleton] at hi
    exact h.idle i (by omega)
  · intro j k d e u v hne hd he hu hv
    rcases getElem?_concat_cases s.calls j _ d hd with hdold | ⟨_, hdp⟩
    · rcases getElem?_concat_cases s.calls k _ e he with heold | ⟨_, hep⟩
      · exact h.apart j k d e u v hne hdold heold hu hv
      · rw [hep, hnew.1] at hv
        exact absurd hv (by simp only [reduceCtorEq, not_false_eq_true])
    · rw [hdp, hnew.1] at hu
      exact absurd hu (by simp only [reduceCtorEq, not_false_eq_true])
  · exact (h.opened k hk).imp_right (fun ⟨d, hd, hsub, hok⟩ =>
      ⟨d, List.mem_append_left _ hd, hsub, hok⟩)

theorem step_wf (env : Env) (db : Database) (s s' : State) (a : Act) (h : Wf env db s)
    (hfresh : Fresh s a) (hstep : step env s a = some s') : Wf env db s' := by
  cases a with
  | request idToken =>
      rw [step, Option.some.injEq] at hstep
      rw [← hstep]
      exact wf_arrive env db s idToken h
  | exec i stmt =>
      simp only [step, Option.bind_eq_bind, Option.bind_eq_some_iff, Option.pure_def,
        Option.some.injEq] at hstep
      rcases hstep with ⟨c, hget, info, hinfo, next, hexec, rfl⟩
      exact progress_wf env db s i c info stmt next.1 next.2 h hget hinfo
        (progress_of_execute env db s i c info stmt next h hget hinfo hfresh hexec)

theorem start_wf (env : Env) (db : Database) : Wf env db (start db) where
  idKey := by
    rw [accounts, List.map_map]
    exact db.userKey
  subKey := by
    rw [accounts, List.map_map]
    exact db.googleKey
  kept := fun _ hu => List.mem_map_of_mem hu
  calls := fun i c hget => absurd hget (by simp only [start, List.getElem?_nil, reduceCtorEq,
    not_false_eq_true])
  idle := fun _ _ => ⟨rfl, rfl⟩
  apart := fun i _ c _ _ _ _ hget => absurd hget (by simp only [start, List.getElem?_nil,
    reduceCtorEq, not_false_eq_true])
  opened := fun k hk => by
    rcases List.mem_map.mp hk with ⟨u, hu, rfl⟩
    exact Or.inl (List.mem_map_of_mem hu)

theorem run_wf (env : Env) (db : Database) (as : List Act) (s : State)
    (hfresh : Run.Along (step env) Fresh (start db) as)
    (hrun : Run.run (step env) (start db) as = some s) : Wf env db s :=
  Run.run_invariant_along (step env) Fresh (Wf env db)
    (fun t a t' ht ha ht' => step_wf env db t t' a ht ha ht') as _ s (start_wf env db) hfresh hrun

/-- The account of a call, if Google has confirmed one with an email. -/
def Call.sub (c : Call) : Option String := c.info.map GoogleUserInfo.sub

/-- What concurrent logins leave behind: no account has two users, whoever got a
    session got one of the account's user, and a call for an account that failed was
    a first login that another call of the account has overtaken with success. -/
structure Sound (env : Env) (db : Database) (s : State) : Prop where
  one : ((accounts s.tables).map Prod.snd).Nodup
  owned : ∀ c ∈ s.calls, ∀ resp, c.phase = .finished (.ok resp) →
    ∃ sub, c.sub = some sub ∧ Owned env s.tables sub resp
  overtaken : ∀ c ∈ s.calls, ∀ sub, c.sub = some sub → c.phase = .finished .crash →
    sub ∉ db.users.map User.googleSub ∧
      ∃ d ∈ s.calls, d.sub = some sub ∧ d.succeeded = true

/-- A statement of the only call. -/
theorem step_alone (env : Env) (t : Tables) (info : GoogleUserInfo) (phase : Phase) (stmt : Stmt) :
    step env ⟨t, [⟨some info, phase⟩]⟩ (.exec 0 stmt) =
      (execute env t 0 info phase stmt).map (fun next => ⟨next.1, [⟨some info, next.2⟩]⟩) := by
  simp only [step, List.getElem?_cons_zero, Option.bind_eq_bind, Option.bind_some, Option.pure_def,
    State.move, List.set_cons_zero]
  cases execute env t 0 info phase stmt with
  | none => rfl
  | some next => rfl

/-- The last two statements of a call on its own. -/
theorem token_alone (env : Env) (users : List User) (tokens : List RefreshToken)
    (info : GoogleUserInfo) (user : User) (w : UserWrite) (issue : Issue)
    (hwritten : Written (users.map ids) user w) (hissue : ∀ r ∈ tokens, r.id ≠ issue.rowId) :
    Run.run (step env) ⟨⟨⟨users, (w.writes user).map (fun v => (0, v))⟩, ⟨tokens, []⟩⟩,
        [⟨some info, .ready user w⟩]⟩ [.exec 0 (.insertToken issue), .exec 0 .commit] =
      some ⟨⟨⟨(w.writes user).foldl (Write.apply User.id) users, []⟩,
        ⟨tokens ++ [newToken env user issue], []⟩⟩,
        [⟨some info, .finished (.ok (issueResponse env user issue))⟩]⟩ := by
  have hown : ∀ rows : List User, (Store.mk rows ((w.writes user).map (fun v => (0, v)))).own 0 =
      w.writes user := by
    intro rows
    rw [Store.own]
    cases w with
    | none => rfl
    | insert => rfl
    | update => rfl
  have hfree : tokens.any (fun r => r.id = issue.rowId) = false := by
    rw [List.any_eq_false]
    exact fun r hr hid => hissue r hr (of_decide_eq_true hid)
  have howner : (Store.visible User.id
      (Store.mk users ((w.writes user).map (fun v => (0, v)))) 0).any
      (fun u => u.id = user.id) = true := by
    rcases List.mem_map.mp (mem_visible ⟨⟨users, (w.writes user).map (fun v => (0, v))⟩,
      ⟨tokens, []⟩⟩ 0 user w (hown users) hwritten) with ⟨u, hu, heq⟩
    exact List.any_eq_true.mpr ⟨u, hu, decide_eq_true (congrArg Prod.fst heq)⟩
  have hinsert : insertToken env ⟨⟨users, (w.writes user).map (fun v => (0, v))⟩, ⟨tokens, []⟩⟩ 0
      user w issue = some (⟨⟨users, (w.writes user).map (fun v => (0, v))⟩,
        ⟨tokens, [(0, .insert (newToken env user issue))]⟩⟩,
        .issued user w (newToken env user issue) (issueResponse env user issue)) := by
    unfold insertToken
    dsimp only
    rw [if_neg (by simp only [Store.blocked, List.any_nil, Bool.false_eq_true, not_false_eq_true]),
      if_neg]
    · rfl
    · have hrows : Store.visible RefreshToken.id (Store.mk tokens []) 0 = tokens := rfl
      have htaken : tokens.any (fun r => r.id = (newToken env user issue).id) = false := hfree
      have hthere : (Store.visible User.id
          (Store.mk users ((w.writes user).map (fun v => (0, v)))) 0).any
            (fun u => u.id = (newToken env user issue).userId) = true := howner
      rw [hrows, htaken, hthere]
      exact Bool.false_ne_true
  have hpending : ((w.writes user).map (fun v => (0, v))).filter (fun v => v.1 ≠ 0) = [] := by
    rw [List.filter_eq_nil_iff]
    intro v hv
    rcases List.mem_map.mp hv with ⟨_, _, rfl⟩
    simp only [ne_eq, not_true_eq_false, decide_false, Bool.false_eq_true, not_false_eq_true]
  simp only [Run.run, step_alone, execute, hinsert, Option.map_some]
  rw [Tables.commit, Store.commit, Store.commit, Store.visible, hown, Store.rollback, hpending]
  rfl

/-- The email of a user who is there, sent if it has changed. -/
theorem sync_alone (env : Env) (db : Database) (info : GoogleUserInfo) (user : User)
    (huser : user ∈ db.users) :
    ∃ w : UserWrite, w ≠ .insert ∧
      execute env ⟨⟨db.users, []⟩, ⟨db.tokens, []⟩⟩ 0 info (.found user) .syncEmail =
        some (⟨⟨db.users, (w.writes (Database.withEmail info.email user)).map (fun v => (0, v))⟩,
          ⟨db.tokens, []⟩⟩, .ready (Database.withEmail info.email user) w) ∧
      (w.writes (Database.withEmail info.email user)).foldl (Write.apply User.id) db.users =
        (db.setEmail user.id info.email).users := by
  by_cases hemail : user.email = info.email
  · have hsame : Database.withEmail info.email user = user := by rw [Database.withEmail, ← hemail]
    refine ⟨.none, UserWrite.noConfusion, ?_, ?_⟩
    · rw [execute, syncEmail, if_pos hemail, hsame]
      rfl
    -- The UPDATE would change nothing.
    · refine ((List.map_congr_left (fun u hu => ?_)).trans (List.map_id db.users)).symm
      by_cases hid : u.id = user.id
      · rw [if_pos (decide_eq_true hid), Keyed.eq_of_key User.id db.users u user db.userKey hu
          huser hid, hsame]
        rfl
      · rw [if_neg (by rwa [decide_eq_true_eq])]
        rfl
  · have hany : db.users.any (fun u => u.id = user.id) = true :=
      List.any_eq_true.mpr ⟨user, huser, decide_eq_true rfl⟩
    have hrows : Store.visible User.id (Store.mk db.users []) 0 = db.users := rfl
    refine ⟨.update, UserWrite.noConfusion, ?_, ?_⟩
    · rw [execute, syncEmail, if_neg hemail, hrows, hany]
      rfl
    · simp only [UserWrite.writes, List.foldl_cons, List.foldl_nil, Write.apply, Database.setEmail,
        decide_eq_true_eq]
      rfl

/-- A login on its own does what `loginWithGoogle` does. -/
theorem login_alone (env : Env) (db : Database) (idToken : String) (info : GoogleUserInfo)
    (drawn : Uuid) (issue : Issue) (hinfo : verifyGoogleToken env idToken = .ok info)
    (hdrawn : ∀ u ∈ db.users, u.id ≠ drawn) (hissue : ∀ r ∈ db.tokens, r.id ≠ issue.rowId) :
    ∃ as, Run.run (step env) (start db) as =
      some ⟨⟨⟨(loginWithGoogle env db idToken drawn issue).1.users, []⟩,
        ⟨(loginWithGoogle env db idToken drawn issue).1.tokens, []⟩⟩,
        [⟨some info, .finished (loginWithGoogle env db idToken drawn issue).2⟩]⟩ := by
  have harrive : step env (start db) (.request idToken) =
      some ⟨⟨⟨db.users, []⟩, ⟨db.tokens, []⟩⟩, [⟨some info, .started⟩]⟩ := by
    rw [step, arrive, hinfo]
    rfl
  have hselect : execute env ⟨⟨db.users, []⟩, ⟨db.tokens, []⟩⟩ 0 info .started .selectUser =
      some (⟨⟨db.users, []⟩, ⟨db.tokens, []⟩⟩,
        afterSelectUser (db.users.filter (fun u => u.googleSub = info.sub))) := rfl
  by_cases hin : info.sub ∈ db.users.map User.googleSub
  · rcases List.mem_map.mp hin with ⟨user, huser, hsub⟩
    have hfound : db.users.filter (fun u => u.googleSub = info.sub) = [user] := by
      rw [← hsub]
      exact Keyed.filter_key User.googleSub db.users user db.googleKey huser
    refine ⟨[.request idToken, .exec 0 .selectUser, .exec 0 .syncEmail] ++
      [.exec 0 (.insertToken issue), .exec 0 .commit], ?_⟩
    rcases sync_alone env db info user huser with ⟨w, hw, hsync, hrows⟩
    have hlogin : loginWithGoogle env db idToken drawn issue =
        ((db.setEmail user.id info.email).addToken
          (newToken env (Database.withEmail info.email user) issue) hissue
          (Keyed.exists_update _ db.users _ (Database.withEmail info.email) (fun _ h => h)
            ⟨user, huser, rfl⟩),
          .ok (issueResponse env (Database.withEmail info.email user) issue)) := by
      have hup : upsertUser db info drawn = some (db.setEmail user.id info.email,
          Database.withEmail info.email user) := by
        rw [upsertUser, hfound]
        rfl
      simp only [loginWithGoogle, hinfo, hup]
      exact dif_pos ⟨hissue, Keyed.exists_update _ db.users _ (Database.withEmail info.email)
        (fun _ h => h) ⟨user, huser, rfl⟩⟩
    have htoken := token_alone env db.users db.tokens info (Database.withEmail info.email user) w
      issue (by cases w with
        | none => exact List.mem_map.mpr ⟨user, huser, rfl⟩
        | insert => exact absurd rfl hw
        | update => exact List.mem_map.mpr ⟨user, huser, rfl⟩) hissue
    rw [hrows] at htoken
    rw [hlogin]
    refine (Run.run_append _ _ _ _ _).mpr ⟨_, ?_, htoken⟩
    simp only [Run.run, harrive, step_alone, hselect, hfound, afterSelectUser, Option.map_some,
      hsync]
  · have hnone : db.users.filter (fun u => u.googleSub = info.sub) = [] := by
      rw [List.filter_eq_nil_iff]
      exact fun u hu hid => hin (List.mem_map.mpr ⟨u, hu, of_decide_eq_true hid⟩)
    have hroom : (∀ u ∈ db.users, u.id ≠ drawn) ∧ ∀ u ∈ db.users, u.googleSub ≠ info.sub :=
      ⟨hdrawn, fun u hu hsub => hin (List.mem_map.mpr ⟨u, hu, hsub⟩)⟩
    refine ⟨[.request idToken, .exec 0 .selectUser, .exec 0 (.insertUser drawn)] ++
      [.exec 0 (.insertToken issue), .exec 0 .commit], ?_⟩
    have hinsert : execute env ⟨⟨db.users, []⟩, ⟨db.tokens, []⟩⟩ 0 info .missing
        (.insertUser drawn) = some (⟨⟨db.users, [(0, .insert ⟨drawn, info.sub, info.email⟩)]⟩,
          ⟨db.tokens, []⟩⟩, .ready ⟨drawn, info.sub, info.email⟩ .insert) := by
      have hany : db.users.any (fun u => u.id = drawn || u.googleSub = info.sub) = false := by
        rw [List.any_eq_false]
        intro u hu htaken
        rw [Bool.or_eq_true, decide_eq_true_eq, decide_eq_true_eq] at htaken
        exact htaken.elim (hroom.1 u hu) (hroom.2 u hu)
      have hrows : Store.visible User.id (Store.mk db.users []) 0 = db.users := rfl
      rw [execute, insertUser, waits, hrows, hany]
      rfl
    have hlogin : loginWithGoogle env db idToken drawn issue =
        ((db.addUser ⟨drawn, info.sub, info.email⟩ hroom.1 hroom.2).addToken
          (newToken env ⟨drawn, info.sub, info.email⟩ issue) hissue
          ⟨_, List.mem_append_right _ (List.mem_singleton_self _), rfl⟩,
          .ok (issueResponse env ⟨drawn, info.sub, info.email⟩ issue)) := by
      have hup : upsertUser db info drawn = some (db.addUser ⟨drawn, info.sub, info.email⟩ hroom.1
          hroom.2, ⟨drawn, info.sub, info.email⟩) := by
        rw [upsertUser, hnone]
        exact dif_pos hroom
      simp only [loginWithGoogle, hinfo, hup]
      exact dif_pos ⟨hissue, _, List.mem_append_right _ (List.mem_singleton_self _), rfl⟩
    rw [hlogin]
    refine (Run.run_append _ _ _ _ _).mpr ⟨_, ?_, token_alone env db.users db.tokens info
      ⟨drawn, info.sub, info.email⟩ .insert issue ?_ hissue⟩
    · simp only [Run.run, harrive, step_alone, hselect, hnone, afterSelectUser, Option.map_some,
        hinsert]
      rfl
    · intro k hk
      rcases List.mem_map.mp hk with ⟨u, hu, rfl⟩
      exact ⟨hroom.1 u hu, hroom.2 u hu⟩

/-- A service that confirms one account. -/
def oneAccount : Env :=
  { demoEnv with verifyOauth2Token := fun _ => .ok ⟨some "google-2", some "bia@vena.test"⟩ }

def noUsers : Database :=
  { Access.demoDb with
    users := []
    userKey := List.nodup_nil
    googleKey := List.nodup_nil
    userFk := fun _ h => absurd h List.not_mem_nil
    tokenFk := fun _ h => absurd h List.not_mem_nil }

/-- Two first logins of an account: both find no user. -/
def firstLogins : List Act :=
  [.request "phone", .request "tablet", .exec 0 .selectUser, .exec 1 .selectUser,
    .exec 0 (.insertUser 1), .exec 0 (.insertToken ⟨0, 0, 5, 7⟩), .exec 0 .commit,
    .exec 1 (.insertUser 2)]

end ConcurrentLogin

end Backend

end Vena
