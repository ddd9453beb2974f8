import Vena.Backend.RefreshToken

/-!
# Refreshing One Request at a Time

`refresh_access_token` as a function on the two tables, which is what a client
sees of a backend that serves one refresh at a time. The tables carry their
constraints with them, so the function has to say why a rotation keeps them.

`run_alone` connects it to the statements: a call none of whose statements are
interleaved with those of another computes exactly this function.

## Main definitions

* `TokenDb.rotate`: One row revoked and one added.
* `refreshAccessToken`: The whole call.
* `Current`, `Spent`: The token has an unrevoked, or a revoked, row.

## Theorems

* `refreshAccessToken_current`: A current token is exchanged for another one.
* `refreshAccessToken_spent`: A spent token is refused.
* `spent_of_ok`, `spent_refreshAccessToken`: An exchange spends the token, and
  it stays spent.
* `run_alone`: A call on its own computes `refreshAccessToken`.
-/

namespace Vena

namespace Backend

open Python ReadCommitted Processes

namespace Refresh

/-- Revoke row `k` and add a row with a new primary key. -/
def TokenDb.rotate (db : TokenDb) (k : Uuid) (now : Datetime) (new : RefreshToken)
    (hkey : ∀ r ∈ db.tokens, r.id ≠ new.id) (howner : ∃ user ∈ db.users, user.id = new.userId) :
    TokenDb where
  users := db.users
  tokens := (Write.update k (revoke now)).apply RefreshToken.id db.tokens ++ [new]
  userKey := db.userKey
  tokenKey := by
    rw [List.map_append, map_key_update RefreshToken.id db.tokens k (revoke now) (fun _ => rfl),
      List.nodup_append]
    refine ⟨db.tokenKey, List.nodup_singleton _, ?_⟩
    intro a ha b hb
    rw [List.map_singleton, List.mem_singleton] at hb
    rcases List.mem_map.mp ha with ⟨r, hr, heq⟩
    rw [← heq, hb]
    exact hkey r hr
  owner := forall_commit _ db.tokens k now new (fun _ h => h) db.owner howner

theorem owner_of_filter (users : List User) (user : User) (k : Uuid)
    (h : users.filter (fun u => u.id = k) = [user]) : ∃ u ∈ users, u.id = user.id :=
  ⟨user, List.mem_of_mem_filter (h ▸ List.mem_singleton.mpr rfl), rfl⟩

/-- `refresh_access_token` without interleaving. -/
def refreshAccessToken (env : Env) (db : TokenDb) (raw : String) (now : Datetime) (issue : Issue) :
    TokenDb × Reply TokenResponse :=
  match db.tokens.filter (valid (env.sha256hex raw) now) with
  | [] => (db, invalidRefresh)
  | [rt] => match huser : db.users.filter (fun u => u.id = rt.userId) with
    | [user] =>
      if hkey : ∀ r ∈ db.tokens, r.id ≠ issue.rowId then
        (db.rotate rt.id now (newToken env user issue) hkey
          (owner_of_filter db.users user rt.userId huser), .ok (issueResponse env user issue))
      else (db, .crash)
    | _ => (db, .crash)
  | _ => (db, .crash)

/-- The one user a row belongs to. -/
theorem TokenDb.filter_user (db : TokenDb) (rt : RefreshToken) (h : rt ∈ db.tokens) :
    ∃ user ∈ db.users, db.users.filter (fun u => u.id = rt.userId) = [user] := by
  rcases db.owner rt h with ⟨user, hmem, hid⟩
  refine ⟨user, hmem, ?_⟩
  rw [← hid]
  exact Keyed.filter_key User.id db.users user db.userKey hmem

/-- A token with one valid row is exchanged for a new one. -/
theorem refreshAccessToken_ok (env : Env) (db : TokenDb) (raw : String) (now : Datetime)
    (issue : Issue) (rt : RefreshToken)
    (hfound : db.tokens.filter (valid (env.sha256hex raw) now) = [rt])
    (hkey : ∀ r ∈ db.tokens, r.id ≠ issue.rowId) (user : User)
    (huser : db.users.filter (fun u => u.id = rt.userId) = [user]) :
    (refreshAccessToken env db raw now issue).2 = .ok (issueResponse env user issue) ∧
      (refreshAccessToken env db raw now issue).1.users = db.users ∧
      (refreshAccessToken env db raw now issue).1.tokens =
        (Write.update rt.id (revoke now)).apply RefreshToken.id db.tokens ++
          [newToken env user issue] := by
  unfold refreshAccessToken
  rw [hfound]
  simp only []
  split
  · next u hu =>
      rw [huser, List.cons.injEq] at hu
      rw [dif_pos hkey, hu.1]
      exact ⟨rfl, rfl, rfl⟩
  · next hno => exact absurd huser (hno user)

/-- A token without a valid row is refused, and nothing changes. -/
theorem refreshAccessToken_invalid (env : Env) (db : TokenDb) (raw : String) (now : Datetime)
    (issue : Issue) (hfound : db.tokens.filter (valid (env.sha256hex raw) now) = []) :
    refreshAccessToken env db raw now issue = (db, invalidRefresh) := by
  unfold refreshAccessToken
  rw [hfound]

/-- The token has an unrevoked row. -/
def Current (env : Env) (db : TokenDb) (raw : String) : Prop :=
  ∃ r ∈ db.tokens, r.tokenHash = env.sha256hex raw ∧ r.revokedAt = none

/-- The token has a revoked row. -/
def Spent (env : Env) (db : TokenDb) (raw : String) : Prop :=
  ∃ r ∈ db.tokens, r.tokenHash = env.sha256hex raw ∧ r.revokedAt ≠ none

/-- The call changes nothing and returns no pair, or it found one row and
    rotated it. -/
theorem refreshAccessToken_cases (env : Env) (db : TokenDb) (raw : String) (now : Datetime)
    (issue : Issue) :
    ((refreshAccessToken env db raw now issue).1 = db ∧
      ∀ resp, (refreshAccessToken env db raw now issue).2 ≠ .ok resp) ∨
    ∃ rt user, db.tokens.filter (valid (env.sha256hex raw) now) = [rt] ∧
      (refreshAccessToken env db raw now issue).1.tokens =
        (Write.update rt.id (revoke now)).apply RefreshToken.id db.tokens ++
          [newToken env user issue] ∧
      (refreshAccessToken env db raw now issue).2 = .ok (issueResponse env user issue) := by
  rcases hfound : db.tokens.filter (valid (env.sha256hex raw) now) with _ | ⟨rt, _ | ⟨r, rs⟩⟩
  · rw [refreshAccessToken_invalid env db raw now issue hfound]
    exact Or.inl ⟨rfl, fun _ => by simp only [invalidRefresh, ne_eq, reduceCtorEq,
      not_false_eq_true]⟩
  · have hrt : rt ∈ db.tokens := List.mem_of_mem_filter (hfound ▸ List.mem_singleton.mpr rfl)
    rcases db.filter_user rt hrt with ⟨user, _, huser⟩
    -- Only a primary key that is taken stands between the row and the answer.
    by_cases hkey : ∀ r ∈ db.tokens, r.id ≠ issue.rowId
    · rcases refreshAccessToken_ok env db raw now issue rt hfound hkey user huser with
        ⟨hreply, _, htokens⟩
      exact Or.inr ⟨rt, user, rfl, htokens, hreply⟩
    · refine Or.inl ?_
      unfold refreshAccessToken
      rw [hfound]
      simp only []
      split
      · rw [dif_neg hkey]
        exact ⟨rfl, fun _ => by simp only [ne_eq, reduceCtorEq, not_false_eq_true]⟩
      · exact ⟨rfl, fun _ => by simp only [ne_eq, reduceCtorEq, not_false_eq_true]⟩
  · refine Or.inl ?_
    unfold refreshAccessToken
    rw [hfound]
    exact ⟨rfl, fun _ => by simp only [ne_eq, reduceCtorEq, not_false_eq_true]⟩

theorem users_refreshAccessToken (env : Env) (db : TokenDb) (raw : String) (now : Datetime)
    (issue : Issue) : (refreshAccessToken env db raw now issue).1.users = db.users := by
  unfold refreshAccessToken
  split
  · rfl
  · split
    · split
      · rfl
      · rfl
    · rfl
  · rfl

/-- A revoked row stays revoked. -/
theorem spent_refreshAccessToken (env : Env) (db : TokenDb) (raw old : String) (now : Datetime)
    (issue : Issue) (h : Spent env db old) :
    Spent env (refreshAccessToken env db raw now issue).1 old := by
  rcases refreshAccessToken_cases env db raw now issue with ⟨hdb, _⟩ | ⟨rt, user, _, htokens, _⟩
  · rw [hdb]
    exact h
  · rw [Spent, htokens]
    refine exists_commit _ db.tokens rt.id now _ (fun r hr => ⟨hr.1, ?_⟩) h
    simp only [revoke, ne_eq, reduceCtorEq, not_false_eq_true]

/-- A token that was exchanged is spent. -/
theorem spent_of_ok (env : Env) (db : TokenDb) (raw : String) (now : Datetime) (issue : Issue)
    (resp : TokenResponse) (hok : (refreshAccessToken env db raw now issue).2 = .ok resp) :
    Spent env (refreshAccessToken env db raw now issue).1 raw := by
  rcases refreshAccessToken_cases env db raw now issue with ⟨_, hno⟩ | ⟨rt, user, hrt, htokens, _⟩
  · exact absurd hok (hno resp)
  · have hin : rt ∈ db.tokens.filter (valid (env.sha256hex raw) now) := by
      rw [hrt]
      exact List.mem_singleton.mpr rfl
    have hvalid := (List.mem_filter.mp hin).2
    simp only [valid, Bool.and_eq_true, decide_eq_true_eq] at hvalid
    rw [Spent, htokens]
    refine ⟨revoke now rt, List.mem_append_left _ (List.mem_map.mpr
      ⟨rt, (List.mem_filter.mp hin).1, if_pos rfl⟩), hvalid.1.1, ?_⟩
    simp only [revoke, ne_eq, reduceCtorEq, not_false_eq_true]

/-- A spent token is refused, because its hash has no other row. -/
theorem refreshAccessToken_spent (env : Env) (db : TokenDb) (raw : String) (now : Datetime)
    (issue : Issue) (hhash : (db.tokens.map RefreshToken.tokenHash).Nodup)
    (h : Spent env db raw) : refreshAccessToken env db raw now issue = (db, invalidRefresh) := by
  refine refreshAccessToken_invalid env db raw now issue (List.filter_eq_nil_iff.mpr ?_)
  intro r hr hvalid
  rcases h with ⟨q, hq, hqhash, hqrev⟩
  simp only [valid, Bool.and_eq_true, decide_eq_true_eq] at hvalid
  have hrq := Keyed.eq_of_key RefreshToken.tokenHash db.tokens r q hhash hr hq
    (hvalid.1.1.trans hqhash.symm)
  rw [← hrq] at hqrev
  exact hqrev (Option.isNone_iff_eq_none.mp hvalid.1.2)

/-- A current token is exchanged, if its own row has not expired and the drawn
    token and primary key are new. -/
theorem refreshAccessToken_current (env : Env) (db : TokenDb) (raw : String) (now : Datetime)
    (issue : Issue) (hhash : (db.tokens.map RefreshToken.tokenHash).Nodup)
    (hlive : ∀ r ∈ db.tokens, r.tokenHash = env.sha256hex raw → r.expiresAt > now)
    (hrow : ∀ r ∈ db.tokens, r.id ≠ issue.rowId) (h : Current env db raw) :
    ∃ resp, (refreshAccessToken env db raw now issue).2 = .ok resp ∧
      Current env (refreshAccessToken env db raw now issue).1 resp.refreshToken := by
  rcases h with ⟨rt, hrt, hhashrt, hrev⟩
  have hvalid : valid (env.sha256hex raw) now rt = true := by
    simp only [valid, Bool.and_eq_true, decide_eq_true_eq]
    exact ⟨⟨hhashrt, Option.isNone_iff_eq_none.mpr hrev⟩, hlive rt hrt hhashrt⟩
  -- Hashes are unique, so being valid for the token is having its hash.
  have hfound : db.tokens.filter (valid (env.sha256hex raw) now) = [rt] := by
    rw [← Keyed.filter_key RefreshToken.tokenHash db.tokens rt hhash hrt]
    refine List.filter_congr (fun r hr => ?_)
    by_cases heq : r.tokenHash = rt.tokenHash
    · rw [Keyed.eq_of_key RefreshToken.tokenHash db.tokens r rt hhash hr hrt heq, hvalid,
        decide_eq_true rfl]
    · have hne : r.tokenHash ≠ env.sha256hex raw := fun h' => heq (h'.trans hhashrt.symm)
      simp only [valid, hne, heq, decide_false, Bool.false_and]
  rcases db.filter_user rt hrt with ⟨user, _, huser⟩
  rcases refreshAccessToken_ok env db raw now issue rt hfound hrow user huser
    with ⟨hreply, _, htokens⟩
  refine ⟨_, hreply, ?_⟩
  rw [Current, htokens]
  exact ⟨newToken env user issue, List.mem_append_right _ (List.mem_singleton.mpr rfl), rfl, rfl⟩

theorem hashes_refreshAccessToken (env : Env) (db : TokenDb) (raw : String) (now : Datetime)
    (issue : Issue) (hhash : (db.tokens.map RefreshToken.tokenHash).Nodup)
    (hfresh : ∀ r ∈ db.tokens, r.tokenHash ≠ env.sha256hex issue.raw.str) :
    ((refreshAccessToken env db raw now issue).1.tokens.map RefreshToken.tokenHash).Nodup := by
  rcases refreshAccessToken_cases env db raw now issue with ⟨hdb, _⟩ | ⟨rt, user, _, htokens, _⟩
  · rw [hdb]
    exact hhash
  · have hkeep : ((Write.update rt.id (revoke now)).apply RefreshToken.id db.tokens).map
        RefreshToken.tokenHash = db.tokens.map RefreshToken.tokenHash := by
      rw [Write.apply, List.map_map]
      refine List.map_congr_left (fun r _ => ?_)
      simp only [Function.comp_apply]
      split
      · rfl
      · rfl
    rw [htokens, List.map_append, hkeep, List.nodup_append]
    refine ⟨hhash, List.nodup_singleton _, ?_⟩
    intro a ha b hb
    rw [List.map_singleton, List.mem_singleton] at hb
    rcases List.mem_map.mp ha with ⟨r, hr, heq⟩
    rw [← heq, hb]
    exact hfresh r hr

/-- No transaction is open. -/
def State.quiet (s : State) (db : TokenDb) : Prop :=
  s.users = db.users ∧ s.store = ⟨db.tokens, []⟩

/-- A statement of the newest call. -/
theorem step_last (env : Env) (s : State) (c : Call) (stmt : Stmt)
    (store : Store Uuid RefreshToken) (phase : Phase)
    (hexec : execute env { s with calls := s.calls ++ [c] } s.calls.length c stmt =
      some (store, phase)) :
    step env { s with calls := s.calls ++ [c] } (.exec s.calls.length stmt) =
      some { s with store := store, calls := s.calls ++ [{ c with phase := phase }] } := by
  have hget : (s.calls ++ [c])[s.calls.length]? = some c := by
    rw [List.getElem?_append_right (Nat.le_refl _), Nat.sub_self, List.getElem?_cons_zero]
  have hset : ∀ d : Call, (s.calls ++ [c]).set s.calls.length d = s.calls ++ [d] := fun d => by
    rw [List.set_append_right _ _ (Nat.le_refl _), Nat.sub_self, List.set_cons_zero]
  simp only [step, hget, hexec, hset]

/-- The four statements after the SELECT of a call that found row `rt`. -/
theorem run_found (env : Env) (db : TokenDb) (s : State) (raw : String) (now : Datetime)
    (issue : Issue) (rt : RefreshToken) (user : User) (hquiet : s.quiet db) (hrt : rt ∈ db.tokens)
    (huser : db.users.filter (fun u => u.id = rt.userId) = [user])
    (hkey : ∀ r ∈ db.tokens, r.id ≠ issue.rowId) :
    Run.run (step env) { s with calls := s.calls ++ [⟨raw, now, .found rt⟩] }
      [.exec s.calls.length (.selectUser issue), .exec s.calls.length .update,
        .exec s.calls.length .insert, .exec s.calls.length .commit] =
      some { s with
        store := ⟨(Write.update rt.id (revoke now)).apply RefreshToken.id db.tokens ++
          [newToken env user issue], []⟩
        calls := s.calls ++ [⟨raw, now, .finished (.ok (issueResponse env user issue))⟩] } := by
  rcases hquiet with ⟨husers, hstore⟩
  have hin : db.tokens.any (fun r => r.id = rt.id) = true :=
    List.any_eq_true.mpr ⟨rt, hrt, by simp only [decide_true]⟩
  -- The revocation keeps the keys, so the new one is still free.
  have hnew : ((Write.update rt.id (revoke now)).apply RefreshToken.id db.tokens).any
      (fun r => r.id = (newToken env user issue).id) = false := by
    rw [List.any_eq_false]
    intro r hr hid
    rw [decide_eq_true_eq] at hid
    exact forall_update RefreshToken.id (fun q => q.id ≠ issue.rowId) db.tokens rt.id (revoke now)
      (fun _ hq => hq) hkey r hr hid
  -- The four statements, one after the other.
  have h1 := step_last env s ⟨raw, now, .found rt⟩ (.selectUser issue) s.store
    (.loaded rt (newToken env user issue) (issueResponse env user issue)) (by
      simp only [execute, husers, huser, afterSelectUser])
  have h2 := step_last env s
    ⟨raw, now, .loaded rt (newToken env user issue) (issueResponse env user issue)⟩ .update
    (s.store.write s.calls.length (.update rt.id (revoke now)))
    (.revoked rt (newToken env user issue) (issueResponse env user issue)) (by
      simp only [execute, hstore, Store.blocked, Store.visible, Store.own, List.any_nil,
        List.filter_nil, List.map_nil, List.foldl_nil, hin, Bool.false_eq_true, if_false, if_true])
  have h3 := step_last env { s with
      store := ⟨db.tokens, [(s.calls.length, .update rt.id (revoke now))]⟩ }
    ⟨raw, now, .revoked rt (newToken env user issue) (issueResponse env user issue)⟩ .insert
    ⟨db.tokens, [(s.calls.length, .update rt.id (revoke now)),
      (s.calls.length, .insert (newToken env user issue))]⟩
    (.inserted rt (newToken env user issue) (issueResponse env user issue)) (by
      simp only [execute, Store.blocked, Store.visible, Store.own, List.any_cons,
        List.any_nil, ne_eq, not_true_eq_false, false_and, decide_false, Bool.or_false,
        List.filter_cons, decide_true, if_true, List.filter_nil, List.map_cons, List.map_nil,
        List.foldl_cons, List.foldl_nil, hnew, Bool.false_eq_true, if_false, Store.write,
        List.cons_append, List.nil_append])
  have h4 := step_last env { s with
      store := ⟨db.tokens, [(s.calls.length, .update rt.id (revoke now)),
        (s.calls.length, .insert (newToken env user issue))]⟩ }
    ⟨raw, now, .inserted rt (newToken env user issue) (issueResponse env user issue)⟩ .commit
    ⟨(Write.update rt.id (revoke now)).apply RefreshToken.id db.tokens ++
      [newToken env user issue], []⟩
    (.finished (.ok (issueResponse env user issue))) (by
      simp only [execute, Store.commit, Store.rollback, Store.visible, Store.own, List.filter_cons,
        decide_true, if_true, List.filter_nil, List.map_cons, List.map_nil, List.foldl_cons,
        List.foldl_nil, Write.apply, ne_eq, not_true_eq_false, decide_false, Bool.false_eq_true,
        if_false])
  rw [hstore] at h1 h2
  simp only [Store.write, List.nil_append] at h2
  simp only [Run.run, hstore, h1, h2, h3, h4]

/-- A call that is not interleaved with others computes `refreshAccessToken`:
    it runs to its commit when the token is valid and drawn identifiers are
    new, and is refused after its SELECT when the token has no valid row. -/
theorem run_alone (env : Env) (db : TokenDb) (s : State) (raw : String) (now : Datetime)
    (issue : Issue) (hquiet : s.quiet db) :
    (∀ rt, db.tokens.filter (valid (env.sha256hex raw) now) = [rt] →
      (∀ r ∈ db.tokens, r.id ≠ issue.rowId) →
      ∃ resp, (refreshAccessToken env db raw now issue).2 = .ok resp ∧
        Run.run (step env) s (aloneRun s.calls.length raw now issue) = some { s with
          store := ⟨(refreshAccessToken env db raw now issue).1.tokens, []⟩
          calls := s.calls ++ [⟨raw, now, .finished (.ok resp)⟩] }) ∧
    (db.tokens.filter (valid (env.sha256hex raw) now) = [] →
      (refreshAccessToken env db raw now issue).2 = invalidRefresh ∧
        Run.run (step env) s [.request raw now, .exec s.calls.length .selectToken] = some { s with
          store := ⟨(refreshAccessToken env db raw now issue).1.tokens, []⟩
          calls := s.calls ++ [⟨raw, now, .finished invalidRefresh⟩] }) := by
  have hselect := step_last env s ⟨raw, now, .started⟩ .selectToken s.store
    (afterSelectToken (db.tokens.filter (valid (env.sha256hex raw) now))) (by
      simp only [execute, hquiet.2, Store.select, Store.visible, Store.own, List.filter_nil,
        List.map_nil, List.foldl_nil])
  constructor
  · intro rt hfound hkey
    have hrt : rt ∈ db.tokens := List.mem_of_mem_filter (hfound ▸ List.mem_singleton.mpr rfl)
    rcases db.filter_user rt hrt with ⟨user, hmem, huser⟩
    rcases refreshAccessToken_ok env db raw now issue rt hfound hkey user huser with
      ⟨hreply, _, htokens⟩
    refine ⟨issueResponse env user issue, hreply, ?_⟩
    -- The SELECT finds the row, and the rest of the run is the one above.
    have hrest := run_found env db s raw now issue rt user hquiet hrt huser hkey
    rw [hfound] at hselect
    rw [htokens, ← hrest, aloneRun]
    rw [afterSelectToken] at hselect
    rw [Run.run, step]
    simp only []
    rw [Run.run, hselect]
  · intro hfound
    rw [refreshAccessToken_invalid env db raw now issue hfound]
    refine ⟨rfl, ?_⟩
    rw [hfound] at hselect
    rw [Run.run, step]
    simp only []
    rw [Run.run, hselect, hquiet.2]
    rfl

end Refresh

end Backend

end Vena
