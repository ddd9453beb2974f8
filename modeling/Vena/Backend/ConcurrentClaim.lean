import Vena.Backend.PairingAnswers
import Vena.Core.ReadCommitted

/-!
# Concurrent Claims

The app repeats a claim until it has heard of it, so one user may well claim
one device several times at once. `claim_device` is written for that: it looks
for the row first and returns it if it is there. The look and the INSERT are
two statements, though, and under READ COMMITTED two calls may both find
nothing. The primary key lets one INSERT through. The other one waits for its
COMMIT and then raises, which `claim_device` does not catch.

The calls run statement by statement, in any order; `claim_idempotent_iff` is
about every run in which nothing is left to do. All calls succeed exactly if no
call finds the table empty while another one that found it empty has yet to
commit. Whatever the order, one row is there in the end.

## Main definitions

* `Request`: The user, the device and the code all calls have.
* `Phase`, `State`, `Stmt`, `Act`, `step`: The calls and their statements.
* `Idempotent`: Every call returned a response, and there is one row.
* `Careful`: A call that finds no row is alone in that.
* `Stuck`: No call has a statement to execute.

## Theorems

* `sound_run`: What the lock and the table look like in every run.
* `length_run`: A call executes five statements at most.
* `claim_idempotent_iff`: The runs in which claiming is idempotent.
* `claim_twice`: A run in which it is not.
-/

namespace Vena

namespace Backend

namespace ConcurrentClaim

open Python ReadCommitted Processes Run

/-- What all the calls are called with. -/
structure Request where
  user : User
  deviceId : String
  code : String
  deriving DecidableEq, Repr

/-- The primary key of the row the calls are about. -/
def Request.key (q : Request) : Uuid × String := (q.user.id, q.deviceId)

/-- How far a call has come: before its first SELECT, before the SELECT on
    `user_devices`, before the INSERT and the COMMIT of `session.commit()`,
    before the SELECT of `session.refresh`, or returned. -/
inductive Phase where
  | selectDevice
  | selectOwned
  | inserting
  | committing
  | refreshing
  | finished (reply : Reply ClaimResponse)
  deriving DecidableEq, Repr

/-- The call has found no row and has not committed one. -/
def Phase.Claiming (c : Phase) : Prop := c = .inserting ∨ c = .committing

def Phase.isFinished : Phase → Bool
  | .finished _ => true
  | _ => false

/-- `user_devices`, and the calls. -/
structure State where
  store : Store (Uuid × String) UserDevice
  calls : List Phase

/-- The statements of a call; `now` is the time of its transaction. -/
inductive Stmt where
  | selectDevice
  | selectOwned
  | insert (now : Datetime)
  | commit
  | refresh
  deriving DecidableEq, Repr

/-- A call arrives, or call `i` executes its next statement. -/
inductive Act where
  | request
  | exec (i : Nat) (stmt : Stmt)
  deriving DecidableEq, Repr

/-- Before the first call. -/
def start (db : Database) : State where
  store := ⟨db.userDevices, []⟩
  calls := []

/-- The rows of the user and the device that call `i` sees. -/
def owned (q : Request) (store : Store (Uuid × String) UserDevice) (i : Nat) : List UserDevice :=
  store.select UserDevice.key i (fun ud => ud.key = q.key)

/-- The INSERT; `none` while another transaction holds the key. -/
def insertRow (db : Database) (q : Request) (store : Store (Uuid × String) UserDevice) (i : Nat)
    (now : Datetime) : Option (Store (Uuid × String) UserDevice × Phase) :=
  if store.blocked UserDevice.key i q.key then none
  else if owned q store i = [] ∧ (∃ user ∈ db.users, user.id = q.user.id) ∧
      (∃ device ∈ db.devices, device.id = q.deviceId) then
    some (store.write i (.insert ⟨q.user.id, q.deviceId, none, now⟩), .committing)
  -- The primary key or a foreign key is violated, and the transaction is over.
  else some (store.rollback i, .finished .crash)

/-- The next statement of call `i`, which is in phase `c`. -/
def execute (env : Env) (db : Database) (q : Request) (store : Store (Uuid × String) UserDevice)
    (i : Nat) (c : Phase) : Stmt → Option (Store (Uuid × String) UserDevice × Phase)
  | .selectDevice => match c with
    | .selectDevice => match deviceWithCode env db q.deviceId q.code with
      | .ok _ => some (store, .selectOwned)
      | .error status detail => some (store, .finished (.error status detail))
      | .crash => some (store, .finished .crash)
    | _ => none
  | .selectOwned => match c with
    | .selectOwned => match owned q store i with
      | [] => some (store, .inserting)
      | [ud] => some (store, .finished (.ok (claimResponse q.deviceId ud)))
      | _ => some (store, .finished .crash)
    | _ => none
  | .insert now => match c with
    | .inserting => insertRow db q store i now
    | _ => none
  | .commit => match c with
    | .committing => some (store.commit UserDevice.key i, .refreshing)
    | _ => none
  | .refresh => match c with
    | .refreshing => match owned q store i with
      | [ud] => some (store, .finished (.ok (claimResponse q.deviceId ud)))
      | _ => some (store, .finished .crash)
    | _ => none

/-- The rest of the database does not change meanwhile. -/
def step (env : Env) (db : Database) (q : Request) (s : State) : Act → Option State
  | .request => some { s with calls := s.calls ++ [.selectDevice] }
  | .exec i stmt => match s.calls[i]? with
    | none => none
    | some c => (execute env db q s.store i c stmt).map
        (fun r => { store := r.1, calls := s.calls.set i r.2 })

/-- No call has a statement to execute. -/
def Stuck (env : Env) (db : Database) (q : Request) (s : State) : Prop :=
  ∀ i stmt, step env db q s (.exec i stmt) = none

/-- The user's row for the device is committed. -/
def Claimed (q : Request) (s : State) : Prop := ∃ ud ∈ s.store.rows, ud.key = q.key

/-- Every call returned a response, and there is one row. -/
structure Idempotent (q : Request) (s : State) : Prop where
  returned : ∀ c ∈ s.calls, ∃ resp, c = .finished (.ok resp)
  one : s.calls ≠ [] → (s.store.rows.filter (fun ud => ud.key = q.key)).length = 1

/-- A call that finds no row finds no other call that has found none and is not
    yet through with its COMMIT. -/
def Careful (q : Request) (s : State) : Act → Prop
  | .exec i .selectOwned => s.calls[i]? = some .selectOwned → ¬ Claimed q s →
      ∀ c ∈ s.calls, ¬ c.Claiming
  | _ => True

instance (c : Phase) : Decidable c.Claiming :=
  inferInstanceAs (Decidable (c = .inserting ∨ c = .committing))

instance (q : Request) (s : State) : Decidable (Claimed q s) :=
  inferInstanceAs (Decidable (∃ ud ∈ s.store.rows, ud.key = q.key))

instance (q : Request) (s : State) : ∀ a, Decidable (Careful q s a)
  | .request => isTrue trivial
  | .exec i .selectOwned => inferInstanceAs (Decidable (s.calls[i]? = some .selectOwned →
      ¬ Claimed q s → ∀ c ∈ s.calls, ¬ c.Claiming))
  | .exec _ .selectDevice | .exec _ (.insert _) | .exec _ .commit | .exec _ .refresh =>
      isTrue trivial

/-- One call at most has executed its INSERT, and then no row of the key is
    committed. -/
def Lock (q : Request) (s : State) : Prop :=
  (s.store.pending = [] ∧ .committing ∉ s.calls) ∨
  ∃ j ud, s.store.pending = [(j, .insert ud)] ∧ ud.key = q.key ∧
    s.calls[j]? = some .committing ∧ (∀ i, s.calls[i]? = some .committing → i = j) ∧
    ¬ Claimed q s

/-- What holds in every run. -/
structure Sound (q : Request) (s : State) : Prop where
  unique : (s.store.rows.map UserDevice.key).Nodup
  lock : Lock q s
  refreshing : .refreshing ∈ s.calls → Claimed q s
  returned : ∀ resp, .finished (.ok resp) ∈ s.calls → Claimed q s

/-- A call moves on and writes nothing. -/
def State.move (s : State) (i : Nat) (c : Phase) : State :=
  { s with calls := s.calls.set i c }

/-- What a step can do, with the right code and a table as `Sound` says. -/
inductive Moves (q : Request) (s : State) : Act → State → Prop
  | request : Moves q s .request { s with calls := s.calls ++ [.selectDevice] }
  | device (i : Nat) (hget : s.calls[i]? = some .selectDevice) :
    Moves q s (.exec i .selectDevice) (s.move i .selectOwned)
  | found (i : Nat) (resp : ClaimResponse) (hget : s.calls[i]? = some .selectOwned)
      (hrow : Claimed q s) :
    Moves q s (.exec i .selectOwned) (s.move i (.finished (.ok resp)))
  | missing (i : Nat) (hget : s.calls[i]? = some .selectOwned) (hnone : ¬ Claimed q s) :
    Moves q s (.exec i .selectOwned) (s.move i .inserting)
  | inserted (i : Nat) (now : Datetime) (ud : UserDevice) (hget : s.calls[i]? = some .inserting)
      (hkey : ud.key = q.key) (hfree : s.store.pending = []) (hnone : ¬ Claimed q s) :
    Moves q s (.exec i (.insert now))
      { store := ⟨s.store.rows, [(i, .insert ud)]⟩, calls := s.calls.set i .committing }
  | refused (i : Nat) (now : Datetime) (hget : s.calls[i]? = some .inserting)
      (hrow : Claimed q s) :
    Moves q s (.exec i (.insert now)) (s.move i (.finished .crash))
  | committed (i : Nat) (ud : UserDevice) (hget : s.calls[i]? = some .committing)
      (hkey : ud.key = q.key) (hpending : s.store.pending = [(i, .insert ud)]) :
    Moves q s (.exec i .commit)
      { store := ⟨s.store.rows ++ [ud], []⟩, calls := s.calls.set i .refreshing }
  | refreshed (i : Nat) (resp : ClaimResponse) (hget : s.calls[i]? = some .refreshing) :
    Moves q s (.exec i .refresh) (s.move i (.finished (.ok resp)))

section Statements

variable {q : Request} {s : State} {i : Nat} {c : Phase}

theorem own_of_not_committing (hs : Sound q s) (hget : s.calls[i]? = some c)
    (hc : c ≠ .committing) : s.store.own i = [] := by
  have hno : s.calls[i]? ≠ some .committing := fun heq => hc (Option.some.inj (hget.symm.trans heq))
  rcases hs.lock with ⟨hpending, _⟩ | ⟨j, ud, hpending, _, hj, _, _⟩
  · rw [Store.own, hpending]
    rfl
  · have hne : j ≠ i := fun heq => hno (heq ▸ hj)
    rw [Store.own, hpending, List.filter_cons_of_neg (by simpa only [decide_eq_true_eq] using hne)]
    rfl

/-- A call that has not executed its INSERT sees the committed rows. -/
theorem owned_eq (hs : Sound q s) (hget : s.calls[i]? = some c) (hc : c ≠ .committing) :
    owned q s.store i = s.store.rows.filter (fun ud => ud.key = q.key) := by
  rw [owned, Store.select, Store.visible_of_own_nil _ _ _ (own_of_not_committing hs hget hc)]

theorem filter_of_claimed (hs : Sound q s) (h : Claimed q s) :
    ∃ ud, s.store.rows.filter (fun ud => ud.key = q.key) = [ud] := by
  rcases h with ⟨ud, hud, hkey⟩
  exact ⟨ud, hkey ▸ Keyed.filter_key UserDevice.key s.store.rows ud hs.unique hud⟩

theorem filter_of_not_claimed (h : ¬ Claimed q s) :
    s.store.rows.filter (fun ud => ud.key = q.key) = [] := by
  rw [List.filter_eq_nil_iff]
  intro ud hud hkey
  exact h ⟨ud, hud, decide_eq_true_eq.mp hkey⟩

end Statements

/-- The user is there, and the code is that of the device. -/
structure Entitled (env : Env) (db : Database) (q : Request) : Prop where
  user : q.user ∈ db.users
  code : ∃ device, deviceWithCode env db q.deviceId q.code = .ok device

theorem device_of_entitled (env : Env) (db : Database) (q : Request) (h : Entitled env db q) :
    ∃ device ∈ db.devices, device.id = q.deviceId := by
  rcases h.code with ⟨device, hcode⟩
  by_cases hmissing : ∃ device ∈ db.devices, device.id = q.deviceId
  · exact hmissing
  · have hnone : db.devices.filter (fun d => d.id = q.deviceId) = [] := by
      rw [List.filter_eq_nil_iff]
      intro d hd hid
      exact hmissing ⟨d, hd, decide_eq_true_eq.mp hid⟩
    rw [deviceWithCode, getDeviceOr404, hnone] at hcode
    by_cases htext : (!pgText q.deviceId) = true
    · rw [if_pos htext] at hcode
      exact absurd hcode (by simp only [reduceCtorEq, not_false_eq_true])
    · rw [if_neg htext] at hcode
      exact absurd hcode (by simp only [reduceCtorEq, not_false_eq_true])

theorem rollback_of_free (store : Store (Uuid × String) UserDevice) (i : Nat)
    (h : store.pending = []) : store.rollback i = store := by
  rcases store with ⟨rows, pending⟩
  have hpending : pending = [] := h
  rw [hpending]
  rfl

/-- The INSERT waits for another one, raises on a row that is committed, or is
    the first one. -/
theorem moves_insert (env : Env) (db : Database) (q : Request) (hq : Entitled env db q)
    (s : State) (hs : Sound q s) (i : Nat) (now : Datetime) (hget : s.calls[i]? = some .inserting)
    (r : Store (Uuid × String) UserDevice × Phase)
    (h : insertRow db q s.store i now = some r) :
    Moves q s (.exec i (.insert now)) { store := r.1, calls := s.calls.set i r.2 } := by
  unfold insertRow at h
  by_cases hblocked : s.store.blocked UserDevice.key i q.key = true
  · rw [if_pos hblocked] at h
    exact absurd h (by simp only [reduceCtorEq, not_false_eq_true])
  · have hfree : s.store.pending = [] := by
      rcases hs.lock with ⟨hpending, _⟩ | ⟨j, ud, hpending, hkey, hj, _, _⟩
      · exact hpending
      -- The call that holds the lock is another one.
      · have hne : j ≠ i := by
          intro heq
          rw [heq, hget] at hj
          exact Phase.noConfusion (Option.some.inj hj)
        refine absurd ?_ hblocked
        simp only [Store.blocked, hpending, List.any_cons, Write.target, hkey, ne_eq, hne,
          not_false_eq_true, and_self, decide_true, Bool.true_or]
    rw [if_neg hblocked, owned_eq hs hget Phase.noConfusion] at h
    by_cases hrow : Claimed q s
    · rcases filter_of_claimed hs hrow with ⟨ud, hud⟩
      rw [hud, if_neg (fun hand => List.cons_ne_nil _ _ hand.1), Option.some.injEq] at h
      rw [← h, rollback_of_free s.store i hfree]
      exact .refused i now hget hrow
    · rw [filter_of_not_claimed hrow, if_pos ⟨rfl, ⟨q.user, hq.user, rfl⟩,
        device_of_entitled env db q hq⟩, Option.some.injEq] at h
      rw [← h, Store.write, hfree]
      exact .inserted i now ⟨q.user.id, q.deviceId, none, now⟩ hget rfl hfree hrow

theorem committing_lock (q : Request) (s : State) (hs : Sound q s) (i : Nat)
    (hget : s.calls[i]? = some .committing) :
    ∃ ud, s.store.pending = [(i, .insert ud)] ∧ ud.key = q.key ∧ ¬ Claimed q s := by
  rcases hs.lock with ⟨_, hno⟩ | ⟨j, ud, hpending, hkey, _, honly, hnone⟩
  · exact absurd (List.mem_of_getElem? hget) hno
  · rw [← honly i hget] at hpending
    exact ⟨ud, hpending, hkey, hnone⟩

theorem step_moves (env : Env) (db : Database) (q : Request) (hq : Entitled env db q)
    (s s' : State) (a : Act) (hs : Sound q s) (h : step env db q s a = some s') :
    Moves q s a s' := by
  cases a with
  | request => exact Option.some.inj h ▸ .request
  | exec i stmt =>
      cases hget : s.calls[i]? with
      | none =>
          rw [step, hget] at h
          exact absurd h (by simp only [reduceCtorEq, not_false_eq_true])
      | some c =>
          rw [step, hget] at h
          rcases Option.map_eq_some_iff.mp h with ⟨r, hr, heq⟩
          rw [← heq]
          cases stmt with
          | selectDevice =>
              rcases hq.code with ⟨device, hcode⟩
              cases c with
              | selectDevice =>
                  rw [execute, hcode, Option.some.injEq] at hr
                  rw [← hr]
                  exact .device i hget
              | _ => exact absurd hr (by simp only [execute, reduceCtorEq, not_false_eq_true])
          | selectOwned =>
              cases c with
              | selectOwned =>
                  rw [execute, owned_eq hs hget Phase.noConfusion] at hr
                  by_cases hrow : Claimed q s
                  · rcases filter_of_claimed hs hrow with ⟨ud, hud⟩
                    rw [hud, Option.some.injEq] at hr
                    rw [← hr]
                    exact .found i _ hget hrow
                  · rw [filter_of_not_claimed hrow, Option.some.injEq] at hr
                    rw [← hr]
                    exact .missing i hget hrow
              | _ => exact absurd hr (by simp only [execute, reduceCtorEq, not_false_eq_true])
          | insert now =>
              cases c with
              | inserting => exact moves_insert env db q hq s hs i now hget r hr
              | _ => exact absurd hr (by simp only [execute, reduceCtorEq, not_false_eq_true])
          | commit =>
              cases c with
              | committing =>
                  rcases committing_lock q s hs i hget with ⟨ud, hpending, hkey, _⟩
                  rw [execute, Option.some.injEq] at hr
                  have hstore : s.store.commit UserDevice.key i = ⟨s.store.rows ++ [ud], []⟩ := by
                    rw [Store.commit, Store.visible, Store.own, Store.rollback, hpending]
                    simp only [List.filter_cons, decide_true, if_true, List.filter_nil,
                      List.map_cons, List.map_nil, List.foldl_cons, List.foldl_nil, Write.apply,
                      ne_eq, not_true_eq_false, decide_false, Bool.false_eq_true, if_false]
                  rw [← hr, hstore]
                  exact .committed i ud hget hkey hpending
              | _ => exact absurd hr (by simp only [execute, reduceCtorEq, not_false_eq_true])
          | refresh =>
              cases c with
              | refreshing =>
                  rcases filter_of_claimed hs (hs.refreshing (List.mem_of_getElem? hget))
                    with ⟨ud, hud⟩
                  rw [execute, owned_eq hs hget Phase.noConfusion, hud, Option.some.injEq] at hr
                  rw [← hr]
                  exact .refreshed i _ hget
              | _ => exact absurd hr (by simp only [execute, reduceCtorEq, not_false_eq_true])

theorem lock_request (q : Request) (s : State) (h : Lock q s) :
    Lock q { s with calls := s.calls ++ [.selectDevice] } := by
  rcases h with ⟨hpending, hno⟩ | ⟨j, ud, hpending, hkey, hj, honly, hnone⟩
  · refine Or.inl ⟨hpending, fun hmem => ?_⟩
    rcases List.mem_append.mp hmem with hold | hnew
    · exact hno hold
    · exact Phase.noConfusion (List.mem_singleton.mp hnew)
  · refine Or.inr ⟨j, ud, hpending, hkey, getElem?_concat_of_some _ _ _ _ hj, fun i hi => ?_, hnone⟩
    rcases getElem?_concat_cases s.calls i _ _ hi with hold | ⟨_, hnew⟩
    · exact honly i hold
    · exact Phase.noConfusion hnew

/-- A call that moves without having executed an INSERT leaves the lock alone. -/
theorem lock_move (q : Request) (s : State) (i : Nat) (c c' : Phase) (h : Lock q s)
    (hget : s.calls[i]? = some c) (hc : c ≠ .committing) (hc' : c' ≠ .committing) :
    Lock q (s.move i c') := by
  have hback : ∀ k : Nat, (s.calls.set i c')[k]? = some Phase.committing →
      s.calls[k]? = some Phase.committing := by
    intro k hk
    rcases getElem?_set_cases s.calls i k c' _ hk with ⟨_, heq⟩ | ⟨_, hold⟩
    · exact absurd heq.symm hc'
    · exact hold
  rcases h with ⟨hpending, hno⟩ | ⟨j, ud, hpending, hkey, hj, honly, hnone⟩
  · refine Or.inl ⟨hpending, fun hmem => ?_⟩
    rcases List.getElem?_of_mem hmem with ⟨k, hk⟩
    exact hno (List.mem_of_getElem? (hback k hk))
  · have hne : j ≠ i := fun heq => hc (Option.some.inj (hget.symm.trans (heq ▸ hj)))
    exact Or.inr ⟨j, ud, hpending, hkey, getElem?_set_of_ne s.calls i j c' _ hne hj,
      fun k hk => honly k (hback k hk), hnone⟩

theorem sound_move (q : Request) (s : State) (i : Nat) (c c' : Phase) (hs : Sound q s)
    (hget : s.calls[i]? = some c) (hc : c ≠ .committing) (hc' : c' ≠ .committing)
    (hrefreshing : c' ≠ .refreshing) (hrow : ∀ resp, c' = .finished (.ok resp) → Claimed q s) :
    Sound q (s.move i c') := by
  refine ⟨hs.unique, lock_move q s i c c' hs.lock hget hc hc', fun hmem => ?_, fun resp hmem => ?_⟩
  · rcases List.mem_or_eq_of_mem_set hmem with hold | hnew
    · exact hs.refreshing hold
    · exact absurd hnew.symm hrefreshing
  · rcases List.mem_or_eq_of_mem_set hmem with hold | hnew
    · exact hs.returned resp hold
    · exact hrow resp hnew.symm

theorem sound_step (q : Request) (s s' : State) (a : Act) (hs : Sound q s) (h : Moves q s a s') :
    Sound q s' := by
  cases h with
  | request =>
      refine ⟨hs.unique, lock_request q s hs.lock, fun hmem => ?_, fun resp hmem => ?_⟩
      · rcases List.mem_append.mp hmem with hold | hnew
        · exact hs.refreshing hold
        · exact Phase.noConfusion (List.mem_singleton.mp hnew)
      · rcases List.mem_append.mp hmem with hold | hnew
        · exact hs.returned resp hold
        · exact Phase.noConfusion (List.mem_singleton.mp hnew)
  | device i hget =>
      exact sound_move q s i _ _ hs hget Phase.noConfusion Phase.noConfusion Phase.noConfusion
        (fun _ heq => Phase.noConfusion heq)
  | found i resp hget hrow =>
      exact sound_move q s i _ _ hs hget Phase.noConfusion Phase.noConfusion Phase.noConfusion
        (fun _ _ => hrow)
  | missing i hget hnone =>
      exact sound_move q s i _ _ hs hget Phase.noConfusion Phase.noConfusion Phase.noConfusion
        (fun _ heq => Phase.noConfusion heq)
  | inserted i now ud hget hkey hfree hnone =>
      have hno : .committing ∉ s.calls := by
        rcases hs.lock with ⟨_, hno⟩ | ⟨j, _, hpending, _⟩
        · exact hno
        · exact absurd (hfree.symm.trans hpending).symm (List.cons_ne_nil _ _)
      refine ⟨hs.unique, Or.inr ⟨i, ud, rfl, hkey, getElem?_set_of_some s.calls i _ _ hget,
        fun k hk => ?_, hnone⟩, fun hmem => ?_, fun resp hmem => ?_⟩
      · rcases getElem?_set_cases s.calls i k _ _ hk with ⟨heq, _⟩ | ⟨_, hold⟩
        · exact heq
        · exact absurd (List.mem_of_getElem? hold) hno
      · rcases List.mem_or_eq_of_mem_set hmem with hold | hnew
        · exact hs.refreshing hold
        · exact Phase.noConfusion hnew
      · rcases List.mem_or_eq_of_mem_set hmem with hold | hnew
        · exact hs.returned resp hold
        · exact Phase.noConfusion hnew
  | refused i now hget hrow =>
      exact sound_move q s i _ _ hs hget Phase.noConfusion Phase.noConfusion Phase.noConfusion
        (fun _ _ => hrow)
  | committed i ud hget hkey hpending =>
      rcases committing_lock q s hs i hget with ⟨_, _, _, hnone⟩
      have hrow : Claimed q ⟨⟨s.store.rows ++ [ud], []⟩, s.calls.set i .refreshing⟩ :=
        ⟨ud, List.mem_append_right _ (List.mem_singleton_self ud), hkey⟩
      refine ⟨Keyed.nodup_concat UserDevice.key s.store.rows ud hs.unique
        (fun r hr heq => hnone ⟨r, hr, heq.trans hkey⟩), Or.inl ⟨rfl, fun hmem => ?_⟩,
        fun _ => hrow, fun _ _ => hrow⟩
      -- No other call is where this one was.
      rcases List.getElem?_of_mem hmem with ⟨k, hk⟩
      rcases getElem?_set_cases s.calls i k _ _ hk with ⟨_, heq⟩ | ⟨hne, hold⟩
      · exact Phase.noConfusion heq
      · rcases hs.lock with ⟨_, hno⟩ | ⟨j, _, _, _, _, honly, _⟩
        · exact hno (List.mem_of_getElem? hold)
        · exact hne ((honly k hold).trans (honly i hget).symm)
  | refreshed i resp hget =>
      exact sound_move q s i _ _ hs hget Phase.noConfusion Phase.noConfusion Phase.noConfusion
        (fun _ _ => hs.refreshing (List.mem_of_getElem? hget))

theorem sound_start (db : Database) (q : Request) : Sound q (start db) :=
  ⟨db.pairKey, Or.inl ⟨rfl, List.not_mem_nil⟩, fun h => absurd h List.not_mem_nil,
    fun _ h => absurd h List.not_mem_nil⟩

theorem sound_run (env : Env) (db : Database) (q : Request) (hq : Entitled env db q)
    (acts : List Act) (s : State) (hrun : run (step env db q) (start db) acts = some s) :
    Sound q s :=
  run_invariant (step env db q) (Sound q)
    (fun s a s' hs hstep => sound_step q s s' a hs (step_moves env db q hq s s' a hs hstep)) acts
    (start db) s (sound_start db q) hrun

/-- What holds of every careful run: one call at most is between its fruitless
    SELECT and its COMMIT, no row is committed as long as it is, and no call has
    failed. -/
structure Good (q : Request) (s : State) : Prop where
  one : AtMostOne Phase.Claiming s.calls
  free : (∃ c ∈ s.calls, c.Claiming) → ¬ Claimed q s
  ok : ∀ reply, .finished reply ∈ s.calls → ∃ resp, reply = .ok resp

/-- What holds of every other run: a call has failed, or it is bound to. -/
def Bad (q : Request) (s : State) : Prop :=
  .finished .crash ∈ s.calls ∨
  (∃ (i j : Nat) (c d : Phase), i ≠ j ∧ s.calls[i]? = some c ∧ s.calls[j]? = some d ∧
    c.Claiming ∧ d.Claiming) ∨
  .inserting ∈ s.calls ∧ Claimed q s

theorem not_claiming (c : Phase) (hinserting : c ≠ .inserting) (hcommitting : c ≠ .committing) :
    ¬ c.Claiming := fun hor => hor.elim hinserting hcommitting

theorem good_start (db : Database) (q : Request) : Good q (start db) :=
  ⟨fun _ _ _ _ hi => by simp only [start, List.getElem?_nil, reduceCtorEq] at hi,
    fun ⟨_, hc, _⟩ => absurd hc List.not_mem_nil, fun _ h => absurd h List.not_mem_nil⟩

/-- A call that is not, and was not, between the two. -/
theorem good_move (q : Request) (s : State) (i : Nat) (c c' : Phase) (h : Good q s)
    (hget : s.calls[i]? = some c) (hc' : ¬ c'.Claiming)
    (hok : ∀ reply, c' = .finished reply → ∃ resp, reply = .ok resp) : Good q (s.move i c') := by
  refine ⟨atMostOne_set _ s.calls i c c' h.one hget (fun hc => absurd hc hc'), ?_, ?_⟩
  · rintro ⟨d, hd, hclaiming⟩
    rcases List.mem_or_eq_of_mem_set hd with hold | hnew
    · exact h.free ⟨d, hold, hclaiming⟩
    · exact absurd (hnew ▸ hclaiming) hc'
  · intro reply hmem
    rcases List.mem_or_eq_of_mem_set hmem with hold | hnew
    · exact h.ok reply hold
    · exact hok reply hnew.symm

theorem good_step (q : Request) (s s' : State) (a : Act) (h : Good q s) (hcareful : Careful q s a)
    (hmoves : Moves q s a s') : Good q s' := by
  cases hmoves with
  | request =>
      have hno := not_claiming .selectDevice Phase.noConfusion Phase.noConfusion
      refine ⟨atMostOne_concat _ s.calls _ h.one hno, ?_, fun reply hmem => ?_⟩
      · rintro ⟨c, hc, hclaiming⟩
        rcases List.mem_append.mp hc with hold | hnew
        · exact h.free ⟨c, hold, hclaiming⟩
        · exact absurd (List.mem_singleton.mp hnew ▸ hclaiming) hno
      · rcases List.mem_append.mp hmem with hold | hnew
        · exact h.ok reply hold
        · exact Phase.noConfusion (List.mem_singleton.mp hnew)
  | device i hget =>
      exact good_move q s i _ _ h hget (not_claiming _ Phase.noConfusion Phase.noConfusion)
        (fun _ heq => Phase.noConfusion heq)
  | found i resp hget hrow =>
      exact good_move q s i _ _ h hget (not_claiming _ Phase.noConfusion Phase.noConfusion)
        (fun _ heq => ⟨resp, (Phase.finished.inj heq).symm⟩)
  | missing i hget hnone =>
      have halone := hcareful hget hnone
      refine ⟨atMostOne_enter _ s.calls i _
        (fun k c _ hk => halone c (List.mem_of_getElem? hk)), fun _ => hnone, fun reply hmem => ?_⟩
      rcases List.mem_or_eq_of_mem_set hmem with hold | hnew
      · exact h.ok reply hold
      · exact Phase.noConfusion hnew
  | inserted i now ud hget hkey hfree hnone =>
      refine ⟨atMostOne_set _ s.calls i _ _ h.one hget (fun _ => Or.inl rfl), fun _ => hnone,
        fun reply hmem => ?_⟩
      rcases List.mem_or_eq_of_mem_set hmem with hold | hnew
      · exact h.ok reply hold
      · exact Phase.noConfusion hnew
  | refused i now hget hrow =>
      -- No row is committed while the call has yet to insert its own.
      exact absurd hrow (h.free ⟨_, List.mem_of_getElem? hget, Or.inl rfl⟩)
  | committed i ud hget hkey hpending =>
      have hno := not_claiming .refreshing Phase.noConfusion Phase.noConfusion
      refine ⟨atMostOne_set _ s.calls i _ _ h.one hget (fun hc => absurd hc hno), ?_,
        fun reply hmem => ?_⟩
      · rintro ⟨c, hc, hclaiming⟩
        rcases List.getElem?_of_mem hc with ⟨k, hk⟩
        rcases getElem?_set_cases s.calls i k _ _ hk with ⟨_, heq⟩ | ⟨hne, hold⟩
        · exact absurd (heq ▸ hclaiming) hno
        · exact absurd (h.one k i c _ hold hget hclaiming (Or.inr rfl)) hne
      · rcases List.mem_or_eq_of_mem_set hmem with hold | hnew
        · exact h.ok reply hold
        · exact Phase.noConfusion hnew
  | refreshed i resp hget =>
      exact good_move q s i _ _ h hget (not_claiming _ Phase.noConfusion Phase.noConfusion)
        (fun _ heq => ⟨resp, (Phase.finished.inj heq).symm⟩)

/-- A careless SELECT puts a second call between the two. -/
theorem bad_of_careless (q : Request) (s s' : State) (a : Act) (hcareless : ¬ Careful q s a)
    (hmoves : Moves q s a s') : Bad q s' := by
  cases hmoves with
  | missing i hget hnone =>
      simp only [Careful, Classical.not_imp, not_forall, not_not] at hcareless
      rcases hcareless with ⟨_, _, c, hc, hclaiming⟩
      rcases List.getElem?_of_mem hc with ⟨k, hk⟩
      have hne : k ≠ i := by
        intro heq
        rw [heq, hget, Option.some.injEq] at hk
        rw [← hk] at hclaiming
        exact not_claiming _ Phase.noConfusion Phase.noConfusion hclaiming
      exact Or.inr (Or.inl ⟨k, i, c, .inserting, hne, getElem?_set_of_ne s.calls i k _ c hne hk,
        getElem?_set_of_some s.calls i _ _ hget, hclaiming, Or.inl rfl⟩)
  | found i resp hget hrow => exact absurd (fun _ hno => absurd hrow hno) hcareless
  | _ => exact absurd trivial hcareless

/-- A call that has neither failed nor found no row leaves the others as they
    are. -/
theorem bad_move (q : Request) (s : State) (i : Nat) (c c' : Phase) (h : Bad q s)
    (hget : s.calls[i]? = some c) (hc : ¬ c.Claiming) (hcrash : c ≠ .finished .crash) :
    Bad q (s.move i c') := by
  rcases h with hfailed | ⟨p, r, d, e, hne, hp, hr, hd, he⟩ | ⟨hinserting, hrow⟩
  · exact Or.inl ((mem_set_of_mem s.calls i c c' _ hget hfailed).resolve_right (Ne.symm hcrash))
  · have hpi : p ≠ i := fun heq => hc (Option.some.inj (hget.symm.trans (heq ▸ hp)) ▸ hd)
    have hri : r ≠ i := fun heq => hc (Option.some.inj (hget.symm.trans (heq ▸ hr)) ▸ he)
    exact Or.inr (Or.inl ⟨p, r, d, e, hne, getElem?_set_of_ne s.calls i p c' d hpi hp,
      getElem?_set_of_ne s.calls i r c' e hri hr, hd, he⟩)
  · exact Or.inr (Or.inr ⟨(mem_set_of_mem s.calls i c c' _ hget hinserting).resolve_right
      (fun heq => hc (Or.inl heq.symm)), hrow⟩)

/-- After the INSERT of one call, the same calls are between the two. -/
theorem bad_inserted (q : Request) (s : State) (i : Nat) (ud : UserDevice) (h : Bad q s)
    (hget : s.calls[i]? = some .inserting) (hnone : ¬ Claimed q s) :
    Bad q ⟨⟨s.store.rows, [(i, .insert ud)]⟩, s.calls.set i .committing⟩ := by
  have hstill : ∀ (k : Nat) (d : Phase), s.calls[k]? = some d → d.Claiming →
      ∃ e, (s.calls.set i .committing)[k]? = some e ∧ e.Claiming := by
    intro k d hk hd
    by_cases hki : k = i
    · exact ⟨.committing, hki ▸ getElem?_set_of_some s.calls i _ _ hget, Or.inr rfl⟩
    · exact ⟨d, getElem?_set_of_ne s.calls i k _ d hki hk, hd⟩
  rcases h with hfailed | ⟨p, r, d, e, hne, hp, hr, hd, he⟩ | ⟨_, hrow⟩
  · exact Or.inl ((mem_set_of_mem s.calls i _ _ _ hget hfailed).resolve_right
      Phase.noConfusion)
  · rcases hstill p d hp hd with ⟨d', hp', hd'⟩
    rcases hstill r e hr he with ⟨e', hr', he'⟩
    exact Or.inr (Or.inl ⟨p, r, d', e', hne, hp', hr', hd', he'⟩)
  · exact absurd hrow hnone

/-- After a COMMIT, a second call between the two is one that will fail. -/
theorem bad_committed (q : Request) (s : State) (i : Nat) (ud : UserDevice) (hs : Sound q s)
    (h : Bad q s) (hget : s.calls[i]? = some .committing) (hkey : ud.key = q.key) :
    Bad q ⟨⟨s.store.rows ++ [ud], []⟩, s.calls.set i .refreshing⟩ := by
  have hrow : Claimed q ⟨⟨s.store.rows ++ [ud], []⟩, s.calls.set i .refreshing⟩ :=
    ⟨ud, List.mem_append_right _ (List.mem_singleton_self ud), hkey⟩
  have hother : ∀ (k : Nat) (d : Phase), k ≠ i → s.calls[k]? = some d → d.Claiming →
      Bad q ⟨⟨s.store.rows ++ [ud], []⟩, s.calls.set i .refreshing⟩ := by
    intro k d hne hk hd
    rcases hd with hinserting | hcommitting
    · rw [hinserting] at hk
      exact Or.inr (Or.inr ⟨List.mem_of_getElem? (getElem?_set_of_ne s.calls i k _ _ hne hk), hrow⟩)
    · rw [hcommitting] at hk
      rcases hs.lock with ⟨_, hno⟩ | ⟨j, _, _, _, _, honly, _⟩
      · exact absurd (List.mem_of_getElem? hk) hno
      · exact absurd ((honly k hk).trans (honly i hget).symm) hne
  rcases h with hfailed | ⟨p, r, d, e, hne, hp, hr, hd, he⟩ | ⟨hinserting, _⟩
  · exact Or.inl ((mem_set_of_mem s.calls i _ _ _ hget hfailed).resolve_right Phase.noConfusion)
  · by_cases hpi : p = i
    · exact hother r e (fun heq => hne (hpi.trans heq.symm)) hr he
    · exact hother p d hpi hp hd
  · exact Or.inr (Or.inr ⟨(mem_set_of_mem s.calls i _ _ _ hget hinserting).resolve_right
      Phase.noConfusion, hrow⟩)

theorem bad_step (q : Request) (s s' : State) (a : Act) (hs : Sound q s) (h : Bad q s)
    (hmoves : Moves q s a s') : Bad q s' := by
  cases hmoves with
  | request =>
      rcases h with hfailed | ⟨p, r, d, e, hne, hp, hr, hd, he⟩ | ⟨hinserting, hrow⟩
      · exact Or.inl (List.mem_append_left _ hfailed)
      · exact Or.inr (Or.inl ⟨p, r, d, e, hne, getElem?_concat_of_some _ _ _ _ hp,
          getElem?_concat_of_some _ _ _ _ hr, hd, he⟩)
      · exact Or.inr (Or.inr ⟨List.mem_append_left _ hinserting, hrow⟩)
  | device i hget =>
      exact bad_move q s i _ _ h hget (not_claiming _ Phase.noConfusion Phase.noConfusion)
        Phase.noConfusion
  | found i resp hget hrow =>
      exact bad_move q s i _ _ h hget (not_claiming _ Phase.noConfusion Phase.noConfusion)
        Phase.noConfusion
  | missing i hget hnone =>
      exact bad_move q s i _ _ h hget (not_claiming _ Phase.noConfusion Phase.noConfusion)
        Phase.noConfusion
  | inserted i now ud hget hkey hfree hnone => exact bad_inserted q s i ud h hget hnone
  | refused i now hget hrow => exact Or.inl (mem_set_of_some s.calls i _ _ hget)
  | committed i ud hget hkey hpending => exact bad_committed q s i ud hs h hget hkey
  | refreshed i resp hget =>
      exact bad_move q s i _ _ h hget (not_claiming _ Phase.noConfusion Phase.noConfusion)
        Phase.noConfusion

/-- As long as a call has not returned, some call has a statement to execute. -/
theorem finished_of_stuck (env : Env) (db : Database) (q : Request) (s : State) (hs : Sound q s)
    (hstuck : Stuck env db q s) : ∀ c ∈ s.calls, c.isFinished = true := by
  have henabled : ∀ (i : Nat) (c : Phase) stmt, s.calls[i]? = some c →
      execute env db q s.store i c stmt = none := by
    intro i c stmt hget
    have hnone := hstuck i stmt
    rw [step, hget] at hnone
    exact Option.map_eq_none_iff.mp hnone
  have hcommitting : .committing ∉ s.calls := by
    intro hmem
    rcases List.getElem?_of_mem hmem with ⟨j, hj⟩
    exact absurd (henabled j _ .commit hj) (by simp only [execute, reduceCtorEq, not_false_eq_true])
  intro c hc
  rcases List.getElem?_of_mem hc with ⟨i, hget⟩
  cases c with
  | finished reply => rfl
  | committing => exact absurd hc hcommitting
  | selectDevice =>
      have hnone := henabled i _ .selectDevice hget
      rw [execute] at hnone
      split at hnone
      · exact absurd hnone (by simp only [reduceCtorEq, not_false_eq_true])
      · exact absurd hnone (by simp only [reduceCtorEq, not_false_eq_true])
      · exact absurd hnone (by simp only [reduceCtorEq, not_false_eq_true])
  | selectOwned =>
      have hnone := henabled i _ .selectOwned hget
      rw [execute] at hnone
      split at hnone
      · exact absurd hnone (by simp only [reduceCtorEq, not_false_eq_true])
      · exact absurd hnone (by simp only [reduceCtorEq, not_false_eq_true])
      · exact absurd hnone (by simp only [reduceCtorEq, not_false_eq_true])
  | refreshing =>
      have hnone := henabled i _ .refresh hget
      rw [execute] at hnone
      split at hnone
      · exact absurd hnone (by simp only [reduceCtorEq, not_false_eq_true])
      · exact absurd hnone (by simp only [reduceCtorEq, not_false_eq_true])
  | inserting =>
      -- Only a call that can commit keeps another one waiting.
      have hfree : s.store.pending = [] := by
        rcases hs.lock with ⟨hpending, _⟩ | ⟨j, _, _, _, hj, _, _⟩
        · exact hpending
        · exact absurd (List.mem_of_getElem? hj) hcommitting
      have hnone := henabled i _ (.insert 0) hget
      have hopen : ¬ s.store.blocked UserDevice.key i q.key = true := by
        rw [Store.blocked, hfree]
        exact Bool.false_ne_true
      rw [execute, insertRow, if_neg hopen] at hnone
      split at hnone
      · exact absurd hnone (by simp only [reduceCtorEq, not_false_eq_true])
      · exact absurd hnone (by simp only [reduceCtorEq, not_false_eq_true])

/-- The statements a call has left, at most. -/
def Phase.remaining : Phase → Nat
  | .selectDevice => 5
  | .selectOwned => 4
  | .inserting => 3
  | .committing => 2
  | .refreshing => 1
  | .finished _ => 0

/-- An arrival brings five statements along, and every statement is one less. -/
theorem moves_remaining (q : Request) (s s' : State) (a : Act) (hmoves : Moves q s a s') :
    1 + total Phase.remaining s'.calls + 6 * s.calls.length ≤
      6 * s'.calls.length + total Phase.remaining s.calls := by
  have hless : ∀ (i : Nat) (c c' : Phase), s.calls[i]? = some c → c'.remaining < c.remaining →
      1 + total Phase.remaining (s.calls.set i c') + 6 * s.calls.length ≤
        6 * (s.calls.set i c').length + total Phase.remaining s.calls := by
    intro i c c' hget hlt
    have htotal := total_set_lt Phase.remaining s.calls i c c' hget hlt
    rw [List.length_set]
    omega
  cases hmoves with
  | request =>
      rw [total_concat, List.length_append, List.length_singleton, Phase.remaining]
      omega
  | device i hget => exact hless i _ _ hget (by decide)
  | found i resp hget hrow => exact hless i _ _ hget (Nat.zero_lt_succ 3)
  | missing i hget hnone => exact hless i _ _ hget (by decide)
  | inserted i now ud hget hkey hfree hnone => exact hless i _ _ hget (by decide)
  | refused i now hget hrow => exact hless i _ _ hget (Nat.zero_lt_succ 2)
  | committed i ud hget hkey hpending => exact hless i _ _ hget (by decide)
  | refreshed i resp hget => exact hless i _ _ hget (Nat.zero_lt_succ 0)

/-- A run is as long as its calls have statements. -/
theorem length_run (env : Env) (db : Database) (q : Request) (hq : Entitled env db q)
    (acts : List Act) : ∀ s t : State, Sound q s → run (step env db q) s acts = some t →
      acts.length + total Phase.remaining t.calls + 6 * s.calls.length ≤
        6 * t.calls.length + total Phase.remaining s.calls := by
  induction acts with
  | nil =>
      intro s t _ hrun
      rw [run, Option.some.injEq] at hrun
      rw [← hrun, List.length_nil]
      omega
  | cons a acts ih =>
      intro s t hs hrun
      rcases (run_cons_eq_some (step env db q) s t a acts).mp hrun with ⟨m, hstep, hrest⟩
      have hmoves := step_moves env db q hq s m a hs hstep
      have hone := moves_remaining q s m a hmoves
      have hothers := ih m t (sound_step q s m a hs hmoves) hrest
      rw [List.length_cons]
      omega

theorem idempotent_of_good (q : Request) (s : State) (hs : Sound q s) (h : Good q s)
    (hfinished : ∀ c ∈ s.calls, c.isFinished = true) : Idempotent q s := by
  have hreturned : ∀ c ∈ s.calls, ∃ resp, c = .finished (.ok resp) := by
    intro c hc
    cases c with
    | finished reply =>
        rcases h.ok reply hc with ⟨resp, hok⟩
        exact ⟨resp, congrArg Phase.finished hok⟩
    | _ => exact absurd (hfinished _ hc) Bool.false_ne_true
  refine ⟨hreturned, fun hsome => ?_⟩
  -- The response of any call is about the row.
  rcases List.exists_mem_of_ne_nil s.calls hsome with ⟨c, hc⟩
  rcases hreturned c hc with ⟨resp, hok⟩
  rcases filter_of_claimed hs (hs.returned resp (hok ▸ hc)) with ⟨ud, hud⟩
  rw [hud, List.length_singleton]

theorem not_idempotent_of_bad (q : Request) (s : State) (h : Bad q s) : ¬ Idempotent q s := by
  intro hidem
  have hdone : ∀ c ∈ s.calls, ¬ c.Claiming := by
    intro c hc hclaiming
    rcases hidem.returned c hc with ⟨resp, hok⟩
    rw [hok] at hclaiming
    exact not_claiming _ Phase.noConfusion Phase.noConfusion hclaiming
  rcases h with hfailed | ⟨i, _, c, _, _, hi, _, hclaiming, _⟩ | ⟨hinserting, _⟩
  · rcases hidem.returned _ hfailed with ⟨resp, hok⟩
    exact absurd (Phase.finished.inj hok) (by simp only [reduceCtorEq, not_false_eq_true])
  · exact hdone c (List.mem_of_getElem? hi) hclaiming
  · exact hdone _ hinserting (Or.inl rfl)

/-- The calls come to an end, in whatever order their statements are executed.
    In the end all of them have succeeded and there is one row exactly if no
    call found the table empty while another one that found it empty had yet to
    commit. -/
theorem claim_idempotent_iff (env : Env) (db : Database) (q : Request) (hq : Entitled env db q)
    (acts : List Act) (s : State) (hrun : run (step env db q) (start db) acts = some s) :
    acts.length ≤ 6 * s.calls.length ∧ (Stuck env db q s →
      (Idempotent q s ↔ Along (step env db q) (Careful q) (start db) acts)) := by
  have hmoves := step_moves env db q hq
  refine ⟨?_, fun hstuck => ?_⟩
  · have hlength := length_run env db q hq acts (start db) s (sound_start db q) hrun
    rw [start, total, List.length_nil] at hlength
    omega
  have hfinished := finished_of_stuck env db q s (sound_run env db q hq acts s hrun) hstuck
  rcases run_dichotomy (step env db q) (Careful q) (fun s => Sound q s ∧ Good q s)
    (fun s => Sound q s ∧ Bad q s)
    (fun s a s' h hcareful hstep => ⟨sound_step q s s' a h.1 (hmoves s s' a h.1 hstep),
      good_step q s s' a h.2 hcareful (hmoves s s' a h.1 hstep)⟩)
    (fun s a s' h hcareless hstep => ⟨sound_step q s s' a h.1 (hmoves s s' a h.1 hstep),
      bad_of_careless q s s' a hcareless (hmoves s s' a h.1 hstep)⟩)
    (fun s a s' h hstep => ⟨sound_step q s s' a h.1 (hmoves s s' a h.1 hstep),
      bad_step q s s' a h.1 h.2 (hmoves s s' a h.1 hstep)⟩)
    acts (start db) s ⟨sound_start db q, good_start db q⟩ hrun with
    ⟨halong, hsound, hgood⟩ | ⟨hnot, _, hbad⟩
  · exact iff_of_true (idempotent_of_good q s hsound hgood hfinished) halong
  · exact iff_of_false (not_idempotent_of_bad q s hbad) hnot

/-- Nothing is left to do once every call has returned. -/
theorem stuck_of_finished (env : Env) (db : Database) (q : Request) (s : State)
    (h : ∀ c ∈ s.calls, c.isFinished = true) : Stuck env db q s := by
  intro i stmt
  cases hget : s.calls[i]? with
  | none => rw [step, hget]
  | some c =>
      have hfinished := h c (List.mem_of_getElem? hget)
      rw [step, hget, Option.map_eq_none_iff]
      cases c with
      | finished reply =>
          cases stmt with
          | _ => rfl
      | _ => exact absurd hfinished Bool.false_ne_true

/-- A user claims a device, with its code. -/
def demoRequest : Request := ⟨Access.demoUser, "vena-b", "C0DE"⟩

theorem entitled_demo : Entitled Access.demoEnv Access.demoDb demoRequest :=
  ⟨List.mem_singleton.mpr rfl, ⟨"vena-b", "C0DE", none, none, none, "online"⟩, by decide +kernel⟩

/-- A second claim, after the first one. -/
def repeatedClaim : List Act :=
  [.request, .exec 0 .selectDevice, .exec 0 .selectOwned, .exec 0 (.insert 7), .exec 0 .commit,
    .exec 0 .refresh, .request, .exec 1 .selectDevice, .exec 1 .selectOwned]

/-- A second claim, before the first one has inserted its row. -/
def doubledClaim : List Act :=
  [.request, .request, .exec 0 .selectDevice, .exec 1 .selectDevice, .exec 0 .selectOwned,
    .exec 1 .selectOwned, .exec 0 (.insert 7), .exec 0 .commit, .exec 1 (.insert 8),
    .exec 0 .refresh]

/-- How a run of such calls ends. -/
def demoEnd (acts : List Act) : Option State :=
  run (step Access.demoEnv Access.demoDb demoRequest) (start Access.demoDb) acts

theorem isSome_repeated : (demoEnd repeatedClaim).isSome = true := by decide +kernel

/-- The second one finds the row. -/
theorem claim_idempotent_repeated : ∃ s,
    run (step Access.demoEnv Access.demoDb demoRequest) (start Access.demoDb) repeatedClaim =
      some s ∧ s.calls.length = 2 ∧ Idempotent demoRequest s := by
  have hrun : run (step Access.demoEnv Access.demoDb demoRequest) (start Access.demoDb)
      repeatedClaim = some ((demoEnd repeatedClaim).get isSome_repeated) :=
    (Option.some_get isSome_repeated).symm
  have hfinished : ∀ c ∈ ((demoEnd repeatedClaim).get isSome_repeated).calls,
      c.isFinished = true := by decide +kernel
  have halong : Along (step Access.demoEnv Access.demoDb demoRequest) (Careful demoRequest)
      (start Access.demoDb) repeatedClaim := by decide +kernel
  exact ⟨_, hrun, by decide +kernel, ((claim_idempotent_iff Access.demoEnv Access.demoDb
    demoRequest entitled_demo repeatedClaim _ hrun).2 (stuck_of_finished Access.demoEnv
    Access.demoDb demoRequest _ hfinished)).mpr halong⟩

theorem isSome_doubled : (demoEnd doubledClaim).isSome = true := by decide +kernel

/-- The second call raises on the row of the first one. -/
theorem claim_twice : ¬ ∀ (env : Env) (db : Database) (q : Request), Entitled env db q →
    ∀ (acts : List Act) (s : State), run (step env db q) (start db) acts = some s →
    Stuck env db q s → Idempotent q s := by
  intro hall
  have hrun : run (step Access.demoEnv Access.demoDb demoRequest) (start Access.demoDb)
      doubledClaim = some ((demoEnd doubledClaim).get isSome_doubled) :=
    (Option.some_get isSome_doubled).symm
  have hfinished : ∀ c ∈ ((demoEnd doubledClaim).get isSome_doubled).calls,
      c.isFinished = true := by decide +kernel
  have hcrash : .finished .crash ∈ ((demoEnd doubledClaim).get isSome_doubled).calls := by
    decide +kernel
  have hidem := hall Access.demoEnv Access.demoDb demoRequest entitled_demo doubledClaim _ hrun
    (stuck_of_finished _ _ _ _ hfinished)
  exact not_idempotent_of_bad demoRequest _ (Or.inl hcrash) hidem

end ConcurrentClaim

end Backend

end Vena
