import Vena.Mobile.Accounts
import Vena.Mobile.OutboxOwed

/-!
# Whose entries the worker sends

The stored token is all a call for an entry goes by, so the entries are kept
apart only as long as every stored token belongs to whoever queued the entries
that are still to be called for. `needsAccess` lists the entries that the next
reading of the access token may be for, `needsRefresh` those for which the
refresh token may yet be exchanged. `account_isolation` says that nothing else
is needed: the tokens change hands only between the entries of two users.

## Main definitions

* `OwnedBy`: Entries queued by one user, or by nobody.
* `waiting`, `needsAccess`, `needsRefresh`: The entries a token may be needed
  for.
* `Careful`: A token changes hands while nobody else's entry needs it.
* `Safe`: The tokens belong to whoever needs them.

## Theorems

* `move_spec`: What a step of a task does to the tokens.
* `safe_step`: What a careful step keeps.
* `account_isolation`: Careful runs keep the users apart.
* `crossed_accounts`: An entry that waits while the user changes.
-/

namespace Vena

namespace Mobile

namespace Accounts

open Backend Python Run

/-- Whoever queued one of these entries is the given user. -/
def OwnedBy (owners : List (Nat × Option User)) (ids : List Nat) (who : Option User) : Prop :=
  ∀ p ∈ owners, ∀ user ∈ p.2, p.1 ∈ ids → who = some user

instance (owners : List (Nat × Option User)) (ids : List Nat) (who : Option User) :
    Decidable (OwnedBy owners ids who) :=
  inferInstanceAs (Decidable (∀ p ∈ owners, ∀ user ∈ p.2, _ → _))

def Progress.isUnsent : Progress → Bool
  | .unsent => true
  | _ => false

def Progress.isSent : Progress → Bool
  | .sent _ => true
  | _ => false

/-- The entries of the calls that are that far. -/
def entriesOf (q : Progress → Bool) (calls : List ApiCall) : List Nat :=
  (calls.filter (fun c => q c.progress)).map ApiCall.entry

/-- The entries a call is to be made for, or about to. -/
def waiting (s : Phone) : List Nat := Outbox.owed s.outbox ++ entriesOf Progress.isUnsent s.calls

/-- The entry a handler will retry the call of, with the token that is stored. -/
def Task.retries : Task → Option Nat
  | .savingRefresh rejected _ true _ => rejected.map Rejected.entry
  | .refreshed rejected => rejected.map Rejected.entry
  | _ => none

/-- The entry for whose call a handler will read the refresh token. -/
def Task.refreshes : Task → Option Nat
  | .refreshing rejected => rejected.map Rejected.entry
  | _ => none

/-- The entry for whose call a handler has posted a refresh token, and whose. -/
def Task.exchanges : Task → Option (Nat × User)
  | .posting rejected user => rejected.map (fun r => (r.entry, user))
  | .savingRefresh rejected user _ _ => rejected.map (fun r => (r.entry, user))
  | _ => none

/-- The user whose tokens a task is saving. -/
def Task.saving : Task → Option User
  | .savingLogin user _ _ => some user
  | .savingRefresh _ user _ _ => some user
  | _ => none

def needsAccess (s : Phone) : List Nat :=
  waiting s ++ s.tasks.filterMap Task.retries

def needsRefresh (s : Phone) : List Nat :=
  waiting s ++ entriesOf Progress.isSent s.calls ++ s.tasks.filterMap Task.refreshes

/-- An entry is queued while the tokens are those of the signed-in user. -/
def OwnTokens (a : Account) : Prop :=
  a.signedIn = none ∨ (a.access = a.signedIn ∧ (a.refresh = none ∨ a.refresh = a.signedIn))

instance (a : Account) : Decidable (OwnTokens a) := inferInstanceAs (Decidable (_ ∨ _))

/-- Entries are queued with the tokens of the signed-in user in the storage, and
    a token is written or deleted while no entry of anybody else needs it. -/
def Careful (s : Phone) : Action → Prop
  | .outbox (.claimDevice _ _ _) => OwnTokens s.account
  | .outbox (.renameDevice _ _ _) => OwnTokens s.account
  | .task i .writeAccess => ∀ task ∈ s.tasks[i]?, ∀ user ∈ task.saving,
      OwnedBy s.queuedBy (needsAccess s) (some user)
  | .task i .writeRefresh => ∀ task ∈ s.tasks[i]?, ∀ user ∈ task.saving,
      OwnedBy s.queuedBy (needsRefresh s) (some user)
  | .task _ .clear => OwnedBy s.queuedBy (needsAccess s) none
  | _ => True

instance (s : Phone) : (a : Action) → Decidable (Careful s a)
  | .outbox (.claimDevice _ _ _) => inferInstanceAs (Decidable (OwnTokens _))
  | .outbox (.renameDevice _ _ _) => inferInstanceAs (Decidable (OwnTokens _))
  | .task i .writeAccess => inferInstanceAs (Decidable (∀ task ∈ s.tasks[i]?, _))
  | .task i .writeRefresh => inferInstanceAs (Decidable (∀ task ∈ s.tasks[i]?, _))
  | .task _ .clear => inferInstanceAs (Decidable (OwnedBy _ _ _))
  | .signIn => instDecidableTrue
  | .signOut => instDecidableTrue
  | .outbox (.query _) => instDecidableTrue
  | .outbox .deliver => instDecidableTrue
  | .outbox .fire => instDecidableTrue
  | .outbox (.requery _) => instDecidableTrue
  | .outbox .retry => instDecidableTrue
  | .outbox (.batch _ _) => instDecidableTrue
  | .outbox (.serve _ _) => instDecidableTrue
  | .outbox (.lose _) => instDecidableTrue
  | .authorize _ => instDecidableTrue
  | .unauthorized _ => instDecidableTrue
  | .unauthorizedOther => instDecidableTrue
  | .task _ (.exchange _) => instDecidableTrue
  | .task _ .persist => instDecidableTrue
  | .task _ .deleteSession => instDecidableTrue
  | .task _ .readRefresh => instDecidableTrue
  | .task _ .receive => instDecidableTrue
  | .task _ .readAccess => instDecidableTrue
  | .task _ .resolve => instDecidableTrue
  | .task _ .readToken => instDecidableTrue
  | .task _ .readRows => instDecidableTrue
  | .task _ .fail => instDecidableTrue

/-- The identifiers in use, which come before the next one. -/
def used (s : Phone) : List Nat :=
  needsAccess s ++ needsRefresh s ++ (s.tasks.filterMap Task.exchanges).map Prod.fst ++
    s.log.map Prod.fst

structure Safe (s : Phone) : Prop where
  access : OwnedBy s.queuedBy (needsAccess s) s.account.access
  refresh : s.account.refresh = none ∨ OwnedBy s.queuedBy (needsRefresh s) s.account.refresh
  exchanged : ∀ p ∈ s.tasks.filterMap Task.exchanges, OwnedBy s.queuedBy [p.1] (some p.2)
  made : ∀ p ∈ s.log, OwnedBy s.queuedBy [p.1] p.2
  old : ∀ id ∈ used s, id < s.outbox.nextId
  owners : ∀ p ∈ s.queuedBy, p.1 < s.outbox.nextId

theorem ownedBy_mono (owners : List (Nat × Option User)) (ids ids' : List Nat) (who : Option User)
    (hsub : ∀ id ∈ ids', id ∈ ids) (h : OwnedBy owners ids who) : OwnedBy owners ids' who :=
  fun p hp user huser hid => h p hp user huser (hsub p.1 hid)

theorem ownedBy_append (owners : List (Nat × Option User)) (ids ids' : List Nat)
    (who : Option User) (h : OwnedBy owners ids who) (h' : OwnedBy owners ids' who) :
    OwnedBy owners (ids ++ ids') who := by
  intro p hp user huser hid
  rcases List.mem_append.mp hid with hin | hin
  · exact h p hp user huser hin
  · exact h' p hp user huser hin

/-- A new entry is none of the old ones. -/
theorem ownedBy_queue (owners : List (Nat × Option User)) (ids : List Nat) (who : Option User)
    (next : Nat) (owner : Option User) (h : OwnedBy owners ids who) (hold : ∀ id ∈ ids, id < next) :
    OwnedBy (owners ++ [(next, owner)]) ids who := by
  intro p hp user huser hid
  rcases List.mem_append.mp hp with hin | hnew
  · exact h p hin user huser hid
  · rw [List.mem_singleton.mp hnew] at hid
    exact absurd (hold next hid) (Nat.lt_irrefl next)

theorem mem_entriesOf (q : Progress → Bool) (calls : List ApiCall) (id : Nat) :
    id ∈ entriesOf q calls ↔ ∃ c ∈ calls, q c.progress = true ∧ c.entry = id := by
  unfold entriesOf
  simp only [List.mem_map, List.mem_filter, and_assoc]

/-- An update that makes no call match leaves no entry that did not. -/
theorem entriesOf_update (q : Progress → Bool) (f : Progress → Progress)
    (hf : ∀ p, q (f p) = true → q p = true) (calls : List ApiCall) (call : Nat) :
    ∀ id ∈ entriesOf q (update calls call f), id ∈ entriesOf q calls := by
  intro id hid
  rcases (mem_entriesOf q _ id).mp hid with ⟨c, hc, hq, rfl⟩
  rcases List.getElem?_of_mem hc with ⟨j, hj⟩
  unfold update at hj
  rw [List.getElem?_modify] at hj
  rcases Option.map_eq_some_iff.mp hj with ⟨d, hd, heq⟩
  refine (mem_entriesOf q calls c.entry).mpr ⟨d, List.mem_of_getElem? hd, ?_, ?_⟩
  · split at heq
    · exact hf d.progress (by rw [← heq] at hq; exact hq)
    · rw [show d = c from heq]
      exact hq
  · split at heq
    · rw [← heq]
    · rw [show d = c from heq]

theorem entriesOf_set (q : Progress → Bool) (calls : List ApiCall) (call : Nat) (c : ApiCall) :
    ∀ id ∈ entriesOf q (calls.set call c),
      id ∈ entriesOf q calls ∨ (q c.progress = true ∧ id = c.entry) := by
  intro id hid
  rcases (mem_entriesOf q _ id).mp hid with ⟨d, hd, hq, rfl⟩
  rcases List.mem_or_eq_of_mem_set hd with hold | rfl
  · exact Or.inl ((mem_entriesOf q calls d.entry).mpr ⟨d, hold, hq, rfl⟩)
  · exact Or.inr ⟨hq, rfl⟩

/-- A call that moves on to where nothing asks for it. -/
theorem entriesOf_set_of_not (q : Progress → Bool) (calls : List ApiCall) (call : Nat)
    (c : ApiCall) (hq : q c.progress = false) :
    ∀ id ∈ entriesOf q (calls.set call c), id ∈ entriesOf q calls := by
  intro id hid
  refine (entriesOf_set q calls call c id hid).resolve_right (fun hthere => ?_)
  exact absurd (hq.symm.trans hthere.1) Bool.false_ne_true

theorem waiting_set (s : Phone) (call : Nat) (c : ApiCall) (hsent : c.progress.isUnsent = false) :
    ∀ id ∈ waiting { s with calls := s.calls.set call c }, id ∈ waiting s := by
  intro id hid
  rcases List.mem_append.mp hid with hin | hin
  · exact List.mem_append_left _ hin
  · exact List.mem_append_right _ (entriesOf_set_of_not _ s.calls call c hsent id hin)

theorem mem_filterMap_set {β : Type} (f : Task → Option β) (tasks : List Task) (i : Nat)
    (task : Task) (x : β) (hx : x ∈ (tasks.set i task).filterMap f) :
    x ∈ tasks.filterMap f ∨ f task = some x := by
  rcases List.mem_filterMap.mp hx with ⟨t, ht, hft⟩
  rcases List.mem_or_eq_of_mem_set ht with hold | rfl
  · exact Or.inl (List.mem_filterMap.mpr ⟨t, hold, hft⟩)
  · exact Or.inr hft

theorem mem_filterMap_concat {β : Type} (f : Task → Option β) (tasks : List Task) (task : Task)
    (x : β) (hx : x ∈ (tasks ++ [task]).filterMap f) :
    x ∈ tasks.filterMap f ∨ f task = some x := by
  rcases List.mem_filterMap.mp hx with ⟨t, ht, hft⟩
  rcases List.mem_append.mp ht with hold | hnew
  · exact Or.inl (List.mem_filterMap.mpr ⟨t, hold, hft⟩)
  · exact Or.inr (List.mem_singleton.mp hnew ▸ hft)

theorem mem_filterMap_of {β : Type} (f : Task → Option β) (tasks : List Task) (i : Nat)
    (task : Task) (x : β) (hget : tasks[i]? = some task) (hx : f task = some x) :
    x ∈ tasks.filterMap f :=
  List.mem_filterMap.mpr ⟨task, List.mem_of_getElem? hget, hx⟩

theorem mem_used (s : Phone) (id : Nat) : id ∈ used s ↔ id ∈ needsAccess s ∨
    id ∈ needsRefresh s ∨ (∃ p ∈ s.tasks.filterMap Task.exchanges, p.1 = id) ∨
      ∃ p ∈ s.log, p.1 = id := by
  unfold used
  simp only [List.mem_append, List.mem_map, or_assoc]

/-- A step that needs the tokens for nothing new, makes no call and queues
    nothing. -/
theorem safe_of_less (s s' : Phone) (h : Safe s) (haccount : s'.account = s.account)
    (howners : s'.queuedBy = s.queuedBy) (hlog : s'.log = s.log)
    (hnext : s'.outbox.nextId = s.outbox.nextId)
    (haccess : ∀ id ∈ needsAccess s', id ∈ needsAccess s)
    (hrefresh : ∀ id ∈ needsRefresh s', id ∈ needsRefresh s)
    (hexchanges : ∀ p ∈ s'.tasks.filterMap Task.exchanges,
      p ∈ s.tasks.filterMap Task.exchanges) : Safe s' := by
  refine ⟨?_, ?_, ?_, ?_, ?_, ?_⟩
  · rw [haccount, howners]
    exact ownedBy_mono _ _ _ _ haccess h.access
  · rw [haccount, howners]
    exact h.refresh.imp_right (ownedBy_mono _ _ _ _ hrefresh)
  · rw [howners]
    exact fun p hp => h.exchanged p (hexchanges p hp)
  · rw [howners, hlog]
    exact h.made
  · rw [hnext]
    intro id hid
    refine h.old id ((mem_used s id).mpr ?_)
    rcases (mem_used s' id).mp hid with hin | hin | ⟨p, hp, rfl⟩ | ⟨p, hp, rfl⟩
    · exact Or.inl (haccess id hin)
    · exact Or.inr (Or.inl (hrefresh id hin))
    · exact Or.inr (Or.inr (Or.inl ⟨p, hexchanges p hp, rfl⟩))
    · exact Or.inr (Or.inr (Or.inr ⟨p, hlog ▸ hp, rfl⟩))
  · rw [howners, hnext]
    exact h.owners

/-- A task that joins without need for a token. -/
theorem safe_join (s : Phone) (task : Task) (h : Safe s) (hretries : task.retries = none)
    (hrefreshes : task.refreshes = none) (hexchanges : task.exchanges = none) :
    Safe { s with tasks := s.tasks ++ [task] } := by
  refine safe_of_less s _ h rfl rfl rfl rfl (fun id hid => ?_) (fun id hid => ?_)
    (fun p hp => ?_)
  · rcases List.mem_append.mp hid with hin | hin
    · exact List.mem_append_left _ hin
    · rcases mem_filterMap_concat _ _ _ _ hin with hold | hnew
      · exact List.mem_append_right _ hold
      · exact absurd (hretries.symm.trans hnew) (by simp only [reduceCtorEq, not_false_eq_true])
  · rcases List.mem_append.mp hid with hin | hin
    · exact List.mem_append_left _ hin
    · rcases mem_filterMap_concat _ _ _ _ hin with hold | hnew
      · exact List.mem_append_right _ hold
      · exact absurd (hrefreshes.symm.trans hnew) (by simp only [reduceCtorEq,
          not_false_eq_true])
  · rcases mem_filterMap_concat _ _ _ _ hp with hold | hnew
    · exact hold
    · exact absurd (hexchanges.symm.trans hnew) (by simp only [reduceCtorEq, not_false_eq_true])

theorem isUnsent_close (p : Progress) (h : p.close.isUnsent = true) : p.isUnsent = true := by
  cases p with
  | sent token => exact h
  | unsent => rfl
  | rejected => exact h
  | retried token => exact h
  | refused token => exact h
  | closed token => exact h

theorem isSent_close (p : Progress) (h : p.close.isSent = true) : p.isSent = true := by
  cases p with
  | sent token => rfl
  | unsent => exact h
  | rejected => exact h
  | retried token => exact h
  | refused token => exact h
  | closed token => exact h

/-- A batch passes its next item to the interceptor; other steps of the outbox
    only close calls. -/
theorem tracked_unsent (s : Phone) (a : Outbox.Act) :
    ∀ id ∈ entriesOf Progress.isUnsent (tracked s a), id ∈ waiting s := by
  intro id hid
  have hclose : ∀ call, id ∈ entriesOf Progress.isUnsent (update s.calls call Progress.close) →
      id ∈ waiting s := fun call hin =>
    List.mem_append_right _ (entriesOf_update _ _ isUnsent_close s.calls call id hin)
  have hsame : id ∈ entriesOf Progress.isUnsent s.calls → id ∈ waiting s :=
    fun hin => List.mem_append_right _ hin
  unfold tracked at hid
  split at hid
  · split at hid
    · next b _ item rest hget =>
        rcases (mem_entriesOf _ _ id).mp hid with ⟨c, hc, hq, rfl⟩
        rcases List.mem_append.mp hc with hold | hnew
        · exact hsame ((mem_entriesOf _ _ c.entry).mpr ⟨c, hold, hq, rfl⟩)
        · rw [List.mem_singleton.mp hnew]
          exact List.mem_append_left _ (Outbox.owed_batch s.outbox _ (List.mem_of_getElem? hget)
            item List.mem_cons_self)
    · exact hsame hid
  · split at hid
    · exact hclose _ hid
    · exact hsame hid
  · exact hclose _ hid
  · exact hclose _ hid
  · exact hsame hid

theorem tracked_sent (s : Phone) (a : Outbox.Act) :
    ∀ id ∈ entriesOf Progress.isSent (tracked s a), id ∈ entriesOf Progress.isSent s.calls := by
  intro id hid
  have hclose : ∀ call, id ∈ entriesOf Progress.isSent (update s.calls call Progress.close) →
      id ∈ entriesOf Progress.isSent s.calls := fun call hin =>
    entriesOf_update _ _ isSent_close s.calls call id hin
  unfold tracked at hid
  split at hid
  · split at hid
    · rcases (mem_entriesOf _ _ id).mp hid with ⟨c, hc, hq, rfl⟩
      rcases List.mem_append.mp hc with hold | hnew
      · exact (mem_entriesOf _ _ c.entry).mpr ⟨c, hold, hq, rfl⟩
      · rw [List.mem_singleton.mp hnew] at hq
        exact absurd hq Bool.false_ne_true
    · exact hid
  · split at hid
    · exact hclose _ hid
    · exact hid
  · exact hclose _ hid
  · exact hclose _ hid
  · exact hid

/-- A step of the outbox is one of `Outbox.step`, for some user. -/
theorem outboxStep_spec (env : Env) (s : Phone) (a : Outbox.Act) (o : Outbox.State)
    (hstep : outboxStep env s a = some o) : ∃ user, Outbox.step env user s.outbox a = some o := by
  unfold outboxStep at hstep
  split at hstep
  · rcases Option.bind_eq_some_iff.mp hstep with ⟨c, _, hc⟩
    rcases Option.bind_eq_some_iff.mp hc with ⟨user, _, huser⟩
    exact ⟨user, huser⟩
  · exact ⟨nobody, hstep⟩

theorem queued_of_not (s : Phone) (a : Outbox.Act) (hqueues : a.queues = false) :
    queued s a = s.queuedBy := by
  cases a with
  | claimDevice deviceId pairingCode now => exact Bool.noConfusion hqueues
  | renameDevice deviceId deviceAlias now => exact Bool.noConfusion hqueues
  | query entries => rfl
  | deliver => rfl
  | fire => rfl
  | requery entries => rfl
  | retry => rfl
  | batch b stmt => rfl
  | serve call now => rfl
  | lose call => rfl

theorem safe_outbox (env : Env) (s : Phone) (a : Outbox.Act) (o : Outbox.State) (h : Safe s)
    (hqueues : a.queues = false) (hstep : outboxStep env s a = some o) :
    Safe { s with outbox := o, calls := tracked s a, queuedBy := queued s a } := by
  rcases outboxStep_spec env s a o hstep with ⟨user, hstep'⟩
  rcases Outbox.owed_step env user s.outbox o a hstep' hqueues with ⟨howed, hnext⟩
  have hwaiting : ∀ id ∈ waiting { s with
      outbox := o, calls := tracked s a, queuedBy := queued s a }, id ∈ waiting s := by
    intro id hid
    rcases List.mem_append.mp hid with hin | hin
    · exact List.mem_append_left _ (howed id hin)
    · exact tracked_unsent s a id hin
  refine safe_of_less s _ h rfl (queued_of_not s a hqueues) rfl hnext (fun id hid => ?_)
    (fun id hid => ?_) (fun _ hp => hp)
  · rcases List.mem_append.mp hid with hin | hin
    · exact List.mem_append_left _ (hwaiting id hin)
    · exact List.mem_append_right _ hin
  · unfold needsRefresh at hid ⊢
    rcases List.mem_append.mp hid with hin | hin
    · refine List.mem_append_left _ ?_
      rcases List.mem_append.mp hin with hin | hin
      · exact List.mem_append_left _ (hwaiting id hin)
      · exact List.mem_append_right _ (tracked_sent s a id hin)
    · exact List.mem_append_right _ hin

/-- The new entry is the signed-in user's, if anybody is signed in. -/
theorem ownedBy_next (owners : List (Nat × Option User)) (next : Nat) (owner who : Option User)
    (hold : ∀ p ∈ owners, p.1 < next) (hwho : owner = none ∨ who = owner) :
    OwnedBy (owners ++ [(next, owner)]) [next] who := by
  intro p hp user huser hid
  rw [List.mem_singleton] at hid
  rcases List.mem_append.mp hp with hin | hnew
  · exact absurd (hold p hin) (by rw [hid]; exact Nat.lt_irrefl next)
  · rw [List.mem_singleton.mp hnew] at huser
    rcases hwho with hnobody | hsame
    · rw [hnobody] at huser
      exact absurd huser (Option.not_mem_none user)
    · exact hsame.trans huser

theorem safe_queue (s : Phone) (action : Outbox.Action) (now : Int) (h : Safe s)
    (hown : OwnTokens s.account) : Safe { s with
      outbox := Outbox.insertAction s.outbox action now
      queuedBy := s.queuedBy ++ [(s.outbox.nextId, s.account.signedIn)] } := by
  -- The id of the new entry is fresh, so what was owned by its user still is.
  have hmem : ∀ id, id ∈ used s → id < s.outbox.nextId := h.old
  have hwaiting : ∀ id ∈ waiting { s with outbox := Outbox.insertAction s.outbox action now },
      id ∈ waiting s ++ [s.outbox.nextId] := by
    intro id hid
    rcases List.mem_append.mp hid with hin | hin
    · rcases Outbox.owed_insertAction s.outbox action now id hin with hold | hnew
      · exact List.mem_append_left _ (List.mem_append_left _ hold)
      · exact List.mem_append_right _ (List.mem_singleton.mpr hnew)
    · exact List.mem_append_left _ (List.mem_append_right _ hin)
  -- Each list an entry can be in grows by the new id at most.
  have haccess : ∀ id ∈ needsAccess { s with outbox := Outbox.insertAction s.outbox action now },
      id ∈ needsAccess s ++ [s.outbox.nextId] := by
    intro id hid
    rcases List.mem_append.mp hid with hin | hin
    · rcases List.mem_append.mp (hwaiting id hin) with hold | hnew
      · exact List.mem_append_left _ (List.mem_append_left _ hold)
      · exact List.mem_append_right _ hnew
    · exact List.mem_append_left _ (List.mem_append_right _ hin)
  have hrefresh : ∀ id ∈ needsRefresh { s with
      outbox := Outbox.insertAction s.outbox action now },
      id ∈ needsRefresh s ++ [s.outbox.nextId] := by
    intro id hid
    rcases List.mem_append.mp hid with hin | hin
    · rcases List.mem_append.mp hin with hin | hin
      · rcases List.mem_append.mp (hwaiting id hin) with hold | hnew
        · exact List.mem_append_left _ (List.mem_append_left _ (List.mem_append_left _ hold))
        · exact List.mem_append_right _ hnew
      · exact List.mem_append_left _ (List.mem_append_left _ (List.mem_append_right _ hin))
    · exact List.mem_append_left _ (List.mem_append_right _ hin)
  have holdAccess : ∀ id ∈ needsAccess s, id < s.outbox.nextId :=
    fun id hid => hmem id ((mem_used s id).mpr (Or.inl hid))
  have holdRefresh : ∀ id ∈ needsRefresh s, id < s.outbox.nextId :=
    fun id hid => hmem id ((mem_used s id).mpr (Or.inr (Or.inl hid)))
  refine ⟨?_, ?_, fun p hp => ?_, fun p hp => ?_, fun id hid => ?_, fun p hp => ?_⟩
  · refine ownedBy_mono _ _ _ _ haccess (ownedBy_append _ _ _ _
      (ownedBy_queue _ _ _ _ _ h.access holdAccess) (ownedBy_next _ _ _ _ h.owners ?_))
    exact hown.imp_right And.left
  · rcases h.refresh with hnone | howned
    · exact Or.inl hnone
    · by_cases hnone : s.account.refresh = none
      · exact Or.inl hnone
      · refine Or.inr (ownedBy_mono _ _ _ _ hrefresh (ownedBy_append _ _ _ _
          (ownedBy_queue _ _ _ _ _ howned holdRefresh) (ownedBy_next _ _ _ _ h.owners ?_)))
        exact hown.imp_right (fun hboth => hboth.2.resolve_left hnone)
  · refine ownedBy_queue _ _ _ _ _ (h.exchanged p hp) (fun id hid => ?_)
    rw [List.mem_singleton.mp hid]
    exact hmem p.1 ((mem_used s p.1).mpr (Or.inr (Or.inr (Or.inl ⟨p, hp, rfl⟩))))
  · refine ownedBy_queue _ _ _ _ _ (h.made p hp) (fun id hid => ?_)
    rw [List.mem_singleton.mp hid]
    exact hmem p.1 ((mem_used s p.1).mpr (Or.inr (Or.inr (Or.inr ⟨p, hp, rfl⟩))))
  · have hnew : ∀ ids : List Nat, (∀ id ∈ ids, id < s.outbox.nextId) →
        id ∈ ids ++ [s.outbox.nextId] → id < s.outbox.nextId + 1 := by
      intro ids hids hin
      rcases List.mem_append.mp hin with hold | hnext
      · exact Nat.lt_succ_of_lt (hids id hold)
      · rw [List.mem_singleton.mp hnext]
        exact Nat.lt_succ_self _
    rcases (mem_used _ id).mp hid with hin | hin | hin | hin
    · exact hnew _ holdAccess (haccess id hin)
    · exact hnew _ holdRefresh (hrefresh id hin)
    · exact Nat.lt_succ_of_lt (hmem id ((mem_used s id).mpr (Or.inr (Or.inr (Or.inl hin)))))
    · exact Nat.lt_succ_of_lt (hmem id ((mem_used s id).mpr (Or.inr (Or.inr (Or.inr hin)))))
  · rcases List.mem_append.mp hp with hold | hnew
    · exact Nat.lt_succ_of_lt (h.owners p hold)
    · rw [List.mem_singleton.mp hnew]
      exact Nat.lt_succ_self _

/-- Calls made with the stored token for entries that need it. -/
theorem safe_made (s : Phone) (more : List (Nat × Option User)) (h : Safe s)
    (hmore : ∀ p ∈ more, p.1 ∈ needsAccess s ∧ p.2 = s.account.access) :
    Safe { s with log := s.log ++ more } := by
  refine ⟨h.access, h.refresh, h.exchanged, fun p hp => ?_, fun id hid => ?_, h.owners⟩
  · rcases List.mem_append.mp hp with hold | hnew
    · exact h.made p hold
    · rcases hmore p hnew with ⟨hneeds, htoken⟩
      refine ownedBy_mono _ _ _ _ (fun id hid => ?_) (htoken ▸ h.access)
      rw [List.mem_singleton.mp hid]
      exact hneeds
  · refine h.old id ((mem_used s id).mpr ?_)
    rcases (mem_used _ id).mp hid with hin | hin | hin | ⟨p, hp, rfl⟩
    · exact Or.inl hin
    · exact Or.inr (Or.inl hin)
    · exact Or.inr (Or.inr (Or.inl hin))
    · rcases List.mem_append.mp hp with hold | hnew
      · exact Or.inr (Or.inr (Or.inr ⟨p, hold, rfl⟩))
      · exact Or.inl (hmore p hnew).1

/-- `onRequest` takes the stored token for an entry that was waiting for it. -/
theorem safe_authorize (s : Phone) (call entry : Nat) (h : Safe s)
    (hget : s.calls[call]? = some ⟨entry, .unsent⟩) : Safe { s with
      calls := s.calls.set call ⟨entry, .sent s.account.access⟩
      log := s.log ++ [(entry, s.account.access)] } := by
  have hentry : entry ∈ waiting s := List.mem_append_right _
    ((mem_entriesOf _ _ entry).mpr ⟨_, List.mem_of_getElem? hget, rfl, rfl⟩)
  have hwaiting := waiting_set s call ⟨entry, .sent s.account.access⟩ rfl
  have hmade := safe_made s [(entry, s.account.access)] h (fun p hp => by
    rw [List.mem_singleton.mp hp]
    exact ⟨List.mem_append_left _ hentry, rfl⟩)
  refine safe_of_less { s with log := s.log ++ [(entry, s.account.access)] } _ hmade rfl rfl rfl
    rfl (fun id hid => ?_) (fun id hid => ?_) (fun _ hp => hp)
  · rcases List.mem_append.mp hid with hin | hin
    · exact List.mem_append_left _ (hwaiting id hin)
    · exact List.mem_append_right _ hin
  · rcases List.mem_append.mp hid with hin | hin
    · refine List.mem_append_left _ ?_
      rcases List.mem_append.mp hin with hin | hin
      · exact List.mem_append_left _ (hwaiting id hin)
      -- The call may be answered 401, so its entry now needs the refresh token.
      · rcases entriesOf_set _ _ _ _ id hin with hold | ⟨_, rfl⟩
        · exact List.mem_append_right _ hold
        · exact List.mem_append_left _ hentry
    · exact List.mem_append_right _ hin

theorem safe_unauthorized (s : Phone) (call entry : Nat) (token : Option User) (h : Safe s)
    (hget : s.calls[call]? = some ⟨entry, .sent token⟩) : Safe { s with
      calls := s.calls.set call ⟨entry, .rejected⟩
      tasks := s.tasks ++ [.refreshing (some ⟨call, entry⟩)] } := by
  have hentry : entry ∈ entriesOf Progress.isSent s.calls :=
    (mem_entriesOf _ _ entry).mpr ⟨_, List.mem_of_getElem? hget, rfl, rfl⟩
  have hwaiting := waiting_set s call ⟨entry, .rejected⟩ rfl
  refine safe_of_less s _ h rfl rfl rfl rfl (fun id hid => ?_) (fun id hid => ?_)
    (fun p hp => ?_)
  · rcases List.mem_append.mp hid with hin | hin
    · exact List.mem_append_left _ (hwaiting id hin)
    · rcases mem_filterMap_concat _ _ _ _ hin with hold | hnew
      · exact List.mem_append_right _ hold
      · exact absurd hnew (by simp only [Task.retries, reduceCtorEq, not_false_eq_true])
  · rcases List.mem_append.mp hid with hin | hin
    · refine List.mem_append_left _ ?_
      rcases List.mem_append.mp hin with hin | hin
      · exact List.mem_append_left _ (hwaiting id hin)
      · exact List.mem_append_right _ (entriesOf_set_of_not _ s.calls call _ rfl id hin)
    -- The entry of the call needed the refresh token before.
    · rcases mem_filterMap_concat _ _ _ _ hin with hold | hnew
      · exact List.mem_append_right _ hold
      · rw [Task.refreshes, Option.map_some, Option.some.injEq] at hnew
        exact List.mem_append_left _ (List.mem_append_right _ (hnew ▸ hentry))
  · rcases mem_filterMap_concat _ _ _ _ hp with hold | hnew
    · exact hold
    · exact absurd hnew (by simp only [Task.exchanges, reduceCtorEq, not_false_eq_true])

/-- What a step of a task does to the tokens, and for which entry it needs them
    then. -/
structure Moved (a : Account) (task : Task) (stmt : Stmt) (a' : Account) (task' : Task) :
    Prop where
  access : (a'.access = a.access ∧ ∀ id ∈ task'.retries, id ∈ task.retries) ∨
    (stmt = .writeAccess ∧ ∃ user ∈ task.saving, a'.access = some user ∧
      ∀ id ∈ task'.retries, (id, user) ∈ task.exchanges) ∨
    (stmt = .clear ∧ a'.access = none ∧ task'.retries = none)
  refresh : a'.refresh = a.refresh ∨ a'.refresh = none ∨
    (stmt = .writeRefresh ∧ ∃ user ∈ task.saving, a'.refresh = some user)
  refreshes : task'.refreshes = none
  exchanges : ∀ p ∈ task'.exchanges, p ∈ task.exchanges ∨
    (p.1 ∈ task.refreshes ∧ a.refresh = some p.2)

/-- The tokens stay, and a handler that stays one goes on with the same entry. -/
theorem moved_idle (a a' : Account) (task task' : Task) (stmt : Stmt)
    (haccess : a'.access = a.access) (hrefresh : a'.refresh = a.refresh)
    (hretries : ∀ id ∈ task'.retries, id ∈ task.retries) (hrefreshes : task'.refreshes = none)
    (hexchanges : ∀ p ∈ task'.exchanges, p ∈ task.exchanges) : Moved a task stmt a' task' :=
  ⟨Or.inl ⟨haccess, hretries⟩, Or.inl hrefresh, hrefreshes, fun p hp => Or.inl (hexchanges p hp)⟩

theorem moved_ends (a a' : Account) (task task' : Task) (stmt : Stmt)
    (haccess : a'.access = a.access) (hrefresh : a'.refresh = a.refresh)
    (hretries : task'.retries = none) (hrefreshes : task'.refreshes = none)
    (hexchanges : task'.exchanges = none) : Moved a task stmt a' task' := by
  refine moved_idle a a' task task' stmt haccess hrefresh (fun id hid => ?_) hrefreshes
    (fun p hp => ?_)
  · rw [hretries] at hid
    exact absurd hid (Option.not_mem_none id)
  · rw [hexchanges] at hp
    exact absurd hp (Option.not_mem_none p)

theorem exchanges_of_entry (rejected : Option Rejected) (user : User) (id : Nat)
    (h : id ∈ rejected.map Rejected.entry) :
    (id, user) ∈ rejected.map (fun r => (r.entry, user)) := by
  rcases Option.map_eq_some_iff.mp h with ⟨r, hr, rfl⟩
  exact Option.map_eq_some_iff.mpr ⟨r, hr, rfl⟩

theorem moved_login (a : Account) (user : User) (accessDone refreshDone : Bool) (a' : Account)
    (task' : Task) (stmt : Stmt) (hstmt : stmt = .writeAccess ∨ stmt = .writeRefresh)
    (hmove : move a (.savingLogin user accessDone refreshDone) stmt = some (a', task')) :
    Moved a (.savingLogin user accessDone refreshDone) stmt a' task' := by
  -- A login carries no entry of the queue, whichever write it does next.
  have hfree : ∀ done : Bool, ∀ more : Task, more.retries = none → more.refreshes = none →
      more.exchanges = none → (if done then Task.persisting user else more).retries = none ∧
        (if done then Task.persisting user else more).refreshes = none ∧
        (if done then Task.persisting user else more).exchanges = none := by
    intro done more hretries hrefreshes hexchanges
    cases done with
    | true => exact ⟨rfl, rfl, rfl⟩
    | false => exact ⟨hretries, hrefreshes, hexchanges⟩
  rcases hstmt with rfl | rfl
  · cases accessDone with
    | true => exact absurd hmove (by simp only [move, reduceCtorEq, not_false_eq_true])
    | false =>
        rw [move, Option.some.injEq, Prod.mk.injEq] at hmove
        rcases hmove with ⟨rfl, rfl⟩
        rcases hfree refreshDone (.savingLogin user true refreshDone) rfl rfl rfl with
          ⟨hretries, hrefreshes, hexchanges⟩
        refine ⟨Or.inr (Or.inl ⟨rfl, user, rfl, rfl, fun id hid => ?_⟩), Or.inl rfl, hrefreshes,
          fun p hp => ?_⟩
        · rw [hretries] at hid
          exact absurd hid (Option.not_mem_none id)
        · rw [hexchanges] at hp
          exact absurd hp (Option.not_mem_none p)
  · cases refreshDone with
    | true => exact absurd hmove (by simp only [move, reduceCtorEq, not_false_eq_true])
    | false =>
        rw [move, Option.some.injEq, Prod.mk.injEq] at hmove
        rcases hmove with ⟨rfl, rfl⟩
        rcases hfree accessDone (.savingLogin user accessDone true) rfl rfl rfl with
          ⟨hretries, hrefreshes, hexchanges⟩
        refine ⟨Or.inl ⟨rfl, fun id hid => ?_⟩, Or.inr (Or.inr ⟨rfl, user, rfl, rfl⟩), hrefreshes,
          fun p hp => ?_⟩
        · rw [hretries] at hid
          exact absurd hid (Option.not_mem_none id)
        · rw [hexchanges] at hp
          exact absurd hp (Option.not_mem_none p)

/-- A handler that saves the tokens of an exchange retries its call next. -/
theorem moved_refresh (a : Account) (rejected : Option Rejected) (user : User)
    (accessDone refreshDone : Bool) (a' : Account) (task' : Task) (stmt : Stmt)
    (hstmt : stmt = .writeAccess ∨ stmt = .writeRefresh)
    (hmove : move a (.savingRefresh rejected user accessDone refreshDone) stmt =
      some (a', task')) :
    Moved a (.savingRefresh rejected user accessDone refreshDone) stmt a' task' := by
  rcases hstmt with rfl | rfl
  · cases accessDone with
    | true => exact absurd hmove (by simp only [move, reduceCtorEq, not_false_eq_true])
    | false =>
        rw [move, Option.some.injEq, Prod.mk.injEq] at hmove
        rcases hmove with ⟨rfl, rfl⟩
        cases refreshDone with
        | true => exact ⟨Or.inr (Or.inl ⟨rfl, user, rfl, rfl, exchanges_of_entry rejected user⟩),
            Or.inl rfl, rfl, fun p hp => absurd hp (Option.not_mem_none p)⟩
        | false => exact ⟨Or.inr (Or.inl ⟨rfl, user, rfl, rfl, exchanges_of_entry rejected user⟩),
            Or.inl rfl, rfl, fun p hp => Or.inl hp⟩
  · cases refreshDone with
    | true => exact absurd hmove (by simp only [move, reduceCtorEq, not_false_eq_true])
    | false =>
        rw [move, Option.some.injEq, Prod.mk.injEq] at hmove
        rcases hmove with ⟨rfl, rfl⟩
        cases accessDone with
        | true => exact ⟨Or.inl ⟨rfl, fun _ hid => hid⟩, Or.inr (Or.inr ⟨rfl, user, rfl, rfl⟩),
            rfl, fun p hp => absurd hp (Option.not_mem_none p)⟩
        | false => exact ⟨Or.inl ⟨rfl, fun id hid => absurd hid (Option.not_mem_none id)⟩,
            Or.inr (Or.inr ⟨rfl, user, rfl, rfl⟩), rfl, fun p hp => Or.inl hp⟩

/-- The storage is cleared, and what is left to do needs no token. -/
theorem moved_clear (a : Account) (task task' : Task) (hretries : task'.retries = none)
    (hrefreshes : task'.refreshes = none) (hexchanges : task'.exchanges = none) :
    Moved a task .clear { a with access := none, refresh := none } task' := by
  refine ⟨Or.inr (Or.inr ⟨rfl, rfl, hretries⟩), Or.inr (Or.inl rfl), hrefreshes,
    fun p hp => ?_⟩
  rw [hexchanges] at hp
  exact absurd hp (Option.not_mem_none p)

theorem moved_of_some (a a₁ a' : Account) (task task₁ task' : Task) (stmt : Stmt)
    (hmove : some (a₁, task₁) = some (a', task')) (h : Moved a task stmt a₁ task₁) :
    Moved a task stmt a' task' := by
  rw [Option.some.injEq, Prod.mk.injEq] at hmove
  rcases hmove with ⟨rfl, rfl⟩
  exact h

theorem move_spec (a a' : Account) (task task' : Task) (stmt : Stmt)
    (hmove : move a task stmt = some (a', task')) : Moved a task stmt a' task' := by
  have hcopy := hmove
  unfold move at hmove
  split at hmove
  · exact moved_of_some _ _ _ _ _ _ _ hmove (moved_ends a _ _ _ _ rfl rfl rfl rfl rfl)
  · exact moved_of_some _ _ _ _ _ _ _ hmove (moved_ends a _ _ _ _ rfl rfl rfl rfl rfl)
  · exact moved_login a _ _ _ a' task' _ (Or.inl rfl) hcopy
  · exact moved_login a _ _ _ a' task' _ (Or.inr rfl) hcopy
  · exact moved_of_some _ _ _ _ _ _ _ hmove (moved_ends a _ _ _ _ rfl rfl rfl rfl rfl)
  · exact moved_of_some _ _ _ _ _ _ _ hmove (moved_ends a _ _ _ _ rfl rfl rfl rfl rfl)
  · exact moved_of_some _ _ _ _ _ _ _ hmove (moved_clear a _ _ rfl rfl rfl)
  · exact moved_of_some _ _ _ _ _ _ _ hmove (moved_ends a _ _ _ _ rfl rfl rfl rfl rfl)
  · next rejected =>
      split at hmove
      · exact moved_of_some _ _ _ _ _ _ _ hmove (moved_ends a _ _ _ _ rfl rfl rfl rfl rfl)
      · next user hrefresh =>
          refine moved_of_some _ _ _ _ _ _ _ hmove
            ⟨Or.inl ⟨rfl, fun id hid => absurd hid (Option.not_mem_none id)⟩, Or.inl rfl, rfl,
              fun p hp => Or.inr ?_⟩
          -- What is posted is the stored token.
          rcases Option.map_eq_some_iff.mp hp with ⟨r, hr, rfl⟩
          exact ⟨Option.map_eq_some_iff.mpr ⟨r, hr, rfl⟩, hrefresh⟩
  -- The exchange is the one that was posted.
  · exact moved_of_some _ _ _ _ _ _ _ hmove (moved_idle a _ _ _ _ rfl rfl
      (fun id hid => absurd hid (Option.not_mem_none id)) rfl (fun _ hp => hp))
  · exact moved_of_some _ _ _ _ _ _ _ hmove (moved_ends a _ _ _ _ rfl rfl rfl rfl rfl)
  · exact moved_refresh a _ _ _ _ a' task' _ (Or.inl rfl) hcopy
  · exact moved_refresh a _ _ _ _ a' task' _ (Or.inr rfl) hcopy
  · exact moved_of_some _ _ _ _ _ _ _ hmove (moved_ends a _ _ _ _ rfl rfl rfl rfl rfl)
  · exact moved_of_some _ _ _ _ _ _ _ hmove (moved_ends a _ _ _ _ rfl rfl rfl rfl rfl)
  · exact moved_of_some _ _ _ _ _ _ _ hmove (moved_ends a _ _ _ _ rfl rfl rfl rfl rfl)
  · exact moved_of_some _ _ _ _ _ _ _ hmove (moved_clear a _ _ rfl rfl rfl)
  · split at hmove
    · exact moved_of_some _ _ _ _ _ _ _ hmove (moved_ends a _ _ _ _ rfl rfl rfl rfl rfl)
    · exact moved_of_some _ _ _ _ _ _ _ hmove (moved_ends a _ _ _ _ rfl rfl rfl rfl rfl)
  · exact moved_of_some _ _ _ _ _ _ _ hmove (moved_ends a _ _ _ _ rfl rfl rfl rfl rfl)
  · exact absurd hmove (by simp only [reduceCtorEq, not_false_eq_true])

theorem isUnsent_refuse (p : Progress) (h : p.refuse.isUnsent = true) : p.isUnsent = true := by
  cases p with
  | unsent => rfl
  | sent token => exact h
  | rejected => exact h
  | retried token => exact h
  | refused token => exact h
  | closed token => exact h

theorem isSent_refuse (p : Progress) (h : p.refuse.isSent = true) : p.isSent = true := by
  cases p with
  | sent token => rfl
  | unsent => exact h
  | rejected => exact h
  | retried token => exact h
  | refused token => exact h
  | closed token => exact h

/-- A step of a task sends no call for the first time. -/
theorem settled_entries (s : Phone) (task : Task) (stmt : Stmt) (q : Progress → Bool)
    (hretried : ∀ token, q (.retried token) = false)
    (hrefuse : ∀ p : Progress, q p.refuse = true → q p = true) :
    ∀ id ∈ entriesOf q (settled s task stmt), id ∈ entriesOf q s.calls := by
  intro id hid
  unfold settled at hid
  split at hid
  · refine entriesOf_update q _ (fun p hq => ?_) s.calls _ id hid
    rw [hretried] at hq
    exact absurd hq Bool.false_ne_true
  · exact entriesOf_update q _ hrefuse s.calls _ id hid
  · exact hid

theorem retry_spec (s : Phone) (task : Task) (stmt : Stmt) (p : Nat × Option User)
    (hp : p ∈ retry s task stmt) : p.1 ∈ task.retries ∧ p.2 = s.account.access := by
  unfold retry at hp
  split at hp
  · rw [List.mem_singleton.mp hp]
    exact ⟨rfl, rfl⟩
  · exact absurd hp List.not_mem_nil

/-- A step of a task adds no entry that waits. -/
theorem waiting_task (s : Phone) (task : Task) (stmt : Stmt) :
    ∀ id ∈ Outbox.owed s.outbox ++ entriesOf Progress.isUnsent (settled s task stmt),
      id ∈ waiting s := by
  intro id hid
  rcases List.mem_append.mp hid with hin | hin
  · exact List.mem_append_left _ hin
  · exact List.mem_append_right _
      (settled_entries s task stmt _ (fun _ => rfl) isUnsent_refuse id hin)

/-- Only the task itself may come to need the access token. -/
theorem needsAccess_task (s : Phone) (i : Nat) (task task' : Task) (stmt : Stmt) :
    ∀ id ∈ needsAccess { s with tasks := s.tasks.set i task', calls := settled s task stmt },
      id ∈ needsAccess s ∨ id ∈ task'.retries := by
  intro id hid
  rcases List.mem_append.mp hid with hin | hin
  · exact Or.inl (List.mem_append_left _ (waiting_task s task stmt id hin))
  · exact (mem_filterMap_set _ _ _ _ _ hin).imp_left (List.mem_append_right _)

/-- No task comes to need the refresh token. -/
theorem needsRefresh_task (s : Phone) (i : Nat) (task task' : Task) (stmt : Stmt)
    (hrefreshes : task'.refreshes = none) :
    ∀ id ∈ needsRefresh { s with tasks := s.tasks.set i task', calls := settled s task stmt },
      id ∈ needsRefresh s := by
  intro id hid
  rcases List.mem_append.mp hid with hin | hin
  · refine List.mem_append_left _ ?_
    rcases List.mem_append.mp hin with hin | hin
    · exact List.mem_append_left _ (waiting_task s task stmt id hin)
    · exact List.mem_append_right _
        (settled_entries s task stmt _ (fun _ => rfl) isSent_refuse id hin)
  · rcases mem_filterMap_set _ _ _ _ _ hin with hold | hnew
    · exact List.mem_append_right _ hold
    · exact absurd (hrefreshes.symm.trans hnew) (by simp only [reduceCtorEq,
        not_false_eq_true])

theorem needsAccess_of_retries (s : Phone) (i : Nat) (task : Task)
    (hget : s.tasks[i]? = some task) : ∀ id ∈ task.retries, id ∈ needsAccess s :=
  fun id hid => List.mem_append_right _ (mem_filterMap_of _ _ i task id hget hid)

/-- A token that has been exchanged belongs to the owner of the entry. -/
theorem exchanged_task (s : Phone) (i : Nat) (task : Task) (stmt : Stmt) (a : Account)
    (task' : Task) (h : Safe s) (hget : s.tasks[i]? = some task)
    (hmoved : Moved s.account task stmt a task') :
    ∀ p ∈ task'.exchanges, OwnedBy s.queuedBy [p.1] (some p.2) := by
  intro p hp
  rcases hmoved.exchanges p hp with hold | ⟨hrefreshes, hrefresh⟩
  · exact h.exchanged p (mem_filterMap_of _ _ i task p hget hold)
  · rcases h.refresh with hnone | howned
    · exact absurd (hnone.symm.trans hrefresh) (by simp only [reduceCtorEq, not_false_eq_true])
    · refine hrefresh ▸ ownedBy_mono _ _ _ _ (fun id hid => ?_) howned
      rw [List.mem_singleton.mp hid]
      exact List.mem_append_right _ (mem_filterMap_of _ _ i task p.1 hget hrefreshes)

/-- The access token after a careful step belongs to whoever needs it then. -/
theorem access_task (s : Phone) (i : Nat) (task : Task) (stmt : Stmt) (a : Account)
    (task' : Task) (h : Safe s) (hcareful : Careful s (.task i stmt))
    (hget : s.tasks[i]? = some task) (hmoved : Moved s.account task stmt a task') :
    OwnedBy s.queuedBy
      (needsAccess { s with tasks := s.tasks.set i task', calls := settled s task stmt })
      a.access := by
  have hneeds := needsAccess_task s i task task' stmt
  rcases hmoved.access with ⟨hsame, hkept⟩ | ⟨rfl, user, hsaving, hwritten, hown⟩ |
    ⟨rfl, hcleared, hnone⟩
  · rw [hsame]
    exact ownedBy_mono _ _ _ _ (fun id hid => (hneeds id hid).elim (fun hin => hin)
      (fun hin => needsAccess_of_retries s i task hget id (hkept id hin))) h.access
  · have hothers : OwnedBy s.queuedBy (needsAccess s) (some user) :=
      hcareful task hget user hsaving
    rw [hwritten]
    intro p hp owner howner hid
    rcases hneeds p.1 hid with hin | hin
    · exact hothers p hp owner howner hin
    -- The handler's own entry: the token was exchanged for its user.
    · exact h.exchanged (p.1, user)
        (mem_filterMap_of _ _ i task _ hget (hown p.1 hin)) p hp owner howner
        (List.mem_singleton_self _)
  · rw [hcleared]
    refine ownedBy_mono _ _ _ _ (fun id hid => ?_) hcareful
    rcases hneeds id hid with hin | hin
    · exact hin
    · rw [hnone] at hin
      exact absurd hin (Option.not_mem_none id)

/-- What a step of a task uses was queued before. -/
theorem old_task (s : Phone) (i : Nat) (task : Task) (stmt : Stmt) (a : Account) (task' : Task)
    (h : Safe s) (hget : s.tasks[i]? = some task) (hmoved : Moved s.account task stmt a task') :
    (∀ id ∈ needsAccess { s with tasks := s.tasks.set i task', calls := settled s task stmt },
      id < s.outbox.nextId) ∧
    (∀ p ∈ (s.tasks.set i task').filterMap Task.exchanges, p.1 < s.outbox.nextId) := by
  constructor
  · intro id hid
    refine h.old id ((mem_used s id).mpr ?_)
    rcases needsAccess_task s i task task' stmt id hid with hold | hnew
    · exact Or.inl hold
    · rcases hmoved.access with ⟨_, hkept⟩ | ⟨_, user, _, _, hown⟩ | ⟨_, _, hnone⟩
      · exact Or.inl (needsAccess_of_retries s i task hget id (hkept id hnew))
      · exact Or.inr (Or.inr (Or.inl ⟨(id, user),
          mem_filterMap_of _ _ i task _ hget (hown id hnew), rfl⟩))
      · rw [hnone] at hnew
        exact absurd hnew (Option.not_mem_none id)
  · intro p hp
    refine h.old p.1 ((mem_used s p.1).mpr ?_)
    rcases mem_filterMap_set _ _ _ _ _ hp with hold | hnew
    · exact Or.inr (Or.inr (Or.inl ⟨p, hold, rfl⟩))
    · rcases hmoved.exchanges p hnew with hold | ⟨hrefreshes, _⟩
      · exact Or.inr (Or.inr (Or.inl ⟨p, mem_filterMap_of _ _ i task p hget hold, rfl⟩))
      · exact Or.inr (Or.inl (List.mem_append_right _
          (mem_filterMap_of _ _ i task p.1 hget hrefreshes)))

/-- A careful step of a task: the tokens it writes belong to whoever needs
    them, itself included. -/
theorem safe_task (s : Phone) (i : Nat) (task : Task) (stmt : Stmt) (a : Account) (task' : Task)
    (h : Safe s) (hcareful : Careful s (.task i stmt)) (hget : s.tasks[i]? = some task)
    (hmove : move s.account task stmt = some (a, task')) : Safe { s with
      account := a
      tasks := s.tasks.set i task'
      calls := settled s task stmt
      log := s.log ++ retry s task stmt } := by
  have hmoved := move_spec s.account a task task' stmt hmove
  have hneeds := needsRefresh_task s i task task' stmt hmoved.refreshes
  have hmade := safe_made s (retry s task stmt) h (fun p hp =>
    ⟨needsAccess_of_retries s i task hget p.1 (retry_spec s task stmt p hp).1,
      (retry_spec s task stmt p hp).2⟩)
  rcases old_task s i task stmt a task' h hget hmoved with ⟨holdAccess, holdExchanged⟩
  refine ⟨access_task s i task stmt a task' h hcareful hget hmoved, ?_, fun p hp => ?_,
    hmade.made, fun id hid => ?_, h.owners⟩
  · rcases hmoved.refresh with hsame | hnone | ⟨rfl, user, hsaving, hwritten⟩
    · rw [show a.refresh = s.account.refresh from hsame]
      exact h.refresh.imp_right (ownedBy_mono _ _ _ _ hneeds)
    · exact Or.inl hnone
    · rw [show a.refresh = some user from hwritten]
      exact Or.inr (ownedBy_mono _ _ _ _ hneeds (hcareful task hget user hsaving))
  · rcases mem_filterMap_set _ _ _ _ _ hp with hold | hnew
    · exact h.exchanged p hold
    · exact exchanged_task s i task stmt a task' h hget hmoved p hnew
  · rcases (mem_used _ id).mp hid with hin | hin | ⟨p, hp, rfl⟩ | hin
    · exact holdAccess id hin
    · exact h.old id ((mem_used s id).mpr (Or.inr (Or.inl (hneeds id hin))))
    · exact holdExchanged p hp
    · exact hmade.old id ((mem_used _ id).mpr (Or.inr (Or.inr (Or.inr hin))))

theorem safe_step (env : Env) (s : Phone) (a : Action) (s' : Phone) (h : Safe s)
    (hcareful : Careful s a) (hstep : step env s a = some s') : Safe s' := by
  cases a with
  | signIn =>
      rw [step, Option.some.injEq] at hstep
      rw [← hstep]
      exact safe_join s .signingIn h rfl rfl rfl
  | signOut =>
      rw [step, Option.some.injEq] at hstep
      rw [← hstep]
      exact safe_join s .clearing h rfl rfl rfl
  | unauthorizedOther =>
      rw [step, Option.some.injEq] at hstep
      rw [← hstep]
      exact safe_join s (.refreshing none) h rfl rfl rfl
  | authorize call =>
      rw [step] at hstep
      split at hstep
      · next entry hget =>
          rw [Option.some.injEq] at hstep
          rw [← hstep]
          exact safe_authorize s call entry h hget
      · exact absurd hstep (by simp only [reduceCtorEq, not_false_eq_true])
  | unauthorized call =>
      rw [step] at hstep
      split at hstep
      · next entry token hget =>
          rw [Option.some.injEq] at hstep
          rw [← hstep]
          exact safe_unauthorized s call entry token h hget
      · exact absurd hstep (by simp only [reduceCtorEq, not_false_eq_true])
  | task i stmt =>
      rw [step] at hstep
      split at hstep
      · next task hget =>
          rcases Option.map_eq_some_iff.mp hstep with ⟨⟨account, task'⟩, hmove, rfl⟩
          exact safe_task s i task stmt account task' h hcareful hget hmove
      · exact absurd hstep (by simp only [reduceCtorEq, not_false_eq_true])
  | outbox a =>
      rw [step] at hstep
      split at hstep
      · rcases Option.map_eq_some_iff.mp hstep with ⟨o, hact, rfl⟩
        cases hqueues : a.queues with
        | false => exact safe_outbox env s a o h hqueues hact
        | true =>
            -- An entry is queued, and the tokens are those of whoever queues it.
            cases a with
            | claimDevice deviceId pairingCode now =>
                rw [outboxStep, Outbox.step, Option.some.injEq] at hact
                · rw [← hact]
                  exact safe_queue s (.claim deviceId pairingCode) now h hcareful
                · simp only [reduceCtorEq, imp_self, implies_true]
            | renameDevice deviceId deviceAlias now =>
                rw [outboxStep, Outbox.step, Option.some.injEq] at hact
                · rw [← hact]
                  exact safe_queue s (.rename deviceId deviceAlias) now h hcareful
                · simp only [reduceCtorEq, imp_self, implies_true]
            | query entries => exact Bool.noConfusion hqueues
            | deliver => exact Bool.noConfusion hqueues
            | fire => exact Bool.noConfusion hqueues
            | requery entries => exact Bool.noConfusion hqueues
            | retry => exact Bool.noConfusion hqueues
            | batch b stmt => exact Bool.noConfusion hqueues
            | serve call now => exact Bool.noConfusion hqueues
            | lose call => exact Bool.noConfusion hqueues
      · exact absurd hstep (by simp only [reduceCtorEq, not_false_eq_true])

theorem safe_start (db : Database) : Safe (start db) where
  access := fun _ hp => absurd hp List.not_mem_nil
  refresh := Or.inl rfl
  exchanged := fun _ hp => absurd hp List.not_mem_nil
  made := fun _ hp => absurd hp List.not_mem_nil
  old := fun _ hid => absurd hid List.not_mem_nil
  owners := fun _ hp => absurd hp List.not_mem_nil

theorem isolated_of_safe (s : Phone) (h : Safe s) : Isolated s := by
  intro made hmade queued hqueued hid user huser
  exact h.made made hmade queued hqueued user huser (List.mem_singleton.mpr hid)

/-- In a careful run every call made for an entry is made as the user who
    queued it. -/
theorem account_isolation (env : Env) (db : Database) (as : List Action)
    (h : Along (step env) Careful (start db) as) :
    Throughout (step env) Isolated (start db) as :=
  throughout_of_along (step env) Careful Safe Isolated
    (fun s a s' hs hcareful hstep => safe_step env s a s' hs hcareful hstep)
    isolated_of_safe as (start db) (safe_start db) h

/-- The second user of the phone. -/
def otherUser : User := ⟨0x9abcdef0, "google-2", "bia@vena.test"⟩

/-- A sign-in that is task `i`. -/
def signInRun (i : Nat) (user : User) : List Action :=
  [.signIn, .task i (.exchange user), .task i .writeAccess, .task i .writeRefresh,
    .task i .persist]

def signOutRun (i : Nat) : List Action := [.signOut, .task i .clear, .task i .deleteSession]

/-- The first user renames a device, and the worker makes the call. -/
def renameRun : List Action :=
  [.outbox (.renameDevice "vena-a" "Sala" 10),
    .outbox (.query [⟨1, .rename "vena-a" "Sala", 10, false⟩]), .outbox .deliver,
    .outbox (.batch 0 .call), .authorize 0]

/-- The call gets through before the users change. -/
theorem account_isolation_synced :
    Throughout (step Access.demoEnv) Isolated (start Outbox.demoDb)
      (signInRun 0 Access.demoUser ++ renameRun ++ [.outbox (.serve 0 0),
        .outbox (.batch 0 .respond), .outbox (.batch 0 .mark)] ++ signOutRun 1 ++
        signInRun 2 otherUser) :=
  account_isolation _ _ _ (by decide +kernel)

/-- The call fails, the users change, and the retry is made as the second one. -/
theorem crossed_accounts : ¬ ∀ (env : Env) (db : Database) (as : List Action),
    Throughout (step env) Isolated (start db) as := by
  intro hall
  have hlast := throughout_last (step Access.demoEnv) Isolated
    (signInRun 0 Access.demoUser ++ renameRun ++ [.outbox (.lose 0), .outbox (.batch 0 .fail),
      .outbox (.batch 0 .finish)] ++ signOutRun 1 ++ signInRun 2 otherUser ++ [.outbox .fire,
      .outbox (.requery [⟨1, .rename "vena-a" "Sala", 10, false⟩]), .outbox .retry,
      .outbox (.batch 1 .call), .authorize 1])
    (start Outbox.demoDb) _ (hall _ _ _) rfl
  have hmade := hlast (1, some otherUser) (by decide +kernel) (1, some Access.demoUser)
    (by decide +kernel) rfl Access.demoUser rfl
  exact absurd hmade (by decide +kernel)

end Accounts

end Mobile

end Vena
