import Vena.Backend.RefreshToken

/-!
# A Refresh Token is Used Once

The token is meant to be used once, and the check for that is the SELECT
alone: the UPDATE names the row by its primary key and does not look at
`revoked_at` again. Two calls that both select before one of them commits both
succeed. `refresh_single_use` says that this is all that goes wrong: a token is
redeemed at most once as long as no call finds its row while another call that
presented it is still on its way to the commit, and in a run in which all
calls return the converse holds as well.

## Main definitions

* `SingleUse`: At most one call redeems the token and the others get 401.
* `Serial`: The SELECT does not find the row of a token in use.
* `Single`: What holds of every serial run.

## Theorems

* `step_single`, `run_single`: Every serial run keeps `Single`.
* `serial_of_singleUse`: Only serial runs end well.
* `refresh_single_use`: When a token is redeemed once.
* `refresh_not_single_use`: Two calls that redeem the same token.
-/

namespace Vena

namespace Backend

open Python ReadCommitted Processes

namespace Refresh

/-- At most one call that presented `raw` returned a new pair, and the other
    calls that presented it and returned got 401. -/
structure SingleUse (raw : String) (s : State) : Prop where
  once : AtMostOne (fun c => c.raw = raw ∧ c.succeeded = true) s.calls
  others : ∀ c ∈ s.calls, c.raw = raw → c.returned = true → c.succeeded = false →
    c.phase = .finished invalidRefresh

/-- A SELECT of call `i` does not find the row of `raw` while another call that
    presented `raw` holds it. -/
def Serial (env : Env) (raw : String) (s : State) : Act → Prop
  | .exec i .selectToken => ∀ c ∈ s.calls[i]?, c.raw = raw →
      s.store.select RefreshToken.id i (valid (env.sha256hex raw) c.now) ≠ [] →
      ∀ d ∈ s.calls, d.raw = raw → d.phase.held = none
  | _ => True

instance (env : Env) (raw : String) (s : State) : ∀ a, Decidable (Serial env raw s a)
  | .exec i .selectToken => by unfold Serial; infer_instance
  | .exec _ (.selectUser _) => isTrue trivial
  | .exec _ .update => isTrue trivial
  | .exec _ .insert => isTrue trivial
  | .exec _ .commit => isTrue trivial
  | .request _ _ => isTrue trivial

/-- The row can still be redeemed: it carries the hash and is not revoked. -/
def live (tokenHash : String) (r : RefreshToken) : Bool :=
  r.tokenHash = tokenHash && r.revokedAt.isNone

theorem live_of_valid (tokenHash : String) (now : Datetime) (r : RefreshToken)
    (h : valid tokenHash now r = true) : live tokenHash r = true := by
  simp only [valid, Bool.and_eq_true] at h
  simp only [live, Bool.and_eq_true]
  exact h.1

theorem live_revoke (tokenHash : String) (now : Datetime) (r : RefreshToken) :
    live tokenHash (revoke now r) = false := by
  simp only [live, revoke, Option.isNone_some, Bool.and_false]

theorem hash_of_live (tokenHash : String) (r : RefreshToken) (h : live tokenHash r = true) :
    r.tokenHash = tokenHash := by
  simp only [live, Bool.and_eq_true, decide_eq_true_eq] at h
  exact h.1

/-- The call holds the row of its token or has redeemed it. -/
def Call.spends (c : Call) : Bool := c.phase.held.isSome || c.succeeded

/-- What holds of every serial run about one raw token: at most one row is
    live, and at most one call spends the token. That call's row is the live
    one while it holds it, and no row is live once it has succeeded. -/
structure Single (env : Env) (raw : String) (s : State) : Prop where
  live_le : s.store.rows.countP (live (env.sha256hex raw)) ≤ 1
  spender : AtMostOne (fun c => c.raw = raw ∧ c.spends = true) s.calls
  held : ∀ c ∈ s.calls, c.raw = raw → ∀ rt ∈ c.phase.held,
    (∃ r ∈ s.store.rows, r.tokenHash = env.sha256hex raw) ∧
    ∀ r ∈ s.store.rows, live (env.sha256hex raw) r = true → r.id = rt.id
  spent : ∀ c ∈ s.calls, c.raw = raw → c.succeeded = true →
    (∃ r ∈ s.store.rows, r.tokenHash = env.sha256hex raw) ∧
    ∀ r ∈ s.store.rows, live (env.sha256hex raw) r = false
  answers : ∀ c ∈ s.calls, c.raw = raw → c.returned = true → c.succeeded = false →
    c.phase = .finished invalidRefresh

theorem mem_move (s : State) (i : Nat) (c d : Call) (store : Store Uuid RefreshToken)
    (phase : Phase) (h : d ∈ (s.move i c store phase).calls) :
    d ∈ s.calls ∨ d = { c with phase := phase } :=
  List.mem_or_eq_of_mem_set h

/-- A statement that leaves the committed rows alone keeps `Single` if the call
    presented another token, or keeps spending or not spending this one. -/
theorem single_move (env : Env) (raw : String) (s : State) (i : Nat) (c : Call)
    (store : Store Uuid RefreshToken) (phase : Phase) (h : Single env raw s)
    (hget : s.calls[i]? = some c) (hrows : store.rows = s.store.rows)
    (hheld : c.raw = raw → phase.held = c.phase.held)
    (hback : c.raw = raw → ({ c with phase := phase } : Call).succeeded = false)
    (hout : c.raw = raw → ({ c with phase := phase } : Call).returned = true →
      phase = .finished invalidRefresh) : Single env raw (s.move i c store phase) := by
  have hmem := List.mem_of_getElem? hget
  refine ⟨?_, ?_, ?_, ?_, ?_⟩
  · simp only [State.move, hrows]
    exact h.live_le
  · refine atMostOne_set _ s.calls i c _ h.spender hget ?_
    -- Whoever spends after the move already held the row before it.
    rintro ⟨hraw, hspends⟩
    refine ⟨hraw, ?_⟩
    simp only [Call.spends, hback hraw, Bool.or_false] at hspends
    rw [Call.spends, ← hheld hraw, hspends, Bool.true_or]
  · intro d hd hraw rt hrt
    simp only [State.move, hrows]
    rcases mem_move s i c d store phase hd with hold | hnew
    · exact h.held d hold hraw rt hrt
    · rw [hnew] at hraw hrt
      exact h.held c hmem hraw rt (hheld hraw ▸ hrt)
  · intro d hd hraw hok
    simp only [State.move, hrows]
    rcases mem_move s i c d store phase hd with hold | hnew
    · exact h.spent d hold hraw hok
    · rw [hnew] at hraw hok
      exact absurd hok (by rw [hback hraw]; exact Bool.false_ne_true)
  · intro d hd hraw hret hfail
    rcases mem_move s i c d store phase hd with hold | hnew
    · exact h.answers d hold hraw hret hfail
    · rw [hnew] at hraw hret ⊢
      exact hout hraw hret

/-- A SELECT that finds the row while no other call holds it. -/
theorem single_found (env : Env) (raw : String) (s : State) (i : Nat) (c : Call)
    (rt : RefreshToken) (h : Single env raw s)
    (hfound : s.store.rows.filter (valid (env.sha256hex raw) c.now) = [rt])
    (hserial : ∀ d ∈ s.calls, d.raw = raw → d.phase.held = none) :
    Single env raw (s.move i c s.store (.found rt)) := by
  have hin : rt ∈ s.store.rows.filter (valid (env.sha256hex raw) c.now) := by
    rw [hfound]
    exact List.mem_singleton.mpr rfl
  have hrt := List.mem_of_mem_filter hin
  have hlive := live_of_valid _ _ rt (List.mem_filter.mp hin).2
  -- The row is live, so nobody has spent it; and by assumption nobody holds it.
  have hnospend : ∀ d ∈ s.calls, d.raw = raw → d.spends = false := by
    intro d hd hdraw
    rw [Call.spends, hserial d hd hdraw, Option.isSome_none, Bool.false_or]
    by_contra hok
    rw [Bool.not_eq_false] at hok
    have hdead := (h.spent d hd hdraw hok).2 rt hrt
    rw [hlive] at hdead
    exact absurd hdead (by decide)
  -- At most one row is live, so the one that was found is it.
  have honly : ∀ r ∈ s.store.rows, live (env.sha256hex raw) r = true → r.id = rt.id := by
    intro r hr hrlive
    have hr' : r ∈ s.store.rows.filter (live (env.sha256hex raw)) :=
      List.mem_filter.mpr ⟨hr, hrlive⟩
    have hrt' : rt ∈ s.store.rows.filter (live (env.sha256hex raw)) :=
      List.mem_filter.mpr ⟨hrt, hlive⟩
    have hlen := h.live_le
    rw [List.countP_eq_length_filter] at hlen
    rcases hrows : s.store.rows.filter (live (env.sha256hex raw)) with _ | ⟨x, _ | ⟨y, ys⟩⟩
    · rw [hrows] at hr'
      exact absurd hr' List.not_mem_nil
    · rw [hrows, List.mem_singleton] at hr' hrt'
      rw [hr', hrt']
    · rw [hrows] at hlen
      simp only [List.length_cons] at hlen
      omega
  refine ⟨h.live_le, ?_, ?_, ?_, ?_⟩
  · refine atMostOne_enter _ s.calls i _ (fun j d _ hd hspend => ?_)
    have hno := hnospend d (List.mem_of_getElem? hd) hspend.1
    rw [hspend.2] at hno
    exact absurd hno (by decide)
  · intro d hd hdraw held hheld
    rcases mem_move s i c d s.store _ hd with hold | hnew
    · exact h.held d hold hdraw held hheld
    · rw [hnew] at hheld
      rw [← Option.mem_some_iff.mp hheld]
      exact ⟨⟨rt, hrt, hash_of_live _ rt hlive⟩, honly⟩
  · intro d hd hdraw hok
    rcases mem_move s i c d s.store _ hd with hold | hnew
    · exact h.spent d hold hdraw hok
    · rw [hnew] at hok
      exact absurd hok Bool.false_ne_true
  · intro d hd hdraw hret hfail
    rcases mem_move s i c d s.store _ hd with hold | hnew
    · exact h.answers d hold hdraw hret hfail
    · rw [hnew] at hret
      exact absurd hret Bool.false_ne_true

/-- A live row after a commit is the new one or was live and not the held
    one. -/
theorem live_commit (tokenHash : String) (rows : List RefreshToken) (k : Uuid) (now : Datetime)
    (new r : RefreshToken)
    (hr : r ∈ (Write.update k (revoke now)).apply RefreshToken.id rows ++ [new])
    (hlive : live tokenHash r = true) :
    r = new ∨ (r ∈ rows ∧ r.id ≠ k) := by
  rcases mem_commit rows k now new r hr with hnew | ⟨old, hold, heq⟩
  · exact Or.inl hnew
  · by_cases hk : old.id = k
    · rw [if_pos hk] at heq
      rw [heq, live_revoke] at hlive
      exact absurd hlive Bool.false_ne_true
    · rw [if_neg hk] at heq
      rw [heq]
      exact Or.inr ⟨hold, hk⟩

theorem countP_live_commit (tokenHash : String) (rows : List RefreshToken) (k : Uuid)
    (now : Datetime) (new : RefreshToken) (hle : rows.countP (live tokenHash) ≤ 1)
    (hnew : ∀ r ∈ rows, r.tokenHash ≠ new.tokenHash) :
    ((Write.update k (revoke now)).apply RefreshToken.id rows ++ [new]).countP
      (live tokenHash) ≤ 1 := by
  rw [List.countP_append, Write.apply, List.countP_map, List.countP_singleton]
  -- A revocation makes no row live.
  have hkeep : rows.countP (live tokenHash ∘ fun r => if r.id = k then revoke now r else r) ≤
      rows.countP (live tokenHash) := by
    refine List.countP_mono_left (fun r _ hr => ?_)
    simp only [Function.comp_apply] at hr
    by_cases hk : r.id = k
    · rw [if_pos hk, live_revoke] at hr
      exact absurd hr Bool.false_ne_true
    · rw [if_neg hk] at hr
      exact hr
  -- The new row counts only where no old row has its hash.
  by_cases hlive : live tokenHash new = true
  · have hnone : rows.countP (live tokenHash) = 0 := by
      rw [List.countP_eq_zero]
      intro r hr hrlive
      exact hnew r hr ((hash_of_live _ r hrlive).trans (hash_of_live _ new hlive).symm)
    rw [if_pos hlive]
    omega
  · rw [if_neg hlive]
    omega

theorem single_commit (env : Env) (raw : String) (s : State) (i : Nat) (c : Call)
    (rt new : RefreshToken) (resp : TokenResponse) (hwf : Wf s) (h : Single env raw s)
    (hget : s.calls[i]? = some c) (hphase : c.phase = .inserted rt new resp)
    (hrows : s.store.visible RefreshToken.id i =
      (Write.update rt.id (revoke c.now)).apply RefreshToken.id s.store.rows ++ [new]) :
    Single env raw (s.move i c (s.store.commit RefreshToken.id i) (.finished (.ok resp))) := by
  have hmem := List.mem_of_getElem? hget
  have hnew : ∀ r ∈ s.store.rows, r.tokenHash ≠ new.tokenHash := fun r hr =>
    (((hwf.calls i c hget).minted new (by rw [hphase]; rfl)).1 r hr).2
  have hcheld : rt ∈ c.phase.held := by
    rw [hphase]
    rfl
  -- once some row carries the hash, the new one does not
  have hother : (∃ r ∈ s.store.rows, r.tokenHash = env.sha256hex raw) →
      ∀ r, r = new → live (env.sha256hex raw) r = true → False := by
    rintro ⟨old, hold, hhash⟩ r hr hlive
    rw [hr] at hlive
    exact hnew old hold (hhash.trans (hash_of_live _ new hlive).symm)
  refine ⟨?_, ?_, ?_, ?_, ?_⟩
  · simp only [State.move, Store.rows_commit, hrows]
    exact countP_live_commit _ _ _ _ new h.live_le hnew
  · refine atMostOne_set _ s.calls i c _ h.spender hget ?_
    rintro ⟨hraw, _⟩
    exact ⟨hraw, by rw [Call.spends, hphase]; rfl⟩
  -- What others hold is still the only row that may be live.
  · intro d hd hraw held hheld
    simp only [State.move, Store.rows_commit, hrows]
    rcases mem_move s i c d _ _ hd with hold | hmoved
    · have hdheld := h.held d hold hraw held hheld
      refine ⟨exists_commit _ _ _ _ _ (fun _ hr => hr) hdheld.1, fun r hr hlive => ?_⟩
      rcases live_commit _ _ _ _ new r hr hlive with hrnew | ⟨hrold, _⟩
      · exact absurd hlive (fun hl => hother hdheld.1 r hrnew hl)
      · exact hdheld.2 r hrold hlive
    · rw [hmoved] at hheld
      exact absurd hheld (Option.not_mem_none held)
  · intro d hd hraw hok
    simp only [State.move, Store.rows_commit, hrows]
    rcases mem_move s i c d _ _ hd with hold | hmoved
    · have hdspent := h.spent d hold hraw hok
      refine ⟨exists_commit _ _ _ _ _ (fun _ hr => hr) hdspent.1, fun r hr => ?_⟩
      by_contra hlive
      rw [Bool.not_eq_false] at hlive
      rcases live_commit _ _ _ _ new r hr hlive with hrnew | ⟨hrold, _⟩
      · exact hother hdspent.1 r hrnew hlive
      · rw [hdspent.2 r hrold] at hlive
        exact Bool.false_ne_true hlive
    -- The call that commits: its own row was the only live one and is revoked now.
    · rw [hmoved] at hraw
      have hcall := h.held c hmem hraw rt hcheld
      refine ⟨exists_commit _ _ _ _ _ (fun _ hr => hr) hcall.1, fun r hr => ?_⟩
      by_contra hlive
      rw [Bool.not_eq_false] at hlive
      rcases live_commit _ _ _ _ new r hr hlive with hrnew | ⟨hrold, hne⟩
      · exact hother hcall.1 r hrnew hlive
      · exact hne (hcall.2 r hrold hlive)
  · intro d hd hraw hret hfail
    rcases mem_move s i c d _ _ hd with hold | hmoved
    · exact h.answers d hold hraw hret hfail
    · rw [hmoved] at hfail
      exact absurd hfail.symm Bool.false_ne_true

/-- Every serial statement keeps `Single`. -/
theorem progress_single (env : Env) (raw : String) (s : State) (i : Nat) (c : Call) (stmt : Stmt)
    (store : Store Uuid RefreshToken) (phase : Phase) (hwf : Wf s) (h : Single env raw s)
    (hget : s.calls[i]? = some c) (hserial : Serial env raw s (.exec i stmt))
    (hprog : Progress env s i c stmt store phase) : Single env raw (s.move i c store phase) := by
  cases hprog with
  | selectToken hphase =>
      by_cases hraw : c.raw = raw
      · rcases hfound : s.store.rows.filter (valid (env.sha256hex c.raw) c.now)
          with _ | ⟨rt, _ | ⟨r, rs⟩⟩
        · exact single_move env raw s i c _ _ h hget rfl (fun _ => by rw [hphase]; rfl)
            (fun _ => rfl) (fun _ _ => rfl)
        -- The one statement that can make a second holder: here the run is serial.
        · rw [hraw] at hfound
          refine single_found env raw s i c rt h hfound ?_
          have hown := (hwf.calls i c hget).own
          rw [hphase] at hown
          refine hserial c hget hraw ?_
          rw [Store.select, Store.visible_of_own_nil _ _ _ hown, hfound]
          exact List.cons_ne_nil rt []
        · -- two valid rows would both be live
          have hle : s.store.rows.countP (valid (env.sha256hex c.raw) c.now) ≤
              s.store.rows.countP (live (env.sha256hex raw)) :=
            List.countP_mono_left (fun r _ hr => hraw ▸ live_of_valid _ _ r hr)
          have hone := h.live_le
          rw [List.countP_eq_length_filter, hfound] at hle
          simp only [List.length_cons] at hle
          omega
      -- A call with another token.
      · exact single_move env raw s i c _ _ h hget rfl (fun hr => absurd hr hraw)
          (fun hr => absurd hr hraw) (fun hr => absurd hr hraw)
  | selectUser rt issue user hphase hmem hid =>
      exact single_move env raw s i c _ _ h hget rfl (fun _ => by rw [hphase]; rfl)
        (fun _ => rfl) (fun _ hret => absurd hret Bool.false_ne_true)
  | update rt new resp hphase =>
      exact single_move env raw s i c _ _ h hget rfl (fun _ => by rw [hphase]; rfl)
        (fun _ => rfl) (fun _ hret => absurd hret Bool.false_ne_true)
  | insert rt new resp hphase =>
      exact single_move env raw s i c _ _ h hget rfl (fun _ => by rw [hphase]; rfl)
        (fun _ => rfl) (fun _ hret => absurd hret Bool.false_ne_true)
  | commit rt new resp hphase hrows =>
      exact single_commit env raw s i c rt new resp hwf h hget hphase hrows

theorem single_request (env : Env) (raw raw' : String) (s : State) (now : Datetime)
    (h : Single env raw s) :
    Single env raw { s with calls := s.calls ++ [⟨raw', now, .started⟩] } := by
  have hcase : ∀ d ∈ s.calls ++ [(⟨raw', now, .started⟩ : Call)],
      d ∈ s.calls ∨ d = ⟨raw', now, .started⟩ := by
    intro d hd
    rcases List.mem_append.mp hd with hold | hnew
    · exact Or.inl hold
    · exact Or.inr (List.mem_singleton.mp hnew)
  refine ⟨h.live_le, ?_, ?_, ?_, ?_⟩
  · exact atMostOne_concat _ s.calls _ h.spender (fun hnew => Bool.false_ne_true hnew.2)
  · intro d hd hraw rt hrt
    rcases hcase d hd with hold | hnew
    · exact h.held d hold hraw rt hrt
    · rw [hnew] at hrt
      exact absurd hrt (Option.not_mem_none rt)
  · intro d hd hraw hok
    rcases hcase d hd with hold | hnew
    · exact h.spent d hold hraw hok
    · rw [hnew] at hok
      exact absurd hok Bool.false_ne_true
  · intro d hd hraw hret hfail
    rcases hcase d hd with hold | hnew
    · exact h.answers d hold hraw hret hfail
    · rw [hnew] at hret
      exact absurd hret Bool.false_ne_true

theorem step_single (env : Env) (raw : String) (s s' : State) (a : Act) (hwf : Wf s)
    (h : Single env raw s) (hserial : Serial env raw s a) (hstep : step env s a = some s') :
    Single env raw s' := by
  rcases step_cases env s s' a hstep with ⟨raw', now, _, heq⟩ |
    ⟨i, stmt, c, store, phase, ha, hget, hexec, heq⟩
  · rw [heq]
    exact single_request env raw raw' s now h
  · rw [ha] at hserial
    have hprog := progress_of_execute env s i c stmt store phase hwf hget hexec
    rw [heq]
    exact progress_single env raw s i c stmt store phase hwf h hget hserial hprog

theorem start_single (env : Env) (raw : String) (db : TokenDb)
    (hlive : db.tokens.countP (live (env.sha256hex raw)) ≤ 1) : Single env raw (start db) where
  live_le := hlive
  spender := fun i _ c _ hget => absurd hget (by simp only [start, List.getElem?_nil,
    reduceCtorEq, not_false_eq_true])
  held := fun _ hc => absurd hc List.not_mem_nil
  spent := fun _ hc => absurd hc List.not_mem_nil
  answers := fun _ hc => absurd hc List.not_mem_nil

theorem run_single (env : Env) (raw : String) (as : List Act) (s s' : State) (hwf : Wf s)
    (h : Single env raw s) (hfresh : Run.Along (step env) (Fresh env) s as)
    (hserial : Run.Along (step env) (Serial env raw) s as)
    (hrun : Run.run (step env) s as = some s') : Single env raw s' :=
  (Run.run_invariant_along (step env) _ (fun t => Wf t ∧ Single env raw t)
    (fun t a t' ht ha ht' => ⟨step_wf env t t' a ht.1 ha.1 ht',
      step_single env raw t t' a ht.1 ht.2 ha.2 ht'⟩) as s s' ⟨hwf, h⟩
    (Run.along_and (step env) _ _ s as hfresh hserial) hrun).2

theorem singleUse_of_single (env : Env) (raw : String) (s : State) (h : Single env raw s) :
    SingleUse raw s := by
  refine ⟨fun i j c d hc hd hcok hdok => ?_, h.answers⟩
  refine h.spender i j c d hc hd ⟨hcok.1, ?_⟩ ⟨hdok.1, ?_⟩
  · rw [Call.spends, hcok.2, Bool.or_true]
  · rw [Call.spends, hdok.2, Bool.or_true]

/-- What the statements of a call keep about it stays true of it for the rest
    of the run. -/
theorem run_keeps (env : Env) (P : Call → Prop)
    (hP : ∀ (s : State) (i : Nat) (c : Call) (stmt : Stmt) (store : Store Uuid RefreshToken)
      (phase : Phase), P c → Progress env s i c stmt store phase → P { c with phase := phase })
    (as : List Act) (s s' : State) (i : Nat) (hwf : Wf s)
    (hfresh : Run.Along (step env) (Fresh env) s as) (hrun : Run.run (step env) s as = some s')
    (hi : ∃ c, s.calls[i]? = some c ∧ P c) : ∃ c, s'.calls[i]? = some c ∧ P c := by
  refine (Run.run_invariant_along (step env) (Fresh env)
    (fun t => Wf t ∧ ∃ c, t.calls[i]? = some c ∧ P c) ?_ as s s' ⟨hwf, hi⟩ hfresh hrun).2
  rintro t a t' ⟨ht, c, hc, hPc⟩ ha hstep
  refine ⟨step_wf env t t' a ht ha hstep, ?_⟩
  rcases step_cases env t t' a hstep with ⟨raw, now, _, heq⟩ |
    ⟨j, stmt, d, store, phase, _, hget, hexec, heq⟩
  · rw [heq]
    exact ⟨c, getElem?_concat_of_some t.calls i _ c hc, hPc⟩
  -- Only the call that executes changes.
  · rw [heq]
    by_cases hij : i = j
    · subst hij
      have hprog := progress_of_execute env t i d stmt store phase ht hget hexec
      rw [hc, Option.some.injEq] at hget
      refine ⟨_, getElem?_set_of_some t.calls i _ c hc, ?_⟩
      rw [← hget] at hprog ⊢
      exact hP t i c stmt store phase hPc hprog
    · exact ⟨c, getElem?_set_of_ne t.calls j i _ c hij hc, hPc⟩

/-- A call that has found its row goes on to succeed. -/
theorem spends_kept (env : Env) (raw : String) (s : State) (i : Nat) (c : Call) (stmt : Stmt)
    (store : Store Uuid RefreshToken) (phase : Phase) (hc : c.raw = raw ∧ c.spends = true)
    (hprog : Progress env s i c stmt store phase) :
    c.raw = raw ∧ ({ c with phase := phase } : Call).spends = true := by
  refine ⟨hc.1, ?_⟩
  cases hprog with
  | selectToken hphase =>
      have hspends := hc.2
      rw [Call.spends, Call.succeeded, hphase] at hspends
      exact absurd hspends Bool.false_ne_true
  | selectUser rt issue user _ _ _ => rfl
  | update rt new resp _ => rfl
  | insert rt new resp _ => rfl
  | commit rt new resp _ _ => rfl

theorem crash_kept (env : Env) (raw : String) (s : State) (i : Nat) (c : Call) (stmt : Stmt)
    (store : Store Uuid RefreshToken) (phase : Phase)
    (hc : c.raw = raw ∧ c.phase = .finished .crash)
    (hprog : Progress env s i c stmt store phase) : c.raw = raw ∧ phase = .finished .crash := by
  have hphase := hc.2
  cases hprog with
  | selectToken h => exact absurd (h.symm.trans hphase) (by simp only [reduceCtorEq,
      not_false_eq_true])
  | selectUser rt issue user h _ _ => exact absurd (h.symm.trans hphase) (by simp only
      [reduceCtorEq, not_false_eq_true])
  | update rt new resp h => exact absurd (h.symm.trans hphase) (by simp only [reduceCtorEq,
      not_false_eq_true])
  | insert rt new resp h => exact absurd (h.symm.trans hphase) (by simp only [reduceCtorEq,
      not_false_eq_true])
  | commit rt new resp h _ => exact absurd (h.symm.trans hphase) (by simp only [reduceCtorEq,
      not_false_eq_true])

theorem succeeded_of_returned (c : Call) (hspends : c.spends = true) (hret : c.returned = true) :
    c.succeeded = true := by
  rcases c with ⟨raw, now, phase⟩
  cases phase with
  | finished reply => exact hspends
  | _ => exact absurd hret Bool.false_ne_true

/-- Every call that presented `raw` has returned. -/
def Complete (raw : String) (s : State) : Prop :=
  ∀ c ∈ s.calls, c.raw = raw → c.returned = true

instance (raw : String) (s : State) : Decidable (Complete raw s) :=
  inferInstanceAs (Decidable (∀ c ∈ s.calls, c.raw = raw → c.returned = true))

/-- A call that holds a row at one point of a complete run has succeeded by its end. -/
theorem succeeded_of_spends (env : Env) (raw : String) (as : List Act) (s s' : State) (i : Nat)
    (c : Call) (hwf : Wf s) (hfresh : Run.Along (step env) (Fresh env) s as)
    (hrun : Run.run (step env) s as = some s') (hdone : Complete raw s')
    (hget : s.calls[i]? = some c) (hraw : c.raw = raw) (hspends : c.spends = true) :
    ∃ c', s'.calls[i]? = some c' ∧ c'.raw = raw ∧ c'.succeeded = true := by
  have hkeeps := run_keeps env _ (spends_kept env raw) as s s' i hwf hfresh hrun
    ⟨c, hget, hraw, hspends⟩
  rcases hkeeps with ⟨c', hget', hraw', hspends'⟩
  have hret := hdone c' (List.mem_of_getElem? hget') hraw'
  exact ⟨c', hget', hraw', succeeded_of_returned c' hspends' hret⟩

/-- A call that has crashed at one point of a run has crashed at its end. -/
theorem crashed_at_end (env : Env) (raw : String) (as : List Act) (s s' : State) (i : Nat)
    (c : Call) (hwf : Wf s) (hfresh : Run.Along (step env) (Fresh env) s as)
    (hrun : Run.run (step env) s as = some s') (hget : s.calls[i]? = some c)
    (hraw : c.raw = raw) (hcrash : c.phase = .finished .crash) :
    ∃ c', s'.calls[i]? = some c' ∧ c'.raw = raw ∧ c'.phase = .finished .crash :=
  run_keeps env _ (crash_kept env raw) as s s' i hwf hfresh hrun ⟨c, hget, hraw, hcrash⟩

/-- If a SELECT does find the row of a token another call holds, the run cannot
    end with the token redeemed once. -/
theorem serial_of_singleUse_step (env : Env) (raw : String) (s s₁ s' : State) (a : Act)
    (as : List Act) (hwf : Wf s) (hfresh : Fresh env s a)
    (hrest : Run.Along (step env) (Fresh env) s₁ as) (hstep : step env s a = some s₁)
    (hrun : Run.run (step env) s₁ as = some s') (hdone : Complete raw s')
    (huse : SingleUse raw s') : Serial env raw s a := by
  have hwf₁ := step_wf env s s₁ a hwf hfresh hstep
  match a with
  | .request _ _ => trivial
  | .exec _ (.selectUser _) => trivial
  | .exec _ .update => trivial
  | .exec _ .insert => trivial
  | .exec _ .commit => trivial
  | .exec i .selectToken =>
      intro c hget hraw hfound d hd hdraw
      by_contra hheld
      rcases List.getElem?_of_mem hd with ⟨j, hj⟩
      rcases step_cases env s s₁ _ hstep with ⟨_, _, ha, _⟩ |
        ⟨i', stmt, c', store, phase, ha, hget', hexec, heq⟩
      · exact absurd ha (by simp only [reduceCtorEq, not_false_eq_true])
      · simp only [Act.exec.injEq] at ha
        rcases ha with ⟨hi, hstmt⟩
        subst hi
        subst hstmt
        rw [Option.mem_def] at hget
        rw [hget, Option.some.injEq] at hget'
        subst hget'
        have hprog := progress_of_execute env s i c _ store phase hwf hget hexec
        cases hprog with
        | selectToken hphase =>
            -- Suppose another call `d` holds the row while `c` finds it.
            have hij : j ≠ i := by
              intro heq'
              rw [heq', hget, Option.some.injEq] at hj
              rw [← hj, hphase] at hheld
              exact hheld rfl
            have hdspends : d.spends = true := by
              rw [Call.spends, Option.isSome_iff_ne_none.mpr hheld, Bool.true_or]
            -- `d` holds on to it until it returns, and then it has succeeded.
            have hdget : s₁.calls[j]? = some d := by
              rw [heq]
              exact getElem?_set_of_ne s.calls i j _ d hij hj
            rcases succeeded_of_spends env raw as s₁ s' j d hwf₁ hrest hrun hdone hdget hdraw
              hdspends with ⟨d', hd', hdraw', hdok⟩
            have hmoved : s₁.calls[i]? = some { c with
                phase := afterSelectToken (s.store.rows.filter
                  (valid (env.sha256hex c.raw) c.now)) } := by
              rw [heq]
              exact getElem?_set_of_some s.calls i _ c hget
            have hown := (hwf.calls i c hget).own
            rw [hphase] at hown
            rw [Store.select, Store.visible_of_own_nil _ _ _ hown, ← hraw] at hfound
            rcases hrows : s.store.rows.filter (valid (env.sha256hex c.raw) c.now)
              with _ | ⟨rt, _ | ⟨r, rs⟩⟩
            · exact hfound hrows
            -- So does `c`, and two successes with one token contradict the single use.
            · rw [hrows] at hmoved
              rcases succeeded_of_spends env raw as s₁ s' i _ hwf₁ hrest hrun hdone hmoved hraw
                rfl with ⟨c', hc', hcraw', hcok⟩
              exact hij (huse.once j i d' c' hd' hc' ⟨hdraw', hdok⟩ ⟨hcraw', hcok⟩)
            -- With several rows `c` crashes, which is no answer either.
            · rw [hrows] at hmoved
              rcases crashed_at_end env raw as s₁ s' i _ hwf₁ hrest hrun hmoved hraw
                rfl with ⟨c', hc', hcraw', hccrash⟩
              have hmem := List.mem_of_getElem? hc'
              have hans := huse.others c' hmem hcraw' (hdone c' hmem hcraw') (by
                rw [Call.succeeded, hccrash])
              rw [hccrash] at hans
              exact absurd hans (by simp only [invalidRefresh, Phase.finished.injEq, reduceCtorEq,
                not_false_eq_true])

theorem serial_of_singleUse (env : Env) (raw : String) (as : List Act) (s s' : State)
    (hwf : Wf s) (hfresh : Run.Along (step env) (Fresh env) s as)
    (hrun : Run.run (step env) s as = some s') (hdone : Complete raw s')
    (huse : SingleUse raw s') : Run.Along (step env) (Serial env raw) s as := by
  induction as generalizing s with
  | nil => trivial
  | cons a as ih =>
      rcases (Run.run_cons_eq_some (step env) s s' a as).mp hrun with ⟨s₁, hstep, hrest⟩
      have hfresh' := (Run.along_cons (step env) (Fresh env) s s₁ a as hstep).mp hfresh
      rw [Run.along_cons (step env) (Serial env raw) s s₁ a as hstep]
      exact ⟨serial_of_singleUse_step env raw s s₁ s' a as hwf hfresh'.1 hfresh'.2 hstep hrest
          hdone huse,
        ih s₁ (step_wf env s s₁ a hwf hfresh'.1 hstep) hfresh'.2 hrest⟩

/-- A token of which the table holds at most one live row is redeemed at most
    once, and every other call gets 401, in every run in which no SELECT finds
    the token's row while another call that presented the token holds it. Once
    all its calls have returned, these are all the runs in which that is so. -/
theorem refresh_single_use (env : Env) (raw : String) (db : TokenDb) (as : List Act) (s : State)
    (hlive : db.tokens.countP (live (env.sha256hex raw)) ≤ 1)
    (hfresh : Run.Along (step env) (Fresh env) (start db) as)
    (hrun : Run.run (step env) (start db) as = some s) :
    (Run.Along (step env) (Serial env raw) (start db) as → SingleUse raw s) ∧
    (Complete raw s → SingleUse raw s → Run.Along (step env) (Serial env raw) (start db) as) := by
  constructor
  · intro hserial
    exact singleUse_of_single env raw s (run_single env raw as (start db) s (start_wf db)
      (start_single env raw db hlive) hfresh hserial hrun)
  · intro hdone huse
    exact serial_of_singleUse env raw as (start db) s (start_wf db) hfresh hrun hdone huse

/-- Two calls, each of which selects the token before the other commits. -/
def overlappingRun : List Act :=
  [.request "old" 100, .request "old" 101, .exec 0 .selectToken, .exec 1 .selectToken,
    .exec 0 (.selectUser ⟨102, 102, 11, 8⟩), .exec 1 (.selectUser ⟨103, 103, 12, 9⟩),
    .exec 0 .update, .exec 0 .insert, .exec 0 .commit, .exec 1 .update, .exec 1 .insert,
    .exec 1 .commit]

/-- Two calls, one after the other. -/
def serialRun : List Act :=
  aloneRun 0 "old" 100 ⟨101, 101, 11, 8⟩ ++ [.request "old" 200, .exec 1 .selectToken]

/-- The second call of `serialRun` is refused. -/
theorem refresh_single_use_demo : ∃ s, Run.run (step demoEnv) (start demoDb) serialRun = some s ∧
    (SingleUse "old" s ↔
        Run.Along (step demoEnv) (Serial demoEnv "old") (start demoDb) serialRun) :=
  ⟨_, rfl, (refresh_single_use demoEnv "old" demoDb serialRun _ (by decide) (by decide) rfl).2
    (by decide),
    (refresh_single_use demoEnv "old" demoDb serialRun _ (by decide) (by decide) rfl).1⟩

/-- Both calls of `overlappingRun` redeem the token. -/
theorem refresh_not_single_use : ¬ ∀ (env : Env) (raw : String) (db : TokenDb) (as : List Act)
    (s : State), Run.Along (step env) (Fresh env) (start db) as →
    Run.run (step env) (start db) as = some s → SingleUse raw s := by
  intro hall
  have huse := hall demoEnv "old" demoDb overlappingRun _ (by decide) rfl
  exact absurd (huse.once 0 1 _ _ rfl rfl ⟨rfl, rfl⟩ ⟨rfl, rfl⟩) (by decide)

end Refresh

end Backend

end Vena
