import Vena.Backend.IngestLedger

/-!
# How Ingestion Can End

A sequence of messages does not decide what is stored: the clock decides where
the batches end, and a message that is not handled takes the rows of its batch
with it. Between the rows that are stored whenever a sequence has been worked
off and the rows that can be stored at all lie the rows of one unfinished batch,
and both ends are reached.

## Main definitions

* `Final`: A state in which a sequence has been worked off, or has ended the task.
* `surely`: The rows that are stored in every such state.
* `Leads`: A run without `stop` and with a database that is available.
* `Calm`: The task waits for a message, and has just flushed.

## Theorems

* `final_bounds`: What is stored in the end lies between the two.
* `final_surely`, `final_readRows`: Each of the two can be all that is stored.
-/

namespace Vena

namespace Backend

namespace Ingest

open Python

/-- The messages are all stored, or one of them has ended the task. -/
structure Final (env : Env) (db : Store) (msgs : List Message) (t : State) : Prop where
  run : ∃ acts, (∀ a ∈ acts, a.Ingestion) ∧ Run.run (step env) (State.init db) acts = some t
  accepted : t.accepted <+: msgs
  ended : (t.accepted = msgs ∧ Idle t) ∨ ∃ exc, t.phase = .failed exc

/-- The rows that no bad message can take away: all but those of a last batch,
    if there is a message that is not absorbed. -/
def surely (env : Env) (msgs : List Message) : List Row :=
  if ∀ m ∈ msgs, Absorbed env m then readRows env msgs
  else (readRows env msgs).take ((readRows env msgs).length - (batchSize - 1))

theorem prefix_surely (env : Env) (msgs : List Message) :
    surely env msgs <+: readRows env msgs := by
  unfold surely
  split
  · exact List.prefix_rfl
  · exact List.take_prefix _ _

/-- Messages that are all absorbed are all read. -/
theorem readable_of_absorbed (env : Env) (msgs : List Message) (h : ∀ m ∈ msgs, Absorbed env m) :
    readable env msgs = msgs := by
  unfold readable
  rw [List.takeWhile_eq_self_iff]
  exact fun m hm => decide_eq_true (h m hm)

/-- A bad message among the first ones ends the reading there. -/
theorem readRows_of_prefix (env : Env) (xs ys : List Message) (h : xs <+: ys)
    (hbad : ∃ m ∈ xs, ¬Absorbed env m) : readRows env ys = readRows env xs := by
  rcases h with ⟨rest, rfl⟩
  rcases hbad with ⟨m, hm, hbad⟩
  rw [readRows, readRows, readable_append env xs rest m hm hbad]

/-- What is stored in the end is what is stored surely, or more, but never more
    than can be read. -/
theorem final_bounds (env : Env) (db : Store) (msgs : List Message) (t : State)
    (h : Final env db msgs t) :
    ∃ flushed, t.db.telemetryRaw = Keyed.insertAllNew Row.key db.telemetryRaw flushed ∧
      surely env msgs <+: flushed ∧ flushed <+: readRows env msgs := by
  rcases h.run with ⟨acts, hing, hrun⟩
  rcases ledger_run env db acts t hing hrun with ⟨taken, flushed, hledger⟩
  refine ⟨flushed, hledger.telemetry, ?_⟩
  have hbalanced := hledger.balanced
  rcases h.ended with ⟨hall, hphase, hitems, hbatch⟩ | ⟨exc, hphase⟩
  -- Nothing is left in the queue or in the batch, so every row was taken.
  · rw [Balanced, hphase] at hbalanced
    rcases hbalanced with ⟨hpasses, hrows, _⟩
    rw [hbatch, List.append_nil] at hrows
    have htaken : taken = msgs := by
      have haccepted := hledger.accepted
      rw [State.unread, hphase] at haccepted
      rw [← hall, haccepted, hitems, List.append_nil]
    have habsorbed : ∀ m ∈ msgs, Absorbed env m := by
      intro m hm
      refine (absorbed_iff_of_passes env m (hpasses m (htaken ▸ hm))).mpr (fun row hrow => ?_)
      refine hledger.storable row ?_
      rw [hrows, htaken]
      exact List.mem_filterMap.mpr ⟨m, hm, hrow⟩
    have hsame : flushed = readRows env msgs := by
      rw [hrows, htaken, readRows, readable_of_absorbed env msgs habsorbed]
    rw [surely, if_pos habsorbed, hsame]
    exact ⟨List.prefix_rfl, List.prefix_rfl⟩
  · rw [Balanced, hphase] at hbalanced
    rcases hbalanced with ⟨hbad, lost, hrows, hlost⟩
    have hread := readRows_of_prefix env t.accepted msgs h.accepted hbad
    have hsome : ¬∀ m ∈ msgs, Absorbed env m := by
      rcases hbad with ⟨m, hm, hno⟩
      exact fun hall => hno (hall m (h.accepted.subset hm))
    rw [surely, if_neg hsome, hread, hrows]
    refine ⟨?_, List.prefix_append flushed lost⟩
    rw [List.take_append_of_le_length]
    · exact List.take_prefix _ _
    · rw [List.length_append]
      unfold batchSize at hlost ⊢
      omega

/-- There is a run of this kind from the one state to the other. -/
def Leads (env : Env) (s t : State) : Prop :=
  ∃ acts, (∀ a ∈ acts, a.Ingestion) ∧ Run.run (step env) s acts = some t

theorem Leads.refl (env : Env) (s : State) : Leads env s s :=
  ⟨[], fun _ ha => absurd ha List.not_mem_nil, rfl⟩

theorem Leads.trans {env : Env} {s t u : State} (h : Leads env s t) (h' : Leads env t u) :
    Leads env s u := by
  rcases h with ⟨acts, hing, hrun⟩
  rcases h' with ⟨more, hing', hrun'⟩
  exact ⟨acts ++ more, List.forall_mem_append.mpr ⟨hing, hing'⟩,
    (Run.run_append (step env) s u acts more).mpr ⟨t, hrun, hrun'⟩⟩

theorem leads_step (env : Env) (s t : State) (a : Action) (ha : a.Ingestion)
    (h : step env s a = some t) : Leads env s t := by
  refine ⟨[a], List.forall_mem_singleton.mpr ha, ?_⟩
  rw [Run.run, h]
  rfl

/-- The task waits, nothing is queued, and the last flush is now. -/
structure Calm (s : State) : Prop where
  phase : s.phase = .waiting
  items : s.queue.items = []
  stopped : s.stopped = none
  fresh : s.clock = s.lastFlush

theorem calm_init (db : Store) : Calm (State.init db) := ⟨rfl, rfl, rfl, rfl⟩

/-- What messages have done to a calm state that only adds to its batch. -/
structure Piled (env : Env) (s t : State) (msgs : List Message) : Prop where
  calm : Calm t
  accepted : t.accepted = s.accepted ++ msgs
  batch : t.batch = s.batch ++ rowsOf env msgs
  telemetry : t.db.telemetryRaw = s.db.telemetryRaw

/-- Right after a flush a batch that is not full waits. -/
theorem loopEnd_fresh (s : State) (clock : Nat) (hfresh : clock = s.lastFlush)
    (hlength : s.batch.length < batchSize) :
    s.loopEnd clock = { s with clock := clock, phase := .waiting } := by
  have hno : State.shouldFlush clock s.batch s.lastFlush = false := by
    have hlong : decide (batchSize ≤ s.batch.length) = false :=
      decide_eq_false (Nat.not_le.mpr hlength)
    have hsoon : decide (flushInterval ≤ clock - s.lastFlush) = false := by
      rw [hfresh, Nat.sub_self]
      exact decide_eq_false (by decide)
    rw [State.shouldFlush, hlong, hsoon, Bool.and_false, Bool.or_false]
  rw [State.loopEnd, hno, if_neg Bool.false_ne_true]

/-- The end of the loop body right after a flush. -/
theorem piled_loopEnd (env : Env) (s u : State) (m : Message) (hcalm : Calm s)
    (hitems : u.queue.items = []) (hstopped : u.stopped = s.stopped)
    (hfresh : u.lastFlush = s.lastFlush) (haccepted : u.accepted = s.accepted ++ [m])
    (hbatch : u.batch = s.batch ++ rowsOf env [m])
    (htelemetry : u.db.telemetryRaw = s.db.telemetryRaw)
    (hlength : (s.batch ++ rowsOf env [m]).length < batchSize) :
    Piled env s (u.loopEnd s.clock) [m] := by
  have hnow : s.clock = u.lastFlush := hcalm.fresh.trans hfresh.symm
  rw [loopEnd_fresh u s.clock hnow (hbatch ▸ hlength)]
  exact ⟨⟨rfl, hitems, hstopped.trans hcalm.stopped, hnow⟩, haccepted, hbatch, htelemetry⟩

/-- A message read at the time of the last flush joins the batch, if it is a sample. -/
theorem pile_message (env : Env) (s : State) (m : Message) (hcalm : Calm s)
    (habsorbed : Absorbed env m) (hlength : (s.batch ++ rowsOf env [m]).length < batchSize) :
    ∃ t, Leads env s t ∧ Piled env s t [m] := by
  rcases read_put env s m hcalm.phase hcalm.items with ⟨queue, u, rfl, hnil, hread⟩
  have hing : ∀ a ∈ [.put m, .fetch], Action.Ingestion a :=
    List.forall_mem_cons.mpr ⟨trivial, List.forall_mem_singleton.mpr trivial⟩
  have hfetch : Leads env s _ := ⟨_, hing, hread⟩
  have hresume := hfetch.trans (leads_step env _ _ (.resume s.clock) trivial
    (by simp only [step, Nat.le_refl, if_true]; rfl))
  unfold Absorbed at habsorbed
  unfold State.handle at hresume
  have hmade : rowsOf env [m] = (rowMade env m).toList := rowsOf_concat env [] m
  unfold rowMade at hmade
  cases hdecode : decode env m with
  | error exc =>
      rw [hdecode] at habsorbed
      exact habsorbed.elim
  | ok outcome =>
      rw [hdecode] at habsorbed hresume hmade
      cases outcome with
      | discard =>
          have hsame : s.batch = s.batch ++ rowsOf env [m] := by
            rw [hmade, Option.toList_none, List.append_nil]
          exact ⟨_, hresume, piled_loopEnd env s _ m hcalm hnil rfl rfl rfl hsame rfl hlength⟩
      | row row =>
          have hmore : s.batch ++ [row] = s.batch ++ rowsOf env [m] := by
            rw [hmade, Option.toList_some]
          exact ⟨_, hresume, piled_loopEnd env s _ m hcalm hnil rfl rfl rfl hmore rfl hlength⟩
      | upsert deviceId data =>
          have hsame : s.batch = s.batch ++ rowsOf env [m] := by
            rw [hmade, Option.toList_none, List.append_nil]
          -- The document is stored, which takes no time.
          rcases Store.upsertMeta_ok env 0 deviceId data s.db habsorbed with ⟨db, hdb⟩
          have hcommit := hresume.trans (leads_step env _
            { s with
              queue := queue
              accepted := s.accepted ++ [m]
              phase := .upserting deviceId data true
              db := db } (.commit 0) trivial
            (by simp only [step, State.commit, hdb, State.commitTask]))
          have hdone := hcommit.trans (leads_step env _ _ (.done s.clock) trivial
            (by simp only [step, State.done, Nat.le_refl, if_true]; rfl))
          exact ⟨_, hdone, piled_loopEnd env s _ m hcalm hnil rfl rfl rfl hsame
            (Store.telemetryRaw_upsertMeta env 0 deviceId data s.db db hdb) hlength⟩

/-- Messages read at the time of the last flush pile up in the batch. -/
theorem pile (env : Env) (msgs : List Message) :
    ∀ s : State, Calm s → (∀ m ∈ msgs, Absorbed env m) →
      (s.batch ++ rowsOf env msgs).length < batchSize →
      ∃ t, Leads env s t ∧ Piled env s t msgs := by
  induction msgs with
  | nil =>
      intro s hcalm _ _
      exact ⟨s, Leads.refl env s, hcalm, (List.append_nil _).symm, (List.append_nil _).symm, rfl⟩
  | cons m msgs ih =>
      intro s hcalm habsorbed hlength
      rw [List.forall_mem_cons] at habsorbed
      have hsplit : rowsOf env (m :: msgs) = rowsOf env [m] ++ rowsOf env msgs :=
        rowsOf_append env [m] msgs
      rw [hsplit, ← List.append_assoc] at hlength
      have hone : (s.batch ++ rowsOf env [m]).length < batchSize := by
        rw [List.length_append] at hlength
        omega
      rcases pile_message env s m hcalm habsorbed.1 hone with ⟨t, hst, ht⟩
      rcases ih t ht.calm habsorbed.2 (by rwa [ht.batch]) with ⟨u, htu, hu⟩
      refine ⟨u, hst.trans htu, hu.calm, ?_, ?_, hu.telemetry.trans ht.telemetry⟩
      · rw [hu.accepted, ht.accepted, List.append_assoc, List.singleton_append]
      · rw [hu.batch, ht.batch, hsplit, List.append_assoc]

/-- What a flush has done to a calm state. -/
structure Flushed (s t : State) : Prop where
  calm : Calm t
  accepted : t.accepted = s.accepted
  batch : t.batch = []
  telemetry : t.db.telemetryRaw = Keyed.insertAllNew Row.key s.db.telemetryRaw s.batch

/-- When nothing comes for a while, the batch is flushed. -/
theorem flush_calm (env : Env) (s : State) (hcalm : Calm s) (hne : s.batch ≠ [])
    (hlength : s.batch.length < batchSize) (hstorable : ∀ row ∈ s.batch, env.storable row = true) :
    ∃ t, Leads env s t ∧ Flushed s t := by
  have hwait : s.clock + s.waitTimeout ≤ later s := by
    unfold State.waitTimeout later flushInterval minTimeout
    omega
  have hdue : State.shouldFlush (later s) s.batch s.lastFlush = true := by
    rw [State.shouldFlush, List.isEmpty_eq_false_iff.mpr hne, decide_eq_true (due_later s),
      Bool.not_false, Bool.and_true, Bool.or_true]
  have hlimit : s.batch.length * rowParameters ≤ bindLimit := by
    unfold batchSize at hlength
    unfold rowParameters bindLimit
    omega
  rcases Store.flush_ok env 0 s.batch s.db hstorable hlimit with ⟨db, hdb⟩
  have htimeout : Leads env s { s with clock := later s, phase := .flushing false } :=
    leads_step env s _ (.timeout (later s)) trivial
      (by simp only [step, hcalm.phase, hwait, if_true, State.loopEnd, hdue])
  have hcommit := htimeout.trans (leads_step env _
    { s with
      clock := later s
      phase := .flushing true
      db := db } (.commit 0) trivial
    (by simp only [step, State.commit, hdb, State.commitTask]))
  have hdone := hcommit.trans (leads_step env _
    { s with
      batch := []
      clock := later s
      lastFlush := later s
      phase := .waiting
      db := db } (.done (later s)) trivial
    (by simp only [step, State.done, Nat.le_refl, if_true]))
  exact ⟨_, hdone, ⟨rfl, hcalm.items, hcalm.stopped, rfl⟩, rfl, rfl,
    (flush_leaves env 0 s.batch s.db db hdb).telemetry⟩

/-- The rows of absorbed messages are storable. -/
theorem storable_of_absorbed (env : Env) (msgs : List Message) (h : ∀ m ∈ msgs, Absorbed env m) :
    ∀ row ∈ rowsOf env msgs, env.storable row = true := by
  intro row hrow
  rcases List.mem_filterMap.mp hrow with ⟨m, hm, hmade⟩
  have habsorbed := h m hm
  exact (absorbed_iff_of_passes env m (passes_of_absorbed env m habsorbed)).mp habsorbed row hmade

theorem length_rowsOf_singleton (env : Env) (m : Message) : (rowsOf env [m]).length ≤ 1 :=
  List.length_filterMap_le _ _

/-- What messages have done to a calm state if each was flushed at once. -/
structure Settled (env : Env) (s t : State) (msgs : List Message) : Prop where
  calm : Calm t
  accepted : t.accepted = s.accepted ++ msgs
  batch : t.batch = []
  telemetry : t.db.telemetryRaw =
    Keyed.insertAllNew Row.key s.db.telemetryRaw (rowsOf env msgs)

/-- A message that comes alone is stored. -/
theorem settle_message (env : Env) (s : State) (m : Message) (hcalm : Calm s)
    (hbatch : s.batch = []) (habsorbed : Absorbed env m) :
    ∃ t, Leads env s t ∧ Settled env s t [m] := by
  have hlength : (s.batch ++ rowsOf env [m]).length < batchSize := by
    have hone := length_rowsOf_singleton env m
    rw [hbatch, List.nil_append]
    unfold batchSize
    omega
  rcases pile_message env s m hcalm habsorbed hlength with ⟨t, hst, ht⟩
  have hrows := ht.batch
  rw [hbatch, List.nil_append] at hrows
  by_cases hnil : rowsOf env [m] = []
  · refine ⟨t, hst, ht.calm, ht.accepted, hrows.trans hnil, ?_⟩
    rw [hnil]
    exact ht.telemetry
  · have hsingle : ∀ x ∈ [m], Absorbed env x := List.forall_mem_singleton.mpr habsorbed
    rcases flush_calm env t ht.calm (by rwa [hrows]) (by rwa [ht.batch])
        (by rw [hrows]; exact storable_of_absorbed env [m] hsingle) with ⟨u, htu, hu⟩
    refine ⟨u, hst.trans htu, hu.calm, hu.accepted.trans ht.accepted, hu.batch, ?_⟩
    rw [hu.telemetry, ht.telemetry, hrows]

theorem settle (env : Env) (msgs : List Message) :
    ∀ s : State, Calm s → s.batch = [] → (∀ m ∈ msgs, Absorbed env m) →
      ∃ t, Leads env s t ∧ Settled env s t msgs := by
  induction msgs with
  | nil =>
      intro s hcalm hbatch _
      exact ⟨s, Leads.refl env s, hcalm, (List.append_nil _).symm, hbatch, rfl⟩
  | cons m msgs ih =>
      intro s hcalm hbatch habsorbed
      rw [List.forall_mem_cons] at habsorbed
      rcases settle_message env s m hcalm hbatch habsorbed.1 with ⟨t, hst, ht⟩
      rcases ih t ht.calm ht.batch habsorbed.2 with ⟨u, htu, hu⟩
      refine ⟨u, hst.trans htu, hu.calm, ?_, hu.batch, ?_⟩
      · rw [hu.accepted, ht.accepted, List.append_assoc, List.singleton_append]
      · have hsplit : rowsOf env (m :: msgs) = rowsOf env [m] ++ rowsOf env msgs :=
          rowsOf_append env [m] msgs
        rw [hu.telemetry, ht.telemetry, hsplit, Keyed.insertAllNew_append]

/-- Absorbed messages can all be stored. -/
theorem final_absorbed (env : Env) (db : Store) (msgs : List Message)
    (h : ∀ m ∈ msgs, Absorbed env m) :
    ∃ t, Final env db msgs t ∧
      t.db.telemetryRaw = Keyed.insertAllNew Row.key db.telemetryRaw (readRows env msgs) := by
  rcases settle env msgs (State.init db) (calm_init db) rfl h with ⟨t, hrun, ht⟩
  have hall : t.accepted = msgs := ht.accepted
  refine ⟨t, ⟨hrun, hall ▸ List.prefix_rfl, Or.inl ⟨hall, ht.calm.phase, ht.calm.items, ht.batch⟩⟩,
    ?_⟩
  rw [readRows, readable_of_absorbed env msgs h]
  exact ht.telemetry

/-- The messages before the first one that is not absorbed, and that one. -/
theorem readable_split (env : Env) (msgs : List Message) (h : ¬∀ m ∈ msgs, Absorbed env m) :
    ∃ m rest, msgs = readable env msgs ++ m :: rest ∧ ¬Absorbed env m := by
  induction msgs with
  | nil => exact absurd (fun _ hm => absurd hm List.not_mem_nil) h
  | cons first msgs ih =>
      by_cases hfirst : Absorbed env first
      · rcases ih (fun hall => h (List.forall_mem_cons.mpr ⟨hfirst, hall⟩))
          with ⟨m, rest, hsplit, hbad⟩
        refine ⟨m, rest, ?_, hbad⟩
        have hread : readable env (first :: msgs) = first :: readable env msgs :=
          List.takeWhile_cons_of_pos (decide_eq_true hfirst)
        rw [hread, List.cons_append, ← hsplit]
      · refine ⟨first, msgs, ?_, hfirst⟩
        have hread : readable env (first :: msgs) = [] :=
          List.takeWhile_cons_of_neg (by rwa [decide_eq_true_eq])
        rw [hread, List.nil_append]

theorem absorbed_readable (env : Env) (msgs : List Message) :
    ∀ m ∈ readable env msgs, Absorbed env m := by
  intro m hm
  unfold readable at hm
  have hgood := List.mem_takeWhile_imp hm
  exact of_decide_eq_true hgood

/-- A bad message can take away up to 99 rows before it. -/
theorem final_cut (env : Env) (db : Store) (msgs : List Message) (kept lost : List Row)
    (hbad : ¬∀ m ∈ msgs, Absorbed env m) (hrows : readRows env msgs = kept ++ lost)
    (hlost : lost.length < batchSize) :
    ∃ t, Final env db msgs t ∧
      t.db.telemetryRaw = Keyed.insertAllNew Row.key db.telemetryRaw kept := by
  rcases readable_split env msgs hbad with ⟨m, rest, hsplit, hm⟩
  rcases List.filterMap_eq_append_iff.mp hrows with ⟨first, last, hread, hkept, hpiled⟩
  have habsorbed := absorbed_readable env msgs
  rw [hread, List.forall_mem_append] at habsorbed
  -- The first rows are flushed one by one, and the others are still in the batch.
  rcases settle env first (State.init db) (calm_init db) rfl habsorbed.1 with ⟨s, hs, hsettled⟩
  have hshort : (s.batch ++ rowsOf env last).length < batchSize := by
    rw [hsettled.batch, List.nil_append, rowsOf, hpiled]
    exact hlost
  rcases pile env last s hsettled.calm habsorbed.2 hshort with ⟨t, ht, hpile⟩
  rcases read_put env t m hpile.calm.phase hpile.calm.items with ⟨queue, u, hu, _, hput⟩
  have hfetched : u.phase = .fetched m ∧ u.stopped = none ∧ u.db = t.db := by
    rw [hu]
    exact ⟨rfl, hpile.calm.stopped, rfl⟩
  rcases fails_of_not_absorbed env u m hfetched.1 hfetched.2.1 hm with
    ⟨more, v, exc, hmore, hrun, hsame, hphase, hdb⟩
  have hing : ∀ a ∈ [.put m, .fetch], Action.Ingestion a :=
    List.forall_mem_cons.mpr ⟨trivial, List.forall_mem_singleton.mpr trivial⟩
  have hleads := (hs.trans ht).trans (Leads.trans ⟨_, hing, hput⟩ ⟨more, hmore, hrun⟩)
  have haccepted : v.accepted = readable env msgs ++ [m] := by
    rw [hsame, hu, hpile.accepted, hsettled.accepted, hread]
    rfl
  refine ⟨v, ⟨hleads, ?_, Or.inr ⟨exc, hphase⟩⟩, ?_⟩
  · refine ⟨rest, ?_⟩
    rw [haccepted, List.append_assoc, List.singleton_append, ← hsplit]
  · rw [hdb, hfetched.2.2, hpile.telemetry, hsettled.telemetry, rowsOf, hkept]
    rfl

theorem final_readRows (env : Env) (db : Store) (msgs : List Message) :
    ∃ t, Final env db msgs t ∧
      t.db.telemetryRaw = Keyed.insertAllNew Row.key db.telemetryRaw (readRows env msgs) := by
  by_cases h : ∀ m ∈ msgs, Absorbed env m
  · exact final_absorbed env db msgs h
  · exact final_cut env db msgs (readRows env msgs) [] h (List.append_nil _).symm
      (Nat.zero_lt_succ 99)

theorem final_surely (env : Env) (db : Store) (msgs : List Message) :
    ∃ t, Final env db msgs t ∧
      t.db.telemetryRaw = Keyed.insertAllNew Row.key db.telemetryRaw (surely env msgs) := by
  unfold surely
  split
  · next h => exact final_absorbed env db msgs h
  · next h =>
      refine final_cut env db msgs _ _ h (List.take_append_drop _ _).symm ?_
      rw [List.length_drop]
      unfold batchSize
      omega

end Ingest

end Backend

end Vena
