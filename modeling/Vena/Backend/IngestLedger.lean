import Vena.Backend.Batching
import Vena.Backend.IngestSurvival

/-!
# The Books of the Ingestor

Where the rows of the messages read so far are, row by row and in order: the
flushed ones are in `telemetry_raw`, as one insertion of all of them would have
put them there, and the others are in the batch. The books are kept until an
exception ends the task, and then they tell what is lost: the rows of the last
batch and everything that has not been read.

## Main definitions

* `rowsOf`, `readRows`: The rows of messages, and of those before the first one
  that is not absorbed.
* `Passes`: Reading the message raises nothing, and its document is taken.
* `Broken`, `Balanced`, `Ledger`: The books.

## Theorems

* `ledger_step`, `ledger_run`: The books are kept.
* `ledger_caught`: Also when a document runs into a timeout.
-/

namespace Vena

namespace Backend

namespace Ingest

open Python

instance (env : Env) : DecidablePred (Absorbed env) := fun m => by
  unfold Absorbed
  rcases decode env m with exc | row | _ | _
  · exact instDecidableFalse
  · exact inferInstanceAs (Decidable (_ = true))
  · exact inferInstanceAs (Decidable (_ = true))
  · exact instDecidableTrue

/-- The row a message becomes. -/
def rowMade (env : Env) (m : Message) : Option Row :=
  match decode env m with
  | .ok (.row row) => some row
  | _ => none

def rowsOf (env : Env) (msgs : List Message) : List Row := msgs.filterMap (rowMade env)

/-- The messages before the first one that ends the task. -/
def readable (env : Env) (msgs : List Message) : List Message :=
  msgs.takeWhile (fun m => Absorbed env m)

def readRows (env : Env) (msgs : List Message) : List Row := rowsOf env (readable env msgs)

/-- Reading the message raises nothing, and the database takes its document. -/
def Passes (env : Env) (m : Message) : Prop :=
  match decode env m with
  | .error _ => False
  | .ok (.upsert deviceId data) => env.metaStorable deviceId data = true
  | _ => True

/-- The leading rows that the database takes. -/
def leading (env : Env) (rows : List Row) : List Row := rows.takeWhile env.storable

theorem rowsOf_append (env : Env) (xs ys : List Message) :
    rowsOf env (xs ++ ys) = rowsOf env xs ++ rowsOf env ys :=
  List.filterMap_append

theorem rowsOf_concat (env : Env) (xs : List Message) (m : Message) :
    rowsOf env (xs ++ [m]) = rowsOf env xs ++ (rowMade env m).toList := by
  rw [rowsOf_append]
  rfl

theorem passes_of_absorbed (env : Env) (m : Message) (h : Absorbed env m) : Passes env m := by
  unfold Absorbed at h
  unfold Passes
  rcases hdecode : decode env m with exc | row | ⟨deviceId, data⟩ | _
  · rw [hdecode] at h
    exact h
  · trivial
  · rw [hdecode] at h
    exact h
  · trivial

/-- Such a message is absorbed exactly if its row, if any, is storable. -/
theorem absorbed_iff_of_passes (env : Env) (m : Message) (h : Passes env m) :
    Absorbed env m ↔ ∀ row, rowMade env m = some row → env.storable row = true := by
  unfold Passes at h
  unfold Absorbed rowMade
  rcases hdecode : decode env m with exc | row | ⟨deviceId, data⟩ | _
  · rw [hdecode] at h
    exact h.elim
  · simp only [Option.some.injEq, forall_eq']
  · rw [hdecode] at h
    simp only [reduceCtorEq, false_implies, implies_true, iff_true]
    exact h
  · simp only [reduceCtorEq, false_implies, implies_true]

/-- The rows before the first message that is not absorbed, where messages fail
    by their rows only. -/
theorem readRows_of_passes (env : Env) (msgs : List Message) (h : ∀ m ∈ msgs, Passes env m) :
    readRows env msgs = leading env (rowsOf env msgs) := by
  induction msgs with
  | nil => rfl
  | cons m msgs ih =>
      rw [List.forall_mem_cons] at h
      have hrest := ih h.2
      have hiff := absorbed_iff_of_passes env m h.1
      unfold readRows readable at hrest ⊢
      unfold rowsOf leading at hrest ⊢
      rw [List.takeWhile_cons]
      cases hrow : rowMade env m with
      | none =>
          have habsorbed : Absorbed env m := hiff.mpr (by rw [hrow]; exact fun _ hno => nomatch hno)
          rw [if_pos (decide_eq_true habsorbed), List.filterMap_cons_none hrow, hrest,
            List.filterMap_cons_none hrow]
      | some row =>
          rw [List.filterMap_cons_some hrow, List.takeWhile_cons]
          by_cases hstorable : env.storable row = true
          · have habsorbed : Absorbed env m := hiff.mpr (fun r hr => by
              rw [hrow, Option.some.injEq] at hr
              exact hr ▸ hstorable)
            rw [if_pos (decide_eq_true habsorbed), if_pos hstorable,
              List.filterMap_cons_some hrow, hrest]
          · have hno : ¬Absorbed env m := fun habsorbed => hstorable (hiff.mp habsorbed row hrow)
            rw [if_neg (by rwa [decide_eq_true_eq]), if_neg hstorable]
            rfl

/-- Behind a message that is not absorbed nothing is read. -/
theorem readable_append (env : Env) (xs ys : List Message) (m : Message) (hm : m ∈ xs)
    (hbad : ¬Absorbed env m) : readable env (xs ++ ys) = readable env xs := by
  unfold readable
  rw [List.takeWhile_append, if_neg]
  intro hall
  have hsame : xs.takeWhile (fun m => decide (Absorbed env m)) = xs :=
    (List.takeWhile_prefix _).eq_of_length hall
  have hgood := List.takeWhile_eq_self_iff.mp hsame m hm
  exact hbad (of_decide_eq_true hgood)

theorem readable_concat (env : Env) (xs : List Message) (m : Message) (hbad : ¬Absorbed env m) :
    readable env (xs ++ [m]) = readable env xs := by
  unfold readable
  rw [List.takeWhile_append]
  split
  · next hall =>
      have hsame := (List.takeWhile_prefix _).eq_of_length hall
      rw [List.takeWhile_cons_of_neg (by rwa [decide_eq_true_eq]), List.append_nil, hsame]
  · rfl

theorem leading_append (env : Env) (xs ys : List Row) (h : ∀ row ∈ xs, env.storable row = true) :
    leading env (xs ++ ys) = xs ++ leading env ys :=
  List.takeWhile_append_of_pos h

/-- What an exception leaves behind: the flushed rows, and at most 99 rows that
    were readable and are lost. -/
def Broken (env : Env) (accepted : List Message) (flushed : List Row) : Prop :=
  (∃ m ∈ accepted, ¬Absorbed env m) ∧
  ∃ lost, readRows env accepted = flushed ++ lost ∧ lost.length < batchSize

/-- The rows of the messages taken, by phase. -/
def Balanced (env : Env) (s : State) (taken : List Message) (flushed : List Row) : Prop :=
  match s.phase with
  | .waiting | .fetched _ | .upserting _ _ true =>
    (∀ m ∈ taken, Passes env m) ∧ flushed ++ s.batch = rowsOf env taken ∧
      s.batch.length < batchSize
  | .upserting deviceId data false => ∃ pre m, taken = pre ++ [m] ∧
    decode env m = .ok (.upsert deviceId data) ∧ (∀ x ∈ pre, Passes env x) ∧
      flushed ++ s.batch = rowsOf env pre ∧ s.batch.length < batchSize
  | .flushing false =>
    (∀ m ∈ taken, Passes env m) ∧ flushed ++ s.batch = rowsOf env taken ∧
      s.batch.length ≤ batchSize
  | .flushing true => (∀ m ∈ taken, Passes env m) ∧ flushed = rowsOf env taken
  | .failed _ => Broken env s.accepted flushed
  | _ => False

structure Ledger (env : Env) (db : Store) (s : State) (taken : List Message)
    (flushed : List Row) : Prop where
  stopped : s.stopped = none
  accepted : s.accepted = taken ++ s.unread
  telemetry : s.db.telemetryRaw = Keyed.insertAllNew Row.key db.telemetryRaw flushed
  storable : ∀ row ∈ flushed, env.storable row = true
  balanced : Balanced env s taken flushed

theorem ledger_init (env : Env) (db : Store) : Ledger env db (State.init db) [] [] where
  stopped := rfl
  accepted := rfl
  telemetry := rfl
  storable := fun _ hrow => absurd hrow List.not_mem_nil
  balanced := ⟨fun _ hm => absurd hm List.not_mem_nil, rfl, Nat.zero_lt_succ 99⟩

/-- A message that raises, or whose document is refused, after messages that
    passed. -/
theorem broken_of_raise (env : Env) (pre rest : List Message) (m : Message)
    (flushed batch : List Row) (hpre : ∀ x ∈ pre, Passes env x) (hbad : ¬Absorbed env m)
    (hflushed : ∀ row ∈ flushed, env.storable row = true)
    (hrows : flushed ++ batch = rowsOf env pre) (hlength : batch.length < batchSize) :
    Broken env (pre ++ m :: rest) flushed := by
  have hsplit : pre ++ m :: rest = (pre ++ [m]) ++ rest := by
    rw [List.append_assoc, List.singleton_append]
  have hmem : m ∈ pre ++ [m] := List.mem_append_right pre (List.mem_singleton_self m)
  refine ⟨⟨m, List.mem_append_right pre List.mem_cons_self, hbad⟩, leading env batch, ?_, ?_⟩
  · rw [readRows, hsplit, readable_append env _ rest m hmem hbad, readable_concat env pre m hbad,
      ← readRows, readRows_of_passes env pre hpre, ← hrows, leading_append env flushed _ hflushed]
  · exact Nat.lt_of_le_of_lt (List.takeWhile_prefix _).length_le hlength

/-- A row that is refused, in a batch of messages that passed. -/
theorem broken_of_refusal (env : Env) (taken rest : List Message) (flushed batch : List Row)
    (row : Row) (htaken : ∀ x ∈ taken, Passes env x)
    (hflushed : ∀ r ∈ flushed, env.storable r = true)
    (hrows : flushed ++ batch = rowsOf env taken) (hlength : batch.length ≤ batchSize)
    (hrow : row ∈ batch) (hbad : env.storable row ≠ true) :
    Broken env (taken ++ rest) flushed := by
  -- The row came with one of the messages taken, which is therefore not absorbed.
  have hmade : row ∈ rowsOf env taken := hrows ▸ List.mem_append_right flushed hrow
  rcases List.mem_filterMap.mp hmade with ⟨m, hm, hrowm⟩
  have hnot : ¬Absorbed env m := fun habsorbed =>
    hbad ((absorbed_iff_of_passes env m (htaken m hm)).mp habsorbed row hrowm)
  refine ⟨⟨m, List.mem_append_left rest hm, hnot⟩, leading env batch, ?_, ?_⟩
  · rw [readRows, readable_append env taken rest m hm hnot, ← readRows,
      readRows_of_passes env taken htaken, ← hrows, leading_append env flushed _ hflushed]
  · refine Nat.lt_of_lt_of_le ?_ hlength
    refine lt_of_le_of_ne (List.takeWhile_prefix _).length_le (fun heq => ?_)
    have hsame := (List.takeWhile_prefix _).eq_of_length heq
    exact hbad (List.takeWhile_eq_self_iff.mp hsame row hrow)

/-- What is accepted later changes nothing about a break. -/
theorem broken_append (env : Env) (accepted more : List Message) (flushed : List Row)
    (h : Broken env accepted flushed) : Broken env (accepted ++ more) flushed := by
  rcases h with ⟨⟨m, hm, hbad⟩, lost, hread, hlength⟩
  refine ⟨⟨m, List.mem_append_left more hm, hbad⟩, lost, ?_, hlength⟩
  rw [readRows, readable_append env accepted more m hm hbad]
  exact hread

/-- After the loop body the books of a running task are balanced again. -/
theorem balanced_loopEnd (env : Env) (clock : Nat) (s : State) (taken : List Message)
    (flushed : List Row) (hpass : ∀ m ∈ taken, Passes env m)
    (hrows : flushed ++ s.batch = rowsOf env taken) (hlength : s.batch.length ≤ batchSize) :
    Balanced env (s.loopEnd clock) taken flushed := by
  unfold State.loopEnd Balanced
  cases hflush : State.shouldFlush clock s.batch s.lastFlush with
  | true => exact ⟨hpass, hrows, hlength⟩
  | false =>
      rw [State.shouldFlush, Bool.or_eq_false_iff, decide_eq_false_iff_not] at hflush
      exact ⟨hpass, hrows, Nat.lt_of_not_le hflush.1⟩

/-- The end of the loop body, where every message taken has been dealt with. -/
theorem ledger_loopEnd (env : Env) (db : Store) (s : State) (taken : List Message)
    (flushed : List Row) (clock : Nat) (h : Ledger env db s taken flushed)
    (hphase : s.phase = .waiting ∨ ∃ deviceId data, s.phase = .upserting deviceId data true) :
    Ledger env db (s.loopEnd clock) taken flushed := by
  have hopen : s.unread = s.queue.items ∧ (∀ m ∈ taken, Passes env m) ∧
      flushed ++ s.batch = rowsOf env taken ∧ s.batch.length < batchSize := by
    have hbalanced := h.balanced
    rcases hphase with hwaiting | ⟨deviceId, data, hdone⟩
    · rw [Balanced, hwaiting] at hbalanced
      rw [State.unread, hwaiting]
      exact ⟨rfl, hbalanced⟩
    · rw [Balanced, hdone] at hbalanced
      rw [State.unread, hdone]
      exact ⟨rfl, hbalanced⟩
  rcases hopen with ⟨hunread, hpass, hrows, hlength⟩
  refine ⟨h.stopped, ?_, h.telemetry, h.storable,
    balanced_loopEnd env clock s taken flushed hpass hrows (Nat.le_of_lt hlength)⟩
  rw [unread_loopEnd, ← hunread]
  exact h.accepted

/-- A message is read and its row, if it becomes one, joins the batch. -/
theorem ledger_handle (env : Env) (db : Store) (s : State) (taken : List Message)
    (flushed : List Row) (m : Message) (clock : Nat) (hphase : s.phase = .fetched m)
    (h : Ledger env db s taken flushed) :
    Ledger env db (s.handle env clock m) (taken ++ [m]) flushed := by
  have hbalanced := h.balanced
  rw [Balanced, hphase] at hbalanced
  rcases hbalanced with ⟨hpass, hrows, hlength⟩
  have haccepted : s.accepted = (taken ++ [m]) ++ s.queue.items := by
    rw [h.accepted, State.unread, hphase, List.append_assoc, List.singleton_append]
  have hmore : Passes env m → ∀ x ∈ taken ++ [m], Passes env x := fun hm =>
    List.forall_mem_append.mpr ⟨hpass, List.forall_mem_singleton.mpr hm⟩
  unfold State.handle
  split
  · next exc hdecode =>
      have hbad : ¬Absorbed env m := by
        rw [Absorbed, hdecode]
        exact id
      rw [List.append_assoc, List.singleton_append] at haccepted
      refine ⟨h.stopped, ?_, h.telemetry, h.storable, ?_⟩
      · rw [State.taskFailure, h.stopped, List.append_assoc]
        exact haccepted
      · rw [Balanced, State.taskFailure, h.stopped]
        exact haccepted ▸ broken_of_raise env taken _ m flushed s.batch hpass hbad h.storable hrows
          hlength
  · next hdecode =>
      have hnone : rowMade env m = none := by rw [rowMade, hdecode]
      refine ⟨h.stopped, (unread_loopEnd clock s).symm ▸ haccepted, h.telemetry, h.storable, ?_⟩
      refine balanced_loopEnd env clock s _ flushed (hmore (by rw [Passes, hdecode]; trivial)) ?_
        (Nat.le_of_lt hlength)
      rw [rowsOf_concat, hnone, Option.toList_none, List.append_nil, hrows]
  · next row hdecode =>
      have hsome : rowMade env m = some row := by rw [rowMade, hdecode]
      refine ⟨h.stopped, (unread_loopEnd clock _).symm ▸ haccepted, h.telemetry, h.storable, ?_⟩
      refine balanced_loopEnd env clock _ _ flushed (hmore (by rw [Passes, hdecode]; trivial)) ?_ ?_
      · rw [rowsOf_concat, hsome, Option.toList_some, ← hrows, List.append_assoc]
      · rw [List.length_append]
        exact hlength
  · next deviceId data hdecode =>
      exact ⟨h.stopped, haccepted, h.telemetry, h.storable, taken, m, rfl, hdecode, hpass, hrows,
        hlength⟩

/-- A message that is put joins what is unread, in every phase. -/
theorem ledger_put (env : Env) (db : Store) (s : State) (taken : List Message)
    (flushed : List Row) (m : Message) (queue : MessageQueue)
    (hitems : queue.items = s.queue.items ++ [m]) (h : Ledger env db s taken flushed) :
    Ledger env db { s with queue := queue, accepted := s.accepted ++ [m] } taken flushed := by
  have hbalanced := h.balanced
  have hunread : s.phase.Running → ({ s with
      queue := queue, accepted := s.accepted ++ [m] } : State).unread = s.unread ++ [m] := by
    intro hrunning
    unfold State.unread
    rw [hitems]
    cases hphase : s.phase with
    | waiting => rfl
    | fetched m' => rfl
    | upserting deviceId data committed => rfl
    | flushing committed => rfl
    | failed exc => rfl
    | _ => exact absurd hrunning (by rw [hphase]; exact id)
  -- A task that has stopped has no balance, so the ledger says that it runs.
  have hrunning : s.phase.Running := by
    unfold Balanced at hbalanced
    cases hphase : s.phase with
    | waiting => trivial
    | fetched m' => trivial
    | upserting deviceId data committed => trivial
    | flushing committed => trivial
    | failed exc => trivial
    | _ =>
        rw [hphase] at hbalanced
        exact hbalanced.elim
  refine ⟨h.stopped, ?_, h.telemetry, h.storable, ?_⟩
  · rw [hunread hrunning, ← List.append_assoc, ← h.accepted]
  · unfold Balanced at hbalanced ⊢
    cases hphase : s.phase with
    | failed exc =>
        rw [hphase] at hbalanced
        exact broken_append env s.accepted [m] flushed hbalanced
    | upserting deviceId data committed =>
        rw [hphase] at hbalanced
        cases committed with
        | true => exact hbalanced
        | false => exact hbalanced
    | flushing committed =>
        rw [hphase] at hbalanced
        cases committed with
        | true => exact hbalanced
        | false => exact hbalanced
    | _ =>
        rw [hphase] at hbalanced
        exact hbalanced

/-- The message of a document that the column takes has passed, and made no row. -/
theorem passed_of_document (env : Env) (pre : List Message) (m : Message) (deviceId : String)
    (data : PyVal) (hdecode : decode env m = .ok (.upsert deviceId data))
    (hdata : env.metaStorable deviceId data = true) (hpre : ∀ x ∈ pre, Passes env x) :
    (∀ x ∈ pre ++ [m], Passes env x) ∧ rowsOf env (pre ++ [m]) = rowsOf env pre := by
  constructor
  · refine List.forall_mem_append.mpr ⟨hpre, List.forall_mem_singleton.mpr ?_⟩
    rw [Passes, hdecode]
    exact hdata
  · have hnone : rowMade env m = none := by rw [rowMade, hdecode]
    rw [rowsOf_concat, hnone, Option.toList_none, List.append_nil]

/-- A document is stored, or its refusal ends the task. -/
theorem ledger_upsert (env : Env) (db : Store) (s : State) (taken : List Message)
    (flushed : List Row) (deviceId : String) (data : PyVal) (wall : Datetime)
    (hphase : s.phase = .upserting deviceId data false) (h : Ledger env db s taken flushed) :
    Ledger env db
      (s.commitTask (s.db.upsertMeta env wall deviceId data) (.upserting deviceId data true))
      taken flushed := by
  have hbalanced := h.balanced
  have haccepted := h.accepted
  rw [State.unread, hphase] at haccepted
  rw [Balanced, hphase] at hbalanced
  rcases hbalanced with ⟨pre, m, htaken, hdecode, hpre, hrows, hlength⟩
  by_cases hdata : env.metaStorable deviceId data = true
  · rcases Store.upsertMeta_ok env wall deviceId data s.db hdata with ⟨db', hdb⟩
    rw [hdb]
    rcases passed_of_document env pre m deviceId data hdecode hdata hpre with ⟨hpass, hsame⟩
    refine ⟨h.stopped, haccepted, ?_, h.storable, htaken ▸ hpass, ?_, hlength⟩
    · exact (Store.telemetryRaw_upsertMeta env wall deviceId data s.db db' hdb).trans h.telemetry
    · rw [htaken, hsame]
      exact hrows
  · have hbad : ¬Absorbed env m := by
      rw [Absorbed, hdecode]
      exact hdata
    rw [Store.upsertMeta_error env wall deviceId data s.db hdata, State.commitTask,
      State.taskFailure, h.stopped]
    refine ⟨rfl, haccepted, h.telemetry, h.storable, ?_⟩
    have hbroken := broken_of_raise env pre s.queue.items m flushed s.batch hpre hbad h.storable
      hrows hlength
    rw [htaken, List.append_assoc, List.singleton_append] at haccepted
    rw [← haccepted] at hbroken
    exact hbroken

/-- A document that runs into a timeout is lost, and no row with it. -/
theorem ledger_caught (env : Env) (db : Store) (s : State) (taken : List Message)
    (flushed : List Row) (deviceId : String) (data : PyVal) (clock : Nat)
    (hphase : s.phase = .upserting deviceId data false)
    (hdata : env.metaStorable deviceId data = true) (h : Ledger env db s taken flushed) :
    Ledger env db (s.loopEnd clock) taken flushed := by
  have hbalanced := h.balanced
  have haccepted := h.accepted
  rw [State.unread, hphase] at haccepted
  rw [Balanced, hphase] at hbalanced
  rcases hbalanced with ⟨pre, m, htaken, hdecode, hpre, hrows, hlength⟩
  rcases passed_of_document env pre m deviceId data hdecode hdata hpre with ⟨hpass, hsame⟩
  rw [← htaken] at hpass hsame
  exact ⟨h.stopped, (unread_loopEnd clock s).symm ▸ haccepted, h.telemetry, h.storable,
    balanced_loopEnd env clock s taken flushed hpass (hrows.trans hsame.symm)
      (Nat.le_of_lt hlength)⟩

/-- A batch is stored as a whole, or a row of it is refused and ends the task. -/
theorem ledger_flush (env : Env) (db : Store) (s : State) (taken : List Message)
    (flushed : List Row) (wall : Datetime) (hphase : s.phase = .flushing false)
    (h : Ledger env db s taken flushed) :
    ∃ flushed', Ledger env db (s.commitTask (s.db.flush env wall s.batch) (.flushing true))
      taken flushed' := by
  have hbalanced := h.balanced
  have haccepted := h.accepted
  rw [State.unread, hphase] at haccepted
  rw [Balanced, hphase] at hbalanced
  rcases hbalanced with ⟨hpass, hrows, hlength⟩
  by_cases hstorable : ∀ row ∈ s.batch, env.storable row = true
  · have hlimit : s.batch.length * rowParameters ≤ bindLimit :=
      Nat.le_trans (Nat.mul_le_mul_right rowParameters hlength) (by decide)
    rcases Store.flush_ok env wall s.batch s.db hstorable hlimit with ⟨db', hdb⟩
    rw [hdb]
    refine ⟨flushed ++ s.batch, h.stopped, haccepted, ?_,
      List.forall_mem_append.mpr ⟨h.storable, hstorable⟩, hpass, hrows⟩
    rw [Keyed.insertAllNew_append, ← h.telemetry]
    exact (flush_leaves env wall s.batch s.db db' hdb).telemetry
  · simp only [not_forall] at hstorable
    rcases hstorable with ⟨row, hrow, hbad⟩
    rw [Store.flush_error env wall s.batch s.db row hrow hbad, State.commitTask,
      State.taskFailure, h.stopped]
    refine ⟨flushed, rfl, haccepted, h.telemetry, h.storable, ?_⟩
    have hbroken := broken_of_refusal env taken s.queue.items flushed s.batch row hpass h.storable
      hrows hlength hrow hbad
    rw [← haccepted] at hbroken
    exact hbroken

/-- Without `stop` and with the database available, every step keeps the books. -/
theorem ledger_step (env : Env) (db : Store) (s t : State) (a : Action) (taken : List Message)
    (flushed : List Row) (hmove : Moves env s a t) (hing : a.Ingestion)
    (h : Ledger env db s taken flushed) :
    ∃ taken' flushed', Ledger env db t taken' flushed' := by
  have hbalanced := h.balanced
  have haccepted := h.accepted
  cases hmove with
  | put m queue hitems =>
      exact ⟨taken, flushed, ledger_put env db s taken flushed m queue hitems h⟩
  | full m => exact ⟨taken, flushed, h⟩
  | fetch m queue hphase hitems =>
      rw [State.unread, hphase, hitems] at haccepted
      rw [Balanced, hphase] at hbalanced
      exact ⟨taken, flushed, h.stopped, haccepted, h.telemetry, h.storable, hbalanced⟩
  | resume m clock hphase =>
      exact ⟨_, flushed, ledger_handle env db s taken flushed m clock hphase h⟩
  | timeout clock hphase =>
      exact ⟨taken, flushed, ledger_loopEnd env db s taken flushed clock h (Or.inl hphase)⟩
  | upsert deviceId data wall hphase =>
      exact ⟨taken, flushed, ledger_upsert env db s taken flushed deviceId data wall hphase h⟩
  | flush wall hphase => exact ⟨taken, ledger_flush env db s taken flushed wall hphase h⟩
  | upserted deviceId data clock hphase =>
      exact ⟨taken, flushed, ledger_loopEnd env db s taken flushed clock h
        (Or.inr ⟨deviceId, data, hphase⟩)⟩
  | flushed clock hphase =>
      rw [State.unread, hphase] at haccepted
      rw [Balanced, hphase] at hbalanced
      exact ⟨taken, flushed, h.stopped, haccepted, h.telemetry, h.storable, hbalanced.1,
        (List.append_nil flushed).trans hbalanced.2, Nat.zero_lt_succ 99⟩
  | caught => exact hing.elim
  | taskError => exact hing.elim
  | stopError => exact hing.elim
  | cancel hstopped hphase => exact hing.elim
  | dropped m hstopped hphase => exact hing.elim
  | reraise exc hstopped hphase => exact hing.elim
  -- Nothing has stopped the ingestor, so it is not draining.
  | drainUpsert deviceId data wall hphase =>
      rw [Balanced, hphase] at hbalanced
      exact hbalanced.elim
  | drainFlush wall hphase =>
      rw [Balanced, hphase] at hbalanced
      exact hbalanced.elim
  | drainUpserted deviceId data clock hphase =>
      rw [Balanced, hphase] at hbalanced
      exact hbalanced.elim
  | drainFlushed clock hphase =>
      rw [Balanced, hphase] at hbalanced
      exact hbalanced.elim
  | drain hphase =>
      rw [Balanced, hphase] at hbalanced
      exact hbalanced.elim

theorem ledger_run (env : Env) (db : Store) (acts : List Action) (s : State)
    (hing : ∀ a ∈ acts, a.Ingestion) (hrun : Run.run (step env) (State.init db) acts = some s) :
    ∃ taken flushed, Ledger env db s taken flushed := by
  refine Run.run_invariant_along (step env) (fun _ a => a.Ingestion)
    (fun s => ∃ taken flushed, Ledger env db s taken flushed) ?_ acts (State.init db) s
    ⟨[], [], ledger_init env db⟩ (Run.along_of_forall (step env) Action.Ingestion acts _ hing) hrun
  rintro s a t ⟨taken, flushed, hledger⟩ ha hstep
  exact ledger_step env db s t a taken flushed (step_moves env s t a hstep) ha hledger

end Ingest

end Backend

end Vena
