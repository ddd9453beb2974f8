import Vena.Firmware.BufferRefines
import Vena.Firmware.TelemetryLoop

/-!
# What Becomes of the Samples

The telemetry loop with a record of the samples themselves, where its own log
has their numbers. A sample that is built is handed to the broker, waits in the
buffer or is dropped by it. Unlike the numbers, which are 32-bit words, the
samples are never mixed up, however long a run is.

The buffer is in the memory of the board, and a reset loses what waits there.

## Main definitions

* `Journal`: The samples built, handed to the broker and dropped.
* `journal`: The journal of a run.
* `Sampled`: The cases of the telemetry branch.
* `life`, `stranded`: The journal of a board over its resets, and what waits when they come.
* `Payload.Of`: A sample is one of an iteration.
* `Balanced`: What a journal says about the states around it.

## Theorems

* `Balanced.trans`: The journals of two runs, one after the other.
* `sampled_sample`: What the telemetry branch does, case by case.
* `Sampled.balanced`, `balanced_drain`: The two halves of an iteration.
* `balanced_journal`: Every run is balanced.
* `dropped_eq_nil`: What fits into the buffer is not dropped.
* `perm_life`: Nothing else becomes of a sample.
* `built_life`: What a sample says.
-/

namespace Vena

namespace Firmware

open Clock32

/-- Samples, in the order in which they were built, handed over and dropped. -/
structure Journal (ρ : Type) where
  built : List (Payload ρ)
  handed : List (Payload ρ)
  dropped : List (Payload ρ)

namespace Journal

variable {ρ : Type}

def empty : Journal ρ := ⟨[], [], []⟩

def append (j k : Journal ρ) : Journal ρ :=
  ⟨j.built ++ k.built, j.handed ++ k.handed, j.dropped ++ k.dropped⟩

end Journal

/-- The sample is one of the iteration. -/
structure Payload.Of {ρ : Type} (p : Payload ρ) (t : Tick ρ) : Prop where
  ts : p.ts = t.epochSeconds * 1000
  readings : p.readings = t.readings
  uptime : p.uptimeMs = millis t.now
  seq : p.seq < turn

namespace LoopState

variable {ρ : Type} {capacity : Nat}

/-- What `sample` does with the sample it builds. -/
def sampleJournal (t : Tick ρ) (s : LoopState ρ capacity) : Journal ρ :=
  if telemetryPeriodMs ≤ sub32 (millis t.now) s.lastTelemetryMs then
    let payload := (buildTelemetryJson t s).1
    let pushed : Journal ρ :=
      ⟨[payload], [], (DropOldest.dropped capacity s.buffer.contents).toList⟩
    if t.connectedAtSample && s.buffer.empty then
      if publishTelemetry t.direct then ⟨[payload], [payload], []⟩ else pushed
    else pushed
  else .empty

/-- What the telemetry branch can do: nothing, or a sample that goes past an empty
    buffer, or one that goes into it. -/
inductive Sampled (t : Tick ρ) (s : LoopState ρ capacity) :
    Journal ρ → LoopState ρ capacity → Prop
  | idle : Sampled t s .empty s
  | direct (hempty : s.buffer.contents = []) :
      Sampled t s ⟨[(buildTelemetryJson t s).1], [(buildTelemetryJson t s).1], []⟩
        { (buildTelemetryJson t { s with lastTelemetryMs := millis t.now }).2 with
          published := s.published ++ [(buildTelemetryJson t s).1.seq] }
  | pushed :
      Sampled t s ⟨[(buildTelemetryJson t s).1], [],
          (DropOldest.dropped capacity s.buffer.contents).toList⟩
        (bufferPush (buildTelemetryJson t s).1
          (buildTelemetryJson t { s with lastTelemetryMs := millis t.now }).2)

theorem sampled_sample (t : Tick ρ) (s : LoopState ρ capacity) :
    Sampled t s (sampleJournal t s) (sample t s) := by
  unfold sample sampleJournal
  by_cases hdue : telemetryPeriodMs ≤ sub32 (millis t.now) s.lastTelemetryMs
  · rw [if_pos hdue, if_pos hdue]
    by_cases hdirect : (t.connectedAtSample && s.buffer.empty) = true
    · simp only [if_pos hdirect]
      by_cases hok : publishTelemetry t.direct = true
      · rw [if_pos hok, if_pos hok]
        exact .direct ((OfflineBuffer.empty_iff s.buffer).mp (Bool.and_eq_true_iff.mp hdirect).2)
      · rw [if_neg hok, if_neg hok]
        exact .pushed
    · simp only [if_neg hdirect]
      exact .pushed
  · rw [if_neg hdue, if_neg hdue]
    exact .idle

/-- The samples `drain` hands over. -/
def drainJournal [Inhabited (Payload ρ)] : List PublishTry → LoopState ρ capacity →
    List (Payload ρ)
  | [], _ => []
  | p :: ps, s => match s.buffer.peek with
    | none => []
    | some pending =>
      if publishTelemetry p then
        pending :: drainJournal ps
          { s with buffer := s.buffer.pop, published := s.published ++ [pending.seq] }
      else []

def loopJournal [Inhabited (Payload ρ)] (s : LoopState ρ capacity) (t : Tick ρ) : Journal ρ :=
  (sampleJournal t s).append
    ⟨[], if t.connectedAtDrain && !(sample t s).buffer.empty then
      drainJournal (List.ofFn t.drained) (sample t s) else [], []⟩

def journal [Inhabited (Payload ρ)] : LoopState ρ capacity → List (Tick ρ) → Journal ρ
  | _, [] => .empty
  | s, t :: ts => (loopJournal s t).append (journal (loop s t) ts)

/-- The journal of a board that is reset after each of the runs. -/
def life [Inhabited (Payload ρ)] (hpos : 0 < capacity) : List (List (Tick ρ)) → Journal ρ
  | [] => .empty
  | ts :: runs => (journal (boot hpos : LoopState ρ capacity) ts).append (life hpos runs)

/-- What waits in the buffer at the end of each of the runs. -/
def stranded [Inhabited (Payload ρ)] (hpos : 0 < capacity) (runs : List (List (Tick ρ))) :
    List (Payload ρ) :=
  runs.flatMap (fun ts => (ts.foldl loop (boot hpos : LoopState ρ capacity)).buffer.contents)

/-- The samples handed over and dropped between two states, with those waiting, are
    those that waited and those built; what is not dropped stays in order. -/
structure Balanced (s : LoopState ρ capacity) (j : Journal ρ) (s' : LoopState ρ capacity) :
    Prop where
  total : (j.handed ++ j.dropped ++ s'.buffer.contents).Perm (s.buffer.contents ++ j.built)
  order : (j.handed ++ s'.buffer.contents).Sublist (s.buffer.contents ++ j.built)
  published : s'.published = s.published ++ j.handed.map Payload.seq
  evicted : s'.evicted = s.evicted ++ j.dropped.map Payload.seq

theorem Balanced.refl (s : LoopState ρ capacity) : Balanced s .empty s := by
  refine ⟨?_, ?_, ?_, ?_⟩
  · rw [Journal.empty, List.append_nil, List.append_nil, List.nil_append]
  · rw [Journal.empty, List.append_nil, List.nil_append]
  · exact (List.append_nil _).symm
  · exact (List.append_nil _).symm

theorem Balanced.trans {s m s' : LoopState ρ capacity} {j k : Journal ρ} (h : Balanced s j m)
    (h' : Balanced m k s') : Balanced s (j.append k) s' := by
  refine ⟨?_, ?_, ?_, ?_⟩
  · -- What waits in between is what the first run leaves and the second one finds.
    calc j.handed ++ k.handed ++ (j.dropped ++ k.dropped) ++ s'.buffer.contents
        = j.handed ++ (k.handed ++ (j.dropped ++ (k.dropped ++ s'.buffer.contents))) := by
          simp only [List.append_assoc]
      List.Perm _ (j.handed ++ (j.dropped ++ (k.handed ++ (k.dropped ++ s'.buffer.contents)))) :=
          (List.perm_append_comm_assoc _ _ _).append_left _
      _ = j.handed ++ j.dropped ++ (k.handed ++ k.dropped ++ s'.buffer.contents) := by
          simp only [List.append_assoc]
      List.Perm _ (j.handed ++ j.dropped ++ (m.buffer.contents ++ k.built)) :=
          h'.total.append_left _
      _ = j.handed ++ j.dropped ++ m.buffer.contents ++ k.built :=
          (List.append_assoc _ _ _).symm
      List.Perm _ (s.buffer.contents ++ j.built ++ k.built) := h.total.append_right _
      _ = s.buffer.contents ++ (j.built ++ k.built) := List.append_assoc _ _ _
  · have hsub := (h'.order.append_left j.handed).trans
      ((List.append_assoc _ _ _).symm ▸ h.order.append_right k.built)
    rw [← List.append_assoc, List.append_assoc s.buffer.contents] at hsub
    exact hsub
  · rw [h'.published, h.published, Journal.append, List.map_append, List.append_assoc]
  · rw [h'.evicted, h.evicted, Journal.append, List.map_append, List.append_assoc]

theorem evicted_bufferPush (payload : Payload ρ) (s : LoopState ρ capacity) :
    (bufferPush payload s).evicted = s.evicted ++
      (DropOldest.dropped capacity s.buffer.contents).toList.map Payload.seq := by
  -- The log has the number of the sample that goes, which is at the head in both.
  have hseqs : (DropOldest.dropped capacity s.waiting).toList =
      (DropOldest.dropped capacity s.buffer.contents).toList.map Payload.seq := by
    unfold DropOldest.dropped
    rw [waiting, List.length_map]
    by_cases hfull : s.buffer.contents.length = capacity
    · rw [if_pos hfull, if_pos hfull, List.head?_map]
      cases s.buffer.contents.head? with
      | none => rfl
      | some payload' => rfl
    · rw [if_neg hfull, if_neg hfull]
      rfl
  rw [evicted, bufferPush, List.map_append, List.map_map, evicted, hseqs]
  exact congrArg (List.append _) (List.map_id _)

/-- A push into the buffer, by a loop that has built the sample. -/
theorem balanced_push (s built : LoopState ρ capacity) (payload : Payload ρ)
    (hbuffer : built.buffer = s.buffer) (hpublished : built.published = s.published)
    (hevicted : built.evicted = s.evicted) :
    Balanced s ⟨[payload], [], (DropOldest.dropped capacity s.buffer.contents).toList⟩
      (bufferPush payload built) := by
  -- The buffer of the source is a list that drops its head when it is full.
  have hcontents : (bufferPush payload built).buffer.contents =
      DropOldest.pushDrop capacity s.buffer.contents payload := by
    rw [bufferPush, OfflineBuffer.contents_push, hbuffer]
  refine ⟨?_, ?_, ?_, ?_⟩
  · rw [hcontents, List.nil_append]
    exact DropOldest.perm_pushDrop capacity s.buffer.contents payload
  · rw [hcontents, List.nil_append]
    exact DropOldest.sublist_pushDrop capacity s.buffer.contents payload
  · rw [bufferPush, hpublished]
    exact (List.append_nil _).symm
  · rw [evicted_bufferPush, hevicted, hbuffer]

theorem Sampled.balanced {t : Tick ρ} {s s' : LoopState ρ capacity} {j : Journal ρ}
    (h : Sampled t s j s') : Balanced s j s' := by
  cases h with
  | idle => exact .refl s
  | direct hempty =>
      -- Nothing waits in the buffer that the sample would overtake.
      refine ⟨?_, ?_, rfl, (List.append_nil _).symm⟩
      · exact List.perm_append_comm
      · change ([_] ++ s.buffer.contents).Sublist (s.buffer.contents ++ [_])
        rw [hempty]
        exact List.Sublist.refl _
  | pushed => exact balanced_push s _ _ rfl rfl rfl

/-- What is drained goes from the head of the buffer to the broker. -/
theorem balanced_drain [Inhabited (Payload ρ)] : ∀ (ps : List PublishTry)
    (s : LoopState ρ capacity), Balanced s ⟨[], drainJournal ps s, []⟩ (drain ps s) := by
  intro ps
  induction ps with
  | nil => exact Balanced.refl
  | cons p ps ih =>
      intro s
      unfold drain drainJournal
      cases hpeek : s.buffer.peek with
      | none => exact .refl s
      | some pending =>
          simp only []
          by_cases hok : publishTelemetry p = true
          · rw [if_pos hok, if_pos hok]
            -- What is handed over is the head, and it is popped only then.
            have hhead : s.buffer.contents = pending :: s.buffer.pop.contents := by
              rw [OfflineBuffer.peek_eq_head, List.head?_eq_some_iff] at hpeek
              rcases hpeek with ⟨rest, hrest⟩
              rw [OfflineBuffer.contents_pop, hrest, List.tail_cons]
            refine Balanced.trans (j := ⟨[], [pending], []⟩) ⟨?_, ?_, rfl, ?_⟩ (ih _)
            · change ([pending] ++ [] ++ s.buffer.pop.contents).Perm (s.buffer.contents ++ [])
              rw [hhead, List.append_nil, List.append_nil, List.singleton_append]
            · change ([pending] ++ s.buffer.pop.contents).Sublist (s.buffer.contents ++ [])
              rw [hhead, List.append_nil, List.singleton_append]
            · exact (List.append_nil _).symm
          · rw [if_neg hok, if_neg hok]
            exact .refl s

theorem balanced_loop [Inhabited (Payload ρ)] (s : LoopState ρ capacity) (t : Tick ρ) :
    Balanced s (loopJournal s t) (loop s t) := by
  refine (sampled_sample t s).balanced.trans ?_
  unfold loop drainPending
  by_cases hdrain : (t.connectedAtDrain && !(sample t s).buffer.empty) = true
  · rw [if_pos hdrain, if_pos hdrain]
    exact balanced_drain _ _
  · rw [if_neg hdrain, if_neg hdrain]
    exact .refl _

/-- Every run is balanced, whatever the connection does. -/
theorem balanced_journal [Inhabited (Payload ρ)] : ∀ (ts : List (Tick ρ))
    (s : LoopState ρ capacity), Balanced s (journal s ts) (ts.foldl loop s) := by
  intro ts
  induction ts with
  | nil => exact Balanced.refl
  | cons t ts ih =>
      intro s
      exact (balanced_loop s t).trans (ih (loop s t))

theorem Sampled.kept {t : Tick ρ} {s s' : LoopState ρ capacity} {j : Journal ρ}
    (h : Sampled t s j s') (hroom : s.buffer.contents.length + j.built.length ≤ capacity) :
    j.dropped = [] := by
  cases h with
  | idle => rfl
  | direct hempty => rfl
  | pushed =>
      have hfree : s.buffer.contents.length ≠ capacity := Nat.ne_of_lt hroom
      rw [DropOldest.dropped, if_neg hfree]
      rfl

/-- As long as the samples fit behind those that wait, none is dropped, whatever the
    connection does. -/
theorem dropped_eq_nil [Inhabited (Payload ρ)] : ∀ (ts : List (Tick ρ))
    (s : LoopState ρ capacity), s.buffer.contents.length + (journal s ts).built.length ≤ capacity →
    (journal s ts).dropped = [] := by
  intro ts
  induction ts with
  | nil => exact fun _ _ => rfl
  | cons t ts ih =>
      intro s hroom
      have hbuilt : (loopJournal s t).built = (sampleJournal t s).built := List.append_nil _
      have hdropped : (loopJournal s t).dropped = (sampleJournal t s).dropped := List.append_nil _
      -- What the iteration hands over makes room, so that the bound is kept.
      have hlength := (balanced_loop s t).total.length_eq
      simp only [journal, Journal.append, List.length_append] at hroom hlength ⊢
      rw [hdropped, (sampled_sample t s).kept (by rw [← hbuilt]; omega), List.nil_append]
      refine ih (loop s t) ?_
      omega

theorem perm_journal [Inhabited (Payload ρ)] (hpos : 0 < capacity) (ts : List (Tick ρ)) :
    ((journal (boot hpos : LoopState ρ capacity) ts).handed ++
      (journal (boot hpos : LoopState ρ capacity) ts).dropped ++
      (ts.foldl loop (boot hpos : LoopState ρ capacity)).buffer.contents).Perm
      (journal (boot hpos : LoopState ρ capacity) ts).built := by
  have htotal := (balanced_journal ts (boot hpos : LoopState ρ capacity)).total
  have hboot : (boot hpos : LoopState ρ capacity).buffer.contents = [] :=
    OfflineBuffer.contents_init hpos
  rw [hboot, List.nil_append] at htotal
  exact htotal

theorem perm_regroup {α : Type} (a a' b b' c c' : List α) :
    (a ++ a' ++ (b ++ b') ++ (c ++ c')).Perm (a ++ b ++ c ++ (a' ++ b' ++ c')) := by
  have hab : (a ++ a' ++ (b ++ b')).Perm (a ++ b ++ (a' ++ b')) := by
    simp only [List.append_assoc]
    exact (List.perm_append_comm_assoc a' b b').append_left a
  calc (a ++ a' ++ (b ++ b') ++ (c ++ c')).Perm (a ++ b ++ (a' ++ b') ++ (c ++ c')) :=
        hab.append_right _
    _ = a ++ b ++ (a' ++ b' ++ (c ++ c')) := List.append_assoc _ _ _
    List.Perm _ (a ++ b ++ (c ++ (a' ++ b' ++ c'))) :=
        (List.perm_append_comm_assoc (a' ++ b') c c').append_left _
    _ = a ++ b ++ c ++ (a' ++ b' ++ c') := (List.append_assoc _ _ _).symm

/-- A sample is handed over, dropped, or left in the memory of the board. -/
theorem perm_life [Inhabited (Payload ρ)] (hpos : 0 < capacity) (runs : List (List (Tick ρ))) :
    ((life hpos runs).handed ++ (life hpos runs).dropped ++ stranded hpos runs).Perm
      (life hpos runs).built := by
  induction runs with
  | nil => exact List.Perm.refl _
  | cons ts runs ih =>
      -- A reset empties the buffer, and the next run begins like the first.
      rw [stranded, List.flatMap_cons, ← stranded]
      simp only [life, Journal.append]
      exact (perm_regroup _ _ _ _ _ _).trans ((perm_journal hpos ts).append ih)

theorem seqCounter_drain [Inhabited (Payload ρ)] :
    ∀ (ps : List PublishTry) (s : LoopState ρ capacity),
      (drain ps s).seqCounter = s.seqCounter := by
  intro ps
  induction ps with
  | nil => exact fun _ => rfl
  | cons p ps ih =>
      intro s
      unfold drain
      cases s.buffer.peek with
      | none => rfl
      | some pending =>
          simp only []
          by_cases hok : publishTelemetry p = true
          · rw [if_pos hok, ih]
          · rw [if_neg hok]

theorem Sampled.seqCounter_lt {t : Tick ρ} {s s' : LoopState ρ capacity} {j : Journal ρ}
    (h : Sampled t s j s') (hseq : s.seqCounter < turn) : s'.seqCounter < turn := by
  have hnext : (s.seqCounter + 1) % turn < turn := Nat.mod_lt _ (by decide)
  cases h with
  | idle => exact hseq
  | direct hempty => exact hnext
  | pushed => exact hnext

theorem seqCounter_loop [Inhabited (Payload ρ)] (s : LoopState ρ capacity) (t : Tick ρ)
    (h : s.seqCounter < turn) : (loop s t).seqCounter < turn := by
  unfold loop drainPending
  by_cases hdrain : (t.connectedAtDrain && !(sample t s).buffer.empty) = true
  · rw [if_pos hdrain, seqCounter_drain]
    exact (sampled_sample t s).seqCounter_lt h
  · rw [if_neg hdrain]
    exact (sampled_sample t s).seqCounter_lt h

theorem Sampled.of_iteration {t : Tick ρ} {s s' : LoopState ρ capacity} {j : Journal ρ}
    (h : Sampled t s j s') (hseq : s.seqCounter < turn) : ∀ p ∈ j.built, p.Of t := by
  have hof : (buildTelemetryJson t s).1.Of t := ⟨rfl, rfl, rfl, hseq⟩
  cases h with
  | idle => exact fun p hp => absurd hp List.not_mem_nil
  | direct hempty => exact List.forall_mem_singleton.mpr hof
  | pushed => exact List.forall_mem_singleton.mpr hof

/-- A sample has the readings, the clock and the uptime of its iteration. -/
theorem built_journal [Inhabited (Payload ρ)] : ∀ (ts : List (Tick ρ)) (s : LoopState ρ capacity),
    s.seqCounter < turn → ∀ p ∈ (journal s ts).built, ∃ t ∈ ts, p.Of t := by
  intro ts
  induction ts with
  | nil => exact fun _ _ _ hp => absurd hp List.not_mem_nil
  | cons t ts ih =>
      intro s hseq p hp
      -- The drain builds nothing.
      have hbuilt : (loopJournal s t).built = (sampleJournal t s).built := List.append_nil _
      rw [journal, Journal.append, List.mem_append, hbuilt] at hp
      rcases hp with hnow | hlater
      · exact ⟨t, List.mem_cons_self, (sampled_sample t s).of_iteration hseq p hnow⟩
      · rcases ih (loop s t) (seqCounter_loop s t hseq) p hlater with ⟨t', ht', hof⟩
        exact ⟨t', List.mem_cons_of_mem t ht', hof⟩

theorem built_life [Inhabited (Payload ρ)] (hpos : 0 < capacity) (runs : List (List (Tick ρ)))
    (p : Payload ρ) (hp : p ∈ (life hpos runs).built) : ∃ ts ∈ runs, ∃ t ∈ ts, p.Of t := by
  induction runs with
  | nil => exact absurd hp List.not_mem_nil
  | cons ts runs ih =>
      rw [life, Journal.append, List.mem_append] at hp
      rcases hp with hnow | hlater
      · exact ⟨ts, List.mem_cons_self, built_journal ts (boot hpos) (by decide : 0 < turn) p hnow⟩
      · rcases ih hlater with ⟨ts', hts', hof⟩
        exact ⟨ts', List.mem_cons_of_mem ts hts', hof⟩

end LoopState

end Firmware

end Vena
