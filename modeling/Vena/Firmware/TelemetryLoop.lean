import Vena.Core.Clock32
import Vena.Core.Run
import Vena.Firmware.OfflineBuffer

/-!
# Telemetry and the Offline Buffer

The telemetry half of the firmware's `loop()`: a sample is built every
`TELEMETRY_PERIOD_MS`, published at once when the broker is connected and
nothing is waiting, and pushed into the offline buffer otherwise; then, while
the broker is connected, up to four waiting payloads are drained.

Whether the broker is connected and whether a publish goes through are read
from the environment at every single call, so one iteration can see the
connection come and go between its sample and its drain. What each call
answered is part of the iteration's input, `Tick`.

The state carries three fields the firmware does not have. `published` lists
the sequence numbers for which `publishTelemetry` answered true, `evictions`
records every payload a push had to give up together with the buffer it met,
and `generated` counts the samples built since boot. They are only ever
written, so they observe the run without steering it.

`Accounted` is the invariant: read one after the other, the published numbers
and the waiting numbers increase strictly, and together with the evicted ones
they are exactly the numbers generated, each of them once. Sequence numbers
are 32-bit words, so the invariant is stated for runs that build at most
`turn` samples, which is `2 ^ 32`.

## Main definitions

* `Payload`: What `buildTelemetryJson` serialises.
* `PublishTry`: One call of `publishTelemetry` and what it met.
* `Tick`: What one iteration of `loop()` reads from its environment.
* `LoopState`: The telemetry state of the firmware, with the run's log.
* `sample`, `drainPending`, `loop`: The iteration and its two halves.
* `Accounted`: The delivery invariant.
* `Delivered`: What a run promises about delivery.

## Theorems

* `bufferPush_accounted`: Buffering a fresh sample keeps the accounts.
* `sample_accounted`: The sampling half keeps the accounts.
* `drain_accounted`: So does the drain.
* `run_accounted`: So does every run.
* `telemetry_delivered`: Delivery over every run since boot.
-/

namespace Vena

namespace Firmware

open Clock32

/-- The telemetry document. The sensor and controller values are carried
    through unread. -/
structure Payload (ρ : Type) where
  ts : Int
  seq : Nat
  readings : ρ
  uptimeMs : Nat
  deriving DecidableEq, Inhabited, Repr

/-- One call of `publishTelemetry`: the connection it finds and the answer of
    the MQTT client. -/
structure PublishTry where
  connected : Bool
  accepted : Bool
  deriving DecidableEq, Repr

/-- `MqttPublisher::publishTelemetry`. -/
def publishTelemetry (p : PublishTry) : Bool :=
  if !p.connected then false else p.accepted

/-- What one iteration of `loop()` reads from its environment. -/
structure Tick (ρ : Type) where
  now : Nat
  epochSeconds : Int
  readings : ρ
  connectedAtSample : Bool
  direct : PublishTry
  connectedAtDrain : Bool
  drained : Fin 4 → PublishTry

/-- A payload given up by a push, with the numbers that were waiting. -/
structure Eviction where
  seq : Nat
  waiting : List Nat
  deriving DecidableEq, Repr

/-- The telemetry state of the firmware and the log of the run. -/
structure LoopState (ρ : Type) (capacity : Nat) where
  seqCounter : Nat
  lastTelemetryMs : Nat
  buffer : OfflineBuffer (Payload ρ) capacity
  published : List Nat
  evictions : List Eviction
  generated : Nat

def telemetryPeriodMs : Nat := 5000

namespace LoopState

variable {ρ : Type} {capacity : Nat}

/-- The sequence numbers waiting in the buffer, oldest first. -/
def waiting (s : LoopState ρ capacity) : List Nat :=
  s.buffer.contents.map Payload.seq

def evicted (s : LoopState ρ capacity) : List Nat :=
  s.evictions.map Eviction.seq

/-- The state `setup()` leaves: nothing sampled, nothing waiting. -/
def boot [Inhabited (Payload ρ)] (hpos : 0 < capacity) : LoopState ρ capacity where
  seqCounter := 0
  lastTelemetryMs := 0
  buffer := OfflineBuffer.init hpos
  published := []
  evictions := []
  generated := 0

/-- `buildTelemetryJson`: the document, and the counter it advances. -/
def buildTelemetryJson (t : Tick ρ) (s : LoopState ρ capacity) :
    Payload ρ × LoopState ρ capacity :=
  ({ ts := t.epochSeconds * 1000, seq := s.seqCounter, readings := t.readings,
     uptimeMs := millis t.now },
   { s with seqCounter := (s.seqCounter + 1) % turn, generated := s.generated + 1 })

/-- `buffer.push(payload)`, logging what a full buffer gives up. -/
def bufferPush (payload : Payload ρ) (s : LoopState ρ capacity) : LoopState ρ capacity :=
  { s with
    buffer := s.buffer.push payload
    evictions := s.evictions ++
      (DropOldest.dropped capacity s.waiting).toList.map (fun q => ⟨q, s.waiting⟩) }

/-- The telemetry branch of `loop()`. -/
def sample (t : Tick ρ) (s : LoopState ρ capacity) : LoopState ρ capacity :=
  if telemetryPeriodMs ≤ sub32 (millis t.now) s.lastTelemetryMs then
    let built := buildTelemetryJson t { s with lastTelemetryMs := millis t.now }
    if t.connectedAtSample && s.buffer.empty then
      if publishTelemetry t.direct then
        { built.2 with published := s.published ++ [built.1.seq] }
      else bufferPush built.1 built.2
    else bufferPush built.1 built.2
  else s

/-- The drain loop: stop at an empty buffer or at the first publish that does
    not go through. -/
def drain [Inhabited (Payload ρ)] : List PublishTry → LoopState ρ capacity → LoopState ρ capacity
  | [], s => s
  | p :: ps, s => match s.buffer.peek with
    | none => s
    | some pending =>
      if publishTelemetry p then
        drain ps { s with buffer := s.buffer.pop, published := s.published ++ [pending.seq] }
      else s

/-- The drain branch of `loop()`. -/
def drainPending [Inhabited (Payload ρ)] (t : Tick ρ) (s : LoopState ρ capacity) :
    LoopState ρ capacity :=
  if t.connectedAtDrain && !s.buffer.empty then drain (List.ofFn t.drained) s else s

/-- One iteration. -/
def loop [Inhabited (Payload ρ)] (s : LoopState ρ capacity) (t : Tick ρ) : LoopState ρ capacity :=
  drainPending t (sample t s)

/-- Every iteration is possible in every state. -/
def step [Inhabited (Payload ρ)] (s : LoopState ρ capacity) (t : Tick ρ) :
    Option (LoopState ρ capacity) :=
  some (loop s t)

/-- The delivery invariant. -/
structure Accounted (s : LoopState ρ capacity) : Prop where
  counter : s.seqCounter = s.generated % turn
  increasing : (s.published ++ s.waiting).Pairwise (· < ·)
  once : (s.published ++ s.evicted ++ s.waiting).Perm (List.range s.generated)
  oldest : ∀ e ∈ s.evictions, e.waiting.length = capacity ∧ e.waiting.head? = some e.seq ∧
    e.waiting.Pairwise (· < ·)

theorem waiting_push (s : LoopState ρ capacity) (payload : Payload ρ) :
    (bufferPush payload s).waiting = DropOldest.pushDrop capacity s.waiting payload.seq := by
  rw [waiting, bufferPush, OfflineBuffer.contents_push, DropOldest.map_pushDrop, waiting]

theorem empty_iff_waiting (s : LoopState ρ capacity) : s.buffer.empty = true ↔ s.waiting = [] := by
  rw [OfflineBuffer.empty_iff, waiting, List.map_eq_nil_iff]

/-- Buffering a fresh sample keeps the accounts: the number is above every
    other one, and a full buffer gives up its smallest. -/
theorem bufferPush_accounted (s : LoopState ρ capacity) (payload : Payload ρ) (n : Nat)
    (hseq : payload.seq = n) (hgen : s.generated = n + 1)
    (hcounter : s.seqCounter = s.generated % turn)
    (hinc : (s.published ++ s.waiting).Pairwise (· < ·))
    (honce : (s.published ++ s.evicted ++ s.waiting).Perm (List.range n))
    (hold : ∀ e ∈ s.evictions, e.waiting.length = capacity ∧ e.waiting.head? = some e.seq ∧
      e.waiting.Pairwise (· < ·)) :
    Accounted (bufferPush payload s) := by
  have hfresh : ∀ q ∈ s.published ++ s.waiting, q < n := by
    intro q hq
    have hmem : q ∈ s.published ++ s.evicted ++ s.waiting := by
      simp only [List.mem_append] at hq ⊢
      tauto
    exact List.mem_range.mp (honce.subset hmem)
  have hparts := List.pairwise_append.mp hinc
  refine ⟨hcounter, ?_, ?_, ?_⟩
  · -- The waiting part is increasing, and everything published stays below it.
    rw [waiting_push, hseq]
    refine List.pairwise_append.mpr ⟨hparts.1, ?_, ?_⟩
    · exact DropOldest.pairwise_pushDrop capacity s.waiting n _ hparts.2.1
        (fun y hy => hfresh y (List.mem_append_right _ hy))
    · intro p hp q hq
      rcases DropOldest.mem_pushDrop capacity s.waiting n q hq with hmem | rfl
      · exact hparts.2.2 p hp q hmem
      · exact hfresh p (List.mem_append_left _ hp)
  · -- What the push gave up moves from the waiting part to the evicted part.
    have hmoved := DropOldest.perm_pushDrop capacity s.waiting n
    have hevicted : (bufferPush payload s).evicted
        = s.evicted ++ (DropOldest.dropped capacity s.waiting).toList := by
      simp only [bufferPush, evicted, List.map_append, List.map_map]
      congr 1
      exact List.map_id _
    rw [hevicted, waiting_push, hseq]
    have hpub : (bufferPush payload s).published = s.published := rfl
    have hgen' : (bufferPush payload s).generated = n + 1 := hgen
    rw [hpub, hgen', List.range_succ]
    calc s.published ++ (s.evicted ++ (DropOldest.dropped capacity s.waiting).toList)
          ++ DropOldest.pushDrop capacity s.waiting n
        = (s.published ++ s.evicted) ++ ((DropOldest.dropped capacity s.waiting).toList
          ++ DropOldest.pushDrop capacity s.waiting n) := by
          simp only [List.append_assoc]
      List.Perm _ ((s.published ++ s.evicted) ++ (s.waiting ++ [n])) :=
          List.Perm.append_left _ hmoved
      _ = (s.published ++ s.evicted ++ s.waiting) ++ [n] := by
          simp only [List.append_assoc]
      List.Perm _ (List.range n ++ [n]) := List.Perm.append_right _ honce
  · -- A new eviction record holds the full buffer, whose head is what was dropped.
    intro e he
    simp only [bufferPush, List.mem_append, List.mem_map] at he
    rcases he with hmem | ⟨q, hq, rfl⟩
    · exact hold e hmem
    · simp only [DropOldest.dropped, Option.mem_toList] at hq
      by_cases hfull : s.waiting.length = capacity
      · rw [if_pos hfull] at hq
        exact ⟨hfull, hq, hparts.2.1⟩
      · rw [if_neg hfull] at hq
        exact absurd hq (by simp only [reduceCtorEq, not_false_eq_true])

/-- Publishing a fresh sample at once keeps the accounts: nothing is waiting
    behind which it would have had to queue. -/
theorem publish_accounted (s : LoopState ρ capacity) (payload : Payload ρ) (n : Nat)
    (hseq : payload.seq = n) (hempty : s.waiting = []) (hgen : s.generated = n + 1)
    (hcounter : s.seqCounter = s.generated % turn)
    (hinc : (s.published ++ s.waiting).Pairwise (· < ·))
    (honce : (s.published ++ s.evicted ++ s.waiting).Perm (List.range n))
    (hold : ∀ e ∈ s.evictions, e.waiting.length = capacity ∧ e.waiting.head? = some e.seq ∧
      e.waiting.Pairwise (· < ·)) :
    Accounted { s with published := s.published ++ [payload.seq] } := by
  rw [hseq]
  have hwait : ({ s with published := s.published ++ [n] } : LoopState ρ capacity).waiting = [] :=
    hempty
  rw [hempty, List.append_nil] at hinc honce
  refine ⟨hcounter, ?_, ?_, hold⟩
  · rw [hwait, List.append_nil]
    refine List.pairwise_append.mpr ⟨hinc, List.pairwise_singleton _ _, ?_⟩
    intro p hp q hq
    rw [List.mem_singleton] at hq
    rw [hq]
    exact List.mem_range.mp (honce.subset (List.mem_append_left _ hp))
  · rw [hwait, List.append_nil]
    have hgen' : ({ s with published := s.published ++ [n] } : LoopState ρ capacity).generated
        = n + 1 := hgen
    rw [hgen', List.range_succ]
    calc s.published ++ [n] ++ s.evicted
        = s.published ++ ([n] ++ s.evicted) := List.append_assoc _ _ _
      List.Perm _ (s.published ++ (s.evicted ++ [n])) :=
          List.Perm.append_left _ List.perm_append_comm
      _ = (s.published ++ s.evicted) ++ [n] := (List.append_assoc _ _ _).symm
      List.Perm _ (List.range n ++ [n]) := List.Perm.append_right _ honce

/-- An iteration builds one sample when the period has elapsed, and none
    otherwise. -/
theorem sample_generated (t : Tick ρ) (s : LoopState ρ capacity) :
    (sample t s).generated = if telemetryPeriodMs ≤ sub32 (millis t.now) s.lastTelemetryMs
      then s.generated + 1 else s.generated := by
  unfold sample
  by_cases hdue : telemetryPeriodMs ≤ sub32 (millis t.now) s.lastTelemetryMs
  · rw [if_pos hdue, if_pos hdue]
    by_cases hdirect : (t.connectedAtSample && s.buffer.empty) = true
    · simp only [if_pos hdirect]
      by_cases hok : publishTelemetry t.direct = true
      · rw [if_pos hok]
        rfl
      · rw [if_neg hok]
        rfl
    · simp only [if_neg hdirect]
      rfl
  · rw [if_neg hdue, if_neg hdue]

theorem drain_generated [Inhabited (Payload ρ)] :
    ∀ (ps : List PublishTry) (s : LoopState ρ capacity), (drain ps s).generated = s.generated := by
  intro ps
  induction ps with
  | nil =>
      intro s
      rfl
  | cons p ps ih =>
      intro s
      unfold drain
      cases s.buffer.peek with
      | none => rfl
      | some pending =>
          simp only []
          by_cases hok : publishTelemetry p = true
          · rw [if_pos hok, ih]
          · rw [if_neg hok]

theorem loop_generated [Inhabited (Payload ρ)] (s : LoopState ρ capacity) (t : Tick ρ) :
    (loop s t).generated = (sample t s).generated := by
  unfold loop drainPending
  by_cases hdrain : (t.connectedAtDrain && !(sample t s).buffer.empty) = true
  · rw [if_pos hdrain, drain_generated]
  · rw [if_neg hdrain]

/-- The sampling half keeps the accounts while the counter has not run out of
    numbers. -/
theorem sample_accounted (t : Tick ρ) (s : LoopState ρ capacity) (h : Accounted s)
    (hbound : (sample t s).generated ≤ turn) : Accounted (sample t s) := by
  rw [sample_generated] at hbound
  unfold sample
  by_cases hdue : telemetryPeriodMs ≤ sub32 (millis t.now) s.lastTelemetryMs
  · rw [if_pos hdue] at hbound ⊢
    -- The counter has not wrapped yet, so it is the number of samples.
    have hseq : s.seqCounter = s.generated := by
      rw [h.counter, Nat.mod_eq_of_lt hbound]
    have hnext : (s.seqCounter + 1) % turn = (s.generated + 1) % turn := by rw [hseq]
    have hpush := bufferPush_accounted
      (buildTelemetryJson t { s with lastTelemetryMs := millis t.now }).2
      (buildTelemetryJson t { s with lastTelemetryMs := millis t.now }).1
      s.generated hseq rfl hnext h.increasing h.once h.oldest
    by_cases hdirect : (t.connectedAtSample && s.buffer.empty) = true
    · simp only [if_pos hdirect]
      by_cases hok : publishTelemetry t.direct = true
      · rw [if_pos hok]
        -- Only an empty buffer lets a sample pass.
        have hempty := (empty_iff_waiting s).mp (Bool.and_eq_true_iff.mp hdirect).2
        exact publish_accounted
          (buildTelemetryJson t { s with lastTelemetryMs := millis t.now }).2
          (buildTelemetryJson t { s with lastTelemetryMs := millis t.now }).1
          s.generated hseq hempty rfl hnext h.increasing h.once h.oldest
      · rw [if_neg hok]
        exact hpush
    · simp only [if_neg hdirect]
      exact hpush
  · rw [if_neg hdue]
    exact h

/-- One drained payload moves from the head of the waiting part to the end of
    the published part, so the two read one after the other do not change. -/
theorem drain_accounted [Inhabited (Payload ρ)] :
    ∀ (ps : List PublishTry) (s : LoopState ρ capacity), Accounted s → Accounted (drain ps s) := by
  intro ps
  induction ps with
  | nil =>
      intro s h
      exact h
  | cons p ps ih =>
      intro s h
      unfold drain
      cases hpeek : s.buffer.peek with
      | none => exact h
      | some pending =>
          simp only []
          by_cases hok : publishTelemetry p = true
          · rw [if_pos hok]
            refine ih _ ?_
            -- What is peeked at is what is popped.
            have hhead : s.waiting = pending.seq :: s.buffer.pop.contents.map Payload.seq := by
              rw [OfflineBuffer.peek_eq_head, List.head?_eq_some_iff] at hpeek
              obtain ⟨rest, hrest⟩ := hpeek
              rw [waiting, OfflineBuffer.contents_pop, hrest, List.map_cons, List.tail_cons]
            have hinc := h.increasing
            have honce := h.once
            rw [hhead] at hinc honce
            refine ⟨h.counter, ?_, ?_, h.oldest⟩
            · simpa only [waiting, List.append_assoc, List.singleton_append] using hinc
            · refine List.Perm.trans ?_ honce
              simp only [waiting, evicted, List.append_assoc, List.singleton_append]
              exact List.Perm.append_left _ List.perm_middle.symm
          · rw [if_neg hok]
            exact h

theorem loop_accounted [Inhabited (Payload ρ)] (s : LoopState ρ capacity) (t : Tick ρ)
    (h : Accounted s) (hbound : (loop s t).generated ≤ turn) : Accounted (loop s t) := by
  rw [loop_generated] at hbound
  have hsample := sample_accounted t s h hbound
  unfold loop drainPending
  by_cases hdrain : (t.connectedAtDrain && !(sample t s).buffer.empty) = true
  · rw [if_pos hdrain]
    exact drain_accounted _ _ hsample
  · rw [if_neg hdrain]
    exact hsample

theorem boot_accounted [Inhabited (Payload ρ)] (hpos : 0 < capacity) :
    Accounted (boot hpos : LoopState ρ capacity) := by
  refine ⟨rfl, List.Pairwise.nil, List.Perm.refl _, ?_⟩
  intro e he
  exact absurd he List.not_mem_nil

/-- Every run keeps the accounts, as long as it has not built more samples
    than there are sequence numbers. The count never goes down, so a bound at
    the end of the run held all along. -/
theorem run_accounted [Inhabited (Payload ρ)] (ts : List (Tick ρ)) (s s' : LoopState ρ capacity)
    (h : Accounted s) (hrun : Run.run step s ts = some s') (hbound : s'.generated ≤ turn) :
    Accounted s' := by
  refine Run.run_invariant step (fun u => u.generated ≤ turn → Accounted u) ?_ ts s s'
    (fun _ => h) hrun hbound
  intro u t u' hu hstep hle
  simp only [step, Option.some.injEq] at hstep
  rw [← hstep] at hle ⊢
  refine loop_accounted u t (hu ?_) hle
  have hmono : u.generated ≤ (loop u t).generated := by
    rw [loop_generated, sample_generated]
    split
    · omega
    · omega
  omega

/-- What the firmware promises about delivery at the end of an iteration. -/
structure Delivered (s : LoopState ρ capacity) : Prop where
  /-- Published numbers strictly increase, so none is published twice. -/
  published_increasing : s.published.Pairwise (· < ·)
  published_ahead : ∀ p ∈ s.published, ∀ q ∈ s.waiting, p < q
  waiting_increasing : s.waiting.Pairwise (· < ·)
  /-- No sample is lost but through an eviction. -/
  accounted : ∀ k < s.generated, k ∈ s.published ∨ k ∈ s.waiting ∨ k ∈ s.evicted
  /-- An eviction met a full buffer and took the oldest payload of it. -/
  evicted_oldest : ∀ e ∈ s.evictions, e.waiting.length = capacity ∧
    e.waiting.head? = some e.seq ∧ ∀ q ∈ e.waiting, e.seq ≤ q

theorem Accounted.delivered {s : LoopState ρ capacity} (h : Accounted s) : Delivered s := by
  have hparts := List.pairwise_append.mp h.increasing
  refine ⟨hparts.1, hparts.2.2, hparts.2.1, ?_, ?_⟩
  · intro k hk
    have hmem := h.once.symm.subset (List.mem_range.mpr hk)
    simp only [List.mem_append] at hmem
    tauto
  · intro e he
    obtain ⟨hfull, hhead, hinc⟩ := h.oldest e he
    refine ⟨hfull, hhead, ?_⟩
    obtain ⟨rest, hrest⟩ := List.head?_eq_some_iff.mp hhead
    rw [hrest, List.pairwise_cons] at hinc
    intro q hq
    rw [hrest, List.mem_cons] at hq
    rcases hq with rfl | hq
    · exact le_refl _
    · exact Nat.le_of_lt (hinc.1 q hq)

/-- Over every run since boot and every pattern of connections and publish
    outcomes, telemetry is delivered in order, once, and only an overflow of
    the buffer loses any. -/
theorem telemetry_delivered [Inhabited (Payload ρ)] (hpos : 0 < capacity) (ts : List (Tick ρ))
    (s : LoopState ρ capacity) (hrun : Run.run step (boot hpos) ts = some s)
    (hfew : s.generated < turn) : Delivered s :=
  (run_accounted ts (boot hpos) s (boot_accounted hpos) hrun (Nat.le_of_lt hfew)).delivered

/-- Three samples five seconds apart with the broker away, and back for the
    last drain. -/
def outage : List (Tick Unit) :=
  (List.range 3).map (fun i =>
    { now := 5000 * (i + 1), epochSeconds := 1700000000, readings := ()
      connectedAtSample := false, direct := ⟨false, false⟩
      connectedAtDrain := i == 2, drained := fun _ => ⟨true, true⟩ })

/-- Over a buffer of two, the outage costs the oldest sample and delivers the
    other two. -/
theorem telemetry_delivered_outage :
    ∃ s : LoopState Unit 2, Run.run step (boot (by decide)) outage = some s ∧
      s.published = [1, 2] ∧ s.evicted = [0] ∧ Delivered s :=
  ⟨_, rfl, rfl, rfl, telemetry_delivered (by decide) outage _ rfl (by decide)⟩

end LoopState

end Firmware

end Vena
