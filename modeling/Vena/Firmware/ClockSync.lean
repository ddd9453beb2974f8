import Vena.Firmware.TelemetryLoop

/-!
# Samples before the Clock is Set

`setup()` waits for the SNTP client once the Wi-Fi is up, and `loop()` waits
again when the Wi-Fi comes up later. Both go on when the wait times out, and the
telemetry branch asks for the period only: a sample that falls due before the
clock is set is stamped with the seconds since power-on, and waits in the buffer
for as long as the broker is away.

The readings of `time()` and of the Wi-Fi status are inputs. The clock may be
set at any time, by the SNTP client in the background as well. Once it is set
it does not fall back behind the threshold before the next reset; `clockSet`
notes that a reading was there, and a run with a reading that fell back is none.
`handed` lists what was passed to `publishTelemetry`, over all boots.

## Main definitions

* `waitForNtp`: The wait, over the readings it makes.
* `handedBy`: The payloads an iteration passes to `publishTelemetry`.
* `ClockSync.State`, `ClockSync.step`: The firmware with its clock.
* `ClockSync.Gated`: A sample falls due behind the gate only.
* `ClockSync.Synchronised`: Everything passed on was stamped by a clock that
  was set.

## Theorems

* `loop_stamped`: What an iteration does to the stamps.
* `clock_synchronised`: Samples behind the gate are all that is passed on.
* `gate_exact`: No other runs keep unset stamps out of the buffer.
* `clock_unsynchronised`: A sample after a wait that timed out.
-/

namespace Vena

namespace Firmware

open Clock32

/-- The threshold of `waitForNtp`, in seconds. -/
def ntpThreshold : Int := 1000000000

def ntpTimeoutMs : Nat := 10000

/-- One round of the wait: what `time()` reads, and the real time of the
    reading of `millis()` behind it. -/
structure NtpPoll where
  epochSeconds : Int
  now : Nat
  deriving DecidableEq, Repr

/-- `waitForNtp`; `none` as long as the wait has not ended. -/
def waitForNtp (start : Nat) : List NtpPoll → Option Bool
  | [] => none
  | p :: ps =>
    if p.epochSeconds < ntpThreshold then
      if ntpTimeoutMs < sub32 (millis p.now) (millis start) then some false
      else waitForNtp start ps
    else some true

namespace LoopState

variable {ρ : Type} {capacity : Nat}

/-- The test of the telemetry branch. -/
def due (t : Tick ρ) (s : LoopState ρ capacity) : Bool :=
  telemetryPeriodMs ≤ sub32 (millis t.now) s.lastTelemetryMs

/-- The payload that is passed on at once. -/
def handedSample (t : Tick ρ) (s : LoopState ρ capacity) : List (Payload ρ) :=
  if due t s then
    if t.connectedAtSample && s.buffer.empty then
      [(buildTelemetryJson t { s with lastTelemetryMs := millis t.now }).1]
    else []
  else []

/-- The payloads the drain loop passes on. -/
def handedDrain [Inhabited (Payload ρ)] : List PublishTry → LoopState ρ capacity → List (Payload ρ)
  | [], _ => []
  | p :: ps, s => match s.buffer.peek with
    | none => []
    | some pending =>
      pending :: if publishTelemetry p then
        handedDrain ps
          { s with buffer := s.buffer.pop, published := s.published ++ [pending.seq] }
      else []

/-- The payloads an iteration passes to `publishTelemetry`. -/
def handedBy [Inhabited (Payload ρ)] (t : Tick ρ) (s : LoopState ρ capacity) : List (Payload ρ) :=
  handedSample t s ++
    if t.connectedAtDrain && !(sample t s).buffer.empty then
      handedDrain (List.ofFn t.drained) (sample t s)
    else []

/-- The payloads that wait in the buffer. -/
def pending (s : LoopState ρ capacity) : List (Payload ρ) := s.buffer.contents

theorem mem_bufferPush (payload p : Payload ρ) (s : LoopState ρ capacity)
    (h : p ∈ (bufferPush payload s).pending) : p ∈ s.pending ∨ p = payload := by
  rw [pending, bufferPush, OfflineBuffer.contents_push] at h
  exact DropOldest.mem_pushDrop capacity s.buffer.contents payload p h

theorem pushed_bufferPush (payload : Payload ρ) (s : LoopState ρ capacity) :
    payload ∈ (bufferPush payload s).pending := by
  rw [pending, bufferPush, OfflineBuffer.contents_push, DropOldest.pushDrop]
  exact List.mem_append_right _ (List.mem_singleton_self payload)

/-- A sample is the only new payload, and it is stamped by the clock. -/
theorem mem_sample (t : Tick ρ) (s : LoopState ρ capacity) (p : Payload ρ)
    (h : p ∈ handedSample t s ∨ p ∈ (sample t s).pending) :
    p ∈ s.pending ∨ (due t s = true ∧ p.ts = t.epochSeconds * 1000) := by
  unfold handedSample due sample at h
  unfold due
  by_cases hdue : telemetryPeriodMs ≤ sub32 (millis t.now) s.lastTelemetryMs
  · simp only [hdue, decide_true, if_true] at h ⊢
    by_cases hdirect : (t.connectedAtSample && s.buffer.empty) = true
    · simp only [if_pos hdirect, List.mem_singleton] at h
      rcases h with rfl | hin
      · exact Or.inr ⟨trivial, rfl⟩
      · split at hin
        · exact Or.inl hin
        · rcases mem_bufferPush _ p _ hin with hold | rfl
          · exact Or.inl hold
          · exact Or.inr ⟨trivial, rfl⟩
    · simp only [if_neg hdirect, List.not_mem_nil, false_or] at h
      rcases mem_bufferPush _ p _ h with hold | rfl
      · exact Or.inl hold
      · exact Or.inr ⟨trivial, rfl⟩
  · simp only [hdue, decide_false, Bool.false_eq_true, if_false, List.not_mem_nil, false_or] at h
    exact Or.inl h

/-- A sample that falls due is passed on or waits. -/
theorem sampled (t : Tick ρ) (s : LoopState ρ capacity) (hdue : due t s = true) :
    ∃ p, p.ts = t.epochSeconds * 1000 ∧ (p ∈ handedSample t s ∨ p ∈ (sample t s).pending) := by
  have hperiod : telemetryPeriodMs ≤ sub32 (millis t.now) s.lastTelemetryMs :=
    of_decide_eq_true hdue
  refine ⟨(buildTelemetryJson t { s with lastTelemetryMs := millis t.now }).1, rfl, ?_⟩
  unfold handedSample sample
  simp only [hdue, hperiod, if_true]
  by_cases hdirect : (t.connectedAtSample && s.buffer.empty) = true
  · simp only [if_pos hdirect]
    exact Or.inl (List.mem_singleton_self _)
  · simp only [if_neg hdirect]
    exact Or.inr (pushed_bufferPush _ _)

/-- The drain passes on what waits, and what it does not pass on waits on. -/
theorem mem_drain [Inhabited (Payload ρ)] (p : Payload ρ) :
    ∀ (ps : List PublishTry) (s : LoopState ρ capacity),
      (p ∈ handedDrain ps s ∨ p ∈ (drain ps s).pending) ↔ p ∈ s.pending := by
  intro ps
  induction ps with
  | nil =>
      intro s
      simp only [handedDrain, drain, List.not_mem_nil, false_or]
  | cons first ps ih =>
      intro s
      unfold handedDrain drain
      cases hpeek : s.buffer.peek with
      | none => simp only [List.not_mem_nil, false_or]
      | some oldest =>
          rw [OfflineBuffer.peek_eq_head, List.head?_eq_some_iff] at hpeek
          rcases hpeek with ⟨rest, hrest⟩
          have hsplit : p ∈ s.pending ↔ p = oldest ∨ p ∈ s.buffer.pop.contents := by
            rw [pending, OfflineBuffer.contents_pop, hrest, List.mem_cons, List.tail_cons]
          by_cases hok : publishTelemetry first = true
          · have hrec := ih { s with
              buffer := s.buffer.pop
              published := s.published ++ [oldest.seq] }
            simp only [if_pos hok, List.mem_cons, or_assoc]
            rw [hrec, hsplit]
            rfl
          · simp only [if_neg hok, List.mem_cons, List.not_mem_nil, or_false]
            rw [hsplit]
            exact ⟨fun h => h.elim Or.inl id, Or.inr⟩

/-- What an iteration does to the stamps: a payload it leaves in the buffer or
    passes on was there before, or is the sample. -/
theorem loop_stamped [Inhabited (Payload ρ)] (t : Tick ρ) (s : LoopState ρ capacity)
    (p : Payload ρ) (h : p ∈ handedBy t s ∨ p ∈ (loop s t).pending) :
    p ∈ s.pending ∨ (due t s = true ∧ p.ts = t.epochSeconds * 1000) := by
  refine mem_sample t s p ?_
  unfold handedBy loop drainPending at h
  rw [List.mem_append, or_assoc] at h
  rcases h with hsample | hdrain
  · exact Or.inl hsample
  · refine Or.inr ?_
    split at hdrain
    · exact (mem_drain p _ _).mp hdrain
    · exact hdrain.resolve_left List.not_mem_nil

/-- The sample is passed on or waits after the iteration. -/
theorem loop_sampled [Inhabited (Payload ρ)] (t : Tick ρ) (s : LoopState ρ capacity)
    (hdue : due t s = true) :
    ∃ p, p.ts = t.epochSeconds * 1000 ∧ (p ∈ handedBy t s ∨ p ∈ (loop s t).pending) := by
  rcases sampled t s hdue with ⟨p, hts, hwhere⟩
  refine ⟨p, hts, ?_⟩
  unfold handedBy loop drainPending
  rw [List.mem_append, or_assoc]
  rcases hwhere with hsample | hpending
  · exact Or.inl hsample
  · refine Or.inr ?_
    split
    · exact (mem_drain p _ _).mpr hpending
    · exact Or.inr hpending

end LoopState

namespace ClockSync

variable {ρ : Type} {capacity : Nat}

/-- The telemetry of the firmware with what it knows of the clock, the clock,
    and the log of the run. -/
structure State (ρ : Type) (capacity : Nat) where
  running : Bool
  telemetry : LoopState ρ capacity
  ntpReady : Bool
  wifiWasConnected : Bool
  clockSet : Bool
  handed : List (Payload ρ)

/-- A boot or a reset, with the Wi-Fi status read before and after the wait, or
    an iteration of `loop()`. -/
inductive Act (ρ : Type) where
  | setup (wifi : Bool) (start : Nat) (polls : List NtpPoll) (wifiAfter : Bool)
  | loop (wifi : Bool) (start : Nat) (polls : List NtpPoll) (tick : Tick ρ)

/-- Before the power is on. -/
def State.off [Inhabited (Payload ρ)] (hpos : 0 < capacity) : State ρ capacity where
  running := false
  telemetry := LoopState.boot hpos
  ntpReady := false
  wifiWasConnected := false
  clockSet := false
  handed := []

namespace State

/-- `ntpReady = waitForNtp()`. -/
def syncClock (start : Nat) (polls : List NtpPoll) (s : State ρ capacity) :
    Option (State ρ capacity) :=
  -- A clock that is set has not fallen back.
  if s.clockSet && polls.any (fun p => p.epochSeconds < ntpThreshold) then none
  else match waitForNtp start polls with
    | none => none
    | some ready => some { s with ntpReady := ready, clockSet := s.clockSet || ready }

/-- `setup()`, which finds the memory cleared. -/
def setup [Inhabited (Payload ρ)] (wifi : Bool) (start : Nat) (polls : List NtpPoll)
    (wifiAfter : Bool) (s : State ρ capacity) : Option (State ρ capacity) :=
  let cleared : State ρ capacity :=
    { s with
      running := true
      telemetry := LoopState.boot s.telemetry.buffer.capacity_pos
      ntpReady := false
      wifiWasConnected := wifiAfter
      clockSet := false }
  if wifi then cleared.syncClock start polls else some cleared

/-- `loop()` tracks the Wi-Fi. -/
def trackWifi (wifi : Bool) (start : Nat) (polls : List NtpPoll) (s : State ρ capacity) :
    Option (State ρ capacity) :=
  if wifi && !s.wifiWasConnected then
    if !s.ntpReady then { s with wifiWasConnected := true }.syncClock start polls
    else some { s with wifiWasConnected := true }
  else if !wifi && s.wifiWasConnected then some { s with wifiWasConnected := false }
  else some s

/-- The telemetry half of `loop()`. `time()` is read for a sample only. -/
def loopTelemetry [Inhabited (Payload ρ)] (t : Tick ρ) (s : State ρ capacity) :
    Option (State ρ capacity) :=
  if s.telemetry.due t && s.clockSet && t.epochSeconds < ntpThreshold then none
  else some { s with
    telemetry := LoopState.loop s.telemetry t
    clockSet := s.clockSet || (s.telemetry.due t && ntpThreshold ≤ t.epochSeconds)
    handed := s.handed ++ s.telemetry.handedBy t }

end State

def step [Inhabited (Payload ρ)] (s : State ρ capacity) : Act ρ → Option (State ρ capacity)
  | .setup wifi start polls wifiAfter => s.setup wifi start polls wifiAfter
  | .loop wifi start polls t =>
    if s.running then (s.trackWifi wifi start polls).bind (State.loopTelemetry t) else none

/-- The sample falls due with a clock that is set: `waitForNtp` has returned
    true, or the SNTP client has set the clock without it. -/
def Behind (t : Tick ρ) (s : State ρ capacity) : Prop :=
  s.telemetry.due t = true →
    s.ntpReady = true ∨ s.clockSet = true ∨ ntpThreshold ≤ t.epochSeconds

instance (t : Tick ρ) (s : State ρ capacity) : Decidable (Behind t s) :=
  inferInstanceAs (Decidable (_ → _))

def Gated (s : State ρ capacity) : Act ρ → Prop
  | .setup _ _ _ _ => True
  | .loop wifi start polls t => ∀ s' ∈ s.trackWifi wifi start polls, Behind t s'

instance (s : State ρ capacity) : (a : Act ρ) → Decidable (Gated s a)
  | .setup _ _ _ _ => isTrue trivial
  | .loop wifi start polls _ => inferInstanceAs (Decidable (∀ s' ∈ s.trackWifi wifi start polls, _))

/-- Every payload passed to `publishTelemetry` was stamped by a clock that was set. -/
def Synchronised (s : State ρ capacity) : Prop :=
  ∀ p ∈ s.handed, ntpThreshold * 1000 ≤ p.ts

/-- The same of the payloads in the buffer, and the flag is no promise too much. -/
structure Sound (s : State ρ capacity) : Prop where
  ready : s.ntpReady = true → s.clockSet = true
  stamped : ∀ p, p ∈ s.handed ∨ p ∈ s.telemetry.pending → ntpThreshold * 1000 ≤ p.ts

theorem pending_boot [Inhabited (Payload ρ)] (hpos : 0 < capacity) :
    (LoopState.boot hpos : LoopState ρ capacity).pending = [] := rfl

theorem sound_off [Inhabited (Payload ρ)] (hpos : 0 < capacity) :
    Sound (State.off hpos : State ρ capacity) where
  ready := fun h => absurd h Bool.false_ne_true
  stamped := fun _ h => absurd (h.resolve_left List.not_mem_nil) List.not_mem_nil

/-- A wait changes what is known of the clock, and a wait that succeeds is right. -/
theorem syncClock_spec (start : Nat) (polls : List NtpPoll) (s s' : State ρ capacity)
    (h : s.syncClock start polls = some s') :
    s'.telemetry = s.telemetry ∧ s'.handed = s.handed ∧
      (s'.ntpReady = true → s'.clockSet = true) := by
  unfold State.syncClock at h
  split at h
  · exact absurd h (by simp only [reduceCtorEq, not_false_eq_true])
  · split at h
    · exact absurd h (by simp only [reduceCtorEq, not_false_eq_true])
    · next ready _ =>
        rw [Option.some.injEq] at h
        rw [← h]
        refine ⟨rfl, rfl, fun hready => ?_⟩
        have htrue : ready = true := hready
        simp only [htrue, Bool.or_true]

theorem trackWifi_spec (wifi : Bool) (start : Nat) (polls : List NtpPoll) (s s' : State ρ capacity)
    (hready : s.ntpReady = true → s.clockSet = true)
    (h : s.trackWifi wifi start polls = some s') :
    s'.telemetry = s.telemetry ∧ s'.handed = s.handed ∧
      (s'.ntpReady = true → s'.clockSet = true) := by
  unfold State.trackWifi at h
  split at h
  · split at h
    · exact syncClock_spec start polls { s with wifiWasConnected := true } s' h
    · rw [Option.some.injEq] at h
      rw [← h]
      exact ⟨rfl, rfl, hready⟩
  · split at h
    · rw [Option.some.injEq] at h
      rw [← h]
      exact ⟨rfl, rfl, hready⟩
    · rw [Option.some.injEq] at h
      rw [← h]
      exact ⟨rfl, rfl, hready⟩

/-- A reset clears the buffer and keeps the log. -/
theorem sound_setup [Inhabited (Payload ρ)] (wifi : Bool) (start : Nat) (polls : List NtpPoll)
    (wifiAfter : Bool) (s s' : State ρ capacity) (hs : Sound s)
    (h : s.setup wifi start polls wifiAfter = some s') : Sound s' := by
  unfold State.setup at h
  have hnil :
      (LoopState.boot s.telemetry.buffer.capacity_pos : LoopState ρ capacity).pending = [] :=
    pending_boot s.telemetry.buffer.capacity_pos
  split at h
  · rcases syncClock_spec start polls _ s' h with ⟨htelemetry, hhanded, hready⟩
    refine ⟨hready, fun p hp => ?_⟩
    rw [htelemetry, hhanded, hnil] at hp
    exact hs.stamped p (Or.inl (hp.resolve_right List.not_mem_nil))
  · rw [Option.some.injEq] at h
    rw [← h]
    refine ⟨fun hready => absurd hready Bool.false_ne_true, fun p hp => ?_⟩
    rw [hnil] at hp
    exact hs.stamped p (Or.inl (hp.resolve_right List.not_mem_nil))

/-- A sample behind the gate bears a stamp of a clock that is set. -/
theorem sound_loopTelemetry [Inhabited (Payload ρ)] (t : Tick ρ) (s s' : State ρ capacity)
    (hs : Sound s) (hbehind : Behind t s) (h : s.loopTelemetry t = some s') : Sound s' := by
  unfold State.loopTelemetry at h
  split at h
  · exact absurd h (by simp only [reduceCtorEq, not_false_eq_true])
  · next hkept =>
      rw [Option.some.injEq] at h
      rw [← h]
      refine ⟨fun hready => ?_, fun p hp => ?_⟩
      · simp only [hs.ready hready, Bool.true_or]
      · have hcases : p ∈ s.handed ∨ p ∈ s.telemetry.pending ∨
            (s.telemetry.due t = true ∧ p.ts = t.epochSeconds * 1000) := by
          rw [List.mem_append, or_assoc] at hp
          exact hp.imp_right (LoopState.loop_stamped t s.telemetry p)
        rcases hcases with hold | hold | ⟨hdue, hts⟩
        · exact hs.stamped p (Or.inl hold)
        · exact hs.stamped p (Or.inr hold)
        -- The flag and the clock agree, and the clock has not fallen back.
        · have hset : s.clockSet = true ∨ ntpThreshold ≤ t.epochSeconds :=
            (hbehind hdue).elim (fun hready => Or.inl (hs.ready hready)) id
          have hepoch : ntpThreshold ≤ t.epochSeconds := by
            refine hset.elim (fun hclock => ?_) id
            simp only [hdue, hclock, Bool.and_self, Bool.true_and, decide_eq_true_eq] at hkept
            exact Int.not_lt.mp hkept
          rw [hts]
          omega

/-- A sample before the gate spoils the log or the buffer. -/
theorem not_sound_loopTelemetry [Inhabited (Payload ρ)] (t : Tick ρ) (s s' : State ρ capacity)
    (hbefore : ¬Behind t s) (h : s.loopTelemetry t = some s') : ¬Sound s' := by
  intro hs'
  unfold Behind at hbefore
  rw [Classical.not_imp, not_or, not_or] at hbefore
  rcases hbefore with ⟨hdue, _, _, hepoch⟩
  rcases LoopState.loop_sampled t s.telemetry hdue with ⟨p, hts, hwhere⟩
  unfold State.loopTelemetry at h
  split at h
  · exact absurd h (by simp only [reduceCtorEq, not_false_eq_true])
  · rw [Option.some.injEq] at h
    rw [← h] at hs'
    have hstamp := hs'.stamped p (hwhere.imp_left (List.mem_append_right _))
    rw [hts] at hstamp
    omega

theorem step_loop [Inhabited (Payload ρ)] (wifi : Bool) (start : Nat) (polls : List NtpPoll)
    (t : Tick ρ) (s s' : State ρ capacity) (h : step s (.loop wifi start polls t) = some s') :
    ∃ u, s.trackWifi wifi start polls = some u ∧ u.loopTelemetry t = some s' := by
  simp only [step] at h
  split at h
  · exact Option.bind_eq_some_iff.mp h
  · exact absurd h (by simp only [reduceCtorEq, not_false_eq_true])

theorem sound_trackWifi (wifi : Bool) (start : Nat) (polls : List NtpPoll)
    (s u : State ρ capacity) (hs : Sound s) (h : s.trackWifi wifi start polls = some u) :
    Sound u := by
  rcases trackWifi_spec wifi start polls s u hs.ready h with ⟨htelemetry, hhanded, hready⟩
  refine ⟨hready, fun p hp => ?_⟩
  rw [htelemetry, hhanded] at hp
  exact hs.stamped p hp

/-- Steps behind the gate keep the stamps sound. -/
theorem sound_step [Inhabited (Payload ρ)] (s : State ρ capacity) (a : Act ρ)
    (s' : State ρ capacity) (hs : Sound s) (hgate : Gated s a) (h : step s a = some s') :
    Sound s' := by
  cases a with
  | setup wifi start polls wifiAfter => exact sound_setup wifi start polls wifiAfter s s' hs h
  | loop wifi start polls t =>
      rcases step_loop wifi start polls t s s' h with ⟨u, htrack, htelemetry⟩
      exact sound_loopTelemetry t u s' (sound_trackWifi wifi start polls s u hs htrack)
        (hgate u htrack) htelemetry

/-- Other steps do not. -/
theorem not_sound_step [Inhabited (Payload ρ)] (s : State ρ capacity) (a : Act ρ)
    (s' : State ρ capacity) (hgate : ¬Gated s a) (h : step s a = some s') : ¬Sound s' := by
  cases a with
  | setup wifi start polls wifiAfter => exact absurd trivial hgate
  | loop wifi start polls t =>
      rcases step_loop wifi start polls t s s' h with ⟨u, htrack, htelemetry⟩
      refine not_sound_loopTelemetry t u s' (fun hbehind => hgate ?_) htelemetry
      intro u' hu'
      rw [htrack, Option.mem_some_iff] at hu'
      exact hu' ▸ hbehind

/-- Every payload of a run whose samples all fall due behind the gate is
    stamped by a clock that was set, whether it is passed on at once or later. -/
theorem clock_synchronised [Inhabited (Payload ρ)] (hpos : 0 < capacity) (acts : List (Act ρ))
    (hgate : Run.Along step Gated (State.off hpos : State ρ capacity) acts) :
    Run.Throughout step Synchronised (State.off hpos : State ρ capacity) acts :=
  Run.throughout_of_along step Gated Sound Synchronised sound_step
    (fun _ hs p hp => hs.stamped p (Or.inl hp)) acts (State.off hpos) (sound_off hpos) hgate

/-- The gate is exact: a run with another sample has its stamp in the log or in
    the buffer. -/
theorem gate_exact [Inhabited (Payload ρ)] (hpos : 0 < capacity) (acts : List (Act ρ))
    (s : State ρ capacity) (hrun : Run.run step (State.off hpos) acts = some s) :
    Run.Throughout step Sound (State.off hpos : State ρ capacity) acts ↔
      Run.Along step Gated (State.off hpos) acts :=
  Run.throughout_iff_along_of_run step Gated Sound sound_step
    (fun s a s' _ => not_sound_step s a s') acts (State.off hpos) s (sound_off hpos) hrun

/-- An iteration with the broker connected. -/
def connectedTick (now : Nat) (epochSeconds : Int) : Tick Unit where
  now := now
  epochSeconds := epochSeconds
  readings := ()
  connectedAtSample := true
  direct := ⟨true, true⟩
  connectedAtDrain := false
  drained := fun _ => ⟨false, false⟩

/-- The clock is set at boot, and then a sample is passed on. -/
def setAtBoot : List (Act Unit) :=
  [.setup true 0 [⟨3, 100⟩, ⟨1700000000, 200⟩] true,
    .loop true 0 [] (connectedTick 6000 1700000006)]

theorem clock_synchronised_boot :
    (Run.run step (State.off (by decide) : State Unit 128) setAtBoot).map
        (fun s => s.handed.map Payload.ts) = some [1700000006000] ∧
      Run.Throughout step Synchronised (State.off (by decide) : State Unit 128) setAtBoot :=
  ⟨by decide +kernel, clock_synchronised (by decide) setAtBoot (by decide +kernel)⟩

/-- The wait at boot times out, the broker is reached, and a sample is passed on. -/
def timedOut : List (Act Unit) :=
  [.setup true 0 [⟨3, 100⟩, ⟨13, 10200⟩] true, .loop true 0 [] (connectedTick 15300 15)]

/-- It bears the 15 seconds since power-on. -/
theorem clock_unsynchronised : ¬∀ acts : List (Act Unit),
    Run.Throughout step Synchronised (State.off (by decide) : State Unit 128) acts := by
  intro hall
  have hview : (Run.run step (State.off (by decide) : State Unit 128) timedOut).map
      (fun s => s.handed.map Payload.ts) = some [15000] := by decide +kernel
  rcases Option.map_eq_some_iff.mp hview with ⟨s, hrun, hts⟩
  have hlast := Run.throughout_last step Synchronised timedOut _ s (hall timedOut) hrun
  rcases List.map_eq_singleton_iff.mp hts with ⟨p, hp, hstamp⟩
  have hbound := hlast p (hp ▸ List.mem_singleton_self p)
  rw [hstamp] at hbound
  exact absurd hbound (by decide)

end ClockSync

end Firmware

end Vena
