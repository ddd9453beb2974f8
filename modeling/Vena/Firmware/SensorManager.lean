import Vena.Core.Run
import Vena.Core.Clock32

/-!
# The Ambient Reading

`SensorManager` answers calls that come within `MIN_INTERVAL_MS` of the last
look at the sensor from a cache. The look is what it keeps the time of, whether
it succeeded or not, and the values stay behind when it did not. So a call that
follows a failed look is given the values of an earlier one, and it is told that
they are good.

A caller is owed values that were read off the sensor within `MIN_INTERVAL_MS`
of the call. `fresh_iff_careful` says which calls get them: those for which the
latest look at the sensor was a good one, and was less than a turn of the
counter ago.

## Main definitions

* `Cache`, `readSensor`: The cache and the method that fills it.
* `Ambient`, `Ambient.step`: Calls of `readAmbient` in real time, with the looks
  at the sensor written down.
* `Fresh`: The values that were returned are recent.
* `Careful`: The cache is asked only while it holds the latest look.

## Theorems

* `sound_run`: What the cache holds in any run.
* `fresh_iff_careful`: The calls of a run that are answered with recent values.
* `stale_after_failure`: A call that is not.
-/

namespace Vena

namespace Firmware

open Clock32

/-- `MIN_INTERVAL_MS`. -/
def minIntervalMs : Nat := 2000

variable {ρ : Type}

/-- A pair of floats, `none` where the float is NaN. -/
structure Reading (ρ : Type) where
  tempC : Option ρ := none
  humidity : Option ρ := none
  deriving DecidableEq, Repr

/-- Neither float is NaN. -/
def Reading.Valid (r : Reading ρ) : Prop := r.tempC.isSome = true ∧ r.humidity.isSome = true

instance (r : Reading ρ) : Decidable r.Valid := inferInstanceAs (Decidable (_ ∧ _))

structure Cache (ρ : Type) where
  reading : Reading ρ := {}
  lastReadMs : Nat := 0
  hasValid : Bool := false

/-- What a call of `readSensor` returns, does to its arguments and does to the
    cache. `looked` is set if the sensor was read. -/
structure ReadResult (ρ : Type) where
  result : Bool
  out : Reading ρ
  cache : Cache ρ
  looked : Bool

/-- `now` is a reading of `millis()`, `sensor` what the sensor would deliver, and
    `out` what the two arguments hold before the call. -/
def readSensor (cache : Cache ρ) (now : Nat) (sensor out : Reading ρ) : ReadResult ρ :=
  if cache.hasValid = true ∧ sub32 now cache.lastReadMs < minIntervalMs then
    { result := true, out := cache.reading, cache := cache, looked := false }
  else if ¬ sensor.Valid then
    { result := false
      out := if cache.hasValid then cache.reading else out
      cache := { cache with lastReadMs := now }
      looked := true }
  else
    { result := true
      out := sensor
      cache := { reading := sensor, lastReadMs := now, hasValid := true }
      looked := true }

/-- A look at the sensor, at a real time. -/
structure Look (ρ : Type) where
  time : Nat
  reading : Reading ρ

/-- The cache as of the latest call. `looks` lists the looks, latest first, and
    `returned` the values the latest call vouched for. -/
structure Ambient (ρ : Type) where
  cache : Cache ρ := {}
  now : Nat
  looks : List (Look ρ) := []
  returned : Option (Reading ρ) := none

/-- A call of `readAmbient`, the time since the one before and what it finds. -/
structure AmbientCall (ρ : Type) where
  gap : Nat
  sensor : Reading ρ
  out : Reading ρ := {}

namespace Ambient

/-- Calls come less than a turn apart. -/
def step (s : Ambient ρ) (c : AmbientCall ρ) : Option (Ambient ρ) :=
  if c.gap < turn then
    let now := s.now + c.gap
    let r := readSensor s.cache (millis now) c.sensor c.out
    some
      { cache := r.cache
        now := now
        looks := if r.looked then { time := now, reading := c.sensor } :: s.looks else s.looks
        returned := if r.result then some r.out else none }
  else none

/-- The values that were returned come from a good look that was at most
    `MIN_INTERVAL_MS` ago. -/
def Fresh (s : Ambient ρ) : Prop :=
  ∀ r, s.returned = some r → ∃ l ∈ s.looks, l.reading.Valid ∧ r = l.reading ∧
    l.time ≤ s.now ∧ s.now - l.time ≤ minIntervalMs

/-- The call is answered from the cache. -/
def FromCache (s : Ambient ρ) (c : AmbientCall ρ) : Prop :=
  s.cache.hasValid = true ∧ sub32 (millis (s.now + c.gap)) s.cache.lastReadMs < minIntervalMs

/-- The latest look is less than a turn ago. It was a good one, or it failed in
    this very millisecond, `MIN_INTERVAL_MS` after a good one. -/
def Careful (s : Ambient ρ) (c : AmbientCall ρ) : Prop :=
  FromCache s c → ∃ l, s.looks.head? = some l ∧ s.now + c.gap - l.time < turn ∧
    (l.reading.Valid ∨
      s.now + c.gap = l.time ∧ ∃ v ∈ s.looks, v.reading.Valid ∧ v.time + minIntervalMs = l.time)

/-- The cache holds the latest good look, and the time of the latest look. -/
structure Sound (s : Ambient ρ) : Prop where
  past : ∀ l ∈ s.looks, l.time ≤ s.now
  latest : ∀ l, s.looks.head? = some l → s.cache.lastReadMs = millis l.time ∧
    ∀ w ∈ s.looks, w.time ≤ l.time
  cached : s.cache.hasValid = true → ∃ v ∈ s.looks, v.reading.Valid ∧
    s.cache.reading = v.reading ∧ (∀ w ∈ s.looks, w.reading.Valid → w.time ≤ v.time) ∧
    ∀ l, s.looks.head? = some l → ¬ l.reading.Valid → v.time + minIntervalMs ≤ l.time

/-- A call is answered from the cache, or finds the sensor failing or well. -/
theorem step_cases (s t : Ambient ρ) (c : AmbientCall ρ) (h : step s c = some t) :
    (FromCache s c ∧
      t = { s with now := s.now + c.gap, returned := some s.cache.reading }) ∨
    (¬ FromCache s c ∧ ¬ c.sensor.Valid ∧
      t = { cache := { s.cache with lastReadMs := millis (s.now + c.gap) }
            now := s.now + c.gap
            looks := { time := s.now + c.gap, reading := c.sensor } :: s.looks
            returned := none }) ∨
    (¬ FromCache s c ∧ c.sensor.Valid ∧
      t = { cache :=
              { reading := c.sensor, lastReadMs := millis (s.now + c.gap), hasValid := true }
            now := s.now + c.gap
            looks := { time := s.now + c.gap, reading := c.sensor } :: s.looks
            returned := some c.sensor }) := by
  unfold step at h
  by_cases hgap : c.gap < turn
  · rw [if_pos hgap, Option.some.injEq] at h
    rw [← h]
    unfold FromCache readSensor
    by_cases hcache : s.cache.hasValid = true ∧
        sub32 (millis (s.now + c.gap)) s.cache.lastReadMs < minIntervalMs
    · exact Or.inl ⟨hcache, by simp only [if_pos hcache, if_true, Bool.false_eq_true, if_false]⟩
    · refine Or.inr ?_
      by_cases hvalid : c.sensor.Valid
      · exact Or.inr ⟨hcache, hvalid, by
          simp only [if_neg hcache, hvalid, not_true_eq_false, if_false, if_true]⟩
      · exact Or.inl ⟨hcache, hvalid, by
          simp only [if_neg hcache, hvalid, not_false_eq_true, if_true, Bool.false_eq_true,
            if_false]⟩
  · rw [if_neg hgap] at h
    exact absurd h (by simp only [reduceCtorEq, not_false_eq_true])

theorem sound_start (t : Nat) : Sound ({ now := t } : Ambient ρ) :=
  ⟨fun _ h => absurd h List.not_mem_nil,
    fun _ h => by simp only [List.head?_nil, reduceCtorEq] at h,
    fun h => absurd h Bool.false_ne_true⟩

/-- Time only goes on, so what a call adds to the looks is the latest. -/
theorem looks_past (s : Ambient ρ) (hs : Sound s) (gap : Nat) (l w : Look ρ)
    (hl : l.time = s.now + gap) (hw : w ∈ l :: s.looks) : w.time ≤ s.now + gap := by
  rcases List.mem_cons.mp hw with heq | hin
  · rw [heq, hl]
  · exact le_trans (hs.past w hin) (Nat.le_add_right _ _)

/-- The comparison of the counters, in real time. -/
theorem fromCache_iff (s : Ambient ρ) (hs : Sound s) (c : AmbientCall ρ) (l : Look ρ)
    (hl : s.looks.head? = some l) : FromCache s c ↔
      s.cache.hasValid = true ∧ (s.now + c.gap - l.time) % turn < minIntervalMs := by
  have hle : l.time ≤ s.now + c.gap :=
    le_trans (hs.past l (List.mem_of_mem_head? hl)) (Nat.le_add_right _ _)
  rw [FromCache, (hs.latest l hl).1, sub32_millis _ _ hle]

/-- A look is taken no sooner than `MIN_INTERVAL_MS` after the one before. -/
theorem spaced_of_look (s : Ambient ρ) (hs : Sound s) (c : AmbientCall ρ)
    (hvalid : s.cache.hasValid = true) (hno : ¬ FromCache s c) (v : Look ρ) (hv : v ∈ s.looks) :
    v.time + minIntervalMs ≤ s.now + c.gap := by
  cases hl : s.looks.head? with
  | none => exact absurd hv (List.head?_eq_none_iff.mp hl ▸ List.not_mem_nil)
  | some l =>
      have hmod : ¬ (s.now + c.gap - l.time) % turn < minIntervalMs :=
        fun hlt => hno ((fromCache_iff s hs c l hl).mpr ⟨hvalid, hlt⟩)
      have hvl := (hs.latest l hl).2 v hv
      have hpast := hs.past l (List.mem_of_mem_head? hl)
      have hdiff := Nat.mod_le (s.now + c.gap - l.time) turn
      omega

theorem latest_look (s : Ambient ρ) (hs : Sound s) (gap : Nat) (l k : Look ρ)
    (hl : l.time = s.now + gap) (hk : (l :: s.looks).head? = some k) :
    millis (s.now + gap) = millis k.time ∧ ∀ w ∈ l :: s.looks, w.time ≤ k.time := by
  rw [List.head?_cons, Option.some.injEq] at hk
  rw [← hk, hl]
  exact ⟨rfl, fun w hw => looks_past s hs gap l w hl hw⟩

theorem sound_step (s t : Ambient ρ) (c : AmbientCall ρ) (hs : Sound s)
    (h : step s c = some t) : Sound t := by
  rcases step_cases s t c h with ⟨hfrom, rfl⟩ | ⟨hno, hbad, rfl⟩ | ⟨hno, hgood, rfl⟩
  -- The cache answers: only the time has moved.
  · exact ⟨fun l hl => le_trans (hs.past l hl) (Nat.le_add_right _ _), hs.latest, hs.cached⟩
  -- The look fails, and the values stay those of the good look before.
  · refine ⟨fun w hw => looks_past s hs c.gap _ w rfl hw,
      fun k hk => latest_look s hs c.gap _ k rfl hk, fun hvalid => ?_⟩
    rcases hs.cached hvalid with ⟨v, hv, hgood, hreading, hnewest, hafter⟩
    refine ⟨v, List.mem_cons_of_mem _ hv, hgood, hreading, ?_, ?_⟩
    · intro w hw hwgood
      rcases List.mem_cons.mp hw with heq | hin
      · rw [heq] at hwgood
        exact absurd hwgood hbad
      · exact hnewest w hin hwgood
    · intro k hk _
      rw [List.head?_cons, Option.some.injEq] at hk
      rw [← hk]
      exact spaced_of_look s hs c hvalid hno v hv
  -- The look succeeds and is the latest good one.
  · refine ⟨fun w hw => looks_past s hs c.gap _ w rfl hw,
      fun k hk => latest_look s hs c.gap _ k rfl hk, fun _ => ?_⟩
    refine ⟨_, List.mem_cons_self, hgood, rfl, fun w hw _ => looks_past s hs c.gap _ w rfl hw, ?_⟩
    intro k hk hbad
    rw [List.head?_cons, Option.some.injEq] at hk
    rw [← hk] at hbad
    exact absurd hgood hbad

/-- What the cache holds in any run. -/
theorem sound_run (t : Nat) (cs : List (AmbientCall ρ)) (s : Ambient ρ)
    (hrun : Run.run step { now := t } cs = some s) : Sound s :=
  Run.run_invariant step Sound (fun s c s' hs h => sound_step s s' c hs h) cs _ s
    (sound_start t) hrun

/-- Behind a call that was answered from the cache, recent means that the latest
    good look was. -/
theorem fresh_cached (s : Ambient ρ) (now : Nat) (v : Look ρ) (hv : v ∈ s.looks)
    (hgood : v.reading.Valid) (hreading : s.cache.reading = v.reading)
    (hnewest : ∀ w ∈ s.looks, w.reading.Valid → w.time ≤ v.time) (hpast : v.time ≤ now) :
    Fresh { s with now := now, returned := some s.cache.reading } ↔
      now - v.time ≤ minIntervalMs := by
  constructor
  · intro h
    rcases h s.cache.reading rfl with ⟨w, hw, hwgood, -, hwpast, hwrecent⟩
    have hle := hnewest w hw hwgood
    have hrecent : now - w.time ≤ minIntervalMs := hwrecent
    omega
  · intro h r hr
    have heq : r = v.reading := (Option.some.inj hr).symm.trans hreading
    exact ⟨v, hv, hgood, heq, hpast, h⟩

/-- A careful call is one that returns recent values or none. -/
theorem fresh_step (s t : Ambient ρ) (c : AmbientCall ρ) (hs : Sound s)
    (h : step s c = some t) : Fresh t ↔ Careful s c := by
  rcases step_cases s t c h with ⟨hfrom, rfl⟩ | ⟨hno, -, rfl⟩ | ⟨hno, hgood, rfl⟩
  · rcases hs.cached hfrom.1 with ⟨v, hv, hgood, hreading, hnewest, hafter⟩
    have hvpast := le_trans (hs.past v hv) (Nat.le_add_right s.now c.gap)
    rw [fresh_cached s _ v hv hgood hreading hnewest hvpast]
    cases hl : s.looks.head? with
    | none => exact absurd hv (List.head?_eq_none_iff.mp hl ▸ List.not_mem_nil)
    | some l =>
        have hlpast :=
          le_trans (hs.past l (List.mem_of_mem_head? hl)) (Nat.le_add_right s.now c.gap)
        have hvl := (hs.latest l hl).2 v hv
        have hmod := ((fromCache_iff s hs c l hl).mp hfrom).2
        constructor
        · intro hrecent _
          have hturn : minIntervalMs < turn := by decide
          refine ⟨l, hl, by omega, ?_⟩
          by_cases hlgood : l.reading.Valid
          · exact Or.inl hlgood
          -- The latest look failed: it came as late as a recent value allows.
          · have hspaced := hafter l hl hlgood
            exact Or.inr ⟨by omega, v, hv, hgood, by omega⟩
        · intro hcareful
          rcases hcareful hfrom with ⟨k, hk, hturn, hgoodk | ⟨hnow, w, hw, hwgood, hwtime⟩⟩
          · rw [hl, Option.some.injEq] at hk
            rw [← hk] at hturn hgoodk
            have hlv := hnewest l (List.mem_of_mem_head? hl) hgoodk
            rw [Nat.mod_eq_of_lt hturn] at hmod
            omega
          · have hwv := hnewest w hw hwgood
            omega
  · exact ⟨fun _ hfrom => absurd hfrom hno, fun _ r hr => absurd hr (by simp only [reduceCtorEq,
      not_false_eq_true])⟩
  · refine ⟨fun _ hfrom => absurd hfrom hno, fun _ r hr => ?_⟩
    have heq : r = c.sensor := (Option.some.inj hr).symm
    exact ⟨_, List.mem_cons_self, hgood, heq, le_refl _, by
      show s.now + c.gap - (s.now + c.gap) ≤ minIntervalMs
      omega⟩

/-- The calls of a run that are answered with recent values, or not at all, are
    the careful ones. -/
theorem fresh_iff_careful (t : Nat) (cs : List (AmbientCall ρ)) (s : Ambient ρ)
    (hrun : Run.run step { now := t } cs = some s) :
    Run.Throughout step Fresh { now := t } cs ↔ Run.Along step Careful { now := t } cs :=
  Run.throughout_iff_along_of_invariant step Careful Sound Fresh
    (fun s c s' hs h => sound_step s s' c hs h) (fun s c s' hs _ h => fresh_step s s' c hs h) cs
    { now := t } s (sound_start t) (fun _ hr => absurd hr (by simp only [reduceCtorEq,
      not_false_eq_true])) hrun

/-- A good look in tenths, and a call from the cache a second later. -/
theorem fresh_iff_careful_cached :
    Run.Throughout step Fresh { now := 5000 }
      [{ gap := 0, sensor := { tempC := some (215 : Int), humidity := some 600 } },
        { gap := 1000, sensor := {} }] :=
  (fresh_iff_careful 5000 [{ gap := 0, sensor := ⟨some (215 : Int), some 600⟩ },
    { gap := 1000, sensor := {} }] _ rfl).mpr
    ⟨fun h => absurd h.1 Bool.false_ne_true,
      fun _ => ⟨_, rfl, by decide, Or.inl ⟨rfl, rfl⟩⟩, trivial⟩

/-- A good look, a failed one two seconds later, and a call half a second after
    that. The values are two and a half seconds old. -/
theorem stale_after_failure :
    ¬ ∀ (t : Nat) (cs : List (AmbientCall Int)) (s : Ambient Int),
      Run.run step { now := t } cs = some s → Fresh s := by
  intro h
  rcases h 5000 [{ gap := 0, sensor := { tempC := some 215, humidity := some 600 } },
    { gap := 2000, sensor := {} }, { gap := 500, sensor := {} }] _ rfl _ rfl
    with ⟨l, hl, hgood, -, -, hrecent⟩
  rcases List.mem_cons.mp hl with heq | hin
  -- The failed look is recent but not good.
  · rw [heq] at hgood
    exact absurd hgood.1 Bool.false_ne_true
  · rw [List.mem_singleton.mp hin] at hrecent
    exact absurd hrecent (by decide)

end Ambient

end Firmware

end Vena
