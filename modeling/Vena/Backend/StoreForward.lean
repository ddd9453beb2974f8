import Vena.Backend.BoardMessages
import Vena.Firmware.SampleLog

/-!
# From the Sensors to the Table

The boards, the broker and the ingestor together. A board samples, publishes,
buffers and loses its buffer when it is reset; the broker delivers what it was
handed in any order and repeats it; the ingestor batches what is delivered. Each
sample that a board has taken then has one row, is still in the buffer, or was
lost at one of three places: the full buffer, a reset, and the network.

The key of a row is the instant of the sample, in seconds. A clock that is set
back makes the board repeat an instant, and the second sample has no row.

## Main definitions

* `Sent.From`: A message comes from what a board handed over.
* `Store.series`: The rows of a device.
* `Whereabouts`: Where the samples of a board are.

## Theorems

* `built_of_life`: What a board builds can be read.
* `mem_series_sent`: The rows that the messages have for a device.
* `samples_stored`: Where the samples are.
-/

namespace Vena

namespace Backend

namespace Ingest

open Python Firmware

variable {φ : Type} {capacity : Nat}

/-- The message is a sample that the board has handed over, or no sample. -/
def Sent.From [Inhabited (Payload (Sensors φ))] (hpos : 0 < capacity)
    (boards : Mac → List (List (Tick (Sensors φ)))) : Sent φ → Prop
  | .telemetry mac p => p ∈ (LoopState.life hpos (boards mac)).handed
  | .report _ d => Reported d
  | .status _ _ => True

/-- The rows of the device. -/
def Store.series (db : Store) (deviceId : String) : List Row :=
  db.telemetryRaw.filter (fun row => row.deviceId = deviceId)

/-- A clock between 1970 and 9999 makes samples that can be read. -/
theorem built_of_life [Inhabited (Payload (Sensors φ))] (hpos : 0 < capacity)
    (runs : List (List (Tick (Sensors φ))))
    (hclock : ∀ ts ∈ runs, ∀ t ∈ ts, 0 ≤ t.epochSeconds ∧ t.epochSeconds ≤ 253402300799)
    (p : Payload (Sensors φ)) (hp : p ∈ (LoopState.life hpos runs).built) : Built p := by
  rcases LoopState.built_life hpos runs p hp with ⟨ts, hts, t, ht, hof⟩
  have hbounds := hclock ts hts t ht
  -- The clock of the source counts seconds, and the sample is in milliseconds.
  refine ⟨⟨t.epochSeconds.toNat, by omega, ?_⟩, hof.seq, ?_⟩
  · rw [hof.ts, Int.toNat_of_nonneg hbounds.1]
  · rw [hof.uptime]
    exact Nat.mod_lt _ (by decide)

theorem handed_built [Inhabited (Payload (Sensors φ))] (hpos : 0 < capacity)
    (runs : List (List (Tick (Sensors φ)))) (p : Payload (Sensors φ))
    (hp : p ∈ (LoopState.life hpos runs).handed) : p ∈ (LoopState.life hpos runs).built :=
  (LoopState.perm_life hpos runs).subset
    (List.mem_append_left _ (List.mem_append_left _ hp))

theorem ok_of_from [Inhabited (Payload (Sensors φ))] (hpos : 0 < capacity)
    (boards : Mac → List (List (Tick (Sensors φ))))
    (hclock : ∀ mac, ∀ ts ∈ boards mac, ∀ t ∈ ts,
      0 ≤ t.epochSeconds ∧ t.epochSeconds ≤ 253402300799)
    (m : Sent φ) (h : m.From hpos boards) : m.Ok := by
  cases m with
  | telemetry mac p =>
      exact built_of_life hpos (boards mac) (hclock mac) p (handed_built hpos (boards mac) p h)
  | report mac d => exact h
  | status mac online => exact trivial

variable (decompose : φ → Option FloatParts)

/-- Where the samples of a board are: they have a row each, the network did not deliver
    them, the full buffer dropped them, or they are in the memory of the board. -/
def Whereabouts (sent : List (Sent φ)) (mac : Mac) (journal : Journal (Sensors φ))
    (stranded : List (Payload (Sensors φ))) (series : List Row) : Prop :=
  ∃ stored undelivered,
    (stored ++ undelivered ++ journal.dropped ++ stranded).Perm journal.built ∧
    series.Perm (stored.map (telemetryRow decompose (buildDeviceId mac).deviceId)) ∧
    (∀ p ∈ stored, .telemetry mac p ∈ sent) ∧
    ∀ p ∈ undelivered, p ∈ journal.handed ∧ .telemetry mac p ∉ sent

/-- The rows that the messages have for a device. -/
theorem mem_series_sent (sent : List (Sent φ)) (mac : Mac) (row : Row) :
    row ∈ (sent.filterMap (Sent.row decompose)).filter
        (fun row => row.deviceId = (buildDeviceId mac).deviceId) ↔
      ∃ p, .telemetry mac p ∈ sent ∧
        row = telemetryRow decompose (buildDeviceId mac).deviceId p := by
  rw [List.mem_filter, List.mem_filterMap, decide_eq_true_eq]
  constructor
  · rintro ⟨⟨m, hm, hrow⟩, hid⟩
    cases m with
    | telemetry mac' p =>
        rw [Sent.row, Option.some.injEq] at hrow
        rw [← hrow] at hid
        -- No two boards have one id.
        have hmac : mac' = mac := deviceId_injective mac' mac hid
        rw [hmac] at hm hrow
        exact ⟨p, hm, hrow.symm⟩
    | report mac' d => cases hrow
    | status mac' online => cases hrow
  · rintro ⟨p, hm, hrow⟩
    rw [hrow]
    exact ⟨⟨_, hm, rfl⟩, rfl⟩

theorem nodup_rows (deviceId : String) (ps : List (Payload (Sensors φ)))
    (hts : (ps.map Payload.ts).Nodup) :
    ((ps.map (telemetryRow decompose deviceId)).map Row.key).Nodup := by
  rw [List.map_map]
  have hkeys : ps.map (Row.key ∘ telemetryRow decompose deviceId) =
      (ps.map Payload.ts).map (fun ts => (deviceId, ts * 1000)) := by
    rw [List.map_map]
    rfl
  rw [hkeys]
  refine hts.map (fun ts ts' heq => ?_)
  exact (Int.mul_eq_mul_right_iff (by decide)).mp (Prod.mk.inj heq).2

/-- Of a device that is new, and whose clock is not set back, each sample has exactly
    one row, with what was measured, if the broker has delivered it. All others are in
    the buffer, were lost by the network or a reset, or dropped by the full buffer. -/
theorem samples_stored [Inhabited (Payload (Sensors φ))]
    (serializeJson : List (String × JsonField φ) → List Nat)
    (hprints : PrintsCompact decompose serializeJson) (env : Env) (hpg : Postgres env)
    (db : Store) (hpos : 0 < capacity) (boards : Mac → List (List (Tick (Sensors φ))))
    (hclock : ∀ mac, ∀ ts ∈ boards mac, ∀ t ∈ ts,
      0 ≤ t.epochSeconds ∧ t.epochSeconds ≤ 253402300799)
    (sent : List (Sent φ)) (hsent : ∀ m ∈ sent, m.From hpos boards) (t : State)
    (h : Final env db (sent.map (Sent.message serializeJson)) t) (mac : Mac)
    (hnew : ∀ row ∈ db.telemetryRaw, row.deviceId ≠ (buildDeviceId mac).deviceId)
    (hforth : ((LoopState.life hpos (boards mac)).built.map Payload.ts).Nodup) :
    Whereabouts decompose sent mac (LoopState.life hpos (boards mac))
      (LoopState.stranded hpos (boards mac)) (t.db.series (buildDeviceId mac).deviceId) := by
  classical
  have hok : ∀ m ∈ sent, m.Ok := fun m hm => ok_of_from hpos boards hclock m (hsent m hm)
  obtain ⟨_, htable⟩ := table_of_final decompose serializeJson hprints env hpg db sent hok t h
  have hlife := LoopState.perm_life hpos (boards mac)
  have hfrom : ∀ p, .telemetry mac p ∈ sent → p ∈ (LoopState.life hpos (boards mac)).handed :=
    fun p hp => hsent _ hp
  generalize LoopState.life hpos (boards mac) = journal at hforth hlife hfrom ⊢
  let delivered : Payload (Sensors φ) → Bool := fun p => decide (.telemetry mac p ∈ sent)
  refine ⟨journal.handed.filter delivered, journal.handed.filter (fun p => !delivered p),
    ?_, ?_, fun p hp => ?_, fun p hp => ?_⟩
  · -- What was handed over is split by what the broker has delivered.
    exact (((List.filter_append_perm delivered journal.handed).append_right _).append_right _).trans
      hlife
  · have hseries : t.db.series (buildDeviceId mac).deviceId = Keyed.insertAllNew Row.key []
        ((sent.filterMap (Sent.row decompose)).filter
          (fun row => row.deviceId = (buildDeviceId mac).deviceId)) := by
      -- The device is new, and all of its rows come from the messages.
      have hold : db.series (buildDeviceId mac).deviceId = [] :=
        List.filter_eq_nil_iff.mpr (fun row hrow => by
          rw [decide_eq_true_eq]
          exact hnew row hrow)
      rw [Store.series, htable, ← hold]
      exact Keyed.filter_insertAllNew Row.key
        (fun k => decide (k.1 = (buildDeviceId mac).deviceId)) _ db.telemetryRaw
    rw [hseries]
    refine Keyed.perm_insertAllNew Row.key _ _ (nodup_rows decompose _ _ ?_) (fun row => ?_)
    · -- What was delivered is part of what was built.
      have hinstants := (hlife.map Payload.ts).nodup_iff.mpr hforth
      rw [List.append_assoc, List.map_append] at hinstants
      exact hinstants.of_append_left.sublist ((List.filter_sublist).map Payload.ts)
    · rw [mem_series_sent, List.mem_map]
      constructor
      · rintro ⟨p, hp, hrow⟩
        exact ⟨p, List.mem_filter.mpr ⟨hfrom p hp, decide_eq_true hp⟩, hrow.symm⟩
      · rintro ⟨p, hp, hrow⟩
        exact ⟨p, of_decide_eq_true (List.mem_filter.mp hp).2, hrow.symm⟩
  · exact of_decide_eq_true (List.mem_filter.mp hp).2
  · have hmem := List.mem_filter.mp hp
    rw [Bool.not_eq_true', decide_eq_false_iff_not] at hmem
    exact hmem

section Demo

instance : Inhabited (Payload (Sensors (Option (Fin 256)))) := ⟨warm 0⟩

/-- An iteration that samples. -/
def sampling (connected : Bool) (seconds : Nat) : Tick (Sensors (Option (Fin 256))) where
  now := 1000 * seconds
  epochSeconds := 1700000000 + seconds
  readings := (warm 0).readings
  connectedAtSample := connected
  direct := ⟨connected, true⟩
  connectedAtDrain := connected
  drained := fun _ => ⟨connected, true⟩

/-- Three samples without a connection, a reset, and a sample that is published. -/
def outages : List (List (Tick (Sensors (Option (Fin 256))))) :=
  [[sampling false 5, sampling false 10, sampling false 15], [sampling true 60]]

def journey : Journal (Sensors (Option (Fin 256))) :=
  LoopState.life (by decide : 0 < 2) outages

/-- What was handed over is delivered twice. -/
def twice : List (Sent (Option (Fin 256))) :=
  journey.handed.flatMap (fun p => [.telemetry (fun _ => 0) p, .telemetry (fun _ => 0) p])

theorem samples_stored_outages : ∃ t,
    Final spacious .empty (twice.map (Sent.message (compactJson halves))) t ∧
    (twice.length, journey.dropped.length, journey.built.length) = (2, 1, 4) ∧
    Whereabouts halves twice (fun _ => 0) journey
      (LoopState.stranded (by decide : 0 < 2) outages)
      (t.db.series (buildDeviceId (fun _ => 0)).deviceId) := by
  have hclock : ∀ ts ∈ outages, ∀ t ∈ ts,
      0 ≤ t.epochSeconds ∧ t.epochSeconds ≤ 253402300799 := by decide
  have hfrom : ∀ m ∈ twice, m.From (by decide : 0 < 2) (fun _ => outages) := by
    intro m hm
    rcases List.mem_flatMap.mp hm with ⟨p, hp, hcopy⟩
    rcases List.mem_pair.mp hcopy with rfl | rfl
    · exact hp
    · exact hp
  have hok : ∀ m ∈ twice, m.Ok := fun m hm =>
    ok_of_from (by decide : 0 < 2) (fun _ => outages) (fun _ => hclock) m (hfrom m hm)
  obtain ⟨t, hfinal, _⟩ := final_absorbed spacious .empty
    (twice.map (Sent.message (compactJson halves)))
    (List.forall_mem_map.mpr (fun m hm => absorbed_sent halves _ (prints_compactJson halves)
      spacious postgres_spacious m (hok m hm)))
  exact ⟨t, hfinal, by decide, samples_stored halves _ (prints_compactJson halves) spacious
    postgres_spacious .empty (by decide : 0 < 2) (fun _ => outages) (fun _ => hclock) twice hfrom t
    hfinal (fun _ => 0) (fun _ hrow => absurd hrow List.not_mem_nil) (by decide)⟩

end Demo

end Ingest

end Backend

end Vena
