import Vena.Backend.Retention
import Vena.Backend.StoreForward
import Vena.Mobile.SnapshotAgrees
import Vena.Mobile.StoredNumber

/-!
# What the History Says of a Message

A sample goes two ways. The phone hears the message and caches the reading; the
backend parses the same message, stores a row and answers a request for the
history with it, unless it averages over longer buckets. Both ways end at the
same numbers, as long as the clock of the board repeats no second.

## Main definitions

* `sampleOf`: A reading as a sample of the history.
* `FromMessages`: The rows of a transaction are made of messages.

## Theorems

* `rawSample_telemetryRow`: A stored row as a sample.
* `mem_rows_run`: Every row comes from a transaction.
* `mem_history_row`: Every sample that is not averaged comes from a row.
* `telemetry_heard`: The tables of the phone.
* `mem_rows_built`: Every row is that of a sample.
* `history_as_heard`: The history and the tables of the phone.
-/

namespace Vena

namespace Mobile

open Firmware

/-- The columns of a reading. -/
def valueOf (m : TelemetryMerge.Telemetry Double) : Backend.Metric → Option Double
  | .ambientT => m.ambientT
  | .ambientH => m.ambientH
  | .dissT => m.dissT
  | .dissH => m.dissH
  | .setpoint => m.setpoint
  | .pidOut => m.pidOut

/-- A reading as a sample of the history, which has microseconds. -/
def sampleOf (m : TelemetryMerge.Telemetry Double) : Backend.TelemetrySample Double where
  ts := m.ts * 1000
  value := valueOf m

section Rows

open Backend Backend.Retention

/-- Every row is of a transaction. -/
theorem mem_rows_run (env : Ingest.Env) (ws : List Write) (row : Ingest.Row) :
    ∀ t : Retention.Tables, row ∈ (t.run env ws).store.telemetryRaw →
      row ∈ t.store.telemetryRaw ∨ ∃ now batch, .flush now batch ∈ ws ∧ row ∈ batch := by
  induction ws with
  | nil => exact fun t hrow => Or.inl hrow
  | cons w ws ih =>
      intro t hrow
      rcases ih (t.apply env w) hrow with hafter | ⟨now, batch, hw, hin⟩
      · rcases mem_applyWrite_cases env t.store w row hafter with hold | ⟨now, batch, hw, hin, _⟩
        · exact Or.inl hold
        · exact Or.inr ⟨now, batch, hw ▸ List.mem_cons_self, hin⟩
      · exact Or.inr ⟨now, batch, List.mem_cons_of_mem w hw, hin⟩

/-- A response that is no average has the rows as they are. -/
theorem mem_history_row {φ : Type} (host : Host φ) (db : TelemetryDb φ) (deviceId : String)
    (query : HistoryQuery) (now : Datetime) (response : Backend.HistoryResponse φ)
    (h : history host db deviceId query now = .ok response)
    (hraw : ∀ bucket ∈ response.bucket, bucket = .s5) (s : TelemetrySample φ)
    (hs : s ∈ response.samples) :
    ∃ row ∈ db.rows, row.deviceId = deviceId ∧ s = rawSample row := by
  unfold history at h
  split at h
  · split at h
    · cases h
    · split at h
      · cases h
      · cases h
        -- Explicit bounds: a page of the rows, sorted by their instants.
        rw [getDeviceHistory_page] at hs
        obtain ⟨row, hrow, rfl⟩ := List.mem_map.mp hs
        have hin := (List.perm_insertionSort _ _).subset
          (List.mem_of_mem_drop (List.mem_of_mem_take hrow))
        obtain ⟨hdb, hwhere⟩ := List.mem_filter.mp hin
        rw [Bool.and_eq_true, Bool.and_eq_true, decide_eq_true_eq] at hwhere
        exact ⟨row, hdb, hwhere.1.1, rfl⟩
  · dsimp only at h
    split at h
    · cases h
    · cases h
    · split at h
      · cases h
      · split at h
        · cases h
        · split at h
          · next range bucket _ _ _ _ response' heq =>
              cases h
              unfold getDeviceHistoryAggregated at heq
              split at heq
              · cases heq
              · cases heq
                -- A range: its rows, in a bucket that takes them as they are.
                have hbucket := hraw _ rfl
                rw [historySamples, if_pos hbucket] at hs
                obtain ⟨row, hrow, rfl⟩ := List.mem_map.mp hs
                have hin := (List.perm_insertionSort _ _).subset (List.mem_of_mem_take hrow)
                obtain ⟨hdb, hwhere⟩ := List.mem_filter.mp hin
                rw [Bool.and_eq_true, Bool.and_eq_true, decide_eq_true_eq] at hwhere
                exact ⟨row, hdb, hwhere.1.1, rfl⟩
          · cases h

end Rows

variable {φ : Type} (decompose : φ → Option FloatParts)
  (serializeJson : List (String × JsonField φ) → List Nat)

/-- A stored row is served as the reading. -/
theorem rawSample_telemetryRow (source : TelemetryMerge.Source) (mac : Mac)
    (p : Payload (Sensors φ)) :
    Backend.rawSample (Backend.Retention.rawRow column
      (Backend.Ingest.telemetryRow decompose (buildDeviceId mac).deviceId p)) =
        sampleOf (reading decompose source mac p) := by
  have hvalue : ∀ metric, (Backend.Retention.rawRow column
      (Backend.Ingest.telemetryRow decompose (buildDeviceId mac).deviceId p)).value metric =
        valueOf (reading decompose source mac p) metric := by
    intro metric
    cases metric with
    | ambientT => exact column_value decompose p.readings.ambT
    | ambientH => exact column_value decompose p.readings.ambH
    | dissT => exact column_value decompose p.readings.dissT
    -- No board measures this one.
    | dissH => rfl
    | setpoint => exact column_value decompose p.readings.setpoint
    | pidOut => exact column_value decompose p.readings.output
  rw [Backend.rawSample, funext hvalue]
  rfl

/-- The rows of a transaction are ones that `_parse` makes of the messages. -/
def FromMessages (env : Backend.Ingest.Env) (sent : List (Backend.Ingest.Sent φ)) :
    Backend.Retention.Write → Prop
  | .flush _ rows => ∀ row ∈ rows,
      row ∈ Backend.Ingest.rowsOf env (sent.map (Backend.Ingest.Sent.message serializeJson))
  | .upsertMeta _ _ _ | .seed _ _ _ | .cleanup _ => True

/-- The tables of the phone are those of the readings. -/
theorem telemetry_heard (hprints : PrintsCompact decompose serializeJson) (heard : List (Heard φ))
    (hts : ∀ h ∈ heard, IsInt64 h.payload.ts) :
    (heard.foldl (hear serializeJson) noRows).telemetry =
      TelemetryMerge.handleAll (heard.map (Heard.reading decompose)) := by
  -- The message that came last is the one handled last.
  induction heard using List.reverseRecOn with
  | nil => rfl
  | append_singleton heard last ih =>
      have hlast := hts last (List.mem_append_right _ (List.mem_singleton_self last))
      rw [List.foldl_append, List.foldl_cons, List.foldl_nil,
        hear_eq decompose serializeJson hprints _ last hlast, List.map_append, List.map_singleton,
        TelemetryMerge.handleAll_concat, ← ih (fun h hh => hts h (List.mem_append_left _ hh))]
      rfl

variable {capacity : Nat} [Inhabited (Payload (Sensors φ))]

section Boards

open Backend Backend.Retention

variable (hpos : 0 < capacity) (boards : Mac → List (List (Tick (Sensors φ))))
  (hclock : ∀ mac, ∀ ts ∈ boards mac, ∀ t ∈ ts,
    0 ≤ t.epochSeconds ∧ t.epochSeconds ≤ 253402300799)

include hclock

/-- A row of the table is that of a sample of the board. -/
theorem mem_rows_built (hprints : PrintsCompact decompose serializeJson) (env : Ingest.Env)
    (hpg : Ingest.Postgres env) (sent : List (Ingest.Sent φ))
    (hsent : ∀ m ∈ sent, m.From hpos boards) (ws : List Write)
    (hws : ∀ w ∈ ws, FromMessages serializeJson env sent w) (mac : Mac) (row : Ingest.Row)
    (hrow : row ∈ (Tables.empty.run env ws).store.telemetryRaw)
    (hid : row.deviceId = (buildDeviceId mac).deviceId) :
    ∃ p ∈ (LoopState.life hpos (boards mac)).built,
      row = Ingest.telemetryRow decompose (buildDeviceId mac).deviceId p := by
  rcases mem_rows_run env ws row _ hrow with hold | ⟨now, batch, hw, hin⟩
  · exact absurd hold List.not_mem_nil
  · have hok : ∀ m ∈ sent, m.Ok := fun m hm =>
      Ingest.ok_of_from hpos boards hclock m (hsent m hm)
    -- A row of the batch is made of a message, and for this board of a sample.
    have hmade := hws _ hw row hin
    rw [Ingest.rowsOf_sent decompose serializeJson hprints env hpg sent hok] at hmade
    obtain ⟨p, hp, heq⟩ := (Ingest.mem_series_sent decompose sent mac row).mp
      (List.mem_filter.mpr ⟨hmade, decide_eq_true hid⟩)
    exact ⟨p, Ingest.handed_built hpos (boards mac) p (hsent _ hp), heq⟩

/-- An instant that a `datetime` has is a number of milliseconds for Dart. -/
theorem isInt64_built (mac : Mac) (p : Payload (Sensors φ))
    (hp : p ∈ (LoopState.life hpos (boards mac)).built) : IsInt64 p.ts := by
  obtain ⟨k, hk, hts⟩ := (Ingest.built_of_life hpos (boards mac) (hclock mac) p hp).instant
  rw [hts, IsInt64]
  omega

/-- A request for the history that is not averaged is answered with readings of the
    board, and what the phone holds of the same instant, in the cache or as the
    latest state, is the same reading. -/
theorem history_as_heard (hprints : PrintsCompact decompose serializeJson) (host : Host Double)
    (env : Ingest.Env) (hpg : Ingest.Postgres env) (sent : List (Ingest.Sent φ))
    (hsent : ∀ m ∈ sent, m.From hpos boards) (ws : List Write)
    (hws : ∀ w ∈ ws, FromMessages serializeJson env sent w) (heard : List (Heard φ))
    (hheard : ∀ h ∈ heard, h.wire = .mqtt ∧
      h.payload ∈ (LoopState.life hpos (boards h.mac)).handed) (mac : Mac)
    (hforth : ((LoopState.life hpos (boards mac)).built.map Payload.ts).Nodup)
    (query : HistoryQuery) (now : Datetime) (response : Backend.HistoryResponse Double)
    (hresponse : history host ((Tables.empty.run env ws).telemetryDb column)
      (buildDeviceId mac).deviceId query now = .ok response)
    (hraw : ∀ bucket ∈ response.bucket, bucket = .s5) :
    ∀ s ∈ response.samples, ∃ p ∈ (LoopState.life hpos (boards mac)).built,
      s = sampleOf (reading decompose .mqtt mac p) ∧
      (∀ c ∈ (heard.foldl (hear serializeJson) noRows).telemetry.cache,
        c.deviceId = (buildDeviceId mac).deviceId → c.ts * 1000 = s.ts →
          c = (reading decompose .mqtt mac p).toCache) ∧
      ∀ l ∈ (heard.foldl (hear serializeJson) noRows).telemetry.latest,
        l.deviceId = (buildDeviceId mac).deviceId → l.ts * 1000 = s.ts →
          l = (reading decompose .mqtt mac p).toLatest := by
  intro s hs
  obtain ⟨row, hrow, hid, hsample⟩ := mem_history_row host _ _ query now response hresponse hraw
    s hs
  obtain ⟨stored, hstored, rfl⟩ := List.mem_map.mp hrow
  obtain ⟨p, hp, rfl⟩ := mem_rows_built decompose serializeJson hpos boards hclock hprints env hpg
    sent hsent ws hws mac stored hstored hid
  rw [rawSample_telemetryRow decompose .mqtt mac p] at hsample
  have hbuilt : ∀ h ∈ heard, h.payload ∈ (LoopState.life hpos (boards h.mac)).built :=
    fun h hh => Ingest.handed_built hpos (boards h.mac) h.payload (hheard h hh).2
  have htables := telemetry_heard decompose serializeJson hprints heard
    (fun h hh => isInt64_built hpos boards hclock h.mac h.payload (hbuilt h hh))
  -- No other sample of the board has this instant.
  have hsame : ∀ m ∈ heard.map (Heard.reading decompose),
      m.deviceId = (buildDeviceId mac).deviceId → m.ts * 1000 = s.ts →
        m = reading decompose .mqtt mac p := by
    intro m hm hdevice hts
    obtain ⟨h, hh, rfl⟩ := List.mem_map.mp hm
    -- The topic has the id of the board.
    have hown : h.deviceId = (buildDeviceId h.mac).deviceId := by
      rw [Heard.deviceId, (hheard h hh).1]
    have hmac : h.mac = mac := deviceId_injective h.mac mac (hown.symm.trans hdevice)
    have hinstant : h.payload.ts = p.ts := by
      rw [hsample] at hts
      exact (Int.mul_eq_mul_right_iff (by decide)).mp hts
    have hpayload : h.payload = p := by
      refine Keyed.eq_of_key Payload.ts _ h.payload p hforth ?_ hp hinstant
      rw [← hmac]
      exact hbuilt h hh
    rw [Heard.reading, hown, (hheard h hh).1, hmac, hpayload]
    rfl
  refine ⟨p, hp, hsample, fun c hc hdevice hts => ?_, fun l hl hdevice hts => ?_⟩
  · -- The cache has the reading that was heard last for an instant,
    rw [htables] at hc
    obtain ⟨m, hfind, rfl⟩ := TelemetryMerge.cache_last _ c hc
    have hm := List.mem_reverse.mp (List.mem_of_find?_eq_some hfind)
    rw [hsame m hm hdevice hts]
  · -- and the latest state one of those that were heard for its own.
    rw [htables] at hl
    obtain ⟨m, hfind, rfl⟩ := TelemetryMerge.latest_first _ l hl
    rw [hsame m (List.mem_of_find?_eq_some hfind) hdevice hts]

end Boards

section Demo

open Backend

/-- Aggregates that are never asked for. -/
def rawHost : Host Double := ⟨fun _ => .nan, fun _ => .nan, fun _ => .nan, 0, id⟩

/-- The messages that were delivered, in one batch. -/
def oneBatch : Retention.Tables := Retention.Tables.empty.run Ingest.spacious
  [.flush 0 (Ingest.rowsOf Ingest.spacious
    (Ingest.twice.map (Ingest.Sent.message (compactJson halves))))]

/-- The phone has heard what was handed over. -/
def listened : List (Heard (Option (Fin 256))) :=
  Ingest.journey.handed.map (fun p => ⟨.mqtt, p.ts + 400, fun _ => 0, p⟩)

def wholeYear : HistoryQuery :=
  { start := some 1700000000000000, stop := some 1731536000000000, limit := 10 }

theorem history_as_heard_outages : ∃ response,
    history rawHost (oneBatch.telemetryDb column) (buildDeviceId (fun _ => 0)).deviceId wholeYear
      1731536000000000 = .ok response ∧ response.samples.length = 1 ∧
    ∀ s ∈ response.samples, ∃ p ∈ Ingest.journey.built,
      s = sampleOf (reading halves .mqtt (fun _ => 0) p) ∧
      (∀ c ∈ (listened.foldl (hear (compactJson halves)) noRows).telemetry.cache,
        c.deviceId = (buildDeviceId (fun _ => 0)).deviceId → c.ts * 1000 = s.ts →
          c = (reading halves .mqtt (fun _ => 0) p).toCache) ∧
      ∀ l ∈ (listened.foldl (hear (compactJson halves)) noRows).telemetry.latest,
        l.deviceId = (buildDeviceId (fun _ => 0)).deviceId → l.ts * 1000 = s.ts →
          l = (reading halves .mqtt (fun _ => 0) p).toLatest := by
  have hclock : ∀ ts ∈ Ingest.outages, ∀ t ∈ ts,
      0 ≤ t.epochSeconds ∧ t.epochSeconds ≤ 253402300799 := by decide
  have hfrom : ∀ m ∈ Ingest.twice, m.From (by decide : 0 < 2) (fun _ => Ingest.outages) := by
    intro m hm
    rcases List.mem_flatMap.mp hm with ⟨p, hp, hcopy⟩
    rcases List.mem_pair.mp hcopy with rfl | rfl
    · exact hp
    · exact hp
  have hresponse : history rawHost (oneBatch.telemetryDb column)
      (buildDeviceId (fun _ => 0)).deviceId wholeYear 1731536000000000 =
        .ok (getDeviceHistory (oneBatch.telemetryDb column) (buildDeviceId (fun _ => 0)).deviceId
          wholeYear.start wholeYear.stop wholeYear.limit wholeYear.offset 1731536000000000) := by
    have hbounds : (wholeYear.start.isSome || wholeYear.stop.isSome) = true := rfl
    rw [history, if_pos hbounds, if_neg (by decide +kernel), if_neg (by decide +kernel)]
  refine ⟨_, hresponse, by decide +kernel, ?_⟩
  refine history_as_heard halves (compactJson halves) (by decide : 0 < 2)
    (fun _ => Ingest.outages) (fun _ => hclock) (prints_compactJson halves) rawHost Ingest.spacious
    Ingest.postgres_spacious Ingest.twice hfrom _ ?_ listened ?_ (fun _ => 0) (by decide) wholeYear
    1731536000000000 _ hresponse (fun bucket hbucket => by cases hbucket)
  · intro w hw
    rw [List.mem_singleton.mp hw]
    exact fun row hrow => hrow
  · intro h hh
    obtain ⟨p, hp, rfl⟩ := List.mem_map.mp hh
    exact ⟨rfl, hp⟩

end Demo

end Mobile

end Vena
