import Vena.Backend.History
import Vena.Backend.Ingest
import Vena.Backend.Seeding
import Vena.Backend.TelemetryStore
import Vena.Core.Newest

/-!
# Retention

Every night a job deletes the samples that are older than 90 days. Ingestion
writes the same table, before and after, the seed script registers devices, and
the history endpoint reads both tables. No request whose window starts within
the retention period can tell a server with the job from one without it.

The reason is that an insertion looks at nothing but the keys of the table, and
a key carries the instant. So the rows from an instant on develop on their own:
what is below it can be deleted, and can come back with a redelivered message,
without being seen above.

The endpoint is modelled over columns of a type that is a parameter, and
ingestion over the values `json.loads` gives. `column` is what PostgreSQL makes
of the latter.

## Main definitions

* `rawRow`: A row of a batch, as the table holds it.
* `Tables`, `Tables.telemetryDb`: The tables, and what the endpoint sees of them.
* `Write`, `Tables.apply`, `Tables.run`: The transactions that write them.
* `windowStart`: The first instant a request asks about.
* `Agree`: Tables with the same rows from an instant on.

## Theorems

* `filter_insertRows`: An insertion, seen from an instant on.
* `mem_applyWrite`, `mem_applyWrite_cases`: The rows a write keeps and adds.
* `agree_apply`, `agree_cleanup`, `agree_run`: The two servers, write by write.
* `history_agree`: The endpoint does not look below the window.
* `history_retention`: No request within the retention period sees the job.
-/

namespace Vena

namespace Backend

namespace Retention

open Python Ingest

variable {φ : Type}

/-- What the database holds of a row. -/
def rawRow (column : PyVal → Option φ) (row : Row) : TelemetryRaw φ where
  deviceId := row.deviceId
  ts := row.ts
  value := fun
    | .ambientT => column row.ambientT
    | .ambientH => column row.ambientH
    | .dissT => column row.dissT
    | .dissH => column row.dissH
    | .setpoint => column row.setpoint
    | .pidOut => column row.pidOut

/-- PostgreSQL stores no U+0000 in an id, whatever else it takes. -/
def pgEnv (env : Ingest.Env) : Ingest.Env :=
  { env with
    storable := fun row => pgText row.deviceId && env.storable row
    metaStorable := fun deviceId data => pgText deviceId && env.metaStorable deviceId data }

/-- The tables, with the texts PostgreSQL has. -/
structure Tables where
  store : Store
  text : ∀ id ∈ store.devices.map Device.id, pgText id = true

namespace Tables

def empty : Tables := ⟨Store.empty, fun _ h => absurd h List.not_mem_nil⟩

/-- What the history endpoint sees. -/
def telemetryDb (column : PyVal → Option φ) (t : Tables) : TelemetryDb φ where
  devices := t.store.devices.map Device.id
  rows := t.store.telemetryRaw.map (rawRow column)
  key := by
    rw [List.map_map]
    exact t.store.rowKey
  deviceFk := fun r hr => by
    rcases List.mem_map.mp hr with ⟨row, hrow, rfl⟩
    exact t.store.rowFk row hrow
  deviceText := t.text

end Tables

theorem text_register (now : Datetime) (ids : List String) (devices : List Device)
    (h : ∀ id ∈ devices.map Device.id, pgText id = true) (hids : ∀ id ∈ ids, pgText id = true) :
    ∀ id ∈ (register now ids devices).map Device.id, pgText id = true := by
  intro id hid
  rw [map_id_register, Keyed.keys_insertAllNew] at hid
  -- An id that is new comes from the batch.
  rcases hid with hold | hnew
  · exact h id hold
  · rw [List.map_map, List.mem_map] at hnew
    rcases hnew with ⟨a, ha, rfl⟩
    exact hids a (List.mem_filter.mp ha).1

/-- How long the job keeps a sample. -/
def retention : Int := Datetime.days 90

/-- DELETE FROM telemetry_raw WHERE ts < NOW() - INTERVAL '90 days'. -/
def cleanup (now : Datetime) (db : Store) : Store :=
  { db with
    telemetryRaw := db.telemetryRaw.filter (fun row => ¬ row.ts < now - retention)
    rowKey := db.rowKey.sublist (List.filter_sublist.map _)
    rowFk := fun row hrow => db.rowFk row (List.mem_filter.mp hrow).1 }

/-- What a run of the seed script commits. A row that is there stays as it is,
    whether the SELECT finds it or the INSERT fails on it. -/
def seed (factory : PairingEnv) (mac salt : String) (db : Store) : Store :=
  if macMatches mac && pgText (macToDeviceId mac) then db.addDevice (seededDevice factory mac salt)
  else db

/-- The transactions on the tables. -/
inductive Write where
  | flush (now : Datetime) (rows : List Row)
  | upsertMeta (now : Datetime) (deviceId : String) (data : PyVal)
  | seed (factory : PairingEnv) (mac salt : String)
  | cleanup (now : Datetime)

/-- A failed transaction leaves the tables as they were. -/
def commit (db : Store) : Except Exc Store → Store
  | .ok db' => db'
  | .error _ => db

def applyWrite (env : Ingest.Env) (db : Store) : Write → Store
  | .flush now rows => commit db (db.flush (pgEnv env) now rows)
  | .upsertMeta now deviceId data => commit db (db.upsertMeta (pgEnv env) now deviceId data)
  | .seed factory mac salt => seed factory mac salt db
  | .cleanup now => cleanup now db

/-- Whether a flush goes through is a matter of the batch alone. -/
theorem applyWrite_flush (env : Ingest.Env) (now : Datetime) (rows : List Row) :
    (∀ db, applyWrite env db (.flush now rows) = db) ∨
      ((∀ row ∈ rows, pgText row.deviceId = true) ∧
        ∀ db, applyWrite env db (.flush now rows) = db.insertBatch now rows) := by
  by_cases hnil : rows.isEmpty = true
  · exact Or.inl (fun db => by rw [applyWrite, Store.flush, if_pos hnil, commit])
  · -- Rows that cannot be stored, or too many of them, and nothing is committed.
    by_cases hgo : (rows.all (pgEnv env).storable &&
        decide (rows.length * rowParameters ≤ bindLimit)) = true
    · refine Or.inr ⟨fun row hrow => ?_, fun db => ?_⟩
      · rw [Bool.and_eq_true, List.all_eq_true] at hgo
        have hstorable := hgo.1 row hrow
        rw [pgEnv, Bool.and_eq_true] at hstorable
        exact hstorable.1
      · rw [applyWrite, Store.flush, if_neg hnil, if_pos hgo, commit]
    · exact Or.inl (fun db => by rw [applyWrite, Store.flush, if_neg hnil, if_neg hgo, commit])

theorem applyWrite_upsertMeta (env : Ingest.Env) (now : Datetime) (deviceId : String)
    (data : PyVal) :
    (∀ db, applyWrite env db (.upsertMeta now deviceId data) = db) ∨
      (pgText deviceId = true ∧
        ∀ db, applyWrite env db (.upsertMeta now deviceId data) =
          db.insertMeta now deviceId data) := by
  by_cases hgo : (pgEnv env).metaStorable deviceId data = true
  · refine Or.inr ⟨?_, fun db => by rw [applyWrite, Store.upsertMeta, if_pos hgo, commit]⟩
    rw [pgEnv, Bool.and_eq_true] at hgo
    exact hgo.1
  · exact Or.inl (fun db => by rw [applyWrite, Store.upsertMeta, if_neg hgo, commit])

theorem applyWrite_seed (env : Ingest.Env) (factory : PairingEnv) (mac salt : String) :
    (∀ db, applyWrite env db (.seed factory mac salt) = db) ∨
      (pgText (macToDeviceId mac) = true ∧
        ∀ db, applyWrite env db (.seed factory mac salt) =
          db.addDevice (seededDevice factory mac salt)) := by
  by_cases hgo : (macMatches mac && pgText (macToDeviceId mac)) = true
  · refine Or.inr ⟨?_, fun db => by rw [applyWrite, seed, if_pos hgo]⟩
    rw [Bool.and_eq_true] at hgo
    exact hgo.2
  · exact Or.inl (fun db => by rw [applyWrite, seed, if_neg hgo])

/-- A device that is registered brings its id, if it is new. -/
theorem text_addDevice (db : Store) (device : Device)
    (h : ∀ id ∈ db.devices.map Device.id, pgText id = true) (hdevice : pgText device.id = true) :
    ∀ id ∈ (db.addDevice device).devices.map Device.id, pgText id = true := by
  intro id hid
  rcases (Keyed.keys_insertAllNew Device.id db.devices [device] id).mp hid with hold | hnew
  · exact h id hold
  · rw [List.map_singleton, List.mem_singleton] at hnew
    rw [hnew]
    exact hdevice

theorem text_applyWrite (env : Ingest.Env) (db : Store) (w : Write)
    (h : ∀ id ∈ db.devices.map Device.id, pgText id = true) :
    ∀ id ∈ (applyWrite env db w).devices.map Device.id, pgText id = true := by
  cases w with
  | flush now rows =>
      rcases applyWrite_flush env now rows with hsame | ⟨htext, hgo⟩
      · rwa [hsame]
      · rw [hgo]
        refine text_register now _ db.devices h (fun id hid => ?_)
        rcases List.mem_map.mp hid with ⟨row, hrow, rfl⟩
        exact htext row hrow
  | upsertMeta now deviceId data =>
      rcases applyWrite_upsertMeta env now deviceId data with hsame | ⟨htext, hgo⟩
      · rwa [hsame]
      · rw [hgo]
        exact text_addDevice db (newDevice now deviceId) h htext
  | seed factory mac salt =>
      rcases applyWrite_seed env factory mac salt with hsame | ⟨htext, hgo⟩
      · rwa [hsame]
      · rw [hgo]
        exact text_addDevice db (seededDevice factory mac salt) h htext
  | cleanup now => exact h

/-- A write keeps every row that is out of the job's reach. -/
theorem mem_applyWrite (env : Ingest.Env) (db : Store) (w : Write) (row : Row)
    (hrow : row ∈ db.telemetryRaw)
    (hkept : ∀ night, w = .cleanup night → night - retention ≤ row.ts) :
    row ∈ (applyWrite env db w).telemetryRaw := by
  cases w with
  | flush now batch =>
      rcases applyWrite_flush env now batch with hsame | ⟨_, hgo⟩
      · rwa [hsame]
      · rw [hgo]
        exact Keyed.mem_insertAllNew Row.key batch row _ hrow
  | upsertMeta now deviceId data =>
      rcases applyWrite_upsertMeta env now deviceId data with hsame | ⟨_, hgo⟩
      · rwa [hsame]
      · rwa [hgo]
  | seed factory mac salt =>
      rcases applyWrite_seed env factory mac salt with hsame | ⟨_, hgo⟩
      · rwa [hsame]
      · rwa [hgo]
  | cleanup night =>
      exact List.mem_filter.mpr ⟨hrow, decide_eq_true (Int.not_lt.mpr (hkept night rfl))⟩

/-- What a write adds is a row of a flush whose key was free. -/
theorem mem_applyWrite_cases (env : Ingest.Env) (db : Store) (w : Write) (row : Row)
    (hrow : row ∈ (applyWrite env db w).telemetryRaw) :
    row ∈ db.telemetryRaw ∨
      ∃ now batch, w = .flush now batch ∧ row ∈ batch ∧ ¬ db.Stored row.key := by
  cases w with
  | flush now batch =>
      rcases applyWrite_flush env now batch with hsame | ⟨_, hgo⟩
      · rw [hsame] at hrow
        exact Or.inl hrow
      · rw [hgo] at hrow
        rcases Keyed.mem_insertAllNew_cases Row.key batch row _ hrow with hold | ⟨hnew, hfree⟩
        · exact Or.inl hold
        · exact Or.inr ⟨now, batch, rfl, hnew, hfree⟩
  | upsertMeta now deviceId data =>
      rcases applyWrite_upsertMeta env now deviceId data with hsame | ⟨_, hgo⟩
      · rw [hsame] at hrow
        exact Or.inl hrow
      · rw [hgo] at hrow
        exact Or.inl hrow
  | seed factory mac salt =>
      rcases applyWrite_seed env factory mac salt with hsame | ⟨_, hgo⟩
      · rw [hsame] at hrow
        exact Or.inl hrow
      · rw [hgo] at hrow
        exact Or.inl hrow
  | cleanup night => exact Or.inl (List.mem_filter.mp hrow).1

namespace Tables

def apply (env : Ingest.Env) (t : Tables) (w : Write) : Tables :=
  ⟨applyWrite env t.store w, text_applyWrite env t.store w t.text⟩

def run (env : Ingest.Env) (t : Tables) (ws : List Write) : Tables :=
  ws.foldl (apply env) t

end Tables

/-- The rows that are not older than an instant. -/
def since (low : Datetime) (rows : List Row) : List Row :=
  rows.filter (fun row => low ≤ row.ts)

/-- Tables with the same devices and documents, and the same rows from an instant
    on. -/
structure Agree (low : Datetime) (db db' : Store) : Prop where
  devices : db.devices = db'.devices
  deviceMeta : db.deviceMeta = db'.deviceMeta
  rows : since low db.telemetryRaw = since low db'.telemetryRaw

/-- An insertion decides by the key, which has the instant in it. -/
theorem filter_insertRows (low : Datetime) (rows new : List Row) :
    since low (Keyed.insertAllNew Row.key rows new) =
      Keyed.insertAllNew Row.key (since low rows) (since low new) :=
  Keyed.filter_insertAllNew Row.key (fun key => decide (low ≤ key.2)) new rows

/-- The job deletes nothing of what is not older than its cutoff. -/
theorem since_cleanup (low now : Datetime) (db : Store) (hlow : now - retention ≤ low) :
    since low (cleanup now db).telemetryRaw = since low db.telemetryRaw := by
  rw [since, cleanup, List.filter_filter, since]
  refine List.filter_congr (fun row _ => ?_)
  by_cases hrow : low ≤ row.ts
  · have hkept : ¬ row.ts < now - retention := Int.not_lt.mpr (Int.le_trans hlow hrow)
    rw [decide_eq_true hrow, decide_eq_true hkept, Bool.and_self]
  · rw [decide_eq_false hrow, Bool.false_and]

/-- A write that reaches both servers. -/
theorem agree_apply (low : Datetime) (env : Ingest.Env) (w : Write) (db db' : Store)
    (hlow : ∀ now, w = .cleanup now → now - retention ≤ low) (h : Agree low db db') :
    Agree low (applyWrite env db w) (applyWrite env db' w) := by
  cases w with
  | flush now rows =>
      rcases applyWrite_flush env now rows with hsame | ⟨_, hgo⟩
      · rwa [hsame, hsame]
      · rw [hgo, hgo]
        refine ⟨congrArg (register now (rows.map Row.deviceId)) h.devices, h.deviceMeta, ?_⟩
        -- The rows below the instant have no say in what is inserted above it.
        simp only [Store.insertBatch, Store.insertRows, Store.registerDevices, filter_insertRows,
          h.rows]
  | upsertMeta now deviceId data =>
      rcases applyWrite_upsertMeta env now deviceId data with hsame | ⟨_, hgo⟩
      · rwa [hsame, hsame]
      · rw [hgo, hgo]
        refine ⟨?_, ?_, h.rows⟩
        · simp only [Store.insertMeta, Store.putMeta, Store.addDevice, h.devices]
        · simp only [Store.insertMeta, Store.putMeta, Store.addDevice, h.deviceMeta]
  | seed factory mac salt =>
      rcases applyWrite_seed env factory mac salt with hsame | ⟨_, hgo⟩
      · rwa [hsame, hsame]
      · rw [hgo, hgo]
        refine ⟨?_, h.deviceMeta, h.rows⟩
        simp only [Store.addDevice, h.devices]
  | cleanup now =>
      have hcut := hlow now rfl
      refine ⟨h.devices, h.deviceMeta, ?_⟩
      rw [applyWrite, applyWrite, since_cleanup low now db hcut, since_cleanup low now db' hcut]
      exact h.rows

/-- The job runs on one of them only. -/
theorem agree_cleanup (low now : Datetime) (db db' : Store) (hlow : now - retention ≤ low)
    (h : Agree low db db') : Agree low (cleanup now db) db' :=
  ⟨h.devices, h.deviceMeta, (since_cleanup low now db hlow).trans h.rows⟩

/-- The write is not one of the job. -/
def Write.ingestion : Write → Bool
  | .flush _ _ | .upsertMeta _ _ _ | .seed _ _ _ => true
  | .cleanup _ => false

/-- A server with the job and one without it. -/
theorem agree_run (low : Datetime) (env : Ingest.Env) (ws : List Write) :
    ∀ t t' : Tables, (∀ now, .cleanup now ∈ ws → now - retention ≤ low) →
      Agree low t.store t'.store →
      Agree low (t.run env ws).store (t'.run env (ws.filter Write.ingestion)).store := by
  induction ws with
  | nil => exact fun _ _ _ h => h
  | cons w ws ih =>
      intro t t' hlow h
      have hrest : ∀ now, .cleanup now ∈ ws → now - retention ≤ low :=
        fun now hin => hlow now (List.mem_cons_of_mem w hin)
      cases hw : w.ingestion with
      -- Ingestion and the seed script write to both, the job to the first one only.
      | true =>
          rw [List.filter_cons, if_pos hw]
          refine ih _ _ hrest (agree_apply low env w _ _ (fun now heq => ?_) h)
          exact hlow now (heq ▸ List.mem_cons_self)
      | false =>
          rw [List.filter_cons, if_neg (by rw [hw]; exact Bool.false_ne_true)]
          cases w with
          | flush now rows => simp only [Write.ingestion, Bool.true_eq_false] at hw
          | upsertMeta now deviceId data => simp only [Write.ingestion, Bool.true_eq_false] at hw
          | seed factory mac salt => simp only [Write.ingestion, Bool.true_eq_false] at hw
          | cleanup now =>
              refine ih _ _ hrest (agree_cleanup low now _ _ ?_ h)
              exact hlow now List.mem_cons_self

/-- The first instant a request asks about. -/
def windowStart (query : HistoryQuery) (now : Datetime) : Datetime :=
  if query.start.isSome || query.stop.isSome then query.start.getD (now - Datetime.minutes 1440)
  else
    let token := if query.range.getD "" = "" then "24h" else query.range.getD ""
    -- An unknown range asks about nothing.
    now - ((Range.ofToken token).map Range.timedelta).getD 0

/-- The rows of a device in a closed window. -/
def closedWindow (db : TelemetryDb φ) (deviceId : String) (start stop : Datetime) :
    List (TelemetryRaw φ) :=
  db.rows.filter (fun row => row.deviceId = deviceId && start ≤ row.ts && row.ts ≤ stop)

/-- The response with explicit bounds is a page of the closed window. -/
theorem getDeviceHistory_page (db : TelemetryDb φ) (deviceId : String)
    (start stop : Option Datetime) (limit offset : Nat) (now : Datetime) :
    getDeviceHistory db deviceId start stop limit offset now =
      let rows := Newest.page TelemetryRaw.ts limit offset
        (closedWindow db deviceId (start.getD (now - Datetime.minutes 1440)) (stop.getD now))
      { deviceId := deviceId
        count := (rows.map rawSample).length
        samples := rows.map rawSample } :=
  rfl

section View

variable (column : PyVal → Option φ) (low : Datetime) (t t' : Tables)
  (h : Agree low t.store t'.store)

include h

/-- The rows the endpoint selects from an instant on. -/
theorem filter_agree (p : TelemetryRaw φ → Bool)
    (hp : ∀ row : TelemetryRaw φ, p row = true → low ≤ row.ts) :
    (t.telemetryDb column).rows.filter p = (t'.telemetryDb column).rows.filter p := by
  -- The rows below the instant are filtered away in any case.
  have hsplit : ∀ u : Tables, (u.telemetryDb column).rows.filter p =
      ((since low u.store.telemetryRaw).filter (fun row => p (rawRow column row))).map
        (rawRow column) := by
    intro u
    rw [Tables.telemetryDb, List.filter_map, since, List.filter_filter]
    refine congrArg _ (List.filter_congr (fun row _ => ?_))
    rw [Function.comp_apply]
    cases hrow : p (rawRow column row) with
    | true =>
        have hlow : low ≤ row.ts := hp (rawRow column row) hrow
        rw [decide_eq_true hlow, Bool.and_self]
    | false => rw [Bool.false_and]
  rw [hsplit, hsplit, h.rows]

theorem devices_agree : (t.telemetryDb column).devices = (t'.telemetryDb column).devices :=
  congrArg (List.map Device.id) h.devices

theorem getDeviceHistory_agree (deviceId : String) (start stop : Option Datetime)
    (limit offset : Nat) (now : Datetime)
    (hlow : low ≤ start.getD (now - Datetime.minutes 1440)) :
    getDeviceHistory (t.telemetryDb column) deviceId start stop limit offset now =
      getDeviceHistory (t'.telemetryDb column) deviceId start stop limit offset now := by
  rw [getDeviceHistory_page, getDeviceHistory_page, closedWindow, closedWindow,
    filter_agree column low t t' h _ (fun row hrow => ?_)]
  rw [Bool.and_eq_true, Bool.and_eq_true, decide_eq_true_eq, decide_eq_true_eq] at hrow
  exact Int.le_trans hlow hrow.1.2

theorem window_agree (deviceId : String) (start stop : Datetime) (hlow : low ≤ start) :
    window (t.telemetryDb column) deviceId start stop =
      window (t'.telemetryDb column) deviceId start stop := by
  refine filter_agree column low t t' h _ (fun row hrow => ?_)
  rw [Bool.and_eq_true, Bool.and_eq_true, decide_eq_true_eq, decide_eq_true_eq] at hrow
  exact Int.le_trans hlow hrow.1.2

theorem getDeviceHistoryAggregated_agree (host : Host φ) (deviceId : String) (range : Range)
    (bucket : Option Bucket) (metric : String) (limit : Nat) (now : Datetime)
    (hlow : low ≤ now - range.timedelta) :
    getDeviceHistoryAggregated host (t.telemetryDb column) deviceId range bucket metric limit now =
      getDeviceHistoryAggregated host (t'.telemetryDb column) deviceId range bucket metric limit
        now := by
  simp only [getDeviceHistoryAggregated, historySamples, aggregateRows,
    window_agree column low t t' h deviceId (now - range.timedelta) now hlow]

/-- The endpoint does not look below its window. -/
theorem history_agree (host : Host φ) (deviceId : String) (query : HistoryQuery) (now : Datetime)
    (hlow : low ≤ windowStart query now) :
    history host (t.telemetryDb column) deviceId query now =
      history host (t'.telemetryDb column) deviceId query now := by
  have hdevices := devices_agree column low t t' h
  unfold history
  by_cases hbounds : (query.start.isSome || query.stop.isSome) = true
  · -- Explicit bounds: one page, from the start of the window.
    rw [windowStart, if_pos hbounds] at hlow
    rw [if_pos hbounds, if_pos hbounds, hdevices,
      getDeviceHistory_agree column low t t' h deviceId query.start query.stop query.limit
        query.offset now hlow]
  · rw [windowStart, if_neg hbounds] at hlow
    rw [if_neg hbounds, if_neg hbounds, hdevices]
    -- A range: the window is as long as the range is.
    cases hrange : Range.ofToken (if query.range.getD "" = "" then "24h" else query.range.getD "")
      with
    | none => simp only [hrange]
    | some range =>
        simp only [hrange, Option.map_some, Option.getD_some] at hlow ⊢
        cases Bucket.ofToken query.bucket with
        | none => rfl
        | some bucket =>
            simp only [getDeviceHistoryAggregated_agree column low t t' h host deviceId range
              bucket query.metric query.limit now hlow]

end View

/-- No request whose window starts within the retention period of every run of the
    job can tell a server with the job from one without it. -/
theorem history_retention (host : Host φ) (column : PyVal → Option φ) (env : Ingest.Env)
    (ws : List Write) (deviceId : String) (query : HistoryQuery) (now : Datetime)
    (hkept : ∀ night, .cleanup night ∈ ws → night - retention ≤ windowStart query now) :
    history host ((Tables.empty.run env ws).telemetryDb column) deviceId query now =
      history host ((Tables.empty.run env (ws.filter Write.ingestion)).telemetryDb column) deviceId
        query now :=
  history_agree column _ _ _ (agree_run (windowStart query now) env ws _ _ hkept ⟨rfl, rfl, rfl⟩)
    host deviceId query now (Int.le_refl _)

/-- A sample without readings. -/
def emptyRow (ts : Datetime) : Row :=
  ⟨"vena-a", ts, .none, .none, .none, .none, .none, .none, .none, .none⟩

/-- A sample of the first day and one of the hundredth, and the job on the next
    night. -/
def cleaned : List Write :=
  [.flush 0 [emptyRow 0], .flush (Datetime.days 100) [emptyRow (Datetime.days 100)],
    .cleanup (Datetime.days 101)]

/-- Columns that hold nothing. -/
def nullHost : Host Unit :=
  ⟨fun _ => (), fun _ => (), fun _ => (), 0, id⟩

theorem history_retention_week :
    (Tables.empty.run lenient cleaned).store.telemetryRaw.length = 1 ∧
    (Tables.empty.run lenient (cleaned.filter Write.ingestion)).store.telemetryRaw.length = 2 ∧
    history nullHost ((Tables.empty.run lenient cleaned).telemetryDb fun _ => none) "vena-a"
        { range := some "7d" } (Datetime.days 102) =
      history nullHost
        ((Tables.empty.run lenient (cleaned.filter Write.ingestion)).telemetryDb fun _ => none)
        "vena-a" { range := some "7d" } (Datetime.days 102) := by
  refine ⟨by decide +kernel, by decide +kernel, history_retention nullHost _ lenient cleaned
    "vena-a" { range := some "7d" } (Datetime.days 102) (fun night hin => ?_)⟩
  simp only [cleaned, List.mem_cons, reduceCtorEq, Write.cleanup.injEq, List.not_mem_nil, or_false,
    false_or] at hin
  rw [hin]
  decide +kernel

end Retention

end Backend

end Vena
