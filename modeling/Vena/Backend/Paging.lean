import Vena.Backend.Retention
import Vena.Core.Newest

/-!
# Walking the Pages of a Window

A client reads a closed window of a device page by page: the bounds stay, the
offset grows by the limit, and a page that is not full is the last one. Between
two pages ingestion inserts rows and the nightly job deletes some, and each of
these shifts what an offset means.

Rows are numbered from the newest one on. An insertion can only push a row to a
later place, never to an earlier one, and the job deletes rows that come after
all it keeps. So a row that is out of the job's reach is on a page that has been
read, or behind the offset: it may be read twice, but not skipped. Where nothing
new arrives in the window a row does not move to a later place either, and then
the pages go strictly back in time.

## Main definitions

* `Walk`, `Event`, `Walk.step`, `Walk.run`: A client between the writes.
* `place`: How many rows of the window are newer.
* `Reached`: A row that is not lost to the client.
* `Receding`: What has been read is newer than what is to come.

## Theorems

* `place_le`, `place_le_of_quiet`: What a write does to the place of a row.
* `reached_step`, `receding_write`, `receding_fetch`: The invariants.
* `pages_complete`: No row that is there all the time is skipped.
* `pages_descend`: No row is read twice while nothing new arrives.
-/

namespace Vena

namespace Backend

namespace Paging

open Python Ingest Retention

variable {φ : Type}

/-- A client that has read up to an offset. -/
structure Walk (φ : Type) where
  tables : Tables
  offset : Nat
  samples : List (TelemetrySample φ)

inductive Event where
  | write (w : Write)
  | fetch (now : Datetime)

section

variable (host : Host φ) (column : PyVal → Option φ) (env : Ingest.Env) (deviceId : String)
  (query : HistoryQuery)

/-- The next page of a client. -/
def Walk.page (s : Walk φ) (now : Datetime) : Reply (HistoryResponse φ) :=
  history host (s.tables.telemetryDb column) deviceId { query with offset := s.offset } now

/-- What the client makes of the reply. -/
def Walk.read (s : Walk φ) : Reply (HistoryResponse φ) → Walk φ
  | .ok response =>
    { s with offset := s.offset + query.limit, samples := s.samples ++ response.samples }
  -- A client without an answer asks again.
  | _ => s

def Walk.step (s : Walk φ) : Event → Walk φ
  | .write w => { s with tables := s.tables.apply env w }
  | .fetch now => s.read query (s.page host column deviceId query now)

def Walk.run (s : Walk φ) (events : List Event) : Walk φ :=
  events.foldl (Walk.step host column env deviceId query) s

end

/-- Before the first page. -/
def Walk.start (t : Tables) : Walk φ := ⟨t, 0, []⟩

section Window

variable (column : PyVal → Option φ) (deviceId : String) (start stop : Datetime)

/-- The window as it is now. -/
def rows (t : Tables) : List (TelemetryRaw φ) :=
  closedWindow (t.telemetryDb column) deviceId start stop

/-- How many rows of the window are newer than the instant. -/
def place (t : Tables) (ts : Datetime) : Nat :=
  Newest.newer TelemetryRaw.ts (rows column deviceId start stop t) ts

theorem mem_rows (t : Tables) (r : TelemetryRaw φ) :
    r ∈ rows column deviceId start stop t ↔
      ∃ row ∈ t.store.telemetryRaw, rawRow column row = r ∧ row.deviceId = deviceId ∧
        start ≤ row.ts ∧ row.ts ≤ stop := by
  rw [rows, closedWindow, List.mem_filter, Tables.telemetryDb, List.mem_map]
  simp only [Bool.and_eq_true, decide_eq_true_eq]
  constructor
  · rintro ⟨⟨row, hrow, rfl⟩, ⟨hdev, hstart⟩, hstop⟩
    exact ⟨row, hrow, rfl, hdev, hstart, hstop⟩
  · rintro ⟨row, hrow, rfl, hdev, hstart, hstop⟩
    exact ⟨⟨row, hrow, rfl⟩, ⟨hdev, hstart⟩, hstop⟩

theorem nodup_rows (t : Tables) :
    ((rows column deviceId start stop t).map TelemetryRaw.ts).Nodup := by
  have hkey := (t.telemetryDb column).key
  refine List.Nodup.map_on (fun r hr q hq hts => ?_) ((List.Nodup.of_map _ hkey).filter _)
  rw [rows, closedWindow, List.mem_filter, Bool.and_eq_true, Bool.and_eq_true, decide_eq_true_eq]
    at hr hq
  exact Keyed.eq_of_key _ _ r q hkey hr.1 hq.1 (Prod.ext (hr.2.1.1.trans hq.2.1.1.symm) hts)

/-- The place of a row does not get smaller if no newer one goes. -/
theorem place_le (t t' : Tables) (ts : Datetime)
    (h : ∀ row ∈ t.store.telemetryRaw, ts < row.ts → row ∈ t'.store.telemetryRaw) :
    place column deviceId start stop t ts ≤ place column deviceId start stop t' ts := by
  refine Newest.newer_mono_of_newer TelemetryRaw.ts _ _ ts
    (List.Nodup.of_map _ (nodup_rows column deviceId start stop t)) (fun r hr hlt => ?_)
  rcases (mem_rows column deviceId start stop t r).mp hr with ⟨row, hrow, rfl, hin⟩
  exact (mem_rows column deviceId start stop t' _).mpr ⟨row, h row hrow hlt, rfl, hin⟩

/-- It does not get larger if nothing new arrives in the window. -/
theorem place_le_of_quiet (t t' : Tables) (ts : Datetime)
    (h : ∀ row ∈ t'.store.telemetryRaw, row.deviceId = deviceId → start ≤ row.ts →
      row.ts ≤ stop → row ∈ t.store.telemetryRaw) :
    place column deviceId start stop t' ts ≤ place column deviceId start stop t ts := by
  refine Newest.newer_mono TelemetryRaw.ts _ _ ts
    (List.Nodup.of_map _ (nodup_rows column deviceId start stop t')) (fun r hr => ?_)
  rcases (mem_rows column deviceId start stop t' r).mp hr with ⟨row, hrow, rfl, hdev, hlow, hhigh⟩
  exact (mem_rows column deviceId start stop t _).mpr
    ⟨row, h row hrow hdev hlow hhigh, rfl, hdev, hlow, hhigh⟩

end Window

section Pages

variable (host : Host φ) (column : PyVal → Option φ) (env : Ingest.Env) (deviceId : String)
  (query : HistoryQuery) (start stop : Datetime)

/-- An answer is the page at the offset. -/
theorem page_eq (s : Walk φ) (now : Datetime) (response : HistoryResponse φ)
    (hstart : query.start = some start) (hstop : query.stop = some stop)
    (hpage : s.page host column deviceId query now = .ok response) :
    response.samples = (Newest.page TelemetryRaw.ts query.limit s.offset
      (rows column deviceId start stop s.tables)).map rawSample ∧
    response.count = response.samples.length := by
  unfold Walk.page history at hpage
  rw [hstart, hstop, Option.isSome_some, Bool.true_or, if_pos rfl] at hpage
  split at hpage
  · exact absurd hpage (by simp only [reduceCtorEq, not_false_eq_true])
  · split at hpage
    · exact absurd hpage (by simp only [reduceCtorEq, not_false_eq_true])
    · rw [Reply.ok.injEq, getDeviceHistory_page] at hpage
      rw [← hpage]
      exact ⟨rfl, rfl⟩

/-- The row is in the table, and it has been read or is behind the offset. -/
structure Reached (row : Row) (s : Walk φ) : Prop where
  there : row ∈ s.tables.store.telemetryRaw
  read : rawSample (rawRow column row) ∈ s.samples ∨
    s.offset ≤ place column deviceId start stop s.tables row.ts

theorem reached_step (row : Row) (hdev : row.deviceId = deviceId) (hlow : start ≤ row.ts)
    (hhigh : row.ts ≤ stop) (hstart : query.start = some start) (hstop : query.stop = some stop)
    (e : Event) (hkept : ∀ night, e = .write (.cleanup night) → night - retention ≤ row.ts)
    (s : Walk φ) (h : Reached column deviceId start stop row s) :
    Reached column deviceId start stop row (s.step host column env deviceId query e) := by
  cases e with
  | write w =>
      have hcut : ∀ night, w = .cleanup night → night - retention ≤ row.ts :=
        fun night heq => hkept night (congrArg Event.write heq)
      refine ⟨mem_applyWrite env _ w row h.there hcut, ?_⟩
      rcases h.read with hread | hbehind
      · exact Or.inl hread
      -- The job spares what is newer than a row it spares.
      · refine Or.inr (Nat.le_trans hbehind (place_le column deviceId start stop _ _ row.ts ?_))
        intro newer hin hlt
        exact mem_applyWrite env _ w newer hin
          (fun night heq => Int.le_trans (hcut night heq) (Int.le_of_lt hlt))
  | fetch now =>
      rw [Walk.step]
      cases hpage : s.page host column deviceId query now with
      | ok response =>
          refine ⟨h.there, ?_⟩
          rcases h.read with hread | hbehind
          · exact Or.inl (List.mem_append_left _ hread)
          · have hin : rawRow column row ∈ rows column deviceId start stop s.tables :=
              (mem_rows column deviceId start stop s.tables _).mpr
                ⟨row, h.there, rfl, hdev, hlow, hhigh⟩
            rcases Newest.page_or_behind TelemetryRaw.ts query.limit s.offset _
              (nodup_rows column deviceId start stop s.tables) _ hin hbehind with hon | hlater
            · refine Or.inl (List.mem_append_right _ ?_)
              rw [(page_eq host column deviceId query start stop s now response
                hstart hstop hpage).1]
              exact List.mem_map_of_mem hon
            · exact Or.inr hlater
      | error status detail => exact h
      | crash => exact h

theorem reached_run (row : Row) (hdev : row.deviceId = deviceId) (hlow : start ≤ row.ts)
    (hhigh : row.ts ≤ stop) (hstart : query.start = some start) (hstop : query.stop = some stop)
    (events : List Event) :
    ∀ s : Walk φ, (∀ night, .write (.cleanup night) ∈ events → night - retention ≤ row.ts) →
      Reached column deviceId start stop row s →
      Reached column deviceId start stop row (s.run host column env deviceId query events) := by
  induction events with
  | nil => exact fun _ _ h => h
  | cons e events ih =>
      intro s hkept h
      refine ih _ (fun night hin => hkept night (List.mem_cons_of_mem e hin)) ?_
      exact reached_step host column env deviceId query start stop row hdev hlow hhigh hstart hstop
        e (fun night heq => hkept night (heq ▸ List.mem_cons_self)) s h

/-- A client that reads on until a page is not full has read every row of the
    window that was there from the first page on and out of the job's reach. -/
theorem pages_complete (t : Tables) (events : List Event) (now : Datetime) (row : Row)
    (hstart : query.start = some start) (hstop : query.stop = some stop)
    (hrow : row ∈ t.store.telemetryRaw) (hdev : row.deviceId = deviceId) (hlow : start ≤ row.ts)
    (hhigh : row.ts ≤ stop)
    (hkept : ∀ night, .write (.cleanup night) ∈ events → night - retention ≤ row.ts)
    (last : HistoryResponse φ)
    (hlast : ((Walk.start t).run host column env deviceId query events).page host column deviceId
      query now = .ok last) (hshort : last.count < query.limit) :
    rawSample (rawRow column row) ∈
      ((Walk.start t).run host column env deviceId query (events ++ [.fetch now])).samples := by
  have h := reached_run host column env deviceId query start stop row hdev hlow hhigh hstart hstop
    events (Walk.start t) hkept ⟨hrow, Or.inr (Nat.zero_le _)⟩
  have hnext := reached_step host column env deviceId query start stop row hdev hlow hhigh hstart
    hstop (.fetch now) (fun _ heq => by simp only [reduceCtorEq] at heq) _ h
  have hpage := page_eq host column deviceId query start stop _ now last hstart hstop hlast
  rw [Walk.run, List.foldl_append]
  -- Behind a page that is not full there is nothing.
  refine hnext.read.resolve_right (fun hbehind => ?_)
  rw [hpage.2, hpage.1, List.length_map] at hshort
  have hin := (mem_rows column deviceId start stop _ _).mpr
    ⟨row, h.there, rfl, hdev, hlow, hhigh⟩
  have hplace := Newest.not_behind_of_short TelemetryRaw.ts query.limit _ _ hshort _ hin
  simp only [Walk.step, hlast, Walk.read] at hbehind
  exact absurd hplace (Nat.not_lt.mpr hbehind)

/-- The keys of rows that were there at the start and stay. -/
def Settled (t : Tables) (events : List Event) (key : String × Datetime) : Prop :=
  t.store.Stored key ∧ ∀ night, .write (.cleanup night) ∈ events → night - retention ≤ key.2

/-- Nothing new arrives in the window: what is flushed for it is settled. -/
def Quiet (t : Tables) (events : List Event) : Prop :=
  ∀ now batch, .write (.flush now batch) ∈ events → ∀ row ∈ batch, row.deviceId = deviceId →
    start ≤ row.ts → row.ts ≤ stop → Settled t events row.key

/-- What has been read is newer than what is to come, with the settled keys `K` in
    the table. -/
structure Receding (K : String × Datetime → Prop) (s : Walk φ) : Prop where
  descending : (s.samples.map TelemetrySample.ts).Pairwise (fun a b => b < a)
  before : ∀ x ∈ s.samples, place column deviceId start stop s.tables x.ts < s.offset
  stored : ∀ key, K key → s.tables.store.Stored key

theorem receding_write (K : String × Datetime → Prop) (s : Walk φ) (w : Write)
    (hflush : ∀ now batch, w = .flush now batch → ∀ row ∈ batch, row.deviceId = deviceId →
      start ≤ row.ts → row.ts ≤ stop → K row.key)
    (hkept : ∀ night, w = .cleanup night → ∀ key, K key → night - retention ≤ key.2)
    (h : Receding column deviceId start stop K s) :
    Receding column deviceId start stop K (s.step host column env deviceId query (.write w)) := by
  refine ⟨h.descending, fun x hx => ?_, fun key hkey => ?_⟩
  · refine Nat.lt_of_le_of_lt (place_le_of_quiet column deviceId start stop _ _ x.ts ?_)
      (h.before x hx)
    intro row hrow hdev hlow hhigh
    rcases mem_applyWrite_cases env s.tables.store w row hrow with
      hold | ⟨now, batch, heq, hin, hfree⟩
    · exact hold
    -- A row of the window that is flushed is there already.
    · exact absurd (h.stored row.key (hflush now batch heq row hin hdev hlow hhigh)) hfree
  · rcases List.mem_map.mp (h.stored key hkey) with ⟨row, hrow, heq⟩
    refine List.mem_map.mpr ⟨row, mem_applyWrite env _ w row hrow (fun night hw => ?_), heq⟩
    have hcut := hkept night hw key hkey
    rwa [← heq] at hcut

theorem receding_fetch (K : String × Datetime → Prop) (s : Walk φ) (now : Datetime)
    (hstart : query.start = some start) (hstop : query.stop = some stop)
    (h : Receding column deviceId start stop K s) :
    Receding column deviceId start stop K (s.step host column env deviceId query (.fetch now)) := by
  rw [Walk.step]
  cases hpage : s.page host column deviceId query now with
  | ok response =>
      have hnodup := nodup_rows column deviceId start stop s.tables
      have hsamples := (page_eq host column deviceId query start stop s now response hstart hstop
        hpage).1
      have hpageTs : ∀ x ∈ response.samples, ∃ r ∈ Newest.page TelemetryRaw.ts query.limit s.offset
          (rows column deviceId start stop s.tables), r.ts = x.ts := by
        intro x hx
        rw [hsamples] at hx
        rcases List.mem_map.mp hx with ⟨r, hr, rfl⟩
        exact ⟨r, hr, rfl⟩
      refine ⟨?_, fun x hx => ?_, h.stored⟩
      · simp only [Walk.read, List.map_append, List.pairwise_append]
        refine ⟨h.descending, ?_, fun a ha b hb => ?_⟩
        · rw [hsamples, List.map_map, List.pairwise_map]
          exact Newest.pairwise_page TelemetryRaw.ts query.limit s.offset _ hnodup
        -- The new page is behind everything that has been read.
        · rcases List.mem_map.mp ha with ⟨x, hx, rfl⟩
          rcases List.mem_map.mp hb with ⟨y, hy, rfl⟩
          rcases hpageTs y hy with ⟨r, hr, hts⟩
          rw [← hts]
          exact Newest.lt_of_page TelemetryRaw.ts query.limit s.offset _ hnodup r hr x.ts
            (h.before x hx)
      · rcases List.mem_append.mp hx with hold | hnew
        · exact Nat.lt_of_lt_of_le (h.before x hold) (Nat.le_add_right _ _)
        · rcases hpageTs x hnew with ⟨r, hr, hts⟩
          rw [← hts]
          exact ((Newest.mem_page TelemetryRaw.ts query.limit s.offset _ hnodup r).mp hr).2.2
  | error status detail => exact h
  | crash => exact h

theorem receding_run (K : String × Datetime → Prop) (hstart : query.start = some start)
    (hstop : query.stop = some stop) (events : List Event) :
    ∀ s : Walk φ,
      (∀ now batch, .write (.flush now batch) ∈ events → ∀ row ∈ batch, row.deviceId = deviceId →
        start ≤ row.ts → row.ts ≤ stop → K row.key) →
      (∀ night, .write (.cleanup night) ∈ events → ∀ key, K key → night - retention ≤ key.2) →
      Receding column deviceId start stop K s →
      Receding column deviceId start stop K (s.run host column env deviceId query events) := by
  induction events with
  | nil => exact fun _ _ _ h => h
  | cons e events ih =>
      intro s hflush hkept h
      refine ih _ (fun now batch hin => hflush now batch (List.mem_cons_of_mem e hin))
        (fun night hin => hkept night (List.mem_cons_of_mem e hin)) ?_
      cases e with
      | write w =>
          refine receding_write host column env deviceId query start stop K s w ?_ ?_ h
          · exact fun now batch heq => hflush now batch (heq ▸ List.mem_cons_self)
          · exact fun night heq => hkept night (heq ▸ List.mem_cons_self)
      | fetch now =>
          exact receding_fetch host column env deviceId query start stop K s now hstart hstop h

/-- While nothing new arrives in the window, the pages go strictly back in time:
    no sample is read twice. -/
theorem pages_descend (t : Tables) (events : List Event) (hstart : query.start = some start)
    (hstop : query.stop = some stop) (hquiet : Quiet deviceId start stop t events) :
    (((Walk.start t).run host column env deviceId query events).samples.map
      TelemetrySample.ts).Pairwise (fun a b => b < a) := by
  refine (receding_run host column env deviceId query start stop (Settled t events) hstart hstop
    events (Walk.start t) hquiet (fun night hin key hkey => hkey.2 night hin)
    ⟨?_, ?_, ?_⟩).descending
  · exact List.Pairwise.nil
  · exact fun x hx => absurd hx List.not_mem_nil
  · exact fun key hkey => hkey.1

end Pages

/-- Three samples of a device. -/
def stocked : Tables :=
  Tables.empty.run lenient [.flush 0 [emptyRow 10, emptyRow 20, emptyRow 30]]

/-- The first hundred microseconds, two samples at a time. -/
def inPairs : HistoryQuery :=
  { start := some 0, stop := some 100, limit := 2 }

/-- A sample arrives between the pages and pushes one of them to the next page. -/
def pushed : List Event :=
  [.fetch 100, .write (.flush 0 [emptyRow 40]), .fetch 100]

theorem pages_complete_pushed :
    rawSample (rawRow (fun _ => none) (emptyRow 10)) ∈
      ((Walk.start stocked).run nullHost (fun _ => none) lenient "vena-a" inPairs
        (pushed ++ [.fetch 100])).samples := by
  refine pages_complete nullHost (fun _ => none) lenient "vena-a" inPairs 0 100 stocked pushed 100
    (emptyRow 10) rfl rfl ?_ rfl (by decide) (by decide) (fun night hin => ?_)
    ⟨"vena-a", 0, [], none, none, none⟩ ?_ (by decide)
  · have hrows : stocked.store.telemetryRaw = [emptyRow 10, emptyRow 20, emptyRow 30] := by rfl
    rw [hrows]
    exact List.mem_cons_self
  · simp only [pushed, List.mem_cons, reduceCtorEq, Event.write.injEq, List.not_mem_nil,
      or_self] at hin
  · rfl

/-- Nothing arrives between two pages. -/
theorem pages_descend_quiet :
    (((Walk.start stocked).run nullHost (fun _ => none) lenient "vena-a" inPairs
      [.fetch 100, .write (.cleanup 5), .fetch 100]).samples.map
        TelemetrySample.ts).Pairwise (fun a b => b < a) := by
  refine pages_descend nullHost (fun _ => none) lenient "vena-a" inPairs 0 100 stocked _ rfl rfl
    (fun now batch hin => ?_)
  simp only [List.mem_cons, reduceCtorEq, Event.write.injEq, List.not_mem_nil, or_self] at hin

end Paging

end Backend

end Vena
