import Vena.Backend.IngestEnds

/-!
# Devices and Each Other's Telemetry

Two sequences of messages that differ in what other devices send should leave
the same rows of a device behind. They do as far as the rows are out of reach of
the first message that is not handled: all devices share the batch, its one
`INSERT` and the task, so that a bad message of any device takes the rows of the
others in its batch with it, and what comes behind it as well.

## Main definitions

* `sentBy`, `AgreeOn`: The messages of a device, and sequences that have the same.
* `NonInterfering`: Both sequences leave the same rows of the device.
* `Undisturbed`: The rows of the device are out of reach.

## Theorems

* `devices_separate`: The two are the same.
* `devices_interfere`: A device whose id is too long.
-/

namespace Vena

namespace Backend

namespace Ingest

open Python

/-- The message is one of the device, by its topic. -/
def sentBy (deviceId : String) (m : Message) : Bool :=
  match parseTopic m.topic with
  | some (id, _) => id = deviceId
  | none => false

/-- The sequences differ in messages of other devices only. -/
def AgreeOn (deviceId : String) (msgs msgs' : List Message) : Prop :=
  msgs.filter (sentBy deviceId) = msgs'.filter (sentBy deviceId)

def ofDevice (deviceId : String) (rows : List Row) : List Row :=
  rows.filter (fun row => row.deviceId = deviceId)

/-- However the two sequences are worked off, the rows of the device are the same. -/
def NonInterfering (env : Env) (db : Store) (deviceId : String) (msgs msgs' : List Message) :
    Prop :=
  ∀ t t', Final env db msgs t → Final env db msgs' t' →
    ofDevice deviceId t.db.telemetryRaw = ofDevice deviceId t'.db.telemetryRaw

/-- Each row of the device that is read in one of the sequences is stored
    already, or both sequences surely store one under its key. -/
def Undisturbed (env : Env) (db : Store) (deviceId : String) (msgs msgs' : List Message) : Prop :=
  ∀ row, row.deviceId = deviceId → row ∈ readRows env msgs ∨ row ∈ readRows env msgs' →
    db.Stored row.key ∨
      (row.key ∈ (surely env msgs).map Row.key ∧ row.key ∈ (surely env msgs').map Row.key)

/-- A row bears the device id of the topic. -/
theorem topic_of_row (env : Env) (m : Message) (row : Row) (h : decode env m = .ok (.row row)) :
    ∃ msgType, parseTopic m.topic = some (row.deviceId, msgType) := by
  rw [decode_eq_row] at h
  unfold parse at h
  split at h
  · exact absurd h (by simp only [Except.ok.injEq, reduceCtorEq, not_false_eq_true])
  · next deviceId msgType htopic =>
      refine ⟨msgType, ?_⟩
      rw [htopic]
      split at h
      · exact absurd h (by simp only [Except.ok.injEq, reduceCtorEq, not_false_eq_true])
      · unfold parsePayload at h
        split at h
        · exact absurd h (by simp only [Except.ok.injEq, reduceCtorEq, not_false_eq_true])
        · exact absurd h (by simp only [reduceCtorEq, not_false_eq_true])
        · split at h
          · exact absurd h (by simp only [Except.ok.injEq, reduceCtorEq, not_false_eq_true])
          · unfold parseTs at h
            split at h
            · rw [Except.ok.injEq, Option.some.injEq] at h
              rw [← h]
              rfl
            · split at h
              · exact absurd h (by simp only [Except.ok.injEq, reduceCtorEq, not_false_eq_true])
              · exact absurd h (by simp only [reduceCtorEq, not_false_eq_true])
        · exact absurd h (by simp only [reduceCtorEq, not_false_eq_true])

/-- The rows of a device are those of its messages. -/
theorem ofDevice_rowsOf (env : Env) (deviceId : String) (msgs : List Message) :
    ofDevice deviceId (rowsOf env msgs) = rowsOf env (msgs.filter (sentBy deviceId)) := by
  induction msgs with
  | nil => rfl
  | cons m msgs ih =>
      unfold ofDevice rowsOf at ih ⊢
      cases hrow : rowMade env m with
      | none =>
          rw [List.filterMap_cons_none hrow, ih, List.filter_cons]
          split
          · rw [List.filterMap_cons_none hrow]
          · rfl
      | some row =>
          have hdecode : decode env m = .ok (.row row) := by
            unfold rowMade at hrow
            split at hrow
            · next r hr => rw [hr, Option.some.inj hrow]
            · exact absurd hrow (by simp only [reduceCtorEq, not_false_eq_true])
          rcases topic_of_row env m row hdecode with ⟨msgType, htopic⟩
          have hsent : sentBy deviceId m = decide (row.deviceId = deviceId) := by
            rw [sentBy, htopic]
          rw [List.filterMap_cons_some hrow, List.filter_cons, List.filter_cons, hsent, ih]
          split
          · rw [List.filterMap_cons_some hrow]
          · rfl

/-- What is read of a device comes first among the rows of its messages. -/
theorem prefix_ofDevice (env : Env) (deviceId : String) (msgs : List Message) (rows : List Row)
    (h : rows <+: readRows env msgs) :
    ofDevice deviceId rows <+: rowsOf env (msgs.filter (sentBy deviceId)) := by
  have hread : readRows env msgs <+: rowsOf env msgs :=
    (List.takeWhile_prefix _).filterMap _
  rw [← ofDevice_rowsOf]
  exact (h.trans hread).filter _

/-- The rows of a device after an insertion. -/
theorem ofDevice_inserted (deviceId : String) (old new rows : List Row)
    (h : new = Keyed.insertAllNew Row.key old rows) :
    ofDevice deviceId new =
      Keyed.insertAllNew Row.key (ofDevice deviceId old) (ofDevice deviceId rows) := by
  rw [h]
  exact Keyed.filter_insertAllNew Row.key (fun key => key.1 = deviceId) rows old

/-- The key of a row of the device is among the keys of its rows if it is among
    all keys. -/
theorem key_ofDevice (deviceId : String) (rows : List Row) (row : Row)
    (hrow : row.deviceId = deviceId) :
    row.key ∈ (ofDevice deviceId rows).map Row.key ↔ row.key ∈ rows.map Row.key := by
  unfold ofDevice
  simp only [List.mem_map, List.mem_filter, decide_eq_true_eq]
  constructor
  · rintro ⟨r, ⟨hr, _⟩, heq⟩
    exact ⟨r, hr, heq⟩
  · rintro ⟨r, hr, heq⟩
    exact ⟨r, ⟨hr, (congrArg Prod.fst heq).trans hrow⟩, heq⟩

theorem mem_ofDevice (deviceId : String) (rows : List Row) (row : Row) :
    row ∈ ofDevice deviceId rows ↔ row ∈ rows ∧ row.deviceId = deviceId := by
  rw [ofDevice, List.mem_filter, decide_eq_true_eq]

/-- Any two ways to insert rows that two final states can show are the same. -/
theorem inserted_of_noninterfering (env : Env) (db : Store) (deviceId : String)
    (msgs msgs' : List Message) (rows rows' : List Row)
    (h : NonInterfering env db deviceId msgs msgs')
    (hrows : ∃ t, Final env db msgs t ∧
      t.db.telemetryRaw = Keyed.insertAllNew Row.key db.telemetryRaw rows)
    (hrows' : ∃ t, Final env db msgs' t ∧
      t.db.telemetryRaw = Keyed.insertAllNew Row.key db.telemetryRaw rows') :
    Keyed.insertAllNew Row.key (ofDevice deviceId db.telemetryRaw) (ofDevice deviceId rows) =
      Keyed.insertAllNew Row.key (ofDevice deviceId db.telemetryRaw) (ofDevice deviceId rows') := by
  rcases hrows with ⟨t, hfinal, ht⟩
  rcases hrows' with ⟨t', hfinal', ht'⟩
  rw [← ofDevice_inserted deviceId db.telemetryRaw t.db.telemetryRaw rows ht,
    ← ofDevice_inserted deviceId db.telemetryRaw t'.db.telemetryRaw rows' ht']
  exact h t t' hfinal hfinal'

/-- A row that can be stored is stored already, or given surely. -/
theorem given_of_inserted (db : Store) (deviceId : String) (rows sure : List Row) (row : Row)
    (h : Keyed.insertAllNew Row.key (ofDevice deviceId db.telemetryRaw) (ofDevice deviceId rows) =
      Keyed.insertAllNew Row.key (ofDevice deviceId db.telemetryRaw) (ofDevice deviceId sure))
    (hrow : row.deviceId = deviceId) (hin : row ∈ rows) :
    db.Stored row.key ∨ row.key ∈ sure.map Row.key := by
  have hkey := Keyed.key_insertAllNew Row.key _ (ofDevice deviceId db.telemetryRaw) row
    ((mem_ofDevice deviceId rows row).mpr ⟨hin, hrow⟩)
  rw [h, Keyed.keys_insertAllNew, key_ofDevice deviceId _ row hrow,
    key_ofDevice deviceId _ row hrow] at hkey
  exact hkey

/-- Rows of the device that are given surely leave nothing to add. -/
theorem inserted_of_given (db : Store) (deviceId : String) (xs ys : List Row)
    (hinitial : ofDevice deviceId xs <+: ofDevice deviceId ys)
    (h : ∀ row, row.deviceId = deviceId → row ∈ ys →
      db.Stored row.key ∨ row.key ∈ xs.map Row.key) :
    Keyed.insertAllNew Row.key (ofDevice deviceId db.telemetryRaw) (ofDevice deviceId xs) =
      Keyed.insertAllNew Row.key (ofDevice deviceId db.telemetryRaw) (ofDevice deviceId ys) := by
  refine (Keyed.insertAllNew_eq_of_initial Row.key _ _ _ hinitial).mpr (fun row hrow => ?_)
  rcases (mem_ofDevice deviceId ys row).mp hrow with ⟨hin, hdevice⟩
  rw [key_ofDevice deviceId _ row hdevice, key_ofDevice deviceId _ row hdevice]
  exact h row hdevice hin

/-- A sequence that stores the rows of the device surely leaves them behind. -/
theorem final_of_undisturbed (env : Env) (db : Store) (deviceId : String) (msgs : List Message)
    (t : State) (hfinal : Final env db msgs t)
    (h : ∀ row, row.deviceId = deviceId → row ∈ readRows env msgs →
      db.Stored row.key ∨ row.key ∈ (surely env msgs).map Row.key) :
    ofDevice deviceId t.db.telemetryRaw =
      Keyed.insertAllNew Row.key (ofDevice deviceId db.telemetryRaw)
        (ofDevice deviceId (surely env msgs)) := by
  rcases final_bounds env db msgs t hfinal with ⟨flushed, htelemetry, hsure, hread⟩
  rw [ofDevice_inserted deviceId db.telemetryRaw t.db.telemetryRaw flushed htelemetry]
  exact (inserted_of_given db deviceId (surely env msgs) flushed (hsure.filter _)
    (fun row hrow hin => h row hrow (hread.subset hin))).symm

/-- Devices do not interfere exactly where the rows are out of reach. -/
theorem devices_separate (env : Env) (db : Store) (deviceId : String) (msgs msgs' : List Message)
    (hagree : AgreeOn deviceId msgs msgs') :
    NonInterfering env db deviceId msgs msgs' ↔ Undisturbed env db deviceId msgs msgs' := by
  constructor
  · intro h
    have hread := final_readRows env db msgs
    have hsure := final_surely env db msgs
    have hread' := final_readRows env db msgs'
    have hsure' := final_surely env db msgs'
    have hacross := inserted_of_noninterfering env db deviceId msgs msgs'
    -- Either end of the one sequence agrees with either end of the other.
    have hrs' := hacross _ _ h hread hsure'
    have hss' := hacross _ _ h hsure hsure'
    have hsr' := hacross _ _ h hsure hread'
    intro row hrow hin
    rcases hin with hin | hin
    · rcases given_of_inserted db deviceId _ _ row hrs' hrow hin with hold | hthere
      · exact Or.inl hold
      · rcases given_of_inserted db deviceId _ _ row (hrs'.trans hss'.symm) hrow hin
          with hold | hhere
        · exact Or.inl hold
        · exact Or.inr ⟨hhere, hthere⟩
    · rcases given_of_inserted db deviceId _ _ row hsr'.symm hrow hin with hold | hhere
      · exact Or.inl hold
      · rcases given_of_inserted db deviceId _ _ row (hsr'.symm.trans hss') hrow hin
          with hold | hthere
        · exact Or.inl hold
        · exact Or.inr ⟨hhere, hthere⟩
  · intro h t t' hfinal hfinal'
    have hhere := final_of_undisturbed env db deviceId msgs t hfinal
      (fun row hrow hin => (h row hrow (Or.inl hin)).imp_right And.left)
    have hthere := final_of_undisturbed env db deviceId msgs' t' hfinal'
      (fun row hrow hin => (h row hrow (Or.inr hin)).imp_right And.right)
    rw [hhere, hthere]
    -- The rows both give surely come from the same messages, so one of them comes first.
    have hpre := prefix_ofDevice env deviceId msgs _ (prefix_surely env msgs)
    have hpre' := prefix_ofDevice env deviceId msgs' _ (prefix_surely env msgs')
    rw [← hagree] at hpre'
    rcases List.prefix_or_prefix_of_prefix hpre hpre' with hle | hle
    · exact inserted_of_given db deviceId _ _ hle (fun row hrow hin =>
        (h row hrow (Or.inr ((prefix_surely env msgs').subset hin))).imp_right And.left)
    · exact (inserted_of_given db deviceId _ _ hle (fun row hrow hin =>
        (h row hrow (Or.inl ((prefix_surely env msgs).subset hin))).imp_right And.right)).symm

/-- Where all messages of both sequences are handled, nothing is in reach. -/
theorem undisturbed_of_absorbed (env : Env) (db : Store) (deviceId : String)
    (msgs msgs' : List Message) (hagree : AgreeOn deviceId msgs msgs')
    (h : ∀ m ∈ msgs, Absorbed env m) (h' : ∀ m ∈ msgs', Absorbed env m) :
    Undisturbed env db deviceId msgs msgs' := by
  have hsure : surely env msgs = rowsOf env msgs := by
    rw [surely, if_pos h, readRows, readable_of_absorbed env msgs h]
  have hsure' : surely env msgs' = rowsOf env msgs' := by
    rw [surely, if_pos h', readRows, readable_of_absorbed env msgs' h']
  have hsame : ofDevice deviceId (rowsOf env msgs) = ofDevice deviceId (rowsOf env msgs') := by
    rw [ofDevice_rowsOf, ofDevice_rowsOf, hagree]
  intro row hrow hin
  refine Or.inr ?_
  rw [readRows, readRows, readable_of_absorbed env msgs h, readable_of_absorbed env msgs' h'] at hin
  rw [hsure, hsure', ← key_ofDevice deviceId _ row hrow,
    ← key_ofDevice deviceId (rowsOf env msgs') row hrow, ← hsame, and_self]
  refine List.mem_map_of_mem ?_
  rcases hin with hin | hin
  · exact (mem_ofDevice deviceId _ row).mpr ⟨hin, hrow⟩
  · rw [hsame]
    exact (mem_ofDevice deviceId _ row).mpr ⟨hin, hrow⟩

/-- A table whose `device_id` is a `VARCHAR(32)`. -/
def columns : Env where
  depth := 3
  storable := fun row => decide (row.deviceId.length ≤ 32)
  metaStorable := fun deviceId _ => decide (deviceId.length ≤ 32)

/-- The same sample from another device. -/
def neighbour : Message where
  topic := "vena/b/telemetry"
  payload := sample.payload

/-- The same sample under an id of 33 characters. -/
def stranger : Message where
  topic := "vena/bbbbbbbbbbbbbbbbbbbbbbbbbbbbbbbbb/telemetry"
  payload := sample.payload

theorem devices_separate_neighbour :
    NonInterfering columns .empty "a" [sample] [neighbour, sample] := by
  have hagree : AgreeOn "a" [sample] [neighbour, sample] := by
    unfold AgreeOn
    decide +kernel
  exact (devices_separate columns .empty "a" [sample] [neighbour, sample] hagree).mpr
    (undisturbed_of_absorbed columns .empty "a" _ _ hagree (by decide +kernel) (by decide +kernel))

/-- The row of a short id goes with the batch of the long one. -/
theorem devices_interfere :
    ¬∀ (env : Env) (db : Store) (deviceId : String) (msgs msgs' : List Message),
      AgreeOn deviceId msgs msgs' → NonInterfering env db deviceId msgs msgs' := by
  intro hall
  have hagree : AgreeOn "a" [sample] [sample, stranger] := by
    unfold AgreeOn
    decide +kernel
  have hsame := inserted_of_noninterfering columns .empty "a" [sample] [sample, stranger] _ _
    (hall columns .empty "a" _ _ hagree) (final_readRows columns .empty [sample])
    (final_surely columns .empty [sample, stranger])
  have hread : (readRows columns [sample]).map Row.key = [("a", 5000)] := by decide +kernel
  have hsure : (surely columns [sample, stranger]).map Row.key = [] := by decide +kernel
  rcases List.map_eq_singleton_iff.mp hread with ⟨row, hrow, hkey⟩
  have hdevice : row.deviceId = "a" := congrArg Prod.fst hkey
  rcases given_of_inserted .empty "a" _ _ row hsame hdevice
      (hrow ▸ List.mem_singleton_self row) with hold | hgiven
  · exact absurd hold List.not_mem_nil
  · rw [hsure] at hgiven
    exact absurd hgiven List.not_mem_nil

end Ingest

end Backend

end Vena
