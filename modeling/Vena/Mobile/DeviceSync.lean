import Vena.Mobile.Outbox
import Vena.Mobile.DeviceList
import Vena.Core.Run

/-!
# Renaming and syncing devices

The two writers of the phone's `devices` table. `renameDevice` writes the new
alias there and then queues an entry in the outbox; `syncDeviceList` asks the
backend for its list and upserts the answer row by row, alias included. Every
write is a statement of its own, so calls of the two and the outbox worker
interleave between any two of them. The answer to a sync is what the backend
had when it served the request.

## Main definitions

* `updateAlias`, `aliasOf`: An alias in the `devices` table.
* `newest`, `Pending`: The renames of a device in the outbox.
* `System`, `Act`, `step`: The table, the outbox with its worker, and the calls
  in flight.

## Theorems

* `aliasOf_updateAlias`, `aliasOf_upsert`: What the writes do to the aliases.
* `table_step`: What the outbox worker does to the entries.
-/

namespace Vena

namespace Mobile

namespace DeviceSync

open Backend DeviceList

/-- The alias of the device's row, if it has one. -/
def aliasOf (table : LocalDevices) (deviceId : String) : Option String :=
  (table.rows.find? (fun row => row.deviceId = deviceId)).map LocalDevice.deviceAlias

def updateRows (rows : List LocalDevice) (deviceId deviceAlias : String) : List LocalDevice :=
  rows.map (fun row => if row.deviceId = deviceId then { row with deviceAlias } else row)

/-- `DeviceDao.updateAlias`. -/
def updateAlias (table : LocalDevices) (deviceId deviceAlias : String) : LocalDevices where
  rows := updateRows table.rows deviceId deviceAlias
  key := by
    rw [updateRows, Keyed.map_key_update LocalDevice.deviceId table.rows
      (fun row => row.deviceId = deviceId) (fun row => { row with deviceAlias }) (fun _ _ => rfl)]
    exact table.key

/-- A row stays under its key, so a lookup after an update finds the updated
    row. -/
theorem find?_update (rows : List LocalDevice) (f : LocalDevice → LocalDevice) (deviceId : String)
    (hf : ∀ row, (f row).deviceId = row.deviceId) :
    (rows.map f).find? (fun row => row.deviceId = deviceId) =
      (rows.find? (fun row => row.deviceId = deviceId)).map f := by
  rw [List.find?_map]
  have hsame : ((fun row : LocalDevice => decide (row.deviceId = deviceId)) ∘ f) =
      fun row => decide (row.deviceId = deviceId) := by
    funext row
    rw [Function.comp_apply, hf]
  rw [hsame]

theorem aliasOf_updateAlias (table : LocalDevices) (deviceId deviceAlias other : String) :
    aliasOf (updateAlias table deviceId deviceAlias) other =
      if other = deviceId then (aliasOf table other).map (fun _ => deviceAlias)
      else aliasOf table other := by
  have hkeep : ∀ row : LocalDevice,
      (if row.deviceId = deviceId then { row with deviceAlias } else row).deviceId =
        row.deviceId := by
    intro row
    split
    · rfl
    · rfl
  have hrows : (updateAlias table deviceId deviceAlias).rows = table.rows.map (fun row =>
      if row.deviceId = deviceId then { row with deviceAlias } else row) := rfl
  rw [aliasOf, aliasOf, hrows, find?_update _ _ other hkeep, Option.map_map, Option.map_map]
  cases hfind : table.rows.find? (fun row => row.deviceId = other) with
  | none => simp only [Option.map_none, ite_self]
  | some row =>
      have hid := List.find?_some hfind
      rw [decide_eq_true_eq] at hid
      rw [Option.map_some, Option.map_some, Option.map_some, Function.comp_apply,
        Function.comp_apply, hid]
      by_cases hother : other = deviceId
      · rw [if_pos hother, if_pos hother]
      · rw [if_neg hother, if_neg hother]

/-- The alias after an upsert is the backend's, whatever it was. -/
theorem aliasOf_upsert (table : LocalDevices) (dto : DeviceDto) (other : String) :
    aliasOf (upsertDevice table dto) other =
      if other = dto.deviceId then some (dto.deviceAlias.getD "") else aliasOf table other := by
  have hrows : (upsertDevice table dto).rows = upsertRows table.rows dto := rfl
  rw [aliasOf, aliasOf, hrows]
  unfold upsertRows
  by_cases hany : table.rows.any (fun row => row.deviceId = dto.deviceId) = true
  · have hkeep : ∀ row : LocalDevice,
        (if row.deviceId = dto.deviceId then toCompanion dto row.storedContent
          else row).deviceId = row.deviceId := by
      intro row
      split
      · next hid => exact hid.symm
      · rfl
    rw [if_pos hany, find?_update _ _ other hkeep, Option.map_map]
    cases hfind : table.rows.find? (fun row => row.deviceId = other) with
    | none =>
        -- There is a row of the device that is upserted, so this is another one.
        have hother : other ≠ dto.deviceId := by
          rintro rfl
          rcases List.any_eq_true.mp hany with ⟨row, hrow, hid⟩
          exact List.find?_eq_none.mp hfind row hrow hid
        rw [if_neg hother, Option.map_none, Option.map_none]
    | some row =>
        have hid := List.find?_some hfind
        rw [decide_eq_true_eq] at hid
        rw [Option.map_some, Option.map_some, Function.comp_apply, hid]
        by_cases hother : other = dto.deviceId
        · rw [if_pos hother, if_pos hother, toCompanion]
        · rw [if_neg hother, if_neg hother]
  · rw [if_neg hany, List.find?_append, List.find?_singleton]
    by_cases hother : other = dto.deviceId
    · have hnone : table.rows.find? (fun row => row.deviceId = other) = none := by
        refine List.find?_eq_none.mpr (fun row hrow hid => hany ?_)
        exact List.any_eq_true.mpr ⟨row, hrow, hother ▸ hid⟩
      have hnew : decide ((toCompanion dto none).deviceId = other) = true :=
        decide_eq_true hother.symm
      rw [hnone, Option.none_or, if_pos hnew, if_pos hother]
      rfl
    · have hnot : ¬ (decide ((toCompanion dto none).deviceId = other)) = true := by
        rw [decide_eq_true_eq]
        exact fun hid => hother hid.symm
      rw [if_neg hnot, if_neg hother, Option.or_none]

/-- The alias an entry gives to the device, if it renames it. -/
def aliasFor (deviceId : String) (e : Outbox.Entry) : Option String :=
  match e.action with
  | .rename d deviceAlias => if d = deviceId then some deviceAlias else none
  | .claim _ _ => none

/-- The alias of the most recently queued rename of the device. -/
def newest (table : List Outbox.Entry) (deviceId : String) : Option String :=
  (table.filterMap (aliasFor deviceId)).getLast?

/-- A rename of the device has not been synced yet. -/
def Pending (table : List Outbox.Entry) (deviceId : String) : Prop :=
  ∃ e ∈ table, e.synced = false ∧ aliasFor deviceId e ≠ none

instance (table : List Outbox.Entry) (deviceId : String) : Decidable (Pending table deviceId) :=
  inferInstanceAs (Decidable (∃ e ∈ table, _))

theorem aliasFor_rename (id : Nat) (deviceId deviceAlias other : String) (now : Int)
    (synced : Bool) :
    aliasFor other ⟨id, .rename deviceId deviceAlias, now, synced⟩ =
      if deviceId = other then some deviceAlias else none := rfl

theorem newest_concat (table : List Outbox.Entry) (e : Outbox.Entry) (deviceId : String) :
    newest (table ++ [e]) deviceId = (aliasFor deviceId e).or (newest table deviceId) := by
  rw [newest, newest, List.filterMap_append, List.getLast?_append]
  cases halias : aliasFor deviceId e with
  | none => rw [List.filterMap_cons_none halias, List.filterMap_nil, List.getLast?_nil]
  | some deviceAlias =>
      rw [List.filterMap_cons_some halias, List.filterMap_nil, List.getLast?_singleton]

theorem pending_concat (table : List Outbox.Entry) (e : Outbox.Entry) (deviceId : String)
    (hother : aliasFor deviceId e = none) (h : Pending (table ++ [e]) deviceId) :
    Pending table deviceId := by
  rcases h with ⟨e', he', hsynced, halias⟩
  rcases List.mem_append.mp he' with hold | hnew
  · exact ⟨e', hold, hsynced, halias⟩
  · rw [List.mem_singleton.mp hnew] at halias
    exact absurd hother halias

theorem pending_newest (table : List Outbox.Entry) (deviceId : String)
    (h : Pending table deviceId) : ∃ deviceAlias, newest table deviceId = some deviceAlias := by
  rcases h with ⟨e, he, _, halias⟩
  rcases Option.ne_none_iff_exists'.mp halias with ⟨deviceAlias, hsome⟩
  have hmem : deviceAlias ∈ table.filterMap (aliasFor deviceId) :=
    List.mem_filterMap.mpr ⟨e, he, hsome⟩
  cases hlast : newest table deviceId with
  | none =>
      rw [newest, List.getLast?_eq_none_iff] at hlast
      rw [hlast] at hmem
      exact absurd hmem List.not_mem_nil
  | some last => exact ⟨last, rfl⟩

theorem aliasFor_mark (deviceId : String) (id : Nat) (e : Outbox.Entry) :
    aliasFor deviceId (if e.id = id then { e with synced := true } else e) =
      aliasFor deviceId e := by
  split
  · rfl
  · rfl

theorem newest_mark (table : List Outbox.Entry) (id : Nat) (deviceId : String) :
    newest (Outbox.markSynced table id) deviceId = newest table deviceId := by
  rw [newest, newest, Outbox.markSynced, List.filterMap_map]
  refine congrArg List.getLast? (List.filterMap_congr (fun e _ => ?_))
  exact aliasFor_mark deviceId id e

theorem pending_mark (table : List Outbox.Entry) (id : Nat) (deviceId : String)
    (h : Pending (Outbox.markSynced table id) deviceId) : Pending table deviceId := by
  rcases h with ⟨e', he', hsynced, halias⟩
  rcases List.mem_map.mp he' with ⟨e, he, heq⟩
  rw [← heq, aliasFor_mark] at halias
  rw [← heq] at hsynced
  split at hsynced
  · exact absurd hsynced Bool.noConfusion
  · exact ⟨e, he, hsynced, halias⟩

theorem table_stepBatch (s s' : Outbox.State) (b : Nat) (batch : Outbox.Batch)
    (stmt : Outbox.BatchStmt) (hmoves : Outbox.BatchMoves s b batch stmt s') :
    s'.table = s.table ∨ ∃ id, s'.table = Outbox.markSynced s.table id := by
  cases hmoves with
  | mark item items => exact Or.inr ⟨item.id, rfl⟩
  | _ => exact Or.inl rfl

/-- The entries after a step of the outbox that is no rename: the same ones, the
    same with one of them marked, or a claim added. -/
theorem table_step (env : Env) (user : User) (s s' : Outbox.State) (a : Outbox.Act)
    (ha : ∀ deviceId deviceAlias now, a ≠ .renameDevice deviceId deviceAlias now)
    (hstep : Outbox.step env user s a = some s') :
    s'.table = s.table ∨ (∃ id, s'.table = Outbox.markSynced s.table id) ∨
      ∃ id deviceId pairingCode now,
        s'.table = s.table ++ [⟨id, .claim deviceId pairingCode, now, false⟩] := by
  cases Outbox.step_moves env user s s' a hstep with
  | claimDevice deviceId pairingCode now =>
      exact Or.inr (Or.inr ⟨s.nextId, deviceId, pairingCode, now, rfl⟩)
  | renameDevice deviceId deviceAlias now => exact absurd rfl (ha deviceId deviceAlias now)
  | batch b stmt batch _ hget hbatch =>
      rcases table_stepBatch s s' b batch stmt hbatch with hsame | hmark
      · exact Or.inl hsame
      · exact Or.inr (Or.inl hmark)
  | _ => exact Or.inl rfl

/-- A call of `renameDevice`: it has written the alias and not queued the entry
    yet, or it has returned. -/
inductive Rename where
  | updated (deviceId deviceAlias : String)
  | done
  deriving DecidableEq, Repr

/-- A run of `syncDeviceList`: the request is out, the answer is on its way back,
    the rows are being upserted, or it is over. -/
inductive Sync where
  | requested
  | answered (data : Json)
  | upserting (devices : List DeviceDto)
  | done

structure System where
  outbox : Outbox.State
  devices : LocalDevices
  renames : List Rename
  syncs : List Sync

/-- A statement of a rename, a step of the outbox, or a step of a sync. -/
inductive Act where
  | rename (deviceId deviceAlias : String)
  | queue (i : Nat) (now : Int)
  | outbox (a : Outbox.Act)
  | sync
  | answer (k : Nat)
  | respond (k : Nat)
  | fail (k : Nat)
  | upsert (k : Nat)
  deriving DecidableEq, Repr

def step (isoformat : Datetime → String) (env : Env) (user : User) (s : System) :
    Act → Option System
  | .rename deviceId deviceAlias => some { s with
      devices := updateAlias s.devices deviceId deviceAlias
      renames := s.renames ++ [.updated deviceId deviceAlias] }
  | .queue i now => match s.renames[i]? with
    | some (.updated deviceId deviceAlias) => some { s with
        outbox := Outbox.insertAction s.outbox (.rename deviceId deviceAlias) now
        renames := s.renames.set i .done }
    | _ => none
  -- A rename is queued by the call above only, after it has written the alias.
  | .outbox (.renameDevice _ _ _) => none
  | .outbox a => do
    let outbox ← Outbox.step env user s.outbox a
    return { s with outbox }
  | .sync => some { s with syncs := s.syncs ++ [.requested] }
  | .answer k => match s.syncs[k]? with
    | some .requested => some { s with
        syncs := s.syncs.set k (.answered (listResponse isoformat (deviceItems s.outbox.db user))) }
    | _ => none
  | .respond k => match s.syncs[k]? with
    | some (.answered data) => match listDevices data with
      | some devices => some { s with syncs := s.syncs.set k (.upserting devices) }
      -- Data that does not decode throws before any row is written.
      | none => some { s with syncs := s.syncs.set k .done }
    | _ => none
  | .fail k => match s.syncs[k]? with
    | some .requested => some { s with syncs := s.syncs.set k .done }
    | some (.answered _) => some { s with syncs := s.syncs.set k .done }
    | _ => none
  | .upsert k => match s.syncs[k]? with
    | some (.upserting (dto :: devices)) => some { s with
        devices := upsertDevice s.devices dto
        syncs := s.syncs.set k (.upserting devices) }
    -- Rows of devices that the backend does not list stay.
    | some (.upserting []) => some { s with syncs := s.syncs.set k .done }
    | _ => none

/-- An empty outbox over whatever the table and the backend hold. -/
def start (db : Database) (devices : LocalDevices) : System where
  outbox := Outbox.start db
  devices := devices
  renames := []
  syncs := []

end DeviceSync

end Mobile

end Vena
