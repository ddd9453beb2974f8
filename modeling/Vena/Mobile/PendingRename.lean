import Vena.Mobile.DeviceSync
import Vena.Mobile.LastWriteWins

/-!
# Pending renames and the device list

While a rename waits in the outbox, the phone should show the new alias. A sync
knows nothing of the outbox: it writes the alias the backend had when it
answered, which for a pending rename is the old one. The entry is queued after
the alias is written, so a sync can also come between the two, and so can a
second rename. `sync_keeps_rename` states what each of the three writes has to
find.

## Main definitions

* `Kept`: A device with a pending rename has the alias queued last.
* `Careful`: What keeps it so.

## Theorems

* `step_kept`: What a careful step keeps.
* `careless_breaks`: What any other step breaks.
* `sync_keeps_rename`: The careful runs are the ones that keep it throughout.
* `sync_undoes_rename`: A run that does not.
-/

namespace Vena

namespace Mobile

namespace DeviceSync

open Backend DeviceList Run

/-- Every device with a pending rename has, on the phone, the alias of the most
    recently queued one. -/
def Kept (s : System) : Prop :=
  ∀ deviceId, Pending s.outbox.table deviceId →
    aliasOf s.devices deviceId = newest s.outbox.table deviceId

/-- A device with a pending rename is renamed to the alias queued last only, an
    entry is queued while the device still has the alias of its call, and a sync
    upserts a device with a pending rename with the alias queued last. -/
def Careful (s : System) : Act → Prop
  | .rename deviceId deviceAlias => Pending s.outbox.table deviceId →
      newest s.outbox.table deviceId = some deviceAlias
  | .queue i _ => ∀ deviceId deviceAlias, s.renames[i]? = some (.updated deviceId deviceAlias) →
      aliasOf s.devices deviceId = some deviceAlias
  | .upsert k => ∀ dto devices, s.syncs[k]? = some (.upserting (dto :: devices)) →
      Pending s.outbox.table dto.deviceId →
      newest s.outbox.table dto.deviceId = some (dto.deviceAlias.getD "")
  | _ => True

/-- The outbox worker does not queue renames, and what it marks is no longer
    pending. -/
theorem kept_outbox (env : Env) (user : User) (s : System) (outbox : Outbox.State)
    (a : Outbox.Act) (h : Kept s)
    (ha : ∀ deviceId deviceAlias now, a ≠ .renameDevice deviceId deviceAlias now)
    (hstep : Outbox.step env user s.outbox a = some outbox) : Kept { s with outbox } := by
  intro deviceId hpending
  rcases table_step env user s.outbox outbox a ha hstep with hsame | ⟨id, hmark⟩ |
    ⟨id, claimed, pairingCode, now, hclaim⟩
  · simp only [hsame] at hpending ⊢
    exact h deviceId hpending
  · simp only [hmark] at hpending ⊢
    rw [newest_mark]
    exact h deviceId (pending_mark s.outbox.table id deviceId hpending)
  · simp only [hclaim] at hpending ⊢
    rw [newest_concat, h deviceId (pending_concat s.outbox.table _ deviceId rfl hpending)]
    rfl

/-- A new entry, while the device has its alias. -/
theorem kept_queue (s : System) (renames : List Rename) (deviceId deviceAlias : String) (now : Int)
    (h : Kept s) (halias : aliasOf s.devices deviceId = some deviceAlias) :
    Kept { s with
      outbox := Outbox.insertAction s.outbox (.rename deviceId deviceAlias) now
      renames } := by
  intro other hpending
  rw [Outbox.insertAction] at hpending ⊢
  dsimp only at hpending ⊢
  rw [newest_concat, aliasFor_rename]
  by_cases hother : deviceId = other
  · rw [if_pos hother, Option.some_or, ← hother, halias]
  · rw [if_neg hother, Option.none_or]
    refine h other (pending_concat s.outbox.table _ other ?_ hpending)
    rw [aliasFor_rename, if_neg hother]

theorem step_kept (isoformat : Datetime → String) (env : Env) (user : User) (s : System) (a : Act)
    (s' : System) (h : Kept s) (hcareful : Careful s a)
    (hstep : step isoformat env user s a = some s') : Kept s' := by
  cases a with
  | rename deviceId deviceAlias =>
      rw [step, Option.some.injEq] at hstep
      rw [← hstep]
      intro other hpending
      dsimp only at hpending ⊢
      rw [aliasOf_updateAlias, h other hpending]
      by_cases hother : other = deviceId
      · rw [hother] at hpending ⊢
        rw [if_pos rfl, hcareful hpending, Option.map_some]
      · rw [if_neg hother]
  | queue i now =>
      rw [step] at hstep
      split at hstep
      · next deviceId deviceAlias hget =>
          rw [Option.some.injEq] at hstep
          rw [← hstep]
          exact kept_queue s _ deviceId deviceAlias now h (hcareful deviceId deviceAlias hget)
      · exact absurd hstep (by simp only [reduceCtorEq, not_false_eq_true])
  -- The worker only marks entries, so it needs no condition.
  | outbox a =>
      have hother : ∀ deviceId deviceAlias now, a ≠ .renameDevice deviceId deviceAlias now := by
        rintro deviceId deviceAlias now rfl
        exact absurd hstep (by simp only [step, reduceCtorEq, not_false_eq_true])
      rw [step] at hstep
      · rcases Option.bind_eq_some_iff.mp hstep with ⟨outbox, houtbox, hsome⟩
        rw [Option.pure_def, Option.some.injEq] at hsome
        rw [← hsome]
        exact kept_outbox env user s outbox a h hother houtbox
      · exact hother
  | sync =>
      rw [step, Option.some.injEq] at hstep
      rw [← hstep]
      exact h
  | answer k =>
      rw [step] at hstep
      split at hstep
      · rw [Option.some.injEq] at hstep
        rw [← hstep]
        exact h
      · exact absurd hstep (by simp only [reduceCtorEq, not_false_eq_true])
  | respond k =>
      rw [step] at hstep
      split at hstep
      · split at hstep
        · rw [Option.some.injEq] at hstep
          rw [← hstep]
          exact h
        · rw [Option.some.injEq] at hstep
          rw [← hstep]
          exact h
      · exact absurd hstep (by simp only [reduceCtorEq, not_false_eq_true])
  | fail k =>
      rw [step] at hstep
      split at hstep
      · rw [Option.some.injEq] at hstep
        rw [← hstep]
        exact h
      · rw [Option.some.injEq] at hstep
        rw [← hstep]
        exact h
      · exact absurd hstep (by simp only [reduceCtorEq, not_false_eq_true])
  | upsert k =>
      rw [step] at hstep
      split at hstep
      · next dto devices hget =>
          rw [Option.some.injEq] at hstep
          rw [← hstep]
          intro other hpending
          dsimp only at hpending ⊢
          rw [aliasOf_upsert]
          -- The row takes the backend's alias, which is the one queued last.
          by_cases hother : other = dto.deviceId
          · rw [if_pos hother, hother]
            exact (hcareful dto devices hget (hother ▸ hpending)).symm
          · rw [if_neg hother]
            exact h other hpending
      · rw [Option.some.injEq] at hstep
        rw [← hstep]
        exact h
      · exact absurd hstep (by simp only [reduceCtorEq, not_false_eq_true])

/-- A careless write shows at once. -/
theorem careless_breaks (isoformat : Datetime → String) (env : Env) (user : User) (s : System)
    (a : Act) (h : Kept s) (hcareless : ¬ Careful s a) :
    ∃ s', step isoformat env user s a = some s' ∧ ¬ Kept s' := by
  cases a with
  | rename deviceId deviceAlias =>
      simp only [Careful, Classical.not_imp] at hcareless
      rcases hcareless with ⟨hpending, hdiffers⟩
      refine ⟨_, rfl, fun hkept => hdiffers ?_⟩
      have hnow := hkept deviceId hpending
      rcases pending_newest s.outbox.table deviceId hpending with ⟨queued, hqueued⟩
      -- The device has a row, so the alias that was written is there.
      dsimp only at hnow
      rw [aliasOf_updateAlias, if_pos rfl, h deviceId hpending, hqueued, Option.map_some] at hnow
      rw [hqueued, hnow]
  | queue i now =>
      simp only [Careful, not_forall] at hcareless
      rcases hcareless with ⟨deviceId, deviceAlias, hget, hdiffers⟩
      refine ⟨{ s with
          outbox := Outbox.insertAction s.outbox (.rename deviceId deviceAlias) now
          renames := s.renames.set i .done }, by simp only [step, hget], fun hkept => hdiffers ?_⟩
      -- The entry itself is pending, and newest.
      have hpending :
          Pending (Outbox.insertAction s.outbox (.rename deviceId deviceAlias) now).table
            deviceId := by
        refine ⟨_, List.mem_append_right _ (List.mem_singleton.mpr rfl), rfl, ?_⟩
        rw [aliasFor_rename, if_pos rfl]
        exact Option.some_ne_none deviceAlias
      have hnow := hkept deviceId hpending
      rw [Outbox.insertAction] at hnow
      dsimp only at hnow
      rwa [newest_concat, aliasFor_rename, if_pos rfl, Option.some_or] at hnow
  | upsert k =>
      simp only [Careful, not_forall] at hcareless
      rcases hcareless with ⟨dto, devices, hget, hpending, hdiffers⟩
      refine ⟨{ s with
          devices := upsertDevice s.devices dto
          syncs := s.syncs.set k (.upserting devices) }, by simp only [step, hget],
        fun hkept => hdiffers ?_⟩
      have hnow := hkept dto.deviceId hpending
      dsimp only at hnow
      rw [aliasOf_upsert, if_pos rfl] at hnow
      exact hnow.symm
  | outbox a => exact absurd trivial hcareless
  | sync => exact absurd trivial hcareless
  | answer k => exact absurd trivial hcareless
  | respond k => exact absurd trivial hcareless
  | fail k => exact absurd trivial hcareless

/-- Pending renames are kept throughout a run if and only if all its writes are
    careful. -/
theorem sync_keeps_rename (isoformat : Datetime → String) (env : Env) (user : User) (db : Database)
    (devices : LocalDevices) (as : List Act) :
    Throughout (step isoformat env user) Kept (start db devices) as ↔
      Along (step isoformat env user) Careful (start db devices) as := by
  refine throughout_iff_along (step isoformat env user) Careful Kept
    (step_kept isoformat env user) (careless_breaks isoformat env user) as (start db devices) ?_
  rintro deviceId ⟨e, he, _⟩
  exact absurd he List.not_mem_nil

/-- The phone's rows of the two devices of the backend. -/
def demoDevices : LocalDevices where
  rows := [⟨"vena-a", "", "online", none, none, none⟩, ⟨"vena-b", "", "online", none, none, none⟩]
  key := by decide

/-- The device is renamed and the list synced before the outbox worker gets to
    the entry. -/
theorem sync_undoes_rename : ¬ ∀ (isoformat : Datetime → String) (env : Env) (user : User)
    (db : Database) (devices : LocalDevices) (as : List Act),
    Throughout (step isoformat env user) Kept (start db devices) as := by
  intro hall
  have hkept := throughout_last _ _ [.rename "vena-a" "Quarto", .queue 0 10, .sync, .answer 0,
    .respond 0, .upsert 0] _ _ (hall (fun _ => "") Access.demoEnv Access.demoUser Outbox.demoDb
      demoDevices _) rfl
  exact absurd (hkept "vena-a" (by decide)) (by decide)

end DeviceSync

end Mobile

end Vena
