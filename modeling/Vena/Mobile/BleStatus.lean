import Vena.Mobile.BleService

/-!
# The status of the BLE service

The scans of `BleService` share `_status` with its connections: a scan writes
`scanning` when it starts and `disconnected` when it ends, whatever the link to
a board is. The pairing flow keeps a link while it scans anew. Two more writes
look away from the link: `connectToDevice` announces a new connection without
dropping the board of the last one, and an error of the connection, unlike its
end, leaves the board in `_connectedDeviceId`.

The status is never `connected` without a board. It reflects the link from
beginning to end in exactly the runs where none of these happens to a service
that has one.

## Main definitions

* `Scanner`: The service with its scan.
* `step`: The scans and the connections of the service, interleaved.
* `Reflects`: The status is `connected` exactly when there is a link.
* `writesOver`: The actions that overwrite the status unseen.

## Theorems

* `linked_of_run`: A status of `connected` comes with a board.
* `reflects_iff_unlinked`: When the status reflects the link from beginning to
  end.
-/

namespace Vena

namespace Mobile

namespace BleStatus

open Run BleService

/-- The service, and whether the scan of `_scanSub` is still on. -/
structure Scanner where
  service : Service
  scanSub : Bool
  deriving DecidableEq, Repr

def initial : Scanner where
  service := BleService.initial
  scanSub := false

/-- `_emitState`. -/
def emitState (status : BleConnectionStatus) (s : Service) : Service := { s with status := status }

def startScan (s : Scanner) : Scanner where
  service := emitState .scanning s.service
  -- The last scan is cancelled, so its end is never seen.
  scanSub := true

/-- The stream goes to the caller, so the service never learns of its end. -/
def scanForVenaDevices (s : Scanner) : Scanner :=
  { s with service := emitState .scanning s.service }

/-- The end of a scan, in `onDone` and in `stopScan`. -/
def scanEnded (s : Scanner) : Scanner where
  service := if s.service.status = .scanning then emitState .disconnected s.service else s.service
  scanSub := false

inductive Action where
  | startScan
  | scanForVenaDevices
  | stopScan
  /-- The scan of `startScan` runs into its timeout. -/
  | scanDone
  /-- The connection, and what `BleService` does with it. -/
  | service (a : BleService.Action)
  deriving DecidableEq, Repr

def step (own : String → String) (s : Scanner) : Action → Option Scanner
  | .startScan => some (startScan s)
  | .scanForVenaDevices => some (scanForVenaDevices s)
  | .stopScan => some (scanEnded s)
  | .scanDone => if s.scanSub then some (scanEnded s) else none
  | .service a =>
    (BleService.step own s.service a).map (fun service => { s with service := service })

def Reflects (s : Scanner) : Prop :=
  s.service.status = .connected ↔ s.service.connectedDeviceId ≠ none

instance (s : Scanner) : Decidable (Reflects s) :=
  inferInstanceAs (Decidable (s.service.status = .connected ↔ s.service.connectedDeviceId ≠ none))

def writesOver : Action → Bool
  | .startScan | .scanForVenaDevices => true
  | .service (.connectToDevice _) | .service .connectionError => true
  | _ => false

/-- A write that does not look at the link comes when there is none. -/
def Unlinked (s : Scanner) (a : Action) : Prop :=
  writesOver a = true → s.service.connectedDeviceId = none

instance (s : Scanner) (a : Action) : Decidable (Unlinked s a) :=
  inferInstanceAs (Decidable (writesOver a = true → s.service.connectedDeviceId = none))

section Steps

variable (own : String → String) (s t : Service)

/-- What a step of the service does to its status and its link. -/
inductive Moves : BleService.Action → Prop where
  | announced (id : String) (hstatus : t.status = .connecting)
      (hlink : t.connectedDeviceId = s.connectedDeviceId) : Moves (.connectToDevice id)
  | failed (hstatus : t.status = .disconnected)
      (hlink : t.connectedDeviceId = s.connectedDeviceId) : Moves .connectionError
  | linked (a : BleService.Action) (hwrites : writesOver (.service a) = false)
      (hstatus : t.status = .connected) (hlink : t.connectedDeviceId ≠ none) : Moves a
  | dropped (a : BleService.Action) (hwrites : writesOver (.service a) = false)
      (hstatus : t.status = .disconnected) (hlink : t.connectedDeviceId = none) : Moves a
  | kept (a : BleService.Action) (hwrites : writesOver (.service a) = false)
      (hstatus : t.status = s.status)
      (hlink : t.connectedDeviceId = s.connectedDeviceId) : Moves a

theorem service_moves (a : BleService.Action) (hstep : BleService.step own s a = some t) :
    Moves s t a := by
  cases a with
  | connectToDevice id =>
      rw [BleService.step, Option.some.injEq] at hstep
      subst hstep
      exact .announced id rfl rfl
  | disconnectDevice =>
      rw [BleService.step, Option.some.injEq] at hstep
      subst hstep
      exact .dropped _ rfl rfl rfl
  | readDeviceId =>
      rw [BleService.step, Option.some.injEq] at hstep
      subst hstep
      exact .kept _ rfl rfl rfl
  | connected =>
      cases hsub : s.connectionSub with
      | none => simp only [BleService.step, hsub, reduceCtorEq] at hstep
      | some id =>
          simp only [BleService.step, hsub, Option.some.injEq] at hstep
          subst hstep
          exact .linked _ rfl rfl (Option.some_ne_none id)
  | disconnected =>
      cases hsub : s.connectionSub with
      | none => simp only [BleService.step, hsub, reduceCtorEq] at hstep
      | some id =>
          simp only [BleService.step, hsub, Option.some.injEq] at hstep
          subst hstep
          exact .dropped _ rfl rfl rfl
  | connectionError =>
      cases hsub : s.connectionSub with
      | none => simp only [BleService.step, hsub, reduceCtorEq] at hstep
      | some id =>
          simp only [BleService.step, hsub, Option.some.injEq] at hstep
          subst hstep
          exact .failed rfl rfl
  | negotiated i =>
      simp only [BleService.step] at hstep
      split at hstep
      · cases hstep
        exact .kept _ rfl rfl rfl
      · cases hstep
  | read i info =>
      simp only [BleService.step] at hstep
      split at hstep
      · cases hstep
        exact .kept _ rfl rfl rfl
      · cases hstep
  | subscribe i =>
      simp only [BleService.step] at hstep
      split at hstep
      · cases hstep
        exact .kept _ rfl rfl rfl
      · cases hstep
  | notify =>
      cases hsub : s.notifySub with
      | none => simp only [BleService.step, hsub, reduceCtorEq] at hstep
      | some id =>
          simp only [BleService.step, hsub, Option.some.injEq] at hstep
          subst hstep
          exact .kept _ rfl rfl rfl

end Steps

section Scans

variable (own : String → String) (s t : Scanner)

/-- The end of a scan changes nothing that the status says of the link. -/
theorem reflects_scanEnded (h : Reflects s) : Reflects (scanEnded s) := by
  by_cases hscan : s.service.status = .scanning
  · have hnone : s.service.connectedDeviceId = none := by
      by_contra hsome
      have hconnected := h.mpr hsome
      rw [hscan] at hconnected
      cases hconnected
    simp only [Reflects, scanEnded, if_pos hscan, emitState, hnone, reduceCtorEq, ne_eq,
      not_true_eq_false]
  · simpa only [Reflects, scanEnded, if_neg hscan] using h

theorem linked_scanEnded
    (h : s.service.status = .connected → s.service.connectedDeviceId ≠ none) :
    (scanEnded s).service.status = .connected →
      (scanEnded s).service.connectedDeviceId ≠ none := by
  by_cases hscan : s.service.status = .scanning
  · simp only [scanEnded, if_pos hscan, emitState, reduceCtorEq, false_implies]
  · simpa only [scanEnded, if_neg hscan] using h

/-- A status that says nothing of a link reflects that there is none. -/
theorem reflects_iff_of_ne (hstatus : t.service.status ≠ .connected) :
    Reflects t ↔ t.service.connectedDeviceId = none := by
  simp only [Reflects, hstatus, ne_eq, false_iff, not_not]

/-- What looks at the link before it writes can come at any time. -/
theorem unlinked_of_not_writesOver (a : Action) (h : writesOver a = false) : Unlinked s a := by
  intro htrue
  rw [h] at htrue
  cases htrue

/-- A step keeps the status true to the link unless it writes over one. -/
theorem reflects_step (a : Action) (h : Reflects s) (hstep : step own s a = some t) :
    Reflects t ↔ Unlinked s a := by
  cases a with
  | startScan =>
      rw [step, Option.some.injEq] at hstep
      subst hstep
      -- A scan announces itself without a look at the link.
      have hstatus : (startScan s).service.status ≠ .connected := by
        simp only [startScan, emitState, ne_eq, reduceCtorEq, not_false_eq_true]
      rw [reflects_iff_of_ne _ hstatus]
      simp only [Unlinked, writesOver, true_implies, startScan, emitState]
  | scanForVenaDevices =>
      rw [step, Option.some.injEq] at hstep
      subst hstep
      have hstatus : (scanForVenaDevices s).service.status ≠ .connected := by
        simp only [scanForVenaDevices, emitState, ne_eq, reduceCtorEq, not_false_eq_true]
      rw [reflects_iff_of_ne _ hstatus]
      simp only [Unlinked, writesOver, true_implies, scanForVenaDevices, emitState]
  | stopScan =>
      rw [step, Option.some.injEq] at hstep
      subst hstep
      exact iff_of_true (reflects_scanEnded s h) (unlinked_of_not_writesOver s _ rfl)
  | scanDone =>
      rw [step, Option.ite_none_right_eq_some, Option.some.injEq] at hstep
      obtain ⟨_, rfl⟩ := hstep
      exact iff_of_true (reflects_scanEnded s h) (unlinked_of_not_writesOver s _ rfl)
  -- Of the moves of the service only the first two leave a link alone and
  -- announce another status.
  | service a =>
      rw [step, Option.map_eq_some_iff] at hstep
      obtain ⟨service, hservice, rfl⟩ := hstep
      cases service_moves own s.service service a hservice with
      | announced id hstatus hlink =>
          rw [reflects_iff_of_ne _ (by rw [hstatus]; decide)]
          simp only [Unlinked, writesOver, true_implies, hlink]
      | failed hstatus hlink =>
          rw [reflects_iff_of_ne _ (by rw [hstatus]; decide)]
          simp only [Unlinked, writesOver, true_implies, hlink]
      | linked _ hwrites hstatus hlink =>
          exact iff_of_true (iff_of_true hstatus hlink) (unlinked_of_not_writesOver s _ hwrites)
      | dropped _ hwrites hstatus hlink =>
          have ht := (reflects_iff_of_ne { s with service } (by rw [hstatus]; decide)).mpr hlink
          exact iff_of_true ht (unlinked_of_not_writesOver s _ hwrites)
      | kept _ hwrites hstatus hlink =>
          have ht : Reflects { s with service } := by
            simpa only [Reflects, hstatus, hlink] using h
          exact iff_of_true ht (unlinked_of_not_writesOver s _ hwrites)

/-- The status of a service without a board is never `connected`. -/
theorem linked_step (a : Action)
    (h : s.service.status = .connected → s.service.connectedDeviceId ≠ none)
    (hstep : step own s a = some t) :
    t.service.status = .connected → t.service.connectedDeviceId ≠ none := by
  cases a with
  | startScan =>
      rw [step, Option.some.injEq] at hstep
      subst hstep
      simp only [startScan, emitState, reduceCtorEq, false_implies]
  | scanForVenaDevices =>
      rw [step, Option.some.injEq] at hstep
      subst hstep
      simp only [scanForVenaDevices, emitState, reduceCtorEq, false_implies]
  | stopScan =>
      rw [step, Option.some.injEq] at hstep
      subst hstep
      exact linked_scanEnded s h
  | scanDone =>
      rw [step, Option.ite_none_right_eq_some, Option.some.injEq] at hstep
      obtain ⟨_, rfl⟩ := hstep
      exact linked_scanEnded s h
  | service a =>
      rw [step, Option.map_eq_some_iff] at hstep
      obtain ⟨service, hservice, rfl⟩ := hstep
      cases service_moves own s.service service a hservice with
      | announced id hstatus hlink => simp only [hstatus, reduceCtorEq, false_implies]
      | failed hstatus hlink => simp only [hstatus, reduceCtorEq, false_implies]
      | linked _ hwrites hstatus hlink => exact fun _ => hlink
      | dropped _ hwrites hstatus hlink => simp only [hstatus, reduceCtorEq, false_implies]
      | kept _ hwrites hstatus hlink => simpa only [hstatus, hlink] using h

end Scans

theorem reflects_initial : Reflects initial := by decide

/-- The status is `connected` with a board only, in every run. -/
theorem linked_of_run (own : String → String) (acts : List Action) (t : Scanner)
    (hrun : run (step own) initial acts = some t) (hstatus : t.service.status = .connected) :
    t.service.connectedDeviceId ≠ none :=
  run_invariant (step own)
    (fun s => s.service.status = .connected → s.service.connectedDeviceId ≠ none)
    (fun s a t h hstep => linked_step own s t a h hstep) acts initial t
    reflects_initial.mp hrun hstatus

/-- The status reflects the link in every state of a run exactly when no scan,
    no new connection and no connection error meets a service with a board. -/
theorem reflects_iff_unlinked (own : String → String) (acts : List Action) (t : Scanner)
    (hrun : run (step own) initial acts = some t) :
    Throughout (step own) Reflects initial acts ↔ Along (step own) Unlinked initial acts :=
  throughout_iff_along_of_invariant (step own) Unlinked (fun _ => True) Reflects
    (fun _ _ _ _ _ => trivial) (fun s a t _ h hstep => reflects_step own s t a h hstep)
    acts initial t trivial reflects_initial hrun

/-- A connection, its end, and a scan after it. -/
theorem reflects_iff_unlinked_scan :
    Throughout (step id) Reflects initial
      [.service (.connectToDevice "A4:CF"), .service .connected, .service .disconnectDevice,
        .startScan, .scanDone] :=
  (reflects_iff_unlinked id _ _ rfl).mpr (by decide)

/-- Pairing leaves the link of the last board and scans for the next one. -/
theorem scan_hides_link : ∃ t, run (step id) initial
      [.service (.connectToDevice "A4:CF"), .service .connected, .scanForVenaDevices,
        .stopScan] = some t ∧
    t.service.status = .disconnected ∧ t.service.connectedDeviceId = some "A4:CF" ∧
    ¬ Reflects t :=
  ⟨_, rfl, by decide⟩

end BleStatus

end Mobile

end Vena
