import Vena.Mobile.BleAutoConnect
import Vena.Mobile.BleStatus

/-!
# The Watch of a Detail Screen

`bleAutoConnectProvider` keeps a phone linked to the board of the open screen.
It scans, connects to the board it finds, and starts over when the scan or the
link ends. It is no loop but three callbacks and some timers, and each of them
can decide to do nothing: the scan of another caller overwrites the status that
they look at, a new scan silently cancels the last one, and the stream of status
changes delivers what it was told some time ago. Every other caller shares the
service, the watch of a screen that is just being closed included.

Here any number of screens are opened and closed while anybody calls the service
and the radio reports what it likes. An open screen is never forgotten, and when
only screens connect, the phone has no link once the last of them is closed.

The durations of the scan and of the timers are not in the model: they end at
any time.

## Main definitions

* `Watch`: What the closures of one screen share.
* `startScan`, `found`, `scanDone`, `hear`, `dispose`: The callbacks.
* `step`: The screens, the service and the radio, interleaved.
* `Armed`, `Settled`: Something will make the watch scan, and it does.
* `Idle`: There is no link.

## Theorems

* `watch_persists`: An open screen gets its link or scans again.
* `closed_unlinked`: Closed screens leave no link.
-/

namespace Vena

namespace Mobile

namespace BleWatch

open Run BleService BleStatus BleAutoConnect

/-- What the closures of the provider share, for one screen. -/
structure Watch where
  deviceId : String
  /-- Whether `scanSub` listens to a scan that is still on. -/
  scanSub : Bool
  /-- Whether `connSub` listens. -/
  connSub : Bool
  /-- The status changes that the stream has yet to deliver to `connSub`. -/
  queued : List BleConnectionStatus
  /-- The timers of `Future.delayed`. Nothing cancels them. -/
  retries : Nat
  disposed : Bool
  deriving DecidableEq, Repr

structure Phone where
  scanner : Scanner
  /-- Whether the connection of `_connectionSub` is yet to report its end. -/
  attempt : Bool
  watches : List Watch
  deriving DecidableEq, Repr

def initial : Phone where
  scanner := BleStatus.initial
  attempt := false
  watches := []

/-- Whether a step of the service goes through `_emitState`. -/
def emits (s : Scanner) : BleStatus.Action → Bool
  | .startScan | .scanForVenaDevices => true
  | .stopScan | .scanDone => s.service.status = .scanning
  | .service (.connectToDevice _) | .service .disconnectDevice => true
  | .service .connected | .service .disconnected | .service .connectionError => true
  | .service _ => false

def attemptAfter (attempt : Bool) : BleStatus.Action → Bool
  | .service (.connectToDevice _) | .service .connected => true
  | .service .disconnectDevice => false
  | .service .disconnected | .service .connectionError => false
  | _ => attempt

/-- `_stateController` has a change for the listener. -/
def Watch.queue (status : BleConnectionStatus) (w : Watch) : Watch :=
  if w.connSub then { w with queued := w.queued ++ [status] } else w

/-- The phone after a step of the service. -/
def Phone.after (p : Phone) (a : BleStatus.Action) (scanner : Scanner) : Phone where
  scanner := scanner
  attempt := attemptAfter p.attempt a
  watches :=
    if emits p.scanner a then p.watches.map (Watch.queue scanner.service.status) else p.watches

def Phone.modify (p : Phone) (i : Nat) (f : Watch → Watch) : Phone :=
  { p with watches := p.watches.modify i f }

section Calls

def scanForVenaDevices (p : Phone) : Phone :=
  p.after .scanForVenaDevices (BleStatus.scanForVenaDevices p.scanner)

def connectToDevice (bleId : String) (p : Phone) : Phone :=
  p.after (.service (.connectToDevice bleId))
    { p.scanner with service := BleService.connectToDevice bleId p.scanner.service }

def stopScan (p : Phone) : Phone := p.after .stopScan (scanEnded p.scanner)

def disconnectDevice (p : Phone) : Phone :=
  p.after (.service .disconnectDevice)
    { p.scanner with service := BleService.disconnectDevice p.scanner.service }

end Calls

section Callbacks

variable (i : Nat) (w : Watch) (p : Phone)

def startScan : Phone :=
  if w.disposed then p
  else if p.scanner.service.status = .connected then p
  else
    -- The last scan is cancelled first, so its end is never seen.
    (scanForVenaDevices p).modify i (fun w => { w with scanSub := true })

/-- A board that the scan reports. -/
def found (name bleId : String) : Phone :=
  if looksFor w.deviceId name then
    if w.disposed then p
    else connectToDevice bleId (p.modify i (fun w => { w with scanSub := false }))
  else p

/-- `onDone`, once the scan has run into its timeout. -/
def scanDone : Phone :=
  p.modify i (fun w =>
    if ¬ w.disposed ∧ p.scanner.service.status ≠ .connected then
      { w with scanSub := false, retries := w.retries + 1 }
    else { w with scanSub := false })

/-- The listener of `connectionState`. -/
def hear (status : BleConnectionStatus) (w : Watch) : Watch :=
  if w.disposed then w
  else if status = .disconnected then { w with retries := w.retries + 1 }
  else w

/-- `onDispose`. -/
def dispose : Phone :=
  disconnectDevice (stopScan (p.modify i (fun w =>
    { w with disposed := true, scanSub := false, connSub := false, queued := [] })))

/-- The provider of a device, when its screen is opened. -/
def openScreen (deviceId : String) : Phone :=
  -- Without a name to expect it returns before it registers anything.
  if bleNameFromDeviceId deviceId = "" then p
  else
    let w : Watch := ⟨deviceId, false, true, [], 0, false⟩
    startScan p.watches.length w { p with watches := p.watches ++ [w] }

end Callbacks

inductive Action where
  | openScreen (deviceId : String)
  /-- The scan of the screen reports a board. -/
  | found (i : Nat) (name bleId : String)
  | scanDone (i : Nat)
  /-- The next change is delivered to the screen. -/
  | deliver (i : Nat)
  /-- A timer of the screen fires. -/
  | retry (i : Nat)
  | dispose (i : Nat)
  /-- The radio, and every other caller of the service. -/
  | service (a : BleStatus.Action)
  deriving DecidableEq, Repr

def step (own : String → String) (p : Phone) : Action → Option Phone
  | .openScreen deviceId => some (openScreen p deviceId)
  | .found i name bleId => match p.watches[i]? with
    | none => none
    | some w => if w.scanSub then some (found i w p name bleId) else none
  | .scanDone i => match p.watches[i]? with
    | none => none
    | some w => if w.scanSub then some (scanDone i p) else none
  | .deliver i => match p.watches[i]? with
    | none => none
    | some w => match w.queued with
      | [] => none
      | status :: queued =>
        some (p.modify i (fun w => hear status { w with queued := queued }))
  | .retry i => match p.watches[i]? with
    | none => none
    | some w =>
      if 0 < w.retries then
        some (startScan i w (p.modify i (fun w => { w with retries := w.retries - 1 })))
      else none
  | .dispose i => match p.watches[i]? with
    | none => none
    | some w => if w.disposed then none else some (dispose i p)
  | .service a => (BleStatus.step own p.scanner a).map (p.after a)

/-- The watch scans, or something is on its way that makes it scan, or a
    connection is up or in the air whose end it will be told. -/
def Armed (attempt : Bool) (w : Watch) : Prop :=
  attempt = true ∨ w.scanSub = true ∨ 0 < w.retries ∨ .disconnected ∈ w.queued

/-- What holds of every phone, with the watches that are armed named by `P`. -/
structure Wf (P : Nat → Prop) (p : Phone) : Prop where
  linked : p.scanner.service.status = .connected → p.attempt = true
  hears : ∀ (i : Nat) (w : Watch), p.watches[i]? = some w → w.disposed = false → w.connSub = true
  armed : ∀ (i : Nat) (w : Watch), P i → p.watches[i]? = some w → w.disposed = false →
    Armed p.attempt w

section Service

variable (own : String → String)

/-- Only the end of a connection and its beginning change the status of a
    connected service. -/
theorem service_effect (s t : Service) (a : BleService.Action) (b : Bool) (hscan : Bool)
    (hstep : BleService.step own s a = some t) :
    attemptAfter b (.service a) = true ∨
      (emits ⟨s, hscan⟩ (.service a) = true ∧ t.status = .disconnected) ∨
      (attemptAfter b (.service a) = b ∧ t.status = s.status) := by
  cases a with
  | connectToDevice id => exact Or.inl rfl
  | disconnectDevice =>
      rw [BleService.step, Option.some.injEq] at hstep
      subst hstep
      exact Or.inr (Or.inl ⟨rfl, rfl⟩)
  | readDeviceId =>
      rw [BleService.step, Option.some.injEq] at hstep
      subst hstep
      exact Or.inr (Or.inr ⟨rfl, rfl⟩)
  | connected => exact Or.inl rfl
  | disconnected =>
      cases hsub : s.connectionSub with
      | none => simp only [BleService.step, hsub, reduceCtorEq] at hstep
      | some id =>
          simp only [BleService.step, hsub, Option.some.injEq] at hstep
          subst hstep
          exact Or.inr (Or.inl ⟨rfl, rfl⟩)
  | connectionError =>
      cases hsub : s.connectionSub with
      | none => simp only [BleService.step, hsub, reduceCtorEq] at hstep
      | some id =>
          simp only [BleService.step, hsub, Option.some.injEq] at hstep
          subst hstep
          exact Or.inr (Or.inl ⟨rfl, rfl⟩)
  -- What goes on after an await leaves the status alone.
  | negotiated i =>
      simp only [BleService.step] at hstep
      split at hstep
      · cases hstep
        exact Or.inr (Or.inr ⟨rfl, rfl⟩)
      · cases hstep
  | read i info =>
      simp only [BleService.step] at hstep
      split at hstep
      · cases hstep
        exact Or.inr (Or.inr ⟨rfl, rfl⟩)
      · cases hstep
  | subscribe i =>
      simp only [BleService.step] at hstep
      split at hstep
      · cases hstep
        exact Or.inr (Or.inr ⟨rfl, rfl⟩)
      · cases hstep
  | notify =>
      cases hsub : s.notifySub with
      | none => simp only [BleService.step, hsub, reduceCtorEq] at hstep
      | some id =>
          simp only [BleService.step, hsub, Option.some.injEq] at hstep
          subst hstep
          exact Or.inr (Or.inr ⟨rfl, rfl⟩)

theorem scanEnded_status (s : Scanner) (h : (scanEnded s).service.status = .connected) :
    s.service.status = .connected := by
  rw [scanEnded] at h
  split at h
  · cases h
  · exact h

/-- After a step of the service a connection is in the air, or the watches are
    told that there is none, or all is as it was. -/
theorem step_effect (s t : Scanner) (a : BleStatus.Action) (b : Bool)
    (hstep : BleStatus.step own s a = some t) :
    attemptAfter b a = true ∨
      (emits s a = true ∧ t.service.status = .disconnected) ∨
      (attemptAfter b a = b ∧ (t.service.status = .connected → s.service.status = .connected)) := by
  cases a with
  | startScan =>
      rw [BleStatus.step, Option.some.injEq] at hstep
      subst hstep
      exact Or.inr (Or.inr ⟨rfl, fun h => by cases h⟩)
  | scanForVenaDevices =>
      rw [BleStatus.step, Option.some.injEq] at hstep
      subst hstep
      exact Or.inr (Or.inr ⟨rfl, fun h => by cases h⟩)
  | stopScan =>
      rw [BleStatus.step, Option.some.injEq] at hstep
      subst hstep
      exact Or.inr (Or.inr ⟨rfl, scanEnded_status s⟩)
  | scanDone =>
      rw [BleStatus.step, Option.ite_none_right_eq_some, Option.some.injEq] at hstep
      obtain ⟨_, rfl⟩ := hstep
      exact Or.inr (Or.inr ⟨rfl, scanEnded_status s⟩)
  | service a =>
      rw [BleStatus.step, Option.map_eq_some_iff] at hstep
      obtain ⟨service, hservice, rfl⟩ := hstep
      rcases service_effect own s.service service a b s.scanSub hservice with hup | hdown | hkept
      · exact Or.inl hup
      · exact Or.inr (Or.inl hdown)
      · exact Or.inr (Or.inr ⟨hkept.1, fun h => hkept.2 ▸ h⟩)

end Service

section Queues

variable (status : BleConnectionStatus) (w : Watch)

@[simp] theorem queue_disposed : (w.queue status).disposed = w.disposed := by
  rw [Watch.queue]
  split <;> rfl

@[simp] theorem queue_connSub : (w.queue status).connSub = w.connSub := by
  rw [Watch.queue]
  split <;> rfl

@[simp] theorem queue_scanSub : (w.queue status).scanSub = w.scanSub := by
  rw [Watch.queue]
  split <;> rfl

@[simp] theorem queue_retries : (w.queue status).retries = w.retries := by
  rw [Watch.queue]
  split <;> rfl

theorem queued_queue (h : w.connSub = true) : (w.queue status).queued = w.queued ++ [status] := by
  rw [Watch.queue, if_pos h]

theorem mem_queued_queue (x : BleConnectionStatus) (h : x ∈ w.queued) :
    x ∈ (w.queue status).queued := by
  rw [Watch.queue]
  split
  · exact List.mem_append_left _ h
  · exact h

/-- A change more on its way does no harm. -/
theorem armed_queue (attempt : Bool) (h : Armed attempt w) : Armed attempt (w.queue status) := by
  rcases h with h | h | h | h
  · exact Or.inl h
  · exact Or.inr (Or.inl ((queue_scanSub status w).trans h))
  · exact Or.inr (Or.inr (Or.inl (by rwa [queue_retries])))
  · exact Or.inr (Or.inr (Or.inr (mem_queued_queue status w _ h)))

end Queues

section Phones

variable (own : String → String) (P : Nat → Prop) (p : Phone)

/-- The watch of a screen after a step of the service. -/
theorem watch_after (a : BleStatus.Action) (t : Scanner) (i : Nat) (w : Watch)
    (h : (p.after a t).watches[i]? = some w) :
    ∃ v, p.watches[i]? = some v ∧
      (w = v ∧ emits p.scanner a = false ∨
        w = v.queue t.service.status ∧ emits p.scanner a = true) := by
  rw [Phone.after] at h
  dsimp only at h
  cases hemits : emits p.scanner a with
  | true =>
      rw [if_pos hemits, List.getElem?_map, Option.map_eq_some_iff] at h
      obtain ⟨v, hv, rfl⟩ := h
      exact ⟨v, hv, Or.inr ⟨rfl, rfl⟩⟩
  | false =>
      rw [hemits, if_neg Bool.false_ne_true] at h
      exact ⟨w, h, Or.inl ⟨rfl, rfl⟩⟩

theorem watch_modify (i j : Nat) (f : Watch → Watch) (w : Watch)
    (h : (p.modify i f).watches[j]? = some w) :
    ∃ v, p.watches[j]? = some v ∧ w = if i = j then f v else v := by
  rw [Phone.modify, List.getElem?_modify] at h
  obtain ⟨v, hv, hw⟩ := Option.map_eq_some_iff.mp h
  exact ⟨v, hv, hw.symm⟩

theorem wf_after (a : BleStatus.Action) (t : Scanner) (h : Wf P p)
    (hstep : BleStatus.step own p.scanner a = some t) : Wf P (p.after a t) := by
  have heffect := step_effect own p.scanner t a p.attempt hstep
  refine ⟨fun hstatus => ?_, fun i w hw hopen => ?_, fun i w hi hw hopen => ?_⟩
  · rcases heffect with hup | ⟨_, hdown⟩ | ⟨hsame, hbefore⟩
    · exact hup
    · rw [Phone.after, hdown] at hstatus
      cases hstatus
    · exact hsame.trans (h.linked (hbefore hstatus))
  · obtain ⟨v, hv, ⟨rfl, _⟩ | ⟨rfl, _⟩⟩ := watch_after p a t i w hw
    · exact h.hears i w hv hopen
    · rw [queue_connSub]
      exact h.hears i v hv ((queue_disposed _ v).symm.trans hopen)
  · obtain ⟨v, hv, hw⟩ := watch_after p a t i w hw
    rcases heffect with hup | ⟨hemits, hdown⟩ | ⟨hsame, _⟩
    · exact Or.inl hup
    -- The end of the connection is on its way to the watch.
    · rcases hw with ⟨_, hquiet⟩ | ⟨rfl, _⟩
      · exact absurd (hemits.symm.trans hquiet) Bool.noConfusion
      · rw [queue_disposed] at hopen
        refine Or.inr (Or.inr (Or.inr ?_))
        rw [queued_queue _ v (h.hears i v hv hopen), hdown]
        exact List.mem_append_right _ List.mem_cons_self
    · rw [show (p.after a t).attempt = p.attempt from hsame]
      rcases hw with ⟨rfl, _⟩ | ⟨rfl, _⟩
      · exact h.armed i w hi hv hopen
      · exact armed_queue _ v _ (h.armed i v hi hv ((queue_disposed _ v).symm.trans hopen))

/-- A change to one watch. -/
theorem wf_modify (Q : Nat → Prop) (i : Nat) (f : Watch → Watch) (h : Wf P p)
    (hhears : ∀ w, (f w).disposed = false → w.disposed = false ∧ (f w).connSub = w.connSub)
    (harmed : ∀ w, Q i → p.watches[i]? = some w → (f w).disposed = false → Armed p.attempt (f w))
    (hQ : ∀ j, j ≠ i → Q j → P j) : Wf Q (p.modify i f) := by
  refine ⟨h.linked, fun j w hw hopen => ?_, fun j w hj hw hopen => ?_⟩
  · obtain ⟨v, hv, rfl⟩ := watch_modify p i j f w hw
    by_cases hij : i = j
    · rw [if_pos hij] at hopen ⊢
      have hboth := hhears v hopen
      exact hboth.2.trans (h.hears j v hv hboth.1)
    · rw [if_neg hij] at hopen ⊢
      exact h.hears j v hv hopen
  · obtain ⟨v, hv, rfl⟩ := watch_modify p i j f w hw
    by_cases hij : i = j
    · subst hij
      rw [if_pos rfl] at hopen ⊢
      exact harmed v hj hv hopen
    · rw [if_neg hij] at hopen ⊢
      exact h.armed j v (hQ j (fun heq => hij heq.symm) hj) hv hopen

/-- One more watch is armed. -/
theorem wf_extend (Q : Nat → Prop) (i : Nat) (h : Wf P p)
    (harmed : ∀ w, p.watches[i]? = some w → w.disposed = false → Armed p.attempt w)
    (hQ : ∀ j, j ≠ i → Q j → P j) : Wf Q p := by
  refine ⟨h.linked, h.hears, fun j w hj hw hopen => ?_⟩
  by_cases hij : j = i
  · subst hij
    exact harmed w hw hopen
  · exact h.armed j w (hQ j hij hj) hw hopen

/-- A connection in the air arms every watch. -/
theorem wf_of_attempt (Q : Nat → Prop) (h : Wf P p) (hup : p.attempt = true) : Wf Q p :=
  ⟨h.linked, h.hears, fun _ _ _ _ _ => Or.inl hup⟩

/-- However it ends, `startScan` leaves its watch armed. -/
theorem wf_startScan (Q : Nat → Prop) (i : Nat) (w : Watch) (h : Wf P p)
    (hw : ∀ v, p.watches[i]? = some v → v.disposed = w.disposed)
    (hQ : ∀ j, j ≠ i → Q j → P j) : Wf Q (startScan i w p) := by
  rw [startScan]
  by_cases hdisposed : w.disposed = true
  · rw [if_pos hdisposed]
    refine wf_extend P p Q i h (fun v hv hopen => ?_) hQ
    rw [hw v hv, hdisposed] at hopen
    cases hopen
  · rw [if_neg hdisposed]
    by_cases hstatus : p.scanner.service.status = .connected
    · rw [if_pos hstatus]
      exact wf_of_attempt P p Q h (h.linked hstatus)
    · rw [if_neg hstatus]
      exact wf_modify P _ Q i _ (wf_after id P p .scanForVenaDevices _ h rfl)
        (fun v hopen => ⟨hopen, rfl⟩) (fun v _ _ _ => Or.inr (Or.inl rfl)) hQ

theorem wf_connectToDevice (Q : Nat → Prop) (bleId : String) (h : Wf P p) :
    Wf Q (connectToDevice bleId p) :=
  wf_of_attempt P _ Q (wf_after id P p (.service (.connectToDevice bleId)) _ h rfl) rfl

theorem wf_dispose (i : Nat) (h : Wf P p) : Wf P (dispose i p) :=
  wf_after id P _ (.service .disconnectDevice) _
    (wf_after id P _ .stopScan _
      (wf_modify P p P i _ h (fun w hopen => by cases hopen) (fun w _ _ hopen => by cases hopen)
        (fun _ _ hj => hj)) rfl) rfl

/-- A screen listens for changes before it starts to scan. -/
theorem wf_openScreen (deviceId : String) (h : Wf (fun _ => True) p) :
    Wf (fun _ => True) (openScreen p deviceId) := by
  rw [openScreen]
  split
  · exact h
  · refine wf_startScan (fun j => j ≠ p.watches.length) _ _ p.watches.length _
      ⟨h.linked, fun j v hv hopen => ?_, fun j v hj hv hopen => ?_⟩ (fun v hv => ?_)
      (fun _ hj _ => hj)
    · rcases Processes.getElem?_concat_cases _ j _ v hv with hold | ⟨_, rfl⟩
      · exact h.hears j v hold hopen
      · rfl
    · rcases Processes.getElem?_concat_cases _ j _ v hv with hold | ⟨hlast, _⟩
      · exact h.armed j v trivial hold hopen
      · exact absurd hlast hj
    · rw [List.getElem?_concat_length, Option.some.injEq] at hv
      rw [← hv]

theorem wf_found (i : Nat) (w : Watch) (name bleId : String) (h : Wf (fun _ => True) p) :
    Wf (fun _ => True) (found i w p name bleId) := by
  rw [found]
  split
  · split
    · exact h
    · exact wf_connectToDevice (fun j => j ≠ i) _ _ bleId
        (wf_modify (fun _ => True) p _ i _ h (fun v hopen => ⟨hopen, rfl⟩)
          (fun v hi => absurd rfl hi) (fun _ _ _ => trivial))
  · exact h

theorem wf_scanDone (i : Nat) (h : Wf (fun _ => True) p) :
    Wf (fun _ => True) (scanDone i p) := by
  refine wf_modify _ p _ i _ h (fun v hopen => ?_) (fun v _ _ hopen => ?_) (fun _ _ hj => hj)
  · split at hopen
    · rename_i hcond
      rw [if_pos hcond]
      exact ⟨hopen, rfl⟩
    · rename_i hcond
      rw [if_neg hcond]
      exact ⟨hopen, rfl⟩
  · by_cases hcond : ¬ v.disposed = true ∧ p.scanner.service.status ≠ .connected
    · rw [if_pos hcond]
      exact Or.inr (Or.inr (Or.inl (Nat.succ_pos _)))
    -- The screen is open, so the service is connected.
    · rw [if_neg hcond] at hopen
      refine Or.inl (h.linked ?_)
      by_contra hstatus
      exact hcond ⟨by rw [show v.disposed = false from hopen]; exact Bool.false_ne_true, hstatus⟩

theorem hear_disposed (status : BleConnectionStatus) (w : Watch) :
    (hear status w).disposed = w.disposed ∧ (hear status w).connSub = w.connSub := by
  rw [hear]
  split
  · exact ⟨rfl, rfl⟩
  · split <;> exact ⟨rfl, rfl⟩

theorem wf_deliver (i : Nat) (w : Watch) (status : BleConnectionStatus)
    (queued : List BleConnectionStatus) (h : Wf (fun _ => True) p)
    (hw : p.watches[i]? = some w) (hqueued : w.queued = status :: queued) :
    Wf (fun _ => True) (p.modify i (fun w => hear status { w with queued := queued })) := by
  refine wf_modify _ p _ i _ h (fun v hopen => ?_) (fun v _ hv hopen => ?_) (fun _ _ hj => hj)
  · have hsame := hear_disposed status { v with queued := queued }
    exact ⟨hsame.1.symm.trans hopen, hsame.2⟩
  · obtain rfl : w = v := Option.some.inj (hw.symm.trans hv)
    rw [(hear_disposed _ _).1] at hopen
    have hopen' : ¬ w.disposed = true := by
      rw [show w.disposed = false from hopen]
      exact Bool.false_ne_true
    rw [hear, if_neg hopen']
    by_cases hstatus : status = .disconnected
    · rw [if_pos hstatus]
      exact Or.inr (Or.inr (Or.inl (Nat.succ_pos _)))
    · rw [if_neg hstatus]
      rcases h.armed i w trivial hw hopen with harmed | harmed | harmed | harmed
      · exact Or.inl harmed
      · exact Or.inr (Or.inl harmed)
      · exact Or.inr (Or.inr (Or.inl harmed))
      · rw [hqueued, List.mem_cons] at harmed
        exact Or.inr (Or.inr (Or.inr (harmed.resolve_left (fun heq => hstatus heq.symm))))

theorem wf_retry (i : Nat) (w : Watch) (h : Wf (fun _ => True) p)
    (hw : p.watches[i]? = some w) :
    Wf (fun _ => True)
      (startScan i w (p.modify i (fun w => { w with retries := w.retries - 1 }))) := by
  refine wf_startScan (fun j => j ≠ i) _ _ i w
    (wf_modify (fun _ => True) p _ i _ h (fun v hopen => ⟨hopen, rfl⟩)
      (fun v hi => absurd rfl hi) (fun _ _ _ => trivial)) (fun v hv => ?_) (fun _ hj _ => hj)
  obtain ⟨u, hu, rfl⟩ := watch_modify p i i _ v hv
  rw [if_pos rfl, Option.some.inj (hw.symm.trans hu)]

end Phones

variable (own : String → String)

/-- No action leaves an open screen with nothing to wait for. -/
theorem step_wf (p q : Phone) (a : Action) (h : Wf (fun _ => True) p)
    (hstep : step own p a = some q) : Wf (fun _ => True) q := by
  cases a with
  | openScreen deviceId =>
      rw [step, Option.some.injEq] at hstep
      exact hstep ▸ wf_openScreen p deviceId h
  | found i name bleId =>
      cases hw : p.watches[i]? with
      | none => simp only [step, hw, reduceCtorEq] at hstep
      | some w =>
          simp only [step, hw, Option.ite_none_right_eq_some, Option.some.injEq] at hstep
          exact hstep.2 ▸ wf_found p i w name bleId h
  | scanDone i =>
      cases hw : p.watches[i]? with
      | none => simp only [step, hw, reduceCtorEq] at hstep
      | some w =>
          simp only [step, hw, Option.ite_none_right_eq_some, Option.some.injEq] at hstep
          exact hstep.2 ▸ wf_scanDone p i h
  | deliver i =>
      cases hw : p.watches[i]? with
      | none => simp only [step, hw, reduceCtorEq] at hstep
      | some w =>
          cases hqueued : w.queued with
          | nil => simp only [step, hw, hqueued, reduceCtorEq] at hstep
          | cons status queued =>
              simp only [step, hw, hqueued, Option.some.injEq] at hstep
              exact hstep ▸ wf_deliver p i w status queued h hw hqueued
  | retry i =>
      cases hw : p.watches[i]? with
      | none => simp only [step, hw, reduceCtorEq] at hstep
      | some w =>
          simp only [step, hw, Option.ite_none_right_eq_some, Option.some.injEq] at hstep
          exact hstep.2 ▸ wf_retry p i w h hw
  | dispose i =>
      cases hw : p.watches[i]? with
      | none => simp only [step, hw, reduceCtorEq] at hstep
      | some w =>
          simp only [step, hw, Option.ite_none_left_eq_some, Option.some.injEq] at hstep
          exact hstep.2 ▸ wf_dispose _ p i h
  | service a =>
      rw [step, Option.map_eq_some_iff] at hstep
      obtain ⟨t, ht, rfl⟩ := hstep
      exact wf_after own _ p a t h ht

theorem wf_initial : Wf (fun _ => True) initial where
  linked := fun h => by cases h
  hears := fun i w hw => by simp only [initial, List.getElem?_nil, reduceCtorEq] at hw
  armed := fun i w _ hw => by simp only [initial, List.getElem?_nil, reduceCtorEq] at hw

theorem run_wf (as : List Action) (p : Phone) (hrun : run (step own) initial as = some p) :
    Wf (fun _ => True) p :=
  run_invariant (step own) (Wf (fun _ => True)) (fun s a t h hs => step_wf own s t a h hs)
    as initial p wf_initial hrun

section Progress

variable (p : Phone) (i : Nat) (w : Watch)

theorem modify_watch (f : Watch → Watch) (h : p.watches[i]? = some w) :
    (p.modify i f).watches[i]? = some (f w) := by
  rw [Phone.modify, List.getElem?_modify_eq, h, Option.map_eq_map, Option.map_some]

theorem after_watch (a : BleStatus.Action) (t : Scanner) (h : p.watches[i]? = some w) :
    ∃ v, (p.after a t).watches[i]? = some v ∧ v.disposed = w.disposed := by
  cases hemits : emits p.scanner a with
  | true =>
      refine ⟨w.queue t.service.status, ?_, queue_disposed _ w⟩
      simp only [Phone.after, hemits, if_true, List.getElem?_map, h, Option.map_some]
  | false =>
      refine ⟨w, ?_, rfl⟩
      simp only [Phone.after, hemits, Bool.false_eq_true, if_false, h]

/-- A timer that finds its screen open and no link makes it scan. -/
theorem startScan_scans (v : Watch) (hv : p.watches[i]? = some v) (hopen : w.disposed = false)
    (hstatus : p.scanner.service.status ≠ .connected) :
    ∃ u, (startScan i w p).watches[i]? = some u ∧ u.scanSub = true ∧
      u.disposed = v.disposed := by
  obtain ⟨u, hu, hsame⟩ := after_watch p i v .scanForVenaDevices
    (BleStatus.scanForVenaDevices p.scanner) hv
  have hopen' : ¬ w.disposed = true := by
    rw [hopen]
    exact Bool.false_ne_true
  refine ⟨{ u with scanSub := true }, ?_, rfl, hsame⟩
  rw [startScan, if_neg hopen', if_neg hstatus]
  exact modify_watch _ i u _ hu

/-- The watch has its scan, or a connection is up or in the air. -/
def Settled (i : Nat) (p : Phone) : Prop :=
  p.attempt = true ∨ ∃ w, p.watches[i]? = some w ∧ w.scanSub = true

/-- A queued change can turn into a timer and a timer into a scan. -/
def waiting (i : Nat) (p : Phone) : Nat :=
  match p.watches[i]? with
  | none => 0
  | some w => if w.scanSub then 0 else 1 + 2 * w.queued.length + w.retries

theorem waiting_of_watch (h : p.watches[i]? = some w) (hscan : w.scanSub = false) :
    waiting i p = 1 + 2 * w.queued.length + w.retries := by
  simp only [waiting, h, hscan, Bool.false_eq_true, if_false]

theorem retries_hear (status : BleConnectionStatus) :
    (hear status w).retries ≤ w.retries + 1 ∧ (hear status w).scanSub = w.scanSub ∧
      (hear status w).queued = w.queued := by
  rw [hear]
  split
  · exact ⟨Nat.le_succ _, rfl, rfl⟩
  · split
    · exact ⟨Nat.le_refl _, rfl, rfl⟩
    · exact ⟨Nat.le_succ _, rfl, rfl⟩

/-- What an open screen that has nothing yet can do on its own. -/
theorem step_waiting (own : String → String) (h : Wf (fun _ => True) p)
    (hw : p.watches[i]? = some w) (hopen : w.disposed = false) :
    Settled i p ∨ ∃ a q, (a = .deliver i ∨ a = .retry i) ∧ step own p a = some q ∧
      (∃ v, q.watches[i]? = some v ∧ v.disposed = false) ∧ waiting i q < waiting i p := by
  cases hscan : w.scanSub with
  | true => exact Or.inl (Or.inr ⟨w, hw, hscan⟩)
  | false =>
    have hwaiting := waiting_of_watch p i w hw hscan
    by_cases hup : p.attempt = true
    · exact Or.inl (Or.inl hup)
    · have hstatus : p.scanner.service.status ≠ .connected := fun heq => hup (h.linked heq)
      rcases h.armed i w trivial hw hopen with harmed | harmed | harmed | harmed
      · exact absurd harmed hup
      · exact absurd (hscan.symm.trans harmed) Bool.false_ne_true
      -- The timer makes it scan.
      · obtain ⟨u, hu, hscans, hsame⟩ := startScan_scans
          (p.modify i (fun w => { w with retries := w.retries - 1 })) i w _
          (modify_watch p i w _ hw) hopen hstatus
        refine Or.inr ⟨.retry i, _, Or.inr rfl, ?_, ⟨u, hu, hsame.trans hopen⟩, ?_⟩
        · simp only [step, hw, harmed, if_true]
        · rw [hwaiting]
          simp only [waiting, hu, hscans, if_true]
          omega
      -- The next change is delivered; it may be the end of the connection.
      · cases hqueued : w.queued with
        | nil =>
            rw [hqueued] at harmed
            exact absurd harmed List.not_mem_nil
        | cons status queued =>
            have hnext := modify_watch p i w (fun w => hear status { w with queued := queued }) hw
            have hheard := retries_hear { w with queued := queued } status
            have hsame := hear_disposed status { w with queued := queued }
            refine Or.inr ⟨.deliver i, _, Or.inl rfl, ?_, ⟨_, hnext, hsame.1.trans hopen⟩, ?_⟩
            · simp only [step, hw, hqueued]
            · rw [hwaiting, hqueued, waiting_of_watch _ i _ hnext (hheard.2.1.trans hscan),
                hheard.2.2, List.length_cons]
              have hretries := hheard.1
              dsimp only at hretries ⊢
              omega

end Progress

/-- An open screen never gives up: in every state of every run a connection is up
    or in the air whose end it will be told, or what is on its way to the screen
    alone, its queued changes and its timers, makes it scan. -/
theorem watch_persists (own : String → String) (as : List Action) (p : Phone)
    (hrun : run (step own) initial as = some p) (i : Nat) (w : Watch)
    (hw : p.watches[i]? = some w) (hopen : w.disposed = false) :
    ∃ bs q, (∀ b ∈ bs, b = .deliver i ∨ b = .retry i) ∧ run (step own) p bs = some q ∧
      Settled i q := by
  have hown : ∀ s, (Wf (fun _ => True) s ∧ ∃ v, s.watches[i]? = some v ∧ v.disposed = false) →
      Settled i s ∨ ∃ a t, (a = .deliver i ∨ a = .retry i) ∧ step own s a = some t ∧
        (Wf (fun _ => True) t ∧ ∃ v, t.watches[i]? = some v ∧ v.disposed = false) ∧
        waiting i t < waiting i s := by
    rintro s ⟨hwf, v, hv, hvopen⟩
    refine (step_waiting s i v own hwf hv hvopen).imp_right (fun hstep => ?_)
    obtain ⟨a, t, ha, ht, hthere, hless⟩ := hstep
    exact ⟨a, t, ha, ht, ⟨step_wf own s t a hwf ht, hthere⟩, hless⟩
  obtain ⟨bs, q, howns, hbs, _, hq⟩ := run_reaches (step own)
    (fun a => a = .deliver i ∨ a = .retry i) _ (Settled i) (waiting i) hown p
    ⟨run_wf own as p hrun, w, hw, hopen⟩
  exact ⟨bs, q, howns, hbs, hq⟩

/-- A screen finds its board, and the link breaks at once. -/
def dropped : List Action :=
  [.openScreen "vena-a0b765c1d2e3", .found 0 "Vena-D2E3" "A4:CF", .service (.service .connected),
    .service (.service .disconnected)]

theorem watch_persists_dropped : ∃ p, run (step id) initial dropped = some p ∧
    p.attempt = false ∧
    ∃ bs q, (∀ b ∈ bs, b = .deliver 0 ∨ b = .retry 0) ∧ run (step id) p bs = some q ∧
      Settled 0 q := by
  have hrun : (run (step id) initial dropped).map
      (fun p => (p.attempt, p.watches.map Watch.disposed)) = some (false, [false]) := by decide
  obtain ⟨p, hp, hview⟩ := Option.map_eq_some_iff.mp hrun
  rw [Prod.mk.injEq] at hview
  cases hwatches : p.watches with
  | nil =>
      rw [hwatches] at hview
      cases hview.2
  | cons w rest =>
      rw [hwatches, List.map_cons, List.cons.injEq] at hview
      exact ⟨p, hp, hview.1, watch_persists id dropped p hp 0 w
        (by rw [hwatches, List.getElem?_cons_zero]) hview.2.1⟩

section Closing

variable (p : Phone)

/-- Nobody holds a link, and nobody asks for one. -/
structure Idle (p : Phone) : Prop where
  connectionSub : p.scanner.service.connectionSub = none
  connectedDeviceId : p.scanner.service.connectedDeviceId = none
  notConnected : p.scanner.service.status ≠ .connected
  notConnecting : p.scanner.service.status ≠ .connecting

/-- Which screens are closed; only `openScreen` and `dispose` change it. -/
def closed (p : Phone) : List Bool := p.watches.map Watch.disposed

theorem closed_after (a : BleStatus.Action) (t : Scanner) : closed (p.after a t) = closed p := by
  rw [closed, Phone.after]
  split
  · rw [List.map_map]
    exact List.map_congr_left (fun w _ => queue_disposed _ w)
  · rfl

theorem closed_modify (i : Nat) (f : Watch → Watch) (hf : ∀ w, (f w).disposed = w.disposed) :
    closed (p.modify i f) = closed p := by
  refine List.ext_getElem? (fun j => ?_)
  rw [closed, closed, Phone.modify, List.getElem?_map, List.getElem?_map, List.getElem?_modify,
    Option.map_eq_map, Option.map_map]
  refine congrArg (fun g => Option.map g p.watches[j]?) (funext (fun w => ?_))
  rw [Function.comp]
  split
  · exact hf w
  · rfl

theorem closed_startScan (i : Nat) (w : Watch) : closed (startScan i w p) = closed p := by
  rw [startScan]
  split
  · rfl
  · split
    · rfl
    · rw [closed_modify]
      · exact closed_after p _ _
      · exact fun _ => rfl

theorem idle_scanEnded (a : BleStatus.Action) (h : Idle p) :
    Idle (p.after a (scanEnded p.scanner)) := by
  by_cases hscan : p.scanner.service.status = .scanning
  · have hend : (scanEnded p.scanner).service = emitState .disconnected p.scanner.service :=
      if_pos hscan
    refine ⟨?_, ?_, ?_, ?_⟩
    · rw [Phone.after, hend]
      exact h.connectionSub
    · rw [Phone.after, hend]
      exact h.connectedDeviceId
    · rw [Phone.after, hend]
      exact fun heq => by cases heq
    · rw [Phone.after, hend]
      exact fun heq => by cases heq
  · have hend : (scanEnded p.scanner).service = p.scanner.service := if_neg hscan
    refine ⟨?_, ?_, ?_, ?_⟩
    · rw [Phone.after, hend]
      exact h.connectionSub
    · rw [Phone.after, hend]
      exact h.connectedDeviceId
    · rw [Phone.after, hend]
      exact h.notConnected
    · rw [Phone.after, hend]
      exact h.notConnecting

/-- A step of the service does not make a link of none, unless it connects. -/
theorem idle_after (own : String → String) (a : BleStatus.Action) (t : Scanner) (h : Idle p)
    (ha : ∀ id, a ≠ .service (.connectToDevice id))
    (hstep : BleStatus.step own p.scanner a = some t) : Idle (p.after a t) := by
  have hdark := h.connectionSub
  have hlink := h.connectedDeviceId
  have hstatus := h.notConnected
  have hconnecting := h.notConnecting
  cases a with
  | startScan =>
      rw [BleStatus.step, Option.some.injEq] at hstep
      subst hstep
      exact ⟨hdark, hlink, (fun heq => by cases heq), (fun heq => by cases heq)⟩
  | scanForVenaDevices =>
      rw [BleStatus.step, Option.some.injEq] at hstep
      subst hstep
      exact ⟨hdark, hlink, (fun heq => by cases heq), (fun heq => by cases heq)⟩
  | stopScan =>
      rw [BleStatus.step, Option.some.injEq] at hstep
      subst hstep
      exact idle_scanEnded p .stopScan h
  | scanDone =>
      rw [BleStatus.step, Option.ite_none_right_eq_some, Option.some.injEq] at hstep
      obtain ⟨_, rfl⟩ := hstep
      exact idle_scanEnded p .scanDone h
  | service a =>
      rw [BleStatus.step, Option.map_eq_some_iff] at hstep
      obtain ⟨service, hservice, rfl⟩ := hstep
      cases a with
      | connectToDevice id => exact absurd rfl (ha id)
      | disconnectDevice =>
          rw [BleService.step, Option.some.injEq] at hservice
          subst hservice
          exact ⟨rfl, rfl, (fun heq => by cases heq), (fun heq => by cases heq)⟩
      | readDeviceId =>
          rw [BleService.step, Option.some.injEq] at hservice
          subst hservice
          exact ⟨hdark, hlink, hstatus, hconnecting⟩
      -- Nobody listens to a connection.
      | connected => simp only [BleService.step, hdark, reduceCtorEq] at hservice
      | disconnected => simp only [BleService.step, hdark, reduceCtorEq] at hservice
      | connectionError => simp only [BleService.step, hdark, reduceCtorEq] at hservice
      | negotiated i =>
          simp only [BleService.step] at hservice
          split at hservice
          · cases hservice
            exact ⟨hdark, hlink, hstatus, hconnecting⟩
          · cases hservice
      | read i info =>
          simp only [BleService.step] at hservice
          split at hservice
          · cases hservice
            exact ⟨hdark, hlink, hstatus, hconnecting⟩
          · cases hservice
      | subscribe i =>
          simp only [BleService.step] at hservice
          split at hservice
          · cases hservice
            exact ⟨hdark, hlink, hstatus, hconnecting⟩
          · cases hservice
      | notify =>
          cases hsub : p.scanner.service.notifySub with
          | none => simp only [BleService.step, hsub, reduceCtorEq] at hservice
          | some id =>
              simp only [BleService.step, hsub, Option.some.injEq] at hservice
              subst hservice
              exact ⟨hdark, hlink, hstatus, hconnecting⟩

theorem idle_startScan (i : Nat) (w : Watch) (h : Idle p) : Idle (startScan i w p) := by
  rw [startScan]
  split
  · exact h
  · split
    · exact h
    · have hscans := idle_after p id .scanForVenaDevices _ h (fun id heq => by cases heq) rfl
      exact ⟨hscans.1, hscans.2, hscans.3, hscans.4⟩

theorem idle_dispose (i : Nat) : Idle (dispose i p) where
  connectionSub := rfl
  connectedDeviceId := rfl
  notConnected := fun h => by cases h
  notConnecting := fun h => by cases h

theorem step_closing (own : String → String) (q : Phone) (a : Action)
    (h : false ∈ closed p ∨ Idle p) (ha : ∀ id, a ≠ .service (.service (.connectToDevice id)))
    (hstep : step own p a = some q) : false ∈ closed q ∨ Idle q := by
  cases a with
  | openScreen deviceId =>
      rw [step, Option.some.injEq, openScreen] at hstep
      split at hstep
      · exact hstep ▸ h
      · refine Or.inl ?_
        rw [← hstep, closed_startScan, closed, List.map_append]
        exact List.mem_append_right _ List.mem_cons_self
  | found i name bleId =>
      cases hw : p.watches[i]? with
      | none => simp only [step, hw, reduceCtorEq] at hstep
      | some w =>
          simp only [step, hw, Option.ite_none_right_eq_some, Option.some.injEq, found] at hstep
          obtain ⟨_, hq⟩ := hstep
          split at hq
          · split at hq
            · exact hq ▸ h
            · rename_i hopen
              refine Or.inl ?_
              rw [← hq, connectToDevice, closed_after, closed_modify]
              · rw [closed, List.mem_map]
                exact ⟨w, List.mem_of_getElem? hw, Bool.eq_false_of_not_eq_true hopen⟩
              · exact fun _ => rfl
          · exact hq ▸ h
  | scanDone i =>
      cases hw : p.watches[i]? with
      | none => simp only [step, hw, reduceCtorEq] at hstep
      | some w =>
          simp only [step, hw, Option.ite_none_right_eq_some, Option.some.injEq] at hstep
          rw [← hstep.2, scanDone, closed_modify]
          · exact h.imp_right (fun hidle => ⟨hidle.1, hidle.2, hidle.3, hidle.4⟩)
          · intro v
            split <;> rfl
  | deliver i =>
      cases hw : p.watches[i]? with
      | none => simp only [step, hw, reduceCtorEq] at hstep
      | some w =>
          cases hqueued : w.queued with
          | nil => simp only [step, hw, hqueued, reduceCtorEq] at hstep
          | cons status queued =>
              simp only [step, hw, hqueued, Option.some.injEq] at hstep
              rw [← hstep, closed_modify]
              · exact h.imp_right (fun hidle => ⟨hidle.1, hidle.2, hidle.3, hidle.4⟩)
              · exact fun v => (hear_disposed _ _).1
  | retry i =>
      cases hw : p.watches[i]? with
      | none => simp only [step, hw, reduceCtorEq] at hstep
      | some w =>
          simp only [step, hw, Option.ite_none_right_eq_some, Option.some.injEq] at hstep
          rw [← hstep.2, closed_startScan, closed_modify]
          · exact h.imp_right (fun hidle =>
              idle_startScan _ i w ⟨hidle.1, hidle.2, hidle.3, hidle.4⟩)
          · exact fun _ => rfl
  | dispose i =>
      cases hw : p.watches[i]? with
      | none => simp only [step, hw, reduceCtorEq] at hstep
      | some w =>
          simp only [step, hw, Option.ite_none_left_eq_some, Option.some.injEq] at hstep
          exact Or.inr (hstep.2 ▸ idle_dispose p i)
  | service a =>
      rw [step, Option.map_eq_some_iff] at hstep
      obtain ⟨t, ht, rfl⟩ := hstep
      rw [closed_after]
      exact h.imp_right (fun hidle =>
        idle_after p own a t hidle (fun id heq => ha id (congrArg Action.service heq)) ht)

end Closing

/-- When nothing but the screens connects, the last one to close leaves no link,
    and none comes up until another is opened: whatever scans, timers, changes
    and awaits are still on their way. -/
theorem closed_unlinked (own : String → String) (as : List Action) (p : Phone)
    (halone : ∀ a ∈ as, ∀ id, a ≠ .service (.service (.connectToDevice id)))
    (hrun : run (step own) initial as = some p) (hclosed : ∀ w ∈ p.watches, w.disposed = true) :
    Idle p := by
  have hrest : false ∈ closed p ∨ Idle p :=
    run_invariant_along (step own) (fun _ a => ∀ id, a ≠ .service (.service (.connectToDevice id)))
      (fun s => false ∈ closed s ∨ Idle s) (fun s a t h ha hs => step_closing s own t a h ha hs)
      as initial p
      (Or.inr ⟨rfl, rfl, (fun heq => by cases heq), (fun heq => by cases heq)⟩)
      (along_of_forall (step own) _ as initial halone) hrun
  refine hrest.resolve_left (fun hopen => ?_)
  obtain ⟨w, hw, hdisposed⟩ := List.mem_map.mp hopen
  exact Bool.false_ne_true (hdisposed.symm.trans (hclosed w hw))

/-- A screen is closed with a link up, a change undelivered and `_onConnected`
    before its first await. -/
def closing : List Action :=
  [.openScreen "vena-a0b765c1d2e3", .found 0 "Vena-D2E3" "A4:CF", .service (.service .connected),
    .dispose 0, .service (.service (.negotiated 0)), .service (.service (.subscribe 0))]

theorem closed_unlinked_closing : ∃ p, run (step id) initial closing = some p ∧ Idle p := by
  have hrun : (run (step id) initial closing).map closed = some [true] := by decide
  obtain ⟨p, hp, hview⟩ := Option.map_eq_some_iff.mp hrun
  have halone : ∀ a ∈ closing, ∀ id, a ≠ .service (.service (.connectToDevice id)) := by
    intro a ha id heq
    rw [heq] at ha
    simp only [closing, List.mem_cons, reduceCtorEq, Action.service.injEq,
      BleStatus.Action.service.injEq, List.not_mem_nil, or_self] at ha
  refine ⟨p, hp, closed_unlinked id closing p halone hp (fun w hw => ?_)⟩
  have hin : w.disposed ∈ closed p := List.mem_map_of_mem hw
  rwa [hview, List.mem_singleton] at hin

end BleWatch

end Mobile

end Vena
