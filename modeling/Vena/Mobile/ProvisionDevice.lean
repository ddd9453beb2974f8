import Vena.Firmware.Board

/-!
# Provisioning over BLE

`ProvisioningService.provisionDevice` against the board. The phone writes the
credentials and then polls the `wifi_status` characteristic until it shows a
connection. The board leaves the write to `loop()` and updates the
characteristic only where `setup()` or `loop()` notices a change, so a poll can
find a status from before the write, or that of another network: the one the
firmware was built for, which its reconnects use. The phone looks at nothing
but the flag. `provisioning_truthful` states what its polls would have to find.

The backend's part and the clock are input: the request for the device token
and the write either go through or end the call, and the deadline may pass
before any poll.

## Main definitions

* `App`, `System`: The call, and the board it talks to.
* `step`: The call, the board and the radio, interleaved.
* `Careful`: A poll that finds a connection finds one from after the write, to
  the network that was asked for.

## Theorems

* `wifiStatus_advance`: Where a status comes from.
* `step_truthful`: What a step keeps.
* `provisioning_truthful`: A call that returns true told the truth.
* `provisioning_untruthful`: A call that did not.
-/

namespace Vena

namespace Mobile

namespace ProvisionDevice

open Firmware Run

/-- Where a call of `provisionDevice` stands. A call that throws is
    `done false`. -/
inductive App where
  | start
  | polling
  | done (ok : Bool)
  deriving DecidableEq, Repr

/-- The call and the board. Whether the characteristic has been updated since
    the write, and whether the board has been on the requested network since,
    is noted by an observer. -/
structure System where
  board : Board
  app : App
  fresh : Bool
  joined : Bool
  deriving DecidableEq, Repr

/-- The write with the token of the backend, a poll with its outcome, the
    deadline, or something that happens to the board. -/
inductive Action where
  | write (jwt : String) (written : Bool)
  | poll (read : Bool)
  | timeout
  | board (a : Board.Act)
  deriving DecidableEq, Repr

/-- The next piece of the firmware calls `updateWifiStatus`. -/
def publishes (s : Board) : Bool :=
  match s.pc with
  | .setupPublish _ => true
  | .publish => true
  | .track => !s.radio.isSome && s.net.wifiWasConnected
  | _ => false

/-- The characteristic is updated by this. -/
def refreshes (s : Board) : Board.Act → Bool
  | .advance _ => publishes s
  | .reset => true
  | _ => false

def step (ssid psk : String) (s : System) : Action → Option System
  | .write jwt written =>
    if s.app = .start then
      if written then do
        let board ← Board.step s.board (.write ⟨ssid, psk, jwt⟩)
        return { s with
          board
          app := .polling
          fresh := false
          -- The board may be on that network already.
          joined := board.radio = some ssid }
      else some { s with app := .done false }
    else none
  | .poll read =>
    if s.app = .polling then
      -- A read that throws is logged, and only the flag of the status is looked at.
      if read && s.board.wifiStatus.connected then some { s with app := .done true } else some s
    else none
  | .timeout => if s.app = .polling then some { s with app := .done false } else none
  | .board a => do
    let board ← Board.step s.board a
    return { s with
      board
      fresh := s.fresh || refreshes s.board a
      joined := s.joined || decide (board.radio = some ssid) }

/-- A poll that finds a connection finds one from after the write, to the
    network that was asked for. -/
def Careful (ssid : String) (s : System) : Action → Prop
  | .poll true => s.board.wifiStatus.connected = true →
      s.fresh = true ∧ s.board.wifiStatus.ssid = some ssid ∧ ssid ≠ ""
  | _ => True

instance (ssid : String) (s : System) : (a : Action) → Decidable (Careful ssid s a)
  | .poll true => inferInstanceAs (Decidable (_ → _))
  | .poll false => instDecidableTrue
  | .write _ _ => instDecidableTrue
  | .timeout => instDecidableTrue
  | .board _ => instDecidableTrue

/-- What the observer has seen after the write. -/
structure Truthful (ssid : String) (s : System) : Prop where
  /-- The network the board is on has been noted. -/
  radio : s.app = .polling → s.board.radio = some ssid → s.joined = true
  /-- A fresh status that names the network was read off the radio. -/
  status : s.app = .polling → s.fresh = true → s.board.wifiStatus.ssid = some ssid → ssid ≠ "" →
    s.joined = true
  answer : s.app = .done true → s.joined = true

/-- A status that names a network was read off the radio. -/
theorem ssid_updateWifiStatus (up : Bool) (s : Board) (ip ssid : String) (rssi : Int)
    (h : (updateWifiStatus up s.ssid ip rssi).ssid = some ssid) (hne : ssid ≠ "") :
    s.radio = some ssid := by
  cases up with
  | false => exact absurd h (by simp only [updateWifiStatus, Bool.false_eq_true, if_false,
      reduceCtorEq, not_false_eq_true])
  | true =>
      simp only [updateWifiStatus, if_true, Option.some.injEq, Board.ssid] at h
      cases hradio : s.radio with
      | none =>
          rw [hradio, Option.getD_none] at h
          exact absurd h.symm hne
      | some other =>
          rw [hradio, Option.getD_some] at h
          rw [h]

/-- The status after a piece of the firmware: the old one, or one that was read
    off the radio. -/
theorem wifiStatus_advance (r : Readings) (s : Board) (ssid : String)
    (h : (Board.advance r s).wifiStatus.ssid = some ssid) (hne : ssid ≠ "") :
    (publishes s = false ∧ (Board.advance r s).wifiStatus = s.wifiStatus) ∨
      s.radio = some ssid := by
  unfold Board.advance at h ⊢
  unfold publishes
  cases hpc : s.pc with
  | setupWifi =>
      refine Or.inl ⟨rfl, ?_⟩
      simp only [Board.setupWifi]
      split
      · rfl
      · rfl
  | setupMqtt provisioned => exact Or.inl ⟨rfl, rfl⟩
  | setupStatus => exact Or.inl ⟨rfl, rfl⟩
  -- The two pieces that publish read the SSID off the radio.
  | setupPublish up =>
      rw [hpc] at h
      exact Or.inr (ssid_updateWifiStatus up s r.ip ssid r.rssi h hne)
  | setupTrack => exact Or.inl ⟨rfl, rfl⟩
  | pending =>
      refine Or.inl ⟨rfl, ?_⟩
      simp only [Board.pending]
      split
      · rfl
      · rfl
  | provision => exact Or.inl ⟨rfl, rfl⟩
  | track =>
      rw [hpc] at h
      simp only [Board.track] at h ⊢
      by_cases hup : (s.radio.isSome && !s.net.wifiWasConnected) = true
      -- A new connection is published by the next piece, not by this one.
      · have hdown : (!s.radio.isSome && s.net.wifiWasConnected) = false := by
          rw [Bool.and_eq_true] at hup
          rw [hup.1, Bool.not_true, Bool.false_and]
        rw [if_pos hup]
        exact Or.inl ⟨hdown, rfl⟩
      · rw [if_neg hup] at h ⊢
        by_cases hdown : (!s.radio.isSome && s.net.wifiWasConnected) = true
        · -- The update after a loss of the network names none.
          rw [if_pos hdown] at h
          exact absurd h (by simp only [updateWifiStatus, Bool.false_eq_true, if_false,
            reduceCtorEq, not_false_eq_true])
        · rw [if_neg hdown]
          exact Or.inl ⟨Bool.not_eq_true _ ▸ hdown, rfl⟩
  | publish =>
      rw [hpc] at h
      exact Or.inr (ssid_updateWifiStatus true s r.ip ssid r.rssi h hne)
  | trackBegin => exact Or.inl ⟨rfl, rfl⟩
  | ensureWifi => exact Or.inl ⟨rfl, rfl⟩
  | ensureMqtt => exact Or.inl ⟨rfl, rfl⟩

theorem wifiStatus_step (s s' : Board) (a : Board.Act) (hstep : Board.step s a = some s')
    (ssid : String) (hssid : s'.wifiStatus.ssid = some ssid) (hne : ssid ≠ "") :
    (refreshes s a = false ∧ s'.wifiStatus = s.wifiStatus) ∨ s.radio = some ssid := by
  cases a with
  | advance r =>
      rw [Board.step] at hstep
      split at hstep
      · rw [Option.some.injEq] at hstep
        rw [← hstep] at hssid ⊢
        exact wifiStatus_advance r s ssid hssid hne
      · exact absurd hstep (by simp only [reduceCtorEq, not_false_eq_true])
  | write creds =>
      rw [Board.step, Option.some.injEq] at hstep
      rw [← hstep]
      exact Or.inl ⟨rfl, rfl⟩
  | radio network =>
      rw [Board.step, Option.some.injEq] at hstep
      rw [← hstep]
      exact Or.inl ⟨rfl, rfl⟩
  | reset =>
      rw [Board.step, Option.some.injEq] at hstep
      -- The status after a reset names no network.
      rw [← hstep] at hssid
      exact absurd hssid (by simp only [Board.boot, updateWifiStatus, Bool.false_eq_true, if_false,
        reduceCtorEq, not_false_eq_true])

theorem step_truthful (ssid psk : String) (s s' : System) (a : Action) (h : Truthful ssid s)
    (hcareful : Careful ssid s a) (hstep : step ssid psk s a = some s') : Truthful ssid s' := by
  cases a with
  | write jwt written =>
      rw [step] at hstep
      split at hstep
      · cases written with
        | true =>
            simp only [if_true, Board.step, Option.bind_eq_bind, Option.bind_some, Option.pure_def,
              Option.some.injEq] at hstep
            rw [← hstep]
            exact ⟨fun _ hradio => decide_eq_true hradio,
              fun _ hfresh => absurd hfresh Bool.false_ne_true,
              fun hdone => absurd hdone App.noConfusion⟩
        | false =>
            simp only [Bool.false_eq_true, if_false, Option.some.injEq] at hstep
            rw [← hstep]
            exact ⟨fun hpoll => absurd hpoll App.noConfusion,
              fun hpoll => absurd hpoll App.noConfusion,
              fun hdone => absurd hdone (by simp only [App.done.injEq, Bool.false_eq_true,
                not_false_eq_true])⟩
      · exact absurd hstep (by simp only [reduceCtorEq, not_false_eq_true])
  | poll read =>
      rw [step] at hstep
      split at hstep
      · next hpoll =>
          by_cases hfound : (read && s.board.wifiStatus.connected) = true
          · rw [if_pos hfound, Option.some.injEq] at hstep
            rw [Bool.and_eq_true] at hfound
            rw [hfound.1] at hcareful
            -- The condition says where the status came from, the invariant what that means.
            have hstatus := hcareful hfound.2
            rw [← hstep]
            exact ⟨fun hpoll' => absurd hpoll' App.noConfusion,
              fun hpoll' => absurd hpoll' App.noConfusion,
              fun _ => h.status hpoll hstatus.1 hstatus.2.1 hstatus.2.2⟩
          · rw [if_neg hfound, Option.some.injEq] at hstep
            rwa [← hstep]
      · exact absurd hstep (by simp only [reduceCtorEq, not_false_eq_true])
  | timeout =>
      rw [step] at hstep
      split at hstep
      · rw [Option.some.injEq] at hstep
        rw [← hstep]
        exact ⟨fun hpoll => absurd hpoll App.noConfusion, fun hpoll => absurd hpoll App.noConfusion,
          fun hdone => absurd hdone (by simp only [App.done.injEq, Bool.false_eq_true,
            not_false_eq_true])⟩
      · exact absurd hstep (by simp only [reduceCtorEq, not_false_eq_true])
  | board a =>
      cases hboard : Board.step s.board a with
      | none =>
          rw [step, hboard] at hstep
          exact absurd hstep (by simp only [Option.bind_eq_bind, Option.bind_none, reduceCtorEq,
            not_false_eq_true])
      | some board =>
          rw [step, hboard] at hstep
          simp only [Option.bind_eq_bind, Option.bind_some, Option.pure_def,
            Option.some.injEq] at hstep
          rw [← hstep]
          -- What has been noted stays noted.
          have hkeep : s.joined = true → (s.joined || decide (board.radio = some ssid)) = true := by
            intro hjoined
            rw [hjoined, Bool.true_or]
          refine ⟨fun _ hradio => ?_, fun hpoll hfresh hssid hne => ?_,
            fun hdone => hkeep (h.answer hdone)⟩
          · rw [decide_eq_true hradio, Bool.or_true]
          -- Either the status was there before, or the board is on the network right now.
          · rcases wifiStatus_step s.board board a hboard ssid hssid hne with ⟨hold, hsame⟩ | hradio
            · rw [hold, Bool.or_false] at hfresh
              rw [hsame] at hssid
              exact hkeep (h.status hpoll hfresh hssid hne)
            · exact hkeep (h.radio hpoll hradio)

/-- A call that returns true after careful polls told the truth: the board has
    been on the requested network since the write. -/
theorem provisioning_truthful (ssid psk : String) (s t : System) (as : List Action)
    (hstart : s.app = .start) (hcareful : Along (step ssid psk) (Careful ssid) s as)
    (hrun : run (step ssid psk) s as = some t) : t.app = .done true → t.joined = true := by
  have h : Truthful ssid s := by
    refine ⟨fun hpoll => ?_, fun hpoll => ?_, fun hdone => ?_⟩
    · exact absurd (hstart.symm.trans hpoll) App.noConfusion
    · exact absurd (hstart.symm.trans hpoll) App.noConfusion
    · exact absurd (hstart.symm.trans hdone) App.noConfusion
  exact (run_invariant_along (step ssid psk) (Careful ssid) (Truthful ssid)
    (fun s a s' h hC hstep => step_truthful ssid psk s s' a h hC hstep) as s t h hcareful
    hrun).answer

/-- Before the call, with the board at its boot. -/
def atBoot (nvs : Nvs) : System where
  board := Board.boot ⟨"factory", "factory-psk", false⟩ nvs
  app := .start
  fresh := false
  joined := false

/-- One piece of the firmware. -/
def piece (t : Nat) : Action := .board (.advance (Board.timed t))

/-- `setup()` without a network, the write, and the join it asks for. -/
def joinedLater : List Action :=
  [piece 0, piece 1, piece 15000, piece 15000, piece 15000, .write "jwt" true, .poll true,
    piece 15001, piece 15601, .board (.radio (some "home")), piece 17000, piece 17001, .poll true]

theorem joined_truthful :
    ∃ t, run (step "home" "home-psk-1") (atBoot ⟨none, ""⟩) joinedLater = some t ∧
    t.app = .done true ∧ t.joined = true := by
  have happ : ((run (step "home" "home-psk-1") (atBoot ⟨none, ""⟩) joinedLater).map System.app) =
      some (.done true) := by decide +kernel
  cases hrun : run (step "home" "home-psk-1") (atBoot ⟨none, ""⟩) joinedLater with
  | none =>
      rw [hrun] at happ
      exact absurd happ (by simp only [Option.map_none, reduceCtorEq, not_false_eq_true])
  | some t =>
      rw [hrun, Option.map_some, Option.some.injEq] at happ
      exact ⟨t, rfl, happ,
        provisioning_truthful "home" "home-psk-1" (atBoot ⟨none, ""⟩) t joinedLater rfl
        (by decide +kernel) hrun happ⟩

/-- A board on the network of its office is sent to another one, and the first
    poll comes before `loop()` has looked at the write. -/
def polledEarly : List Action :=
  [piece 0, piece 1, .board (.radio (some "office")), piece 3000, piece 3000, piece 3000,
    .write "jwt" true, .poll true]

/-- The call returns true although the board has never been on the network. -/
theorem provisioning_untruthful : ¬ ∀ (ssid psk : String) (s t : System) (as : List Action),
    s.app = .start → run (step ssid psk) s as = some t → t.app = .done true → t.joined = true := by
  intro hall
  have hend : (run (step "home" "home-psk-1") (atBoot ⟨some ⟨"office", "office-psk", ""⟩, ""⟩)
      polledEarly).map (fun t => (t.app, t.joined)) = some (.done true, false) := by decide +kernel
  cases hrun : run (step "home" "home-psk-1") (atBoot ⟨some ⟨"office", "office-psk", ""⟩, ""⟩)
      polledEarly with
  | none =>
      rw [hrun] at hend
      exact absurd hend (by simp only [Option.map_none, reduceCtorEq, not_false_eq_true])
  | some t =>
      rw [hrun, Option.map_some, Option.some.injEq, Prod.mk.injEq] at hend
      have htrue := hall _ _ _ t polledEarly rfl hrun hend.1
      rw [hend.2] at htrue
      exact absurd htrue Bool.false_ne_true

end ProvisionDevice

end Mobile

end Vena
