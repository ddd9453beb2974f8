import Vena.Core.Processes
import Vena.Core.Run
import Vena.Firmware.Network

/-!
# The hand-over of a provisioning write

`onProvisionReceived` runs on the task of the BLE stack and leaves the
credentials to `loop()`: it assigns `pendingCreds` and raises
`pendingProvision`. The block at the top of `loop()` lowers the flag, stops the
radio, which takes 600 ms, and joins with the credentials it finds then. No
lock is involved. What makes it work is the order on both sides: the handler
raises the flag behind the record, and the block lowers it ahead of reading the
record, so that a write that comes too late for this block has its flag raised
for the next.

The statements of both are interleaved here, one at a time. `Network` has the
handler and the block as one step each, and each is what it comes to when
nothing gets between its statements. Nothing else in `loop()` touches the flag
or the record.

## Main definitions

* `Handler`, `Block`: How far a handler and the block have come.
* `step`: Handlers and the block, interleaved by statements.
* `Owed`: A write is on its way to the block.
* `Invariant`: What was stored last is joined, or on its way.
* `Serial`: The handlers come one after the other.

## Theorems

* `handler_alone`, `block_alone`: The coarse steps of `Network`.
* `invariant_step`: Every statement keeps the invariant.
* `last_begin`: The last join is with the credentials of the last write.
-/

namespace Vena

namespace Firmware

namespace PendingProvision

open Processes Run

/-- The statement a handler is about to execute. -/
inductive Pc where
  | print
  | saveCredentials
  | storeJwt
  | setCreds
  | setFlag
  | done
  deriving DecidableEq, Repr

structure Handler where
  creds : WifiCredentials
  pc : Pc
  deriving DecidableEq, Repr

/-- The statement of the block that `loop()` is about to execute; `idle` is the
    test of the flag. -/
inductive Block where
  | idle
  | clearFlag
  | print
  | disconnect
  | delayStop
  | setMode
  | delayStart
  | joinWifi
  | setJwt
  | setProvisioned
  | printStatus
  deriving DecidableEq, Repr

/-- `stored` has the writes in the order in which they got into `pendingCreds`,
    and `begins` what the block has called `WiFi.begin` with. -/
structure State where
  net : Network
  handlers : List Handler
  block : Block
  stored : List WifiCredentials
  begins : List (String × String)
  deriving DecidableEq, Repr

def initial (net : Network) : State where
  net := net
  handlers := []
  block := .idle
  stored := []
  begins := []

inductive Action where
  /-- A write is accepted. -/
  | receive (creds : WifiCredentials)
  /-- The next statement of handler `i`. -/
  | handler (i : Nat)
  /-- The next statement of the block, at a real time. -/
  | block (now : Nat)
  deriving DecidableEq, Repr

/-- One statement of `onProvisionReceived`. -/
def advance (i : Nat) (h : Handler) (s : State) : Option State :=
  match h.pc with
  | .print => some { s with handlers := s.handlers.set i { h with pc := .saveCredentials } }
  | .saveCredentials => some { s with
      net := { s.net with nvs := { s.net.nvs with provisioned := some h.creds } }
      handlers := s.handlers.set i { h with pc := .storeJwt } }
  | .storeJwt => some { s with
      net := { s.net with nvs := { s.net.nvs with
        deviceJwt := if h.creds.jwt ≠ "" then h.creds.jwt else s.net.nvs.deviceJwt } }
      handlers := s.handlers.set i { h with pc := .setCreds } }
  | .setCreds => some { s with
      net := { s.net with pendingCreds := h.creds }
      stored := s.stored ++ [h.creds]
      handlers := s.handlers.set i { h with pc := .setFlag } }
  | .setFlag => some { s with
      net := { s.net with pendingProvision := true }
      handlers := s.handlers.set i { h with pc := .done } }
  | .done => none

/-- One statement of the block. -/
def consume (now : Nat) (s : State) : State :=
  match s.block with
  | .idle => if s.net.pendingProvision then { s with block := .clearFlag } else s
  | .clearFlag => { s with
      net := { s.net with pendingProvision := false }
      block := .print }
  | .print => { s with block := .disconnect }
  | .disconnect => { s with block := .delayStop }
  | .delayStop => { s with block := .setMode }
  | .setMode => { s with block := .delayStart }
  | .delayStart => { s with block := .joinWifi }
  | .joinWifi => { s with
      net := s.net.wifiBegin s.net.pendingCreds.ssid s.net.pendingCreds.psk now
      begins := s.begins ++ [(s.net.pendingCreds.ssid, s.net.pendingCreds.psk)]
      block := .setJwt }
  | .setJwt => { s with net := s.net.adoptJwt s.net.pendingCreds.jwt, block := .setProvisioned }
  | .setProvisioned => { s with
      net := { s.net with wifiProvisioned := true }
      block := .printStatus }
  | .printStatus => { s with block := .idle }

def step (s : State) : Action → Option State
  | .receive creds => some { s with handlers := s.handlers ++ [⟨creds, .print⟩] }
  | .handler i => match s.handlers[i]? with
    | none => none
    | some h => advance i h s
  | .block now => some (consume now s)

/-- The block has seen the flag and not yet read the credentials. -/
def Block.willJoin : Block → Bool
  | .clearFlag | .print | .disconnect | .delayStop | .setMode | .delayStart | .joinWifi => true
  | .idle | .setJwt | .setProvisioned | .printStatus => false

/-- What was stored last is on its way: the flag is raised, the block is about
    to join, or a handler is about to raise the flag. -/
def Owed (s : State) : Prop :=
  s.net.pendingProvision = true ∨ s.block.willJoin = true ∨ ∃ h ∈ s.handlers, h.pc = .setFlag

/-- The network a write names. -/
def target (creds : WifiCredentials) : String × String := (creds.ssid, creds.psk)

structure Invariant (s : State) : Prop where
  creds : ∀ c, s.stored.getLast? = some c → s.net.pendingCreds = c
  joined : s.begins.getLast? = s.stored.getLast?.map target ∨ Owed s
  written : Owed s → s.stored ≠ []

/-- Neither a handler nor the block is in progress. -/
def Quiescent (s : State) : Prop := s.block = .idle ∧ ∀ h ∈ s.handlers, h.pc = .done

/-- The task of the BLE stack runs one handler after the other. -/
def Serial (s : State) : Action → Prop
  | .receive _ => ∀ h ∈ s.handlers, h.pc = .done
  | _ => True

instance (s : State) : ∀ a : Action, Decidable (Serial s a)
  | .receive _ => inferInstanceAs (Decidable (∀ h ∈ s.handlers, h.pc = .done))
  | .handler _ => isTrue trivial
  | .block _ => isTrue trivial

theorem invariant_initial (net : Network) (h : net.pendingProvision = false) :
    Invariant (initial net) where
  creds _ hlast := by cases hlast
  joined := Or.inl rfl
  written howed := by
    rcases howed with hflag | hjoin | ⟨h, hmem, _⟩
    · rw [initial, h] at hflag
      cases hflag
    · cases hjoin
    · exact absurd hmem List.not_mem_nil

section Steps

variable (s t : State)

/-- A statement that does not touch what is handed over. -/
theorem invariant_of_kept (hinv : Invariant s)
    (hcreds : t.net.pendingCreds = s.net.pendingCreds) (hstored : t.stored = s.stored)
    (hbegins : t.begins = s.begins) (howed : Owed t ↔ Owed s) : Invariant t where
  creds c hlast := by
    rw [hcreds]
    exact hinv.creds c (hstored ▸ hlast)
  joined := by
    rw [hbegins, hstored, howed]
    exact hinv.joined
  written h := by
    rw [hstored]
    exact hinv.written (howed.mp h)

/-- A handler that moves somewhere else leaves those about to raise the flag. -/
theorem setFlag_set (hs : List Handler) (i : Nat) (h h' : Handler) (hget : hs[i]? = some h)
    (hpc : h.pc ≠ .setFlag) (hpc' : h'.pc ≠ .setFlag) :
    (∃ g ∈ hs.set i h', g.pc = .setFlag) ↔ ∃ g ∈ hs, g.pc = .setFlag := by
  constructor
  · rintro ⟨g, hg, hflag⟩
    rcases List.mem_or_eq_of_mem_set hg with hold | rfl
    · exact ⟨g, hold, hflag⟩
    · exact absurd hflag hpc'
  · rintro ⟨g, hg, hflag⟩
    rcases mem_set_of_mem hs i h h' g hget hg with hold | rfl
    · exact ⟨g, hold, hflag⟩
    · exact absurd hflag hpc

theorem pending_adoptJwt (jwt : String) (net : Network) :
    (net.adoptJwt jwt).pendingCreds = net.pendingCreds ∧
      (net.adoptJwt jwt).pendingProvision = net.pendingProvision := by
  unfold Network.adoptJwt
  split
  · exact ⟨rfl, rfl⟩
  · exact ⟨rfl, rfl⟩

theorem invariant_receive (hinv : Invariant s) (creds : WifiCredentials) :
    Invariant { s with handlers := s.handlers ++ [⟨creds, .print⟩] } := by
  refine invariant_of_kept s _ hinv rfl rfl rfl (or_congr Iff.rfl (or_congr Iff.rfl ?_))
  simp only [List.mem_append, List.mem_singleton]
  constructor
  · rintro ⟨g, hg | rfl, hflag⟩
    · exact ⟨g, hg, hflag⟩
    · cases hflag
  · rintro ⟨g, hg, hflag⟩
    exact ⟨g, Or.inl hg, hflag⟩

theorem invariant_advance (hinv : Invariant s) (i : Nat) (h : Handler)
    (hget : s.handlers[i]? = some h) (hstep : advance i h s = some t) : Invariant t := by
  -- The statements ahead of the assignment leave the hand-over alone.
  have hearly : ∀ pc, h.pc ≠ .setFlag → pc ≠ Pc.setFlag →
      ((∃ g ∈ s.handlers.set i { h with pc := pc }, g.pc = .setFlag) ↔
        ∃ g ∈ s.handlers, g.pc = .setFlag) :=
    fun pc hpc hpc' => setFlag_set s.handlers i h _ hget hpc hpc'
  cases hpc : h.pc with
  | print =>
      simp only [advance, hpc, Option.some.injEq] at hstep
      subst hstep
      exact invariant_of_kept s _ hinv rfl rfl rfl
        (or_congr Iff.rfl (or_congr Iff.rfl (hearly _ (by rw [hpc]; decide) (by decide))))
  | saveCredentials =>
      simp only [advance, hpc, Option.some.injEq] at hstep
      subst hstep
      exact invariant_of_kept s _ hinv rfl rfl rfl
        (or_congr Iff.rfl (or_congr Iff.rfl (hearly _ (by rw [hpc]; decide) (by decide))))
  | storeJwt =>
      simp only [advance, hpc, Option.some.injEq] at hstep
      subst hstep
      exact invariant_of_kept s _ hinv rfl rfl rfl
        (or_congr Iff.rfl (or_congr Iff.rfl (hearly _ (by rw [hpc]; decide) (by decide))))
  | setCreds =>
      simp only [advance, hpc, Option.some.injEq] at hstep
      subst hstep
      -- The handler itself is now the one that owes.
      refine ⟨fun c hlast => ?_, Or.inr (Or.inr (Or.inr ⟨_, mem_set_of_some _ i h _ hget, rfl⟩)),
        fun _ => List.append_ne_nil_of_right_ne_nil _ (List.cons_ne_nil _ _)⟩
      rwa [List.getLast?_append, List.getLast?_singleton, Option.some_or, Option.some.injEq]
        at hlast
  | setFlag =>
      simp only [advance, hpc, Option.some.injEq] at hstep
      subst hstep
      have hstored := hinv.written (Or.inr (Or.inr ⟨h, List.mem_of_getElem? hget, hpc⟩))
      exact ⟨hinv.creds, Or.inr (Or.inl rfl), fun _ => hstored⟩
  | done =>
      simp only [advance, hpc, reduceCtorEq] at hstep

/-- A statement of the block that leaves it on its way, or past it. -/
theorem invariant_goto (hinv : Invariant s) (net : Network) (block : Block)
    (hcreds : net.pendingCreds = s.net.pendingCreds)
    (hflag : net.pendingProvision = s.net.pendingProvision)
    (hjoin : block.willJoin = s.block.willJoin) :
    Invariant { s with net := net, block := block } :=
  invariant_of_kept s _ hinv hcreds rfl rfl
    (or_congr (Eq.congr_left hflag) (or_congr (Eq.congr_left hjoin) Iff.rfl))

/-- The join. The record is what was stored last, however late it came. -/
theorem invariant_joinWifi (hinv : Invariant s) (hblock : s.block = .joinWifi) (now : Nat) :
    Invariant { s with
      net := s.net.wifiBegin s.net.pendingCreds.ssid s.net.pendingCreds.psk now
      begins := s.begins ++ [(s.net.pendingCreds.ssid, s.net.pendingCreds.psk)]
      block := .setJwt } := by
  have hstored := hinv.written (Or.inr (Or.inl (by rw [hblock]; rfl)))
  obtain ⟨c, hc⟩ := Option.ne_none_iff_exists'.mp (mt List.getLast?_eq_none_iff.mp hstored)
  refine ⟨hinv.creds, Or.inl ?_, fun _ => hstored⟩
  rw [List.getLast?_append, List.getLast?_singleton, Option.some_or, hc, hinv.creds c hc]
  rfl

theorem invariant_consume (hinv : Invariant s) (now : Nat) : Invariant (consume now s) := by
  unfold consume
  cases hblock : s.block with
  | idle =>
      dsimp only
      by_cases hflag : s.net.pendingProvision = true
      · rw [if_pos hflag]
        have howed : Owed s := Or.inl hflag
        exact ⟨hinv.creds, Or.inr (Or.inl hflag), fun _ => hinv.written howed⟩
      · rw [if_neg hflag]
        exact hinv
  | clearFlag =>
      have howed : Owed s := Or.inr (Or.inl (by rw [hblock]; rfl))
      exact ⟨hinv.creds, Or.inr (Or.inr (Or.inl rfl)), fun _ => hinv.written howed⟩
  | print => exact invariant_goto s hinv s.net .disconnect rfl rfl (by rw [hblock]; rfl)
  | disconnect => exact invariant_goto s hinv s.net .delayStop rfl rfl (by rw [hblock]; rfl)
  | delayStop => exact invariant_goto s hinv s.net .setMode rfl rfl (by rw [hblock]; rfl)
  | setMode => exact invariant_goto s hinv s.net .delayStart rfl rfl (by rw [hblock]; rfl)
  | delayStart => exact invariant_goto s hinv s.net .joinWifi rfl rfl (by rw [hblock]; rfl)
  | joinWifi => exact invariant_joinWifi s hinv hblock now
  | setJwt =>
      have hpending := pending_adoptJwt s.net.pendingCreds.jwt s.net
      exact invariant_goto s hinv _ .setProvisioned hpending.1 hpending.2 (by rw [hblock]; rfl)
  | setProvisioned => exact invariant_goto s hinv _ .printStatus rfl rfl (by rw [hblock]; rfl)
  | printStatus => exact invariant_goto s hinv s.net .idle rfl rfl (by rw [hblock]; rfl)

/-- Every statement keeps the invariant. -/
theorem invariant_step (a : Action) (hinv : Invariant s) (hstep : step s a = some t) :
    Invariant t := by
  cases a with
  | receive creds =>
      rw [step, Option.some.injEq] at hstep
      exact hstep ▸ invariant_receive s hinv creds
  | handler i =>
      cases hget : s.handlers[i]? with
      | none => simp only [step, hget, reduceCtorEq] at hstep
      | some h =>
          simp only [step, hget] at hstep
          exact invariant_advance s t hinv i h hget hstep
  | block now =>
      rw [step, Option.some.injEq] at hstep
      exact hstep ▸ invariant_consume s hinv now

/-- With nothing in progress and the flag down, nothing is owed. -/
theorem joined_of_quiescent (hinv : Invariant s) (hflag : s.net.pendingProvision = false)
    (hquiet : Quiescent s) : s.begins.getLast? = s.stored.getLast?.map target := by
  rcases hinv.joined with hjoined | hup | hjoin | ⟨h, hmem, hpc⟩
  · exact hjoined
  · rw [hflag] at hup
    cases hup
  · rw [hquiet.1] at hjoin
    cases hjoin
  · rw [hquiet.2 h hmem] at hpc
    cases hpc

/-- With the handlers one after the other, only the last is in progress, and
    what was stored last is its write once it has stored it. -/
structure Ordered (s : State) : Prop where
  earlier : ∀ (i : Nat) (h : Handler), s.handlers[i]? = some h → h.pc ≠ .done →
    i + 1 = s.handlers.length
  last : ∀ h, s.handlers.getLast? = some h → h.pc = .setFlag ∨ h.pc = .done →
    s.stored.getLast? = some h.creds
  first : s.handlers = [] → s.stored = []

theorem ordered_receive (creds : WifiCredentials)
    (hserial : ∀ h ∈ s.handlers, h.pc = .done) :
    Ordered { s with handlers := s.handlers ++ [⟨creds, .print⟩] } where
  earlier i h hget hpc := by
    rw [List.length_append, List.length_singleton]
    rcases getElem?_concat_cases s.handlers i _ h hget with hold | ⟨rfl, _⟩
    · exact absurd (hserial h (List.mem_of_getElem? hold)) hpc
    · rfl
  last h hlast hpc := by
    rw [List.getLast?_append, List.getLast?_singleton, Option.some_or, Option.some.injEq] at hlast
    subst hlast
    rcases hpc with hpc | hpc
    · cases hpc
    · cases hpc
  first hnil := absurd hnil (List.append_ne_nil_of_right_ne_nil _ (List.cons_ne_nil _ _))

/-- What a statement of a handler does to the order. -/
theorem advance_moves (i : Nat) (h : Handler) (hstep : advance i h s = some t) :
    h.pc ≠ .done ∧ ∃ pc, t.handlers = s.handlers.set i { h with pc := pc } ∧
      (t.stored = s.stored ++ [h.creds] ∨
        t.stored = s.stored ∧ (pc = .done ∧ h.pc = .setFlag ∨ pc ≠ .setFlag ∧ pc ≠ .done)) := by
  cases hpc : h.pc with
  | print =>
      simp only [advance, hpc, Option.some.injEq] at hstep
      subst hstep
      exact ⟨by decide, _, rfl, Or.inr ⟨rfl, Or.inr (by decide)⟩⟩
  | saveCredentials =>
      simp only [advance, hpc, Option.some.injEq] at hstep
      subst hstep
      exact ⟨by decide, _, rfl, Or.inr ⟨rfl, Or.inr (by decide)⟩⟩
  | storeJwt =>
      simp only [advance, hpc, Option.some.injEq] at hstep
      subst hstep
      exact ⟨by decide, _, rfl, Or.inr ⟨rfl, Or.inr (by decide)⟩⟩
  | setCreds =>
      simp only [advance, hpc, Option.some.injEq] at hstep
      subst hstep
      exact ⟨by decide, _, rfl, Or.inl rfl⟩
  | setFlag =>
      simp only [advance, hpc, Option.some.injEq] at hstep
      subst hstep
      exact ⟨by decide, _, rfl, Or.inr ⟨rfl, Or.inl (by decide)⟩⟩
  | done => simp only [advance, hpc, reduceCtorEq] at hstep

theorem ordered_advance (hord : Ordered s) (i : Nat) (h : Handler)
    (hget : s.handlers[i]? = some h) (hstep : advance i h s = some t) : Ordered t := by
  obtain ⟨hpc, pc, hhandlers, hstored⟩ := advance_moves s t i h hstep
  -- The handler that moves is the last one.
  have hlen := hord.earlier i h hget hpc
  have hold : s.handlers.getLast? = some h := by
    rw [List.getLast?_eq_getElem?, ← hlen, Nat.add_sub_cancel, hget]
  have hnew : t.handlers.getLast? = some { h with pc := pc } := by
    rw [hhandlers, List.getLast?_eq_getElem?, List.length_set, ← hlen, Nat.add_sub_cancel]
    exact getElem?_set_of_some s.handlers i _ h hget
  refine ⟨fun j g hg hgpc => ?_, fun g hg hgpc => ?_, fun hnil => ?_⟩
  · rw [hhandlers] at hg ⊢
    rw [List.length_set]
    rcases getElem?_set_cases s.handlers i j _ g hg with ⟨rfl, _⟩ | ⟨_, hg⟩
    · exact hlen
    · exact hord.earlier j g hg hgpc
  · rw [hnew, Option.some.injEq] at hg
    subst hg
    rcases hstored with hstored | ⟨hstored, ⟨_, hflag⟩ | ⟨hne, hne'⟩⟩
    · rw [hstored, List.getLast?_append, List.getLast?_singleton, Option.some_or]
    · rw [hstored]
      exact hord.last h hold (Or.inl hflag)
    · exact absurd hgpc (not_or.mpr ⟨hne, hne'⟩)
  · rw [hnil] at hnew
    cases hnew

/-- The block touches neither the handlers nor the order of the writes. -/
theorem kept_consume (now : Nat) :
    (consume now s).handlers = s.handlers ∧ (consume now s).stored = s.stored := by
  unfold consume
  cases s.block with
  | idle =>
      dsimp only
      split
      · exact ⟨rfl, rfl⟩
      · exact ⟨rfl, rfl⟩
  | _ => exact ⟨rfl, rfl⟩

theorem ordered_step (a : Action) (hord : Ordered s) (hserial : Serial s a)
    (hstep : step s a = some t) : Ordered t := by
  cases a with
  | receive creds =>
      rw [step, Option.some.injEq] at hstep
      exact hstep ▸ ordered_receive s creds hserial
  | handler i =>
      cases hget : s.handlers[i]? with
      | none => simp only [step, hget, reduceCtorEq] at hstep
      | some h =>
          simp only [step, hget] at hstep
          exact ordered_advance s t hord i h hget hstep
  | block now =>
      rw [step, Option.some.injEq] at hstep
      obtain ⟨hhandlers, hstored⟩ := kept_consume s now
      subst hstep
      refine ⟨?_, ?_, ?_⟩
      · rw [hhandlers]
        exact hord.earlier
      · rw [hhandlers, hstored]
        exact hord.last
      · rw [hhandlers, hstored]
        exact hord.first

/-- The write that was stored last is the one that was accepted last. -/
theorem stored_of_ordered (hord : Ordered s) (hquiet : Quiescent s) :
    s.stored.getLast? = s.handlers.getLast?.map Handler.creds := by
  cases hlast : s.handlers.getLast? with
  | none => rw [hord.first (List.getLast?_eq_none_iff.mp hlast)]; rfl
  | some h =>
      exact hord.last h hlast (Or.inr (hquiet.2 h (List.mem_of_getLast? hlast)))

end Steps

section Alone

variable (s : State)

/-- A handler whose statements nothing interrupts is the handler of `Network`. -/
theorem handler_alone (creds : WifiCredentials) :
    run step s (.receive creds :: List.replicate 5 (.handler s.handlers.length)) =
      some { s with
        net := Network.onProvisionReceived creds s.net
        handlers := s.handlers ++ [⟨creds, .done⟩]
        stored := s.stored ++ [creds] } := by
  simp [run, step, advance, List.replicate, Network.onProvisionReceived]

/-- The block, likewise, when the flag is up. -/
theorem block_alone (i : Network.LoopInput) (hblock : s.block = .idle)
    (hflag : s.net.pendingProvision = true) :
    run step s (List.replicate 11 (.block i.provisionAt)) =
      some { s with
        net := Network.consumeProvision i s.net
        begins := s.begins ++ [target s.net.pendingCreds] } := by
  simp [run, step, consume, List.replicate, Network.consumeProvision, hblock, hflag, target,
    Network.wifiBegin]

end Alone

theorem ordered_initial (net : Network) : Ordered (initial net) where
  earlier i h hget _ := by simp only [initial, List.getElem?_nil, reduceCtorEq] at hget
  last h hlast _ := by cases hlast
  first _ := rfl

/-- When the flag is down and nothing is in progress, the block has joined with
    the record that was stored last, however the handlers and the block were
    interleaved. One after the other, the last handler stored it. -/
theorem last_begin (net : Network) (acts : List Action) (t : State)
    (hnet : net.pendingProvision = false) (hrun : run step (initial net) acts = some t)
    (hflag : t.net.pendingProvision = false) (hquiet : Quiescent t) :
    t.begins.getLast? = t.stored.getLast?.map target ∧
      (Along step Serial (initial net) acts →
        t.begins.getLast? = t.handlers.getLast?.map (fun h => target h.creds)) := by
  have hinv := run_invariant step Invariant (fun s a t hinv h => invariant_step s t a hinv h)
    acts (initial net) t (invariant_initial net hnet) hrun
  have hjoined := joined_of_quiescent t hinv hflag hquiet
  refine ⟨hjoined, fun hserial => ?_⟩
  have hord := run_invariant_along step Serial Ordered
    (fun s a t hord hC h => ordered_step s t a hord hC h) acts (initial net) t
    (ordered_initial net) hserial hrun
  rw [hjoined, stored_of_ordered t hord hquiet, Option.map_map]
  rfl

/-- A second write that arrives while the radio is stopped, and whose flag goes
    up behind the join. -/
def lateWrite : List Action :=
  .receive ⟨"casa", "12345678", ""⟩ :: List.replicate 5 (.handler 0) ++
    List.replicate 5 (.block 600) ++
    .receive ⟨"oficina", "87654321", ""⟩ :: List.replicate 4 (.handler 1) ++
    List.replicate 6 (.block 700) ++ [.handler 1] ++ List.replicate 11 (.block 1400)

theorem last_begin_lateWrite : ∃ t, run step
      (initial (Network.init ⟨"changeme-ssid", "changeme-pass", false⟩ ⟨none, ""⟩)) lateWrite =
        some t ∧ t.begins.getLast? = some ("oficina", "87654321") :=
  ⟨_, rfl, ((last_begin (Network.init ⟨"changeme-ssid", "changeme-pass", false⟩ ⟨none, ""⟩)
    lateWrite _ rfl rfl rfl ⟨rfl, by decide +kernel⟩).2 (by decide +kernel)).trans rfl⟩

end PendingProvision

end Firmware

end Vena
