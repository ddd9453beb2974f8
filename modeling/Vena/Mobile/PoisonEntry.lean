import Vena.Mobile.Dio
import Vena.Mobile.JsonEncode

/-!
# Poison Entries

One run of `_processBatch` over whatever is in the outbox: `action` and
`payload` are text columns, and the payload is decoded when the entry's turn
comes. An API call ends as the backend and the network please; the table is on
the phone and its writes complete.

Stopping the batch is right while the backend is out of reach. Then the entries
behind would fare no better, and the timer tries them all again. The code stops
for every failure but a 409, and the next run begins with the entry that
failed. `noPoison_iff` says which batches come through without harm, and
`blocked_passes` what happens to the others: an entry that fails for good is
attempted in every pass, and nothing behind it ever is.

## Main definitions

* `OutboxData`: A row of the outbox.
* `execute`: `_execute`, with what the API call is answered.
* `processBatch`: `_processBatch`.
* `Stops`: The entry ends the batch.
* `Excused`: The entry's API call found no backend, or a broken one.
* `NoPoison`: An entry is attempted unless an earlier one is excused.
* `Queued`: The entries the app inserts.

## Theorems

* `noPoison_iff`: The batches without a poison entry.
* `stops_queued`: When an entry that the app inserted ends the batch.
* `poison_rename`: A rename of a device that is not the user's.
* `blocked_passes`: What a poison entry does to every later pass.
-/

namespace Vena

namespace Mobile

namespace PoisonEntry

open Dio

structure OutboxData where
  id : Nat
  action : DartString
  payload : DartString
  deriving DecidableEq, Repr

/-- What `_execute` throws: the exception of the API call, or anything else. -/
inductive Thrown where
  | dio (e : DioException Unit)
  | unexpected
  deriving DecidableEq, Repr

/-- `e.response?.statusCode`, of a `DioException`. -/
def Thrown.statusCode : Thrown → Option Nat
  | .dio e => e.statusCode
  | .unexpected => none

/-- What comes back for the API call of an entry, if it makes one. -/
abbrev Answer := Option (Response Unit)

/-- The end of the API call. -/
def call (answer : Answer) : Except Thrown Unit :=
  match fetch answer with
  | .ok _ => .ok ()
  | .error e => .error (.dio e)

/-- Two casts of members of the payload, and the call they are the arguments of. -/
def callWith (payload : List (DartString × JsonValue)) (first second : String) (answer : Answer) :
    Except Thrown Unit :=
  match (lookup payload (dartString first)).asString,
      (lookup payload (dartString second)).asString with
  | some _, some _ => call answer
  | _, _ => .error .unexpected

/-- `_execute`. An action that is not known is reported and counts as done. -/
def execute (item : OutboxData) (answer : Answer) : Except Thrown Unit :=
  match (jsonDecode item.payload).bind JsonValue.asMap with
  | none => .error .unexpected
  | some payload =>
    if item.action = dartString "claim" then callWith payload "device_id" "pairing_code" answer
    else if item.action = dartString "rename" then callWith payload "device_id" "alias" answer
    else .ok ()

/-- The entries a batch attempted and those it marked, and whether it armed the
    retry timer. -/
structure BatchResult where
  attempted : List OutboxData := []
  synced : List Nat := []
  hadNetworkError : Bool := false
  deriving DecidableEq, Repr

/-- `_processBatch`, over the entries and what their calls are answered. -/
def processBatch : List (OutboxData × Answer) → BatchResult
  | [] => {}
  | (item, answer) :: items =>
    let rest := processBatch items
    let done : BatchResult :=
      { rest with attempted := item :: rest.attempted, synced := item.id :: rest.synced }
    match execute item answer with
    | .ok _ => done
    | .error e =>
      -- A conflict is settled in favour of the server.
      if e.statusCode = some 409 then done
      else { attempted := [item], hadNetworkError := true }

/-- The entry fails, and not with a 409. -/
def Stops (x : OutboxData × Answer) : Prop :=
  ∃ e, execute x.1 x.2 = .error e ∧ e.statusCode ≠ some 409

/-- The entry's API call was answered with a 5xx or not at all. -/
def Excused (x : OutboxData × Answer) : Prop :=
  ∃ e : DioException Unit, execute x.1 x.2 = .error (.dio e) ∧
    ∀ status, e.statusCode = some status → 500 ≤ status ∧ status < 600

/-- Every entry without an excused one before it is attempted, in order. -/
def NoPoison (items : List (OutboxData × Answer)) : Prop :=
  ∀ before x behind, items = before ++ x :: behind → (∀ y ∈ before, ¬ Excused y) →
    (before ++ [x]).map Prod.fst <+: (processBatch items).attempted

/-- The first entry that stops the batch is the last one, or is excused. -/
def Careful (items : List (OutboxData × Answer)) : Prop :=
  ∀ before x behind, items = before ++ x :: behind → (∀ y ∈ before, ¬ Stops y) → Stops x →
    Excused x ∨ behind = []

theorem stops_of_excused (x : OutboxData × Answer) (h : Excused x) : Stops x := by
  rcases h with ⟨e, hexec, hstatus⟩
  refine ⟨.dio e, hexec, fun hconflict => ?_⟩
  exact absurd (hstatus 409 hconflict).1 (by decide)

/-- The batch goes on behind an entry that does not stop it. -/
theorem processBatch_next (item : OutboxData) (answer : Answer)
    (items : List (OutboxData × Answer)) (h : ¬ Stops (item, answer)) :
    processBatch ((item, answer) :: items) =
      { processBatch items with
        attempted := item :: (processBatch items).attempted
        synced := item.id :: (processBatch items).synced } := by
  cases hexec : execute item answer with
  | ok _ => simp only [processBatch, hexec]
  | error e =>
      have hconflict : e.statusCode = some 409 := by_contra fun hne => h ⟨e, hexec, hne⟩
      simp only [processBatch, hexec, if_pos hconflict]

theorem processBatch_stop (item : OutboxData) (answer : Answer)
    (items : List (OutboxData × Answer)) (h : Stops (item, answer)) :
    processBatch ((item, answer) :: items) =
      { attempted := [item], synced := [], hadNetworkError := true } := by
  rcases h with ⟨e, hexec, hne⟩
  have hexec : execute item answer = .error e := hexec
  simp only [processBatch, hexec, if_neg hne]

/-- An entry that does not stop the batch leaves the question to the rest. -/
theorem noPoison_next (item : OutboxData) (answer : Answer)
    (items : List (OutboxData × Answer)) (h : ¬ Stops (item, answer)) :
    NoPoison ((item, answer) :: items) ↔ NoPoison items := by
  have hexcused : ¬ Excused (item, answer) := fun hx => h (stops_of_excused _ hx)
  unfold NoPoison
  rw [processBatch_next item answer items h]
  constructor
  · intro hall before x behind heq hbefore
    have hcons := hall ((item, answer) :: before) x behind (congrArg (_ :: ·) heq)
      (List.forall_mem_cons.mpr ⟨hexcused, hbefore⟩)
    exact (List.cons_prefix_cons.mp hcons).2
  · intro hall before x behind heq hbefore
    cases before with
    | nil =>
        have hx : (item, answer) = x := (List.cons.inj heq).1
        rw [← hx]
        exact List.cons_prefix_cons.mpr ⟨rfl, List.nil_prefix⟩
    | cons y before =>
        have hy : (item, answer) = y := (List.cons.inj heq).1
        have hrest := hall before x behind (List.cons.inj heq).2
          (List.forall_mem_cons.mp hbefore).2
        rw [← hy]
        exact List.cons_prefix_cons.mpr ⟨rfl, hrest⟩

theorem careful_next (item : OutboxData) (answer : Answer)
    (items : List (OutboxData × Answer)) (h : ¬ Stops (item, answer)) :
    Careful ((item, answer) :: items) ↔ Careful items := by
  constructor
  · intro hall before x behind heq hbefore
    exact hall ((item, answer) :: before) x behind (congrArg (_ :: ·) heq)
      (List.forall_mem_cons.mpr ⟨h, hbefore⟩)
  · intro hall before x behind heq hbefore hstops
    cases before with
    | nil => exact absurd ((List.cons.inj heq).1 ▸ hstops) h
    | cons y before =>
        exact hall before x behind (List.cons.inj heq).2 (List.forall_mem_cons.mp hbefore).2 hstops

/-- An entry that stops the batch does harm if it is not excused and there is
    something behind it. -/
theorem noPoison_stop (item : OutboxData) (answer : Answer)
    (items : List (OutboxData × Answer)) (h : Stops (item, answer)) :
    NoPoison ((item, answer) :: items) ↔ Excused (item, answer) ∨ items = [] := by
  unfold NoPoison
  rw [processBatch_stop item answer items h]
  constructor
  · intro hall
    by_contra hno
    cases items with
    | nil => exact hno (Or.inr rfl)
    | cons x items =>
        have hsecond := hall [(item, answer)] x items rfl
          (List.forall_mem_cons.mpr
            ⟨fun hx => hno (Or.inl hx), fun _ hnil => absurd hnil List.not_mem_nil⟩)
        have hlength : 2 ≤ 1 := hsecond.length_le
        exact absurd hlength (by decide)
  · intro hor before x behind heq hbefore
    cases before with
    | nil =>
        have hx : (item, answer) = x := (List.cons.inj heq).1
        rw [← hx]
        exact List.prefix_refl _
    | cons y before =>
        have hy : (item, answer) = y := (List.cons.inj heq).1
        have hrest : items = before ++ x :: behind := (List.cons.inj heq).2
        rcases hor with hexcused | hempty
        · exact absurd (hy ▸ hexcused) ((List.forall_mem_cons.mp hbefore).1)
        · rw [hempty] at hrest
          exact absurd hrest.symm (List.append_ne_nil_of_right_ne_nil _ (List.cons_ne_nil _ _))

theorem careful_stop (item : OutboxData) (answer : Answer)
    (items : List (OutboxData × Answer)) (h : Stops (item, answer)) :
    Careful ((item, answer) :: items) ↔ Excused (item, answer) ∨ items = [] := by
  constructor
  · exact fun hall => hall [] (item, answer) items rfl (fun _ h => absurd h List.not_mem_nil) h
  · intro hor before x behind heq hbefore _
    cases before with
    | nil =>
        have hx : (item, answer) = x := (List.cons.inj heq).1
        have hbehind : items = behind := (List.cons.inj heq).2
        rw [← hx, ← hbehind]
        exact hor
    | cons y before =>
        have hy : (item, answer) = y := (List.cons.inj heq).1
        exact absurd (hy ▸ h) (List.forall_mem_cons.mp hbefore).1

/-- The batches that come through without harm. -/
theorem noPoison_iff (items : List (OutboxData × Answer)) : NoPoison items ↔ Careful items := by
  induction items with
  | nil =>
      have hnone : ∀ (before behind : List (OutboxData × Answer)) x, [] ≠ before ++ x :: behind :=
        fun before behind x =>
          (List.append_ne_nil_of_right_ne_nil before (List.cons_ne_nil x behind)).symm
      exact ⟨fun _ before x behind heq => absurd heq (hnone before behind x),
        fun _ before x behind heq => absurd heq (hnone before behind x)⟩
  | cons y items ih =>
      rcases y with ⟨item, answer⟩
      by_cases hstops : Stops (item, answer)
      · rw [noPoison_stop item answer items hstops, careful_stop item answer items hstops]
      · rw [noPoison_next item answer items hstops, careful_next item answer items hstops, ih]

/-- The entry `claimDevice` inserts. -/
def claimEntry (id : Nat) (deviceId pairingCode : DartString) : OutboxData where
  id := id
  action := dartString "claim"
  payload := jsonEncode
    [(dartString "device_id", deviceId), (dartString "pairing_code", pairingCode)]

/-- The entry `renameDevice` inserts. -/
def renameEntry (id : Nat) (deviceId deviceAlias : DartString) : OutboxData where
  id := id
  action := dartString "rename"
  payload := jsonEncode [(dartString "device_id", deviceId), (dartString "alias", deviceAlias)]

theorem execute_claimEntry (id : Nat) (deviceId pairingCode : DartString) (answer : Answer) :
    execute (claimEntry id deviceId pairingCode) answer = call answer := by
  rw [execute, claimEntry, decode_encode]
  rfl

theorem execute_renameEntry (id : Nat) (deviceId deviceAlias : DartString) (answer : Answer) :
    execute (renameEntry id deviceId deviceAlias) answer = call answer := by
  rw [execute, renameEntry, decode_encode]
  rfl

theorem stops_of_call (item : OutboxData) (answer : Answer)
    (h : execute item answer = call answer) :
    Stops (item, answer) ↔
      ∀ r, answer = some r → validateStatus r.statusCode = false ∧ r.statusCode ≠ 409 := by
  cases answer with
  | none => exact iff_of_true ⟨_, h, (Option.some_ne_none 409).symm⟩ (fun r hr => absurd hr.symm
      (Option.some_ne_none r))
  | some r =>
      by_cases hvalid : validateStatus r.statusCode = true
      · have hok : execute item (some r) = .ok () := by
          rw [h, call, (fetch_eq_ok (some r) r).mpr ⟨rfl, hvalid⟩]
        refine iff_of_false ?_ (fun hall => absurd (hall r rfl).1 (by rw [hvalid]; decide))
        rintro ⟨e, he, _⟩
        exact absurd (hok.symm.trans he) (by simp only [reduceCtorEq, not_false_eq_true])
      · have herror : execute item (some r) = .error (.dio ⟨some r⟩) := by
          rw [h, call, fetch, if_neg hvalid]
        constructor
        · rintro ⟨e, he, hne⟩ r' hr'
          rw [herror, Except.error.injEq] at he
          rw [← he] at hne
          rw [← Option.some.inj hr']
          exact ⟨Bool.eq_false_iff.mpr hvalid, fun heq => hne (congrArg some heq)⟩
        · exact fun hall => ⟨_, herror, fun heq => (hall r rfl).2 (Option.some.inj heq)⟩

/-- The entries the app inserts. Their payloads decode, so it is only by the
    answer to its call that one of them stops the batch. -/
inductive Queued : OutboxData → Prop
  | claim (id : Nat) (deviceId pairingCode : DartString) :
    Queued (claimEntry id deviceId pairingCode)
  | rename (id : Nat) (deviceId deviceAlias : DartString) :
    Queued (renameEntry id deviceId deviceAlias)

theorem stops_queued (item : OutboxData) (answer : Answer) (h : Queued item) :
    Stops (item, answer) ↔
      ∀ r, answer = some r → validateStatus r.statusCode = false ∧ r.statusCode ≠ 409 := by
  cases h with
  | claim id deviceId pairingCode =>
      exact stops_of_call _ answer (execute_claimEntry id deviceId pairingCode answer)
  | rename id deviceId deviceAlias =>
      exact stops_of_call _ answer (execute_renameEntry id deviceId deviceAlias answer)

/-- A rename of a device that is not the user's. -/
def refusedEntry : OutboxData := renameEntry 1 (dartString "vena-1") (dartString "Sala")

/-- A rename of one that is. -/
def behindEntry : OutboxData := renameEntry 2 (dartString "vena-2") (dartString "Sala")

/-- The backend refuses the first entry, and the second is not attempted. -/
theorem poison_rename : ¬ ∀ items : List (OutboxData × Answer), NoPoison items := by
  intro h
  have hexec : execute refusedEntry (some ⟨403, ()⟩) = .error (.dio ⟨some ⟨403, ()⟩⟩) :=
    execute_renameEntry 1 _ _ _
  have hexcused : ¬ Excused (refusedEntry, some ⟨403, ()⟩) := by
    rintro ⟨e, he, hstatus⟩
    rw [hexec, Except.error.injEq, Thrown.dio.injEq] at he
    rw [← he] at hstatus
    exact absurd (hstatus 403 rfl).1 (by decide)
  have hboth := h [(refusedEntry, some ⟨403, ()⟩), (behindEntry, some ⟨200, ()⟩)]
    [(refusedEntry, some ⟨403, ()⟩)] _ [] rfl
    (List.forall_mem_cons.mpr ⟨hexcused, fun _ hno => absurd hno List.not_mem_nil⟩)
  rw [processBatch_stop refusedEntry (some ⟨403, ()⟩) _
    ⟨.dio ⟨some ⟨403, ()⟩⟩, hexec, by decide⟩] at hboth
  have hlength : 2 ≤ 1 := hboth.length_le
  exact absurd hlength (by decide)

/-- What is still pending behind a pass. -/
def pass (pending : List OutboxData) (answer : OutboxData → Answer) : List OutboxData :=
  let result := processBatch (pending.map (fun e => (e, answer e)))
  pending.filter (fun e => !result.synced.contains e.id)

/-- An entry that fails in every pass keeps everything where it is. -/
theorem blocked_passes (e : OutboxData) (entries : List OutboxData)
    (answers : List (OutboxData → Answer)) (h : ∀ answer ∈ answers, Stops (e, answer e)) :
    answers.foldl pass (e :: entries) = e :: entries := by
  induction answers with
  | nil => rfl
  | cons answer answers ih =>
      have hfirst := (List.forall_mem_cons.mp h).1
      have hpass : pass (e :: entries) answer = e :: entries := by
        unfold pass
        dsimp only
        rw [List.map_cons, processBatch_stop e (answer e) _ hfirst]
        exact List.filter_eq_self.mpr (fun _ _ => rfl)
      rw [List.foldl_cons, hpass, ih (List.forall_mem_cons.mp h).2]

end PoisonEntry

end Mobile

end Vena
