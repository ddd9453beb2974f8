import Vena.Core.Processes
import Vena.Core.Run
import Vena.Mobile.HistoryProvider

/-!
# The Age of a History

The history provider over a whole run of the app. Riverpod runs its body once
for a device and a range and hands the result to every reader for five minutes
from the beginning of that run, and for as long as a widget listens to it. The
body itself may take its result from a row that is up to five minutes old. The
two windows are opened independently, so a read can return samples of ten
minutes ago. `read_age` states the bound for every interleaving of reads,
listeners, fetches, invalidations and restarts; `stale_read` is a run in which it
is exhausted to the millisecond.

The samples of a row are traced back to the answer of the backend they came in,
which needs that a row is read back as it was written.

## Main definitions

* `Build`: One run of the body, with the result kept in memory.
* `State`, `step`: The app, in steps between two awaits.
* `FetchedSince`: Samples came in an answer to a request since then.
* `AtMostFiveMinutes`: Every read returned samples of the last five minutes.

## Theorems

* `step_moves`: What a step can do.
* `build_history`: A build that runs alone does what `history` does.
* `step_sound`: Rows, results and reads are as old as they may be.
* `read_age`: How old the samples of a read can be.
* `stale_read`: A read of samples of ten minutes ago.
-/

namespace Vena

namespace Mobile

namespace HistoryAge

open Run HistoryProvider

/-- The await a build is at. -/
inductive Phase where
  | cache
  | fetching (sentAt : Nat)
  | persisting (envelope : HistoryResponse)
  | done (samples : List TelemetryPoint)
  | failed

/-- One run of the body. Times are in milliseconds. `live` is whether a read is
    served by it. -/
structure Build where
  deviceId : DartString
  range : HistoryRange
  startedAt : Nat
  phase : Phase
  live : Bool
  listeners : Nat

/-- A request that the backend has answered. -/
structure Answer where
  deviceId : DartString
  range : HistoryRange
  sentAt : Nat
  response : HistoryResponse

/-- A read that has completed with samples, and the build that served it. -/
structure Read where
  deviceId : DartString
  range : HistoryRange
  time : Nat
  startedAt : Nat
  listeners : Nat
  samples : List TelemetryPoint

structure State where
  now : Nat
  rows : List HistoryRow
  builds : List Build
  answers : List Answer
  reads : List Read

/-- Before the first read, with an empty table. -/
def initial (now : Nat) : State := ⟨now, [], [], [], []⟩

/-- `kHistoryCacheTtl`, in milliseconds. -/
def keepAliveMs : Nat := 300000

/-- A row that is 300 whole seconds old. -/
def rowAgeMs : Nat := 300999

/-- The second a build began at. -/
def Build.nowSec (b : Build) : Int := (b.startedAt / 1000 : Nat)

/-- A build is disposed of once its five minutes are over and nobody listens. -/
def Build.expire (now : Nat) (b : Build) : Build :=
  { b with
    live := b.live && (decide (0 < b.listeners) || decide (now < b.startedAt + keepAliveMs)) }

/-- Serves the reads of the provider. -/
def Build.serves (deviceId : DartString) (range : HistoryRange) (b : Build) : Bool :=
  b.live && decide (b.deviceId = deviceId) && decide (b.range = range)

inductive Action where
  /-- Time passes. -/
  | wait (ms : Nat)
  /-- A read finds no build to serve it. -/
  | start (deviceId : DartString) (range : HistoryRange)
  /-- The row is looked up. -/
  | lookUp (i : Nat)
  /-- The backend answers, `none` for an exception. -/
  | answer (i : Nat) (api : Option HistoryResponse)
  /-- The answer is stored. -/
  | store (i : Nat)
  /-- A read is served. -/
  | read (i : Nat)
  | listen (i : Nat)
  | unlisten (i : Nat)
  /-- `invalidateStale`. -/
  | deleteStale (deviceId : DartString) (newTs : Int)
  /-- `ref.invalidate`. -/
  | invalidate (deviceId : DartString) (range : HistoryRange)
  /-- The app is started anew. -/
  | restart

/-- A build goes on from the cache: with the row, or to the network. -/
def Build.lookUp (ofLocal : Int → Int) (now : Nat) (rows : List HistoryRow) (b : Build) : Build :=
  match tryCache ofLocal b.nowSec b.deviceId b.range rows with
  | some samples => { b with phase := .done samples }
  | none => { b with phase := .fetching now }

variable (ofLocal : Int → Int)

def step (s : State) : Action → Option State
  | .wait ms => some { s with
      now := s.now + ms
      builds := s.builds.map (Build.expire (s.now + ms)) }
  | .start deviceId range =>
    if s.builds.any (Build.serves deviceId range) then none
    else some { s with builds := s.builds ++ [⟨deviceId, range, s.now, .cache, true, 0⟩] }
  | .lookUp i => do
    let b ← s.builds[i]?
    match b.phase with
    | .cache => return { s with builds := s.builds.set i (b.lookUp ofLocal s.now s.rows) }
    | _ => none
  | .answer i api => do
    let b ← s.builds[i]?
    match b.phase, api with
    | .fetching _, none => return { s with builds := s.builds.set i { b with phase := .failed } }
    | .fetching sentAt, some response => return { s with
        builds := s.builds.set i { b with phase := .persisting response }
        answers := s.answers ++ [⟨b.deviceId, b.range, sentAt, response⟩] }
    | _, _ => none
  | .store i => do
    let b ← s.builds[i]?
    match b.phase with
    | .persisting envelope =>
      match persist b.nowSec b.deviceId b.range envelope s.rows with
      | none => return { s with builds := s.builds.set i { b with phase := .failed } }
      | some rows => return { s with
          rows
          builds := s.builds.set i { b with phase := .done envelope.samples } }
    | _ => none
  | .read i => do
    let b ← s.builds[i]?
    match b.live, b.phase with
    | true, .done samples => return { s with
        reads := s.reads ++ [⟨b.deviceId, b.range, s.now, b.startedAt, b.listeners, samples⟩] }
    | _, _ => none
  | .listen i => do
    let b ← s.builds[i]?
    if b.live then
      return { s with builds := s.builds.set i { b with listeners := b.listeners + 1 } }
    else none
  | .unlisten i => do
    let b ← s.builds[i]?
    return { s with
      builds := s.builds.set i (Build.expire s.now { b with listeners := b.listeners - 1 }) }
  | .deleteStale deviceId newTs => some { s with rows := invalidateStale s.rows deviceId newTs }
  | .invalidate deviceId range => some { s with
      builds := s.builds.map (fun b =>
        if b.serves deviceId range then { b with live := false } else b) }
  | .restart => some { s with builds := [] }

/-- What a step can do. -/
inductive Moves (s : State) : Action → State → Prop
  | wait (ms : Nat) :
    Moves s (.wait ms) { s with
      now := s.now + ms
      builds := s.builds.map (Build.expire (s.now + ms)) }
  | start (deviceId : DartString) (range : HistoryRange) :
    Moves s (.start deviceId range)
      { s with builds := s.builds ++ [⟨deviceId, range, s.now, .cache, true, 0⟩] }
  | hit (i : Nat) (b : Build) (samples : List TelemetryPoint) (hget : s.builds[i]? = some b)
      (hcache : tryCache ofLocal b.nowSec b.deviceId b.range s.rows = some samples) :
    Moves s (.lookUp i) { s with builds := s.builds.set i { b with phase := .done samples } }
  | miss (i : Nat) (b : Build) (hget : s.builds[i]? = some b) :
    Moves s (.lookUp i) { s with builds := s.builds.set i { b with phase := .fetching s.now } }
  | answered (i : Nat) (b : Build) (sentAt : Nat) (response : HistoryResponse)
      (hget : s.builds[i]? = some b) (hphase : b.phase = .fetching sentAt) :
    Moves s (.answer i (some response)) { s with
      builds := s.builds.set i { b with phase := .persisting response }
      answers := s.answers ++ [⟨b.deviceId, b.range, sentAt, response⟩] }
  | stored (i : Nat) (b : Build) (envelope : HistoryResponse) (rows : List HistoryRow)
      (hget : s.builds[i]? = some b) (hphase : b.phase = .persisting envelope)
      (hpersist : persist b.nowSec b.deviceId b.range envelope s.rows = some rows) :
    Moves s (.store i) { s with
      rows
      builds := s.builds.set i { b with phase := .done envelope.samples } }
  | failed (a : Action) (i : Nat) (b : Build) (hget : s.builds[i]? = some b) :
    Moves s a { s with builds := s.builds.set i { b with phase := .failed } }
  | read (i : Nat) (b : Build) (samples : List TelemetryPoint) (hget : s.builds[i]? = some b)
      (hlive : b.live = true) (hphase : b.phase = .done samples) :
    Moves s (.read i) { s with
      reads := s.reads ++ [⟨b.deviceId, b.range, s.now, b.startedAt, b.listeners, samples⟩] }
  | listen (i : Nat) (b : Build) (hget : s.builds[i]? = some b) :
    Moves s (.listen i)
      { s with builds := s.builds.set i { b with listeners := b.listeners + 1 } }
  | unlisten (i : Nat) (b : Build) (hget : s.builds[i]? = some b) :
    Moves s (.unlisten i) { s with
      builds := s.builds.set i (Build.expire s.now { b with listeners := b.listeners - 1 }) }
  | deleteStale (deviceId : DartString) (newTs : Int) :
    Moves s (.deleteStale deviceId newTs)
      { s with rows := invalidateStale s.rows deviceId newTs }
  | invalidate (deviceId : DartString) (range : HistoryRange) :
    Moves s (.invalidate deviceId range) { s with
      builds := s.builds.map (fun b =>
        if b.serves deviceId range then { b with live := false } else b) }
  | restart : Moves s .restart { s with builds := [] }

theorem step_moves (s s' : State) (a : Action) (h : step ofLocal s a = some s') :
    Moves ofLocal s a s' := by
  cases a with
  | wait ms =>
      rw [step, Option.some.injEq] at h
      exact h ▸ .wait ms
  | start deviceId range =>
      rw [step, Option.ite_none_left_eq_some, Option.some.injEq] at h
      exact h.2 ▸ .start deviceId range
  | lookUp i =>
      rw [step, Option.bind_eq_bind, Option.bind_eq_some_iff] at h
      rcases h with ⟨b, hget, h⟩
      split at h
      · rw [Option.pure_def, Option.some.injEq, Build.lookUp] at h
        subst h
        split
        · next samples hcache => exact .hit i b samples hget hcache
        · exact .miss i b hget
      · exact absurd h nofun
  | answer i api =>
      rw [step, Option.bind_eq_bind, Option.bind_eq_some_iff] at h
      rcases h with ⟨b, hget, h⟩
      split at h
      · rw [Option.pure_def, Option.some.injEq] at h
        exact h ▸ .failed _ i b hget
      · next sentAt response hphase =>
          rw [Option.pure_def, Option.some.injEq] at h
          exact h ▸ .answered i b sentAt response hget hphase
      · exact absurd h nofun
  | store i =>
      rw [step, Option.bind_eq_bind, Option.bind_eq_some_iff] at h
      rcases h with ⟨b, hget, h⟩
      split at h
      · next envelope hphase =>
          split at h
          · rw [Option.pure_def, Option.some.injEq] at h
            exact h ▸ .failed _ i b hget
          · next rows hpersist =>
              rw [Option.pure_def, Option.some.injEq] at h
              exact h ▸ .stored i b envelope rows hget hphase hpersist
      · exact absurd h nofun
  | read i =>
      rw [step, Option.bind_eq_bind, Option.bind_eq_some_iff] at h
      rcases h with ⟨b, hget, h⟩
      split at h
      · next samples hlive hphase =>
          rw [Option.pure_def, Option.some.injEq] at h
          exact h ▸ .read i b samples hget hlive hphase
      · exact absurd h nofun
  | listen i =>
      rw [step, Option.bind_eq_bind, Option.bind_eq_some_iff] at h
      rcases h with ⟨b, hget, h⟩
      rw [Option.ite_none_right_eq_some, Option.pure_def, Option.some.injEq] at h
      exact h.2 ▸ .listen i b hget
  | unlisten i =>
      rw [step, Option.bind_eq_bind, Option.bind_eq_some_iff] at h
      rcases h with ⟨b, hget, h⟩
      rw [Option.pure_def, Option.some.injEq] at h
      exact h ▸ .unlisten i b hget
  | deleteStale deviceId newTs =>
      rw [step, Option.some.injEq] at h
      exact h ▸ .deleteStale deviceId newTs
  | invalidate deviceId range =>
      rw [step, Option.some.injEq] at h
      exact h ▸ .invalidate deviceId range
  | restart =>
      rw [step, Option.some.injEq] at h
      exact h ▸ .restart

section Alone

variable (s : State) (deviceId : DartString) (range : HistoryRange)

/-- With one more build, begun now. -/
def State.building (phase : Phase) : State :=
  { s with builds := s.builds ++ [⟨deviceId, range, s.now, phase, true, 0⟩] }

/-- The last build, as the steps of its body find and leave it. -/
theorem building_get (phase : Phase) : (s.building deviceId range phase).builds[s.builds.length]? =
    some ⟨deviceId, range, s.now, phase, true, 0⟩ :=
  List.getElem?_concat_length

theorem building_set (phase phase' : Phase) :
    (s.building deviceId range phase).builds.set s.builds.length
      ⟨deviceId, range, s.now, phase', true, 0⟩ = (s.building deviceId range phase').builds := by
  rw [State.building, List.set_append_right _ _ (Nat.le_refl _), Nat.sub_self, List.set_cons_zero]
  rfl

theorem start_last (hnone : s.builds.any (Build.serves deviceId range) = false) :
    step ofLocal s (.start deviceId range) = some (s.building deviceId range .cache) := by
  rw [step, hnone, if_neg Bool.false_ne_true]
  rfl

theorem lookUp_last : step ofLocal (s.building deviceId range .cache) (.lookUp s.builds.length) =
    some (s.building deviceId range
      ((tryCache ofLocal (s.now / 1000 : Nat) deviceId range s.rows).elim (.fetching s.now)
        .done)) := by
  have hrows : (s.building deviceId range .cache).rows = s.rows := rfl
  simp only [step, building_get, Option.bind_eq_bind, Option.bind_some, Option.pure_def,
    Build.lookUp, Build.nowSec, hrows]
  cases tryCache ofLocal (s.now / 1000 : Nat) deviceId range s.rows with
  | none => exact congrArg (fun builds => some { s with builds }) (building_set s _ _ _ _)
  | some samples => exact congrArg (fun builds => some { s with builds }) (building_set s _ _ _ _)

theorem answer_failed_last (sentAt : Nat) :
    step ofLocal (s.building deviceId range (.fetching sentAt)) (.answer s.builds.length none) =
      some (s.building deviceId range .failed) := by
  simp only [step, building_get, Option.bind_eq_bind, Option.bind_some, Option.pure_def]
  exact congrArg (fun builds => some { s with builds }) (building_set s _ _ _ _)

theorem answer_last (sentAt : Nat) (response : HistoryResponse) :
    step ofLocal (s.building deviceId range (.fetching sentAt))
        (.answer s.builds.length (some response)) =
      some (State.building
        { s with answers := s.answers ++ [⟨deviceId, range, sentAt, response⟩] } deviceId range
        (.persisting response)) := by
  simp only [step, building_get, Option.bind_eq_bind, Option.bind_some, Option.pure_def]
  exact congrArg (fun builds => some (State.mk s.now s.rows builds
    (s.answers ++ [⟨deviceId, range, sentAt, response⟩]) s.reads)) (building_set s _ _ _ _)

theorem store_last (envelope : HistoryResponse) :
    step ofLocal (s.building deviceId range (.persisting envelope)) (.store s.builds.length) =
      some ((persist (s.now / 1000 : Nat) deviceId range envelope s.rows).elim
        (s.building deviceId range .failed)
        (fun rows => State.building { s with rows } deviceId range (.done envelope.samples))) := by
  have hrows : (s.building deviceId range (.persisting envelope)).rows = s.rows := rfl
  simp only [step, building_get, Option.bind_eq_bind, Option.bind_some, Option.pure_def,
    Build.nowSec, hrows]
  cases persist (s.now / 1000 : Nat) deviceId range envelope s.rows with
  | none => exact congrArg (fun builds => some { s with builds }) (building_set s _ _ _ _)
  | some rows =>
      exact congrArg (fun builds => some (State.mk s.now rows builds s.answers s.reads))
        (building_set s _ _ _ _)

/-- A build that runs alone does what `history` does. -/
theorem build_history (api : Option HistoryResponse)
    (hnone : s.builds.any (Build.serves deviceId range) = false) :
    ∃ as s', ∃ phase : Phase, run (step ofLocal) s as = some s' ∧
      s'.builds = (s.building deviceId range phase).builds ∧
      s'.rows = (history ofLocal (s.now / 1000 : Nat) deviceId range api s.rows).2 ∧
      phase = (history ofLocal (s.now / 1000 : Nat) deviceId range api s.rows).1.elim
        .failed .done := by
  have hstart := start_last ofLocal s deviceId range hnone
  have hlookUp := lookUp_last ofLocal s deviceId range
  unfold history
  -- One run for each way `history` can end; each refers to the new build by its place.
  cases hcache : tryCache ofLocal (s.now / 1000 : Nat) deviceId range s.rows with
  | some samples =>
      rw [hcache] at hlookUp
      refine ⟨[.start deviceId range, .lookUp s.builds.length],
        s.building deviceId range (.done samples), .done samples, ?_, rfl, rfl, rfl⟩
      simp only [run, hstart, hlookUp, Option.elim_some]
  | none =>
      rw [hcache] at hlookUp
      cases api with
      | none =>
          refine ⟨[.start deviceId range, .lookUp s.builds.length, .answer s.builds.length none],
            s.building deviceId range .failed, .failed, ?_, rfl, rfl, rfl⟩
          simp only [run, hstart, hlookUp, Option.elim_none, answer_failed_last]
      | some response =>
          have hstore := store_last ofLocal
            { s with answers := s.answers ++ [⟨deviceId, range, s.now, response⟩] }
            deviceId range response
          have hrun : ∀ s', step ofLocal (State.building
              { s with answers := s.answers ++ [⟨deviceId, range, s.now, response⟩] } deviceId
              range (.persisting response)) (.store s.builds.length) = some s' →
              run (step ofLocal) s [.start deviceId range, .lookUp s.builds.length,
                .answer s.builds.length (some response), .store s.builds.length] = some s' := by
            intro s' hs'
            simp only [run, hstart, hlookUp, Option.elim_none, answer_last, hs']
          cases hpersist : persist (s.now / 1000 : Nat) deviceId range response s.rows with
          | none =>
              rw [hpersist] at hstore
              refine ⟨_, _, .failed, hrun _ hstore, rfl, ?_, ?_⟩
              · simp only [hpersist, Option.elim_none, State.building]
              · simp only [hpersist, Option.elim_none]
          | some rows =>
              rw [hpersist] at hstore
              refine ⟨_, _, .done response.samples, hrun _ hstore, rfl, ?_, ?_⟩
              · simp only [hpersist, Option.elim_some, State.building]
              · simp only [hpersist, Option.elim_some]

end Alone

/-- The samples came in an answer for the device and the range, to a request sent
    at `since` or later. -/
def FetchedSince (answers : List Answer) (deviceId : DartString) (range : HistoryRange)
    (samples : List TelemetryPoint) (since : Nat) : Prop :=
  ∃ a ∈ answers, a.deviceId = deviceId ∧ a.range = range ∧ a.response.samples = samples ∧
    since ≤ a.sentAt

section

variable {answers : List Answer} {deviceId : DartString} {range : HistoryRange}
  {samples : List TelemetryPoint} {since since' : Nat}

theorem FetchedSince.weaken (h : FetchedSince answers deviceId range samples since)
    (hle : since' ≤ since) : FetchedSince answers deviceId range samples since' := by
  rcases h with ⟨a, ha, hdev, hrange, hsamples, hsince⟩
  exact ⟨a, ha, hdev, hrange, hsamples, Nat.le_trans hle hsince⟩

theorem FetchedSince.append (more : List Answer)
    (h : FetchedSince answers deviceId range samples since) :
    FetchedSince (answers ++ more) deviceId range samples since := by
  rcases h with ⟨a, ha, hrest⟩
  exact ⟨a, List.mem_append_left more ha, hrest⟩

end

/-- A row is read back as samples that were fetched no earlier than it says. -/
def RowSound (answers : List Answer) (row : HistoryRow) : Prop :=
  ∃ range envelope, ∃ second : Nat, row.rangeKey = range.apiValue ∧ row.fetchedAt = second ∧
    HistoryResponse.decode ofLocal row.payload = some envelope ∧
    FetchedSince answers row.deviceId range envelope.samples (second * 1000)

/-- What a build has at an await. A row may be 300 seconds old in whole seconds. -/
def PhaseSound (answers : List Answer) (b : Build) : Prop :=
  match b.phase with
  | .cache => True
  | .fetching sentAt => b.startedAt ≤ sentAt
  | .persisting envelope => FetchedSince answers b.deviceId b.range envelope.samples b.startedAt
  | .done samples => FetchedSince answers b.deviceId b.range samples (b.startedAt - rowAgeMs)
  | .failed => True

/-- A build that serves reads is in its five minutes or is listened to. -/
structure BuildSound (now : Nat) (answers : List Answer) (b : Build) : Prop where
  started : b.startedAt ≤ now
  phase : PhaseSound answers b
  window : b.live = true → 0 < b.listeners ∨ now < b.startedAt + keepAliveMs

/-- A read got samples no older than its build could have them. -/
structure ReadSound (answers : List Answer) (r : Read) : Prop where
  started : r.startedAt ≤ r.time
  fetched : FetchedSince answers r.deviceId r.range r.samples (r.startedAt - rowAgeMs)
  window : 0 < r.listeners ∨ r.time < r.startedAt + keepAliveMs

structure Sound (s : State) : Prop where
  rows : ∀ row ∈ s.rows, RowSound ofLocal s.answers row
  builds : ∀ b ∈ s.builds, BuildSound s.now s.answers b
  reads : ∀ r ∈ s.reads, ReadSound s.answers r

/-- What is known of a build at the await it is found at. -/
theorem PhaseSound.at_phase {answers : List Answer} {b : Build} {phase : Phase}
    (h : PhaseSound answers b) (hphase : b.phase = phase) :
    PhaseSound answers { b with phase } := by
  subst hphase
  exact h

theorem sound_initial (now : Nat) : Sound ofLocal (initial now) where
  rows := fun _ hrow => absurd hrow List.not_mem_nil
  builds := fun _ hb => absurd hb List.not_mem_nil
  reads := fun _ hr => absurd hr List.not_mem_nil

theorem phaseSound_mono (answers more : List Answer) (b : Build) (h : PhaseSound answers b) :
    PhaseSound (answers ++ more) b := by
  have hmono : ∀ phase, PhaseSound answers { b with phase } →
      PhaseSound (answers ++ more) { b with phase } := by
    intro phase hphase
    cases phase with
    | cache => trivial
    | fetching sentAt => exact hphase
    | persisting envelope => exact FetchedSince.append more hphase
    | done samples => exact FetchedSince.append more hphase
    | failed => trivial
  exact hmono b.phase h

/-- More answers make nothing older. -/
theorem sound_answers (s : State) (more : List Answer) (h : Sound ofLocal s) :
    Sound ofLocal { s with answers := s.answers ++ more } where
  rows := by
    intro row hrow
    rcases h.rows row hrow with ⟨range, envelope, second, hkey, hsecond, hdecode, hfetched⟩
    exact ⟨range, envelope, second, hkey, hsecond, hdecode, hfetched.append more⟩
  builds := fun b hb => ⟨(h.builds b hb).started, phaseSound_mono s.answers more b
    (h.builds b hb).phase, (h.builds b hb).window⟩
  reads := fun r hr => ⟨(h.reads r hr).started, (h.reads r hr).fetched.append more,
    (h.reads r hr).window⟩

/-- One build moves. -/
theorem sound_set (s : State) (i : Nat) (b : Build) (h : Sound ofLocal s)
    (hb : BuildSound s.now s.answers b) : Sound ofLocal { s with builds := s.builds.set i b } where
  rows := h.rows
  builds := by
    intro b' hmem
    rcases List.mem_or_eq_of_mem_set hmem with hold | rfl
    · exact h.builds b' hold
    · exact hb
  reads := h.reads

theorem expire_live (now : Nat) (b : Build) (h : (b.expire now).live = true) :
    b.live = true ∧ (0 < b.listeners ∨ now < b.startedAt + keepAliveMs) := by
  simpa only [Build.expire, Bool.and_eq_true, Bool.or_eq_true, decide_eq_true_eq] using h

theorem buildSound_expire (now later : Nat) (answers : List Answer) (b : Build)
    (hstarted : b.startedAt ≤ now) (hphase : PhaseSound answers b) (hle : now ≤ later) :
    BuildSound later answers (b.expire later) where
  started := Nat.le_trans hstarted hle
  phase := hphase
  window := fun hlive => (expire_live later b hlive).2

theorem apiValue_injective (range range' : HistoryRange) (h : range.apiValue = range'.apiValue) :
    range = range' := by
  have hall : ∀ range range' : HistoryRange, range.apiValue = range'.apiValue → range = range' := by
    intro range range'
    cases range with
    | _ => cases range' with
      | _ => decide +kernel
  exact hall range range' h

/-- What a cache hit returns was fetched within five minutes and a second. -/
theorem fetchedSince_of_hit (s : State) (b : Build) (samples : List TelemetryPoint)
    (h : Sound ofLocal s)
    (hcache : tryCache ofLocal b.nowSec b.deviceId b.range s.rows = some samples) :
    FetchedSince s.answers b.deviceId b.range samples (b.startedAt - rowAgeMs) := by
  rcases (tryCache_eq_some _ _ _ _ _ _).mp hcache with
    ⟨row, envelope, hget, hfresh, hdecode, hsamples⟩
  have hmem := List.mem_of_find?_eq_some hget
  have hfound := List.find?_some hget
  have hkey : row.key = (b.deviceId, cacheBucket, b.range.apiValue) := of_decide_eq_true hfound
  rw [HistoryRow.key, Prod.mk.injEq, Prod.mk.injEq] at hkey
  rcases h.rows row hmem with ⟨range, envelope', second, hrange, hsecond, hdecode', hfetched⟩
  rw [hdecode, Option.some.injEq] at hdecode'
  have hsame : range = b.range := apiValue_injective _ _ (hrange.symm.trans hkey.2.2)
  rw [hkey.1, hsame, ← hdecode', hsamples] at hfetched
  rw [hsecond, Build.nowSec, ttlSec] at hfresh
  refine hfetched.weaken ?_
  rw [rowAgeMs]
  omega

/-- What is stored is read back, so the row is as old as it says. -/
theorem rowSound_of_persist (s : State) (b : Build) (envelope : HistoryResponse)
    (rows : List HistoryRow) (h : Sound ofLocal s)
    (hfetched : FetchedSince s.answers b.deviceId b.range envelope.samples b.startedAt)
    (hpersist : persist b.nowSec b.deviceId b.range envelope s.rows = some rows) :
    ∀ row ∈ rows, RowSound ofLocal s.answers row := by
  rcases Option.map_eq_some_iff.mp hpersist with ⟨payload, hencode, rfl⟩
  intro row hrow
  rcases Keyed.mem_upsert_cases _ _ _ _ hrow with ⟨hold, _⟩ | rfl
  · exact h.rows row hold
  · have hfinite : envelope.isFinite = true := (Option.ite_none_right_eq_some.mp hencode).1
    rcases HistoryResponse.decode_encode ofLocal envelope hfinite with
      ⟨payload', hencode', hdecode⟩
    rw [hencode, Option.some.injEq] at hencode'
    exact ⟨b.range, envelope.inUtc, b.startedAt / 1000, rfl, rfl, hencode' ▸ hdecode,
      hfetched.weaken (Nat.div_mul_le_self _ _)⟩

/-- Rows, results and reads are as old as they may be. -/
theorem step_sound (s : State) (a : Action) (s' : State) (h : Sound ofLocal s)
    (hstep : step ofLocal s a = some s') : Sound ofLocal s' := by
  cases step_moves ofLocal s s' a hstep with
  | wait ms =>
      refine ⟨h.rows, fun b hb => ?_, h.reads⟩
      rcases List.mem_map.mp hb with ⟨old, hold, rfl⟩
      exact buildSound_expire s.now _ s.answers old (h.builds old hold).started
        (h.builds old hold).phase (Nat.le_add_right _ _)
  | start deviceId range =>
      refine ⟨h.rows, fun b hb => ?_, h.reads⟩
      rcases List.mem_append.mp hb with hold | hnew
      · exact h.builds b hold
      · rw [List.mem_singleton] at hnew
        subst hnew
        exact ⟨Nat.le_refl _, trivial, fun _ => Or.inr (Nat.lt_add_of_pos_right (by decide))⟩
  | hit i b samples hget hcache =>
      have hb := h.builds b (List.mem_of_getElem? hget)
      exact sound_set ofLocal s i _ h
        ⟨hb.started, fetchedSince_of_hit ofLocal s b samples h hcache, hb.window⟩
  | miss i b hget =>
      have hb := h.builds b (List.mem_of_getElem? hget)
      exact sound_set ofLocal s i _ h ⟨hb.started, hb.started, hb.window⟩
  | answered i b sentAt response hget hphase =>
      have hb := h.builds b (List.mem_of_getElem? hget)
      have hsent : b.startedAt ≤ sentAt := hb.phase.at_phase hphase
      have hmore := sound_answers ofLocal s [⟨b.deviceId, b.range, sentAt, response⟩] h
      refine sound_set ofLocal _ i { b with phase := .persisting response } hmore
        ⟨hb.started, ?_, hb.window⟩
      exact ⟨_, List.mem_append_right _ (List.mem_singleton_self _), rfl, rfl, rfl, hsent⟩
  -- A row is as fresh as the answer it was written from.
  | stored i b envelope rows hget hphase hpersist =>
      have hb := h.builds b (List.mem_of_getElem? hget)
      have hfetched : FetchedSince s.answers b.deviceId b.range envelope.samples b.startedAt :=
        hb.phase.at_phase hphase
      have hrows : Sound ofLocal { s with rows } :=
        ⟨rowSound_of_persist ofLocal s b envelope rows h hfetched hpersist, h.builds, h.reads⟩
      refine sound_set ofLocal _ i { b with phase := .done envelope.samples } hrows
        ⟨hb.started, hfetched.weaken (Nat.sub_le b.startedAt rowAgeMs), hb.window⟩
  | failed _ i b hget =>
      have hb := h.builds b (List.mem_of_getElem? hget)
      exact sound_set ofLocal s i _ h ⟨hb.started, trivial, hb.window⟩
  | read i b samples hget hlive hphase =>
      have hb := h.builds b (List.mem_of_getElem? hget)
      refine ⟨h.rows, h.builds, fun r hr => ?_⟩
      rcases List.mem_append.mp hr with hold | hnew
      · exact h.reads r hold
      · rw [List.mem_singleton] at hnew
        subst hnew
        exact ⟨hb.started, hb.phase.at_phase hphase, hb.window hlive⟩
  | listen i b hget =>
      have hb := h.builds b (List.mem_of_getElem? hget)
      exact sound_set ofLocal s i _ h
        ⟨hb.started, hb.phase, fun _ => Or.inl (Nat.succ_pos b.listeners)⟩
  | unlisten i b hget =>
      have hb := h.builds b (List.mem_of_getElem? hget)
      exact sound_set ofLocal s i _ h
        (buildSound_expire s.now s.now s.answers _ hb.started hb.phase (Nat.le_refl _))
  | deleteStale deviceId newTs =>
      exact ⟨fun row hrow => h.rows row (List.mem_filter.mp hrow).1, h.builds, h.reads⟩
  | invalidate deviceId range =>
      refine ⟨h.rows, fun b hb => ?_, h.reads⟩
      rcases List.mem_map.mp hb with ⟨old, hold, rfl⟩
      have hsound := h.builds old hold
      split
      · exact ⟨hsound.started, hsound.phase, nofun⟩
      · exact hsound
  | restart => exact ⟨h.rows, fun _ hb => absurd hb List.not_mem_nil, h.reads⟩

theorem run_sound (now : Nat) (as : List Action) (s : State)
    (hrun : run (step ofLocal) (initial now) as = some s) : Sound ofLocal s :=
  run_invariant (step ofLocal) (Sound ofLocal) (step_sound ofLocal) as (initial now) s
    (sound_initial ofLocal now) hrun

/-- The samples of a read came in this answer. -/
def Read.From (r : Read) (a : Answer) : Prop :=
  a.deviceId = r.deviceId ∧ a.range = r.range ∧ a.response.samples = r.samples

/-- Every read returned samples that were fetched in the last five minutes, up to
    one second. -/
def AtMostFiveMinutes (s : State) : Prop :=
  ∀ r ∈ s.reads, ∃ a ∈ s.answers, r.From a ∧ r.time ≤ a.sentAt + 301000

/-- Up to one second: every read returned samples that were fetched no earlier
    than five minutes before its build began. Unless a listener has kept the build
    for longer than its own five minutes, these are samples of the last ten. -/
def AtMostTenMinutes (s : State) : Prop :=
  ∀ r ∈ s.reads, ∃ a ∈ s.answers, r.From a ∧ r.startedAt < a.sentAt + 301000 ∧
    (r.listeners = 0 ∨ r.time < r.startedAt + keepAliveMs → r.time < a.sentAt + 601000)

/-- How old the samples of a read can be. -/
theorem read_age (now : Nat) (as : List Action) (s : State)
    (hrun : run (step ofLocal) (initial now) as = some s) : AtMostTenMinutes s := by
  intro r hr
  have hsound := (run_sound ofLocal now as s hrun).reads r hr
  rcases hsound.fetched with ⟨a, ha, hdev, hrange, hsamples, hsince⟩
  have hwindow := hsound.window
  rw [rowAgeMs] at hsince
  refine ⟨a, ha, ⟨hdev, hrange, hsamples⟩, by omega, fun hown => ?_⟩
  rw [keepAliveMs] at hwindow hown
  omega

/-- One sample, fetched at the first millisecond of a second. The row is used in
    the last millisecond of its five minutes, and the build that used it in the
    last of its own. -/
def staleRun : List Action :=
  [.start (dartString "VENA-01") .h1, .lookUp 0,
    .answer 0 (some ⟨dartString "VENA-01", DartInt.clamp 1,
      [⟨DartInt.clamp 1779494399, none, none, none, none, none, none, none, none, none, none, none,
        none, none, none, none⟩], none, none, none⟩),
    .store 0, .wait 300999, .start (dartString "VENA-01") .h1, .lookUp 1, .wait 299999, .read 1]

theorem staleRun_times : (run (step id) (initial 1779494400000) staleRun).map
    (fun s => (s.reads.map Read.time, s.answers.map Answer.sentAt)) =
      some ([1779495000998], [1779494400000]) := by
  decide +kernel

/-- A read of samples of ten minutes ago. -/
theorem stale_read : ¬∀ (now : Nat) (as : List Action) (s : State),
    run (step id) (initial now) as = some s → AtMostFiveMinutes s := by
  intro hall
  rcases Option.map_eq_some_iff.mp staleRun_times with ⟨s, hrun, htimes⟩
  rw [Prod.mk.injEq] at htimes
  have hread : 1779495000998 ∈ s.reads.map Read.time := htimes.1 ▸ List.mem_singleton_self _
  rcases List.mem_map.mp hread with ⟨r, hr, htime⟩
  rcases hall _ _ s hrun r hr with ⟨a, ha, _, hrecent⟩
  have hsent : a.sentAt ∈ s.answers.map Answer.sentAt := List.mem_map_of_mem ha
  rw [htimes.2, List.mem_singleton] at hsent
  omega

theorem read_age_staleRun :
    ∃ s, run (step id) (initial 1779494400000) staleRun = some s ∧ AtMostTenMinutes s := by
  rcases Option.map_eq_some_iff.mp staleRun_times with ⟨s, hrun, _⟩
  exact ⟨s, hrun, read_age id 1779494400000 staleRun s hrun⟩

end HistoryAge

end Mobile

end Vena
