import Vena.Firmware.Board

/-!
# The Credential across Reboots

A token that is provisioned lies in three places: in the flash of the
provisioner, next to the Wi-Fi it came with, in the flash of `NvsJwt`, and in
the publisher. A write without a token leaves the last two alone and overwrites
the first with nothing, and the first is the one a boot reads. The device goes
on with its token until it is reset, and comes back without.

A session starts on an erased flash with a build that authenticates, and goes
through writes, iterations of `loop()` and reboots. `last` notes the last token
that was provisioned; the firmware keeps no such record.

## Main definitions

* `delivered`: What the write callback passes on.
* `settled`: The credential once a pending write has been consumed.
* `JwtSession`, `JwtSession.step`: The runs.
* `Continues`: A reboot brings back the credential it found.
* `NewestHasJwt`: The newest write had a token, or none ever had.

## Theorems

* `loop_credential`: An iteration settles the credential.
* `sound_step`: What holds in every session.
* `jwt_continuity`: Reboots keep the credential exactly after such writes.
* `jwt_lost`: A new Wi-Fi without a token, and a reboot.
-/

namespace Vena

namespace Firmware

open Clock32 Network

/-- What `ProvisionWriteCallbacks::onWrite` passes to `onProvisionReceived`. -/
def delivered (creds : WifiCredentials) : Option WifiCredentials :=
  let creds := ⟨cString creds.ssid, cString creds.psk, cString creds.jwt⟩
  if creds.ssid = "" ∨ creds.psk.utf8ByteSize < 8 then none else some creds

theorem onWrite_delivered (creds : WifiCredentials) (s : Network) :
    onWrite creds s = (delivered creds).elim s (fun c => onProvisionReceived c s) := by
  simp only [onWrite, delivered]
  split
  · rfl
  · rfl

/-- The credential of the publisher once `loop()` has consumed a pending write. -/
def settled (s : Network) : String :=
  if s.pendingProvision = true ∧ s.pendingCreds.jwt ≠ "" then s.pendingCreds.jwt
  else s.publisher.jwtCredential

/-- What the credential depends on is the same in both states. -/
def SameJwt (s t : Network) : Prop :=
  t.config = s.config ∧ t.nvs = s.nvs ∧ t.pendingProvision = s.pendingProvision ∧
    t.publisher.jwtCredential = s.publisher.jwtCredential

theorem SameJwt.trans {s t u : Network} (h : SameJwt s t) (h' : SameJwt t u) : SameJwt s u :=
  ⟨h'.1.trans h.1, h'.2.1.trans h.2.1, h'.2.2.1.trans h.2.2.1, h'.2.2.2.trans h.2.2.2⟩

theorem sameJwt_trackWifi (i : LoopInput) (s : Network) : SameJwt s (trackWifi i s) := by
  simp only [trackWifi]
  split
  · split
    · exact ⟨rfl, rfl, rfl, rfl⟩
    · exact ⟨rfl, rfl, rfl, rfl⟩
  · split
    · exact ⟨rfl, rfl, rfl, rfl⟩
    · exact ⟨rfl, rfl, rfl, rfl⟩

theorem sameJwt_ensureWifi (up : Bool) (t : Nat) (s : Network) :
    SameJwt s (ensureWifi up t s) := by
  unfold ensureWifi
  split
  · exact ⟨rfl, rfl, rfl, rfl⟩
  · split
    · exact ⟨rfl, rfl, rfl, rfl⟩
    · exact ⟨rfl, rfl, rfl, rfl⟩

theorem sameJwt_ensureMqtt (up ok : Bool) (t : Nat) (s : Network) :
    SameJwt s (ensureMqtt up ok t s) := by
  unfold ensureMqtt
  split
  · exact ⟨rfl, rfl, rfl, rfl⟩
  · split
    · exact ⟨rfl, rfl, rfl, rfl⟩
    · split
      · exact ⟨rfl, rfl, rfl, rfl⟩
      · exact ⟨rfl, rfl, rfl, rfl⟩

theorem sameJwt_mqttLoop (i : LoopInput) (s : Network) : SameJwt s (mqttLoop i s) := by
  have hwifi := sameJwt_ensureWifi i.wifiUpAtEnsure i.ensureWifiAt s
  unfold mqttLoop
  split
  · exact hwifi.trans (sameJwt_ensureMqtt i.sessionUp i.connectOk i.ensureMqttAt _)
  · exact hwifi

theorem jwt_adoptJwt (jwt : String) (s : Network) : (adoptJwt jwt s).publisher.jwtCredential =
    if jwt ≠ "" then jwt else s.publisher.jwtCredential := by
  unfold adoptJwt
  split
  · rfl
  · rfl

theorem parts_adoptJwt (jwt : String) (s : Network) :
    (adoptJwt jwt s).config = s.config ∧ (adoptJwt jwt s).nvs = s.nvs ∧
      (adoptJwt jwt s).pendingProvision = s.pendingProvision := by
  unfold adoptJwt
  split
  · exact ⟨rfl, rfl, rfl⟩
  · exact ⟨rfl, rfl, rfl⟩

theorem consumeProvision_spec (i : LoopInput) (s : Network) :
    (consumeProvision i s).config = s.config ∧ (consumeProvision i s).nvs = s.nvs ∧
      (consumeProvision i s).pendingProvision = false ∧
      (consumeProvision i s).publisher.jwtCredential = settled s := by
  unfold consumeProvision settled
  by_cases hpending : s.pendingProvision = true
  · have hparts := parts_adoptJwt s.pendingCreds.jwt
      (wifiBegin s.pendingCreds.ssid s.pendingCreds.psk i.provisionAt
        { s with pendingProvision := false })
    have hjwt := jwt_adoptJwt s.pendingCreds.jwt
      (wifiBegin s.pendingCreds.ssid s.pendingCreds.psk i.provisionAt
        { s with pendingProvision := false })
    rw [if_pos hpending]
    simp only [hpending, true_and]
    exact ⟨hparts.1, hparts.2.1, hparts.2.2, hjwt⟩
  · rw [if_neg hpending, if_neg (fun h => hpending h.1)]
    exact ⟨rfl, rfl, Bool.eq_false_iff.mpr hpending, rfl⟩

/-- An iteration of `loop()` settles the credential and leaves the flash alone. -/
theorem loop_credential (s t : Network) (i : LoopInput) (h : Network.step s (.loop i) = some t) :
    t.config = s.config ∧ t.nvs = s.nvs ∧ t.pendingProvision = false ∧
      t.publisher.jwtCredential = settled s := by
  simp only [Network.step] at h
  split at h
  · rw [Option.some.injEq] at h
    have hconsumed := consumeProvision_spec i s
    have hsame := (sameJwt_trackWifi i (consumeProvision i s)).trans
      (sameJwt_mqttLoop i (trackWifi i (consumeProvision i s)))
    rw [← h]
    exact ⟨hsame.1.trans hconsumed.1, hsame.2.1.trans hconsumed.2.1,
      hsame.2.2.1.trans hconsumed.2.2.1, hsame.2.2.2.trans hconsumed.2.2.2⟩
  · exact absurd h (by simp only [reduceCtorEq, not_false_eq_true])

/-- What `setup()` of a build that authenticates takes from the flash. -/
theorem setup_credential (config : Config) (nvs : Nvs) (i : SetupInput) (t : Network)
    (hauth : config.mqttUseAuth = true) (h : setup config nvs i = some t) :
    t.config = config ∧ t.nvs = nvs ∧ t.pendingProvision = false ∧
      t.publisher.jwtCredential = nvs.provisioned.elim nvs.deviceJwt WifiCredentials.jwt := by
  unfold setup at h
  split at h
  · rw [Option.some.injEq] at h
    cases hprovisioned : nvs.provisioned with
    | some creds =>
        simp only [hprovisioned] at h
        rw [← h]
        exact ⟨rfl, rfl, rfl, rfl⟩
    | none =>
        have hparts := parts_adoptJwt nvs.deviceJwt (mqttBegin i.beginAt (Network.init config nvs))
        have hjwt := jwt_adoptJwt nvs.deviceJwt (mqttBegin i.beginAt (Network.init config nvs))
        simp only [hprovisioned] at h
        rw [← h]
        refine ⟨hparts.1, hparts.2.1, hparts.2.2, hjwt.trans ?_⟩
        split
        · rfl
        · next hempty => exact (not_not.mp hempty).symm
  · exact absurd h (by simp only [reduceCtorEq, not_false_eq_true])

/-- The networking state, and the last token provisioned. -/
structure JwtSession where
  net : Network
  last : String
  deriving DecidableEq, Repr

namespace JwtSession

/-- A BLE write, an iteration of `loop()`, or a reset and the `setup()` behind it. -/
inductive Act where
  | write (creds : WifiCredentials)
  | loop (i : LoopInput)
  | reboot (i : SetupInput)
  deriving DecidableEq, Repr

/-- A flash on which nothing has been stored. -/
def erased : Nvs := ⟨none, ""⟩

/-- The last token after a write. -/
def lastJwt (creds : WifiCredentials) (last : String) : String :=
  (delivered creds).elim last (fun c => if c.jwt ≠ "" then c.jwt else last)

def step (s : JwtSession) : Act → Option JwtSession
  | .write creds => some { net := onWrite creds s.net, last := lastJwt creds s.last }
  | .loop i => (Network.step s.net (.loop i)).map (fun net => { s with net := net })
  | .reboot i => (setup s.net.config s.net.nvs i).map (fun net => { s with net := net })

/-- A reboot brings back the credential there would have been without it, and
    that is the last token provisioned. -/
def Continues (s : JwtSession) : Act → Prop
  | .reboot i => ∀ t ∈ s.step (.reboot i),
    t.net.publisher.jwtCredential = settled s.net ∧ settled s.net = s.last
  | _ => True

/-- A reboot finds a token with the newest write, or no write had one. -/
def NewestHasJwt (s : JwtSession) : Act → Prop
  | .reboot _ => s.last = "" ∨ ∃ creds ∈ s.net.nvs.provisioned, creds.jwt ≠ ""
  | _ => True

instance (s : JwtSession) : (a : Act) → Decidable (Continues s a)
  | .reboot i => inferInstanceAs (Decidable (∀ t ∈ s.step (.reboot i), _ ∧ _))
  | .write _ | .loop _ => isTrue trivial

instance (s : JwtSession) : (a : Act) → Decidable (NewestHasJwt s a)
  | .reboot _ => inferInstanceAs (Decidable (_ ∨ ∃ creds ∈ s.net.nvs.provisioned, _))
  | .write _ | .loop _ => isTrue trivial

/-- What holds in every session: the flash of `NvsJwt` has the last token; the
    publisher and the flash of the provisioner have it if the newest write had it. -/
structure Sound (s : JwtSession) : Prop where
  auth : s.net.config.mqttUseAuth = true
  stored : s.net.nvs.deviceJwt = s.last
  silent : s.last = "" → settled s.net = ""
  newest : ∀ creds, s.net.nvs.provisioned = some creds → creds.jwt ≠ "" →
    creds.jwt = s.last ∧ settled s.net = s.last
  jwtless : ∀ creds, s.net.nvs.provisioned = some creds → s.last = "" → creds.jwt = ""
  unprovisioned : s.net.nvs.provisioned = none → s.last = ""

theorem settled_of_quiet (s : Network) (h : s.pendingProvision = false) :
    settled s = s.publisher.jwtCredential := by
  rw [settled, if_neg]
  rintro ⟨hpending, _⟩
  rw [h] at hpending
  exact Bool.false_ne_true hpending

theorem publisher_of_silent (s : Network) (h : settled s = "") :
    s.publisher.jwtCredential = "" := by
  unfold settled at h
  split at h
  · next hpending => exact absurd h hpending.2
  · exact h

theorem settled_onProvisionReceived (creds : WifiCredentials) (s : Network) :
    settled (onProvisionReceived creds s) =
      if creds.jwt ≠ "" then creds.jwt else s.publisher.jwtCredential := by
  simp only [settled, onProvisionReceived, true_and]

/-- After a write the newest token is in place, or there is none. -/
theorem sound_write (creds : WifiCredentials) (s : JwtSession) (h : Sound s) :
    Sound { net := onWrite creds s.net, last := lastJwt creds s.last } := by
  rw [onWrite_delivered]
  unfold lastJwt
  cases hdelivered : delivered creds with
  | none => exact h
  | some c =>
      have hsettled := settled_onProvisionReceived c s.net
      simp only [Option.elim_some]
      by_cases hjwt : c.jwt ≠ ""
      · rw [if_pos hjwt] at hsettled ⊢
        refine ⟨h.auth, ?_, fun hno => absurd hno hjwt, ?_, ?_, ?_⟩
        · exact if_pos hjwt
        · intro c' hc' _
          rw [← Option.some.inj hc']
          exact ⟨rfl, hsettled⟩
        · exact fun _ _ hno => absurd hno hjwt
        · exact fun hno => absurd hno (by simp only [onProvisionReceived, reduceCtorEq,
            not_false_eq_true])
      · rw [if_neg hjwt] at hsettled ⊢
        refine ⟨h.auth, (if_neg hjwt).trans h.stored, ?_, ?_, ?_, ?_⟩
        · intro hlast
          exact hsettled.trans (publisher_of_silent s.net (h.silent hlast))
        · intro c' hc' hno
          rw [← Option.some.inj hc'] at hno
          exact absurd hno hjwt
        · intro c' hc' _
          rw [← Option.some.inj hc']
          exact not_not.mp hjwt
        · exact fun hno => absurd hno (by simp only [onProvisionReceived, reduceCtorEq,
            not_false_eq_true])

/-- Whatever leaves the flash and the settled credential alone keeps the rest. -/
theorem sound_same (s : JwtSession) (t : Network) (h : Sound s) (hconfig : t.config = s.net.config)
    (hnvs : t.nvs = s.net.nvs) (hsettled : settled t = settled s.net) :
    Sound { s with net := t } where
  auth := hconfig ▸ h.auth
  stored := hnvs ▸ h.stored
  silent := hsettled ▸ h.silent
  newest := by
    rw [hnvs, hsettled]
    exact h.newest
  jwtless := hnvs ▸ h.jwtless
  unprovisioned := hnvs ▸ h.unprovisioned

/-- What a boot takes from the flash is the last token, if the newest write had it. -/
theorem credential_of_nvs (s : JwtSession) (h : Sound s) :
    s.net.nvs.provisioned.elim s.net.nvs.deviceJwt WifiCredentials.jwt = s.last ↔
      (s.last = "" ∨ ∃ creds ∈ s.net.nvs.provisioned, creds.jwt ≠ "") := by
  cases hprovisioned : s.net.nvs.provisioned with
  | none =>
      have hlast := h.unprovisioned hprovisioned
      exact iff_of_true h.stored (Or.inl hlast)
  | some creds =>
      simp only [Option.elim_some, Option.mem_some_iff, exists_eq_left']
      constructor
      · intro heq
        by_cases hjwt : creds.jwt = ""
        · exact Or.inl (heq.symm.trans hjwt)
        · exact Or.inr hjwt
      · rintro (hlast | hjwt)
        · rw [h.jwtless creds hprovisioned hlast, hlast]
        · exact (h.newest creds hprovisioned hjwt).1

theorem sound_reboot (i : SetupInput) (s : JwtSession) (t : Network) (h : Sound s)
    (hsetup : setup s.net.config s.net.nvs i = some t) : Sound { s with net := t } := by
  rcases setup_credential s.net.config s.net.nvs i t h.auth hsetup with
    ⟨hconfig, hnvs, hpending, hjwt⟩
  have hsettled := (settled_of_quiet t hpending).trans hjwt
  have hcredential := credential_of_nvs s h
  refine ⟨hconfig ▸ h.auth, hnvs ▸ h.stored, ?_, ?_, hnvs ▸ h.jwtless, hnvs ▸ h.unprovisioned⟩
  · intro hlast
    exact (hsettled.trans (hcredential.mpr (Or.inl hlast))).trans hlast
  · intro creds hcreds hne
    rw [hnvs] at hcreds
    exact ⟨(h.newest creds hcreds hne).1,
      hsettled.trans (hcredential.mpr (Or.inr ⟨creds, hcreds, hne⟩))⟩

/-- Every step keeps the session sound. -/
theorem sound_step (s : JwtSession) (a : Act) (s' : JwtSession) (h : Sound s)
    (hstep : step s a = some s') : Sound s' := by
  cases a with
  | write creds =>
      simp only [step, Option.some.injEq] at hstep
      rw [← hstep]
      exact sound_write creds s h
  | loop i =>
      rcases Option.map_eq_some_iff.mp hstep with ⟨t, hloop, ht⟩
      rcases loop_credential s.net t i hloop with ⟨hconfig, hnvs, hpending, hjwt⟩
      rw [← ht]
      exact sound_same s t h hconfig hnvs ((settled_of_quiet t hpending).trans hjwt)
  | reboot i =>
      rcases Option.map_eq_some_iff.mp hstep with ⟨t, hsetup, ht⟩
      rw [← ht]
      exact sound_reboot i s t h hsetup

/-- A reboot brings back the credential exactly if the newest write had it. -/
theorem continues_iff (s : JwtSession) (a : Act) (s' : JwtSession) (h : Sound s)
    (hstep : step s a = some s') : Continues s a ↔ NewestHasJwt s a := by
  cases a with
  | write creds => exact Iff.rfl
  | loop i => exact Iff.rfl
  | reboot i =>
      rcases Option.map_eq_some_iff.mp hstep with ⟨t, hsetup, ht⟩
      have hjwt := (setup_credential s.net.config s.net.nvs i t h.auth hsetup).2.2.2
      have hcredential := credential_of_nvs s h
      rw [← hjwt] at hcredential
      simp only [Continues, NewestHasJwt, hstep, ← ht, Option.mem_some_iff, forall_eq']
      rw [← hcredential]
      refine ⟨fun hboth => hboth.1.trans hboth.2, fun hheld => ?_⟩
      -- The token the boot found is also the one that was held.
      have hsettled : settled s.net = s.last := by
        rcases hcredential.mp hheld with hlast | ⟨creds, hcreds, hne⟩
        · rw [h.silent hlast, hlast]
        · exact (h.newest creds hcreds hne).2
      exact ⟨hheld.trans hsettled.symm, hsettled⟩

theorem sound_start (config : Config) (i : SetupInput) (net : Network)
    (hauth : config.mqttUseAuth = true) (hstart : setup config erased i = some net) :
    Sound ⟨net, ""⟩ := by
  rcases setup_credential config erased i net hauth hstart with ⟨hconfig, hnvs, hpending, hjwt⟩
  have hsettled := (settled_of_quiet net hpending).trans hjwt
  refine ⟨hconfig ▸ hauth, ?_, fun _ => hsettled, ?_, ?_, fun _ => rfl⟩
  · rw [hnvs]
    rfl
  · intro creds hcreds
    rw [hnvs] at hcreds
    exact absurd hcreds (by simp only [erased, reduceCtorEq, not_false_eq_true])
  · intro creds hcreds
    rw [hnvs] at hcreds
    exact absurd hcreds (by simp only [erased, reduceCtorEq, not_false_eq_true])

/-- In every session the reboots bring back the credential exactly if each of
    them finds a token with the newest write, as long as any write had one. -/
theorem jwt_continuity (config : Config) (i : SetupInput) (net : Network) (acts : List Act)
    (s : JwtSession) (hauth : config.mqttUseAuth = true)
    (hstart : setup config erased i = some net)
    (hrun : Run.run step ⟨net, ""⟩ acts = some s) :
    Run.Along step Continues ⟨net, ""⟩ acts ↔ Run.Along step NewestHasJwt ⟨net, ""⟩ acts :=
  Run.along_congr_of_run step Continues NewestHasJwt Sound sound_step continues_iff acts ⟨net, ""⟩ s
    (sound_start config i net hauth hstart) hrun

def authBuild : Config := ⟨"dev", "dev-password", true⟩

def quickSetup : SetupInput := ⟨0, 0, 0, false⟩

/-- An iteration without Wi-Fi. -/
def quickLoop : LoopInput := ⟨0, 0, 0, false, 0, false, false, 0, false, false⟩

/-- A device gets its token and is reset. -/
def provisionedOnce : List Act :=
  [.write ⟨"home", "home-password", "jwt-1"⟩, .loop quickLoop, .reboot quickSetup]

theorem jwt_continuity_once : ∃ net s, setup authBuild erased quickSetup = some net ∧
    Run.run step ⟨net, ""⟩ provisionedOnce = some s ∧
    Run.Along step Continues ⟨net, ""⟩ provisionedOnce :=
  ⟨_, _, rfl, rfl, (jwt_continuity authBuild quickSetup _ provisionedOnce _ rfl rfl rfl).mpr
    (by decide +kernel)⟩

/-- The same device moves to another Wi-Fi before it is reset. -/
def movedHouse : List Act :=
  [.write ⟨"home", "home-password", "jwt-1"⟩, .loop quickLoop,
    .write ⟨"flat", "flat-password", ""⟩, .loop quickLoop, .reboot quickSetup]

/-- It held its token before the reset, and holds none after it. -/
theorem jwt_lost : ¬∀ (config : Config) (i : SetupInput) (net : Network) (acts : List Act)
    (s : JwtSession), config.mqttUseAuth = true → setup config erased i = some net →
    Run.run step ⟨net, ""⟩ acts = some s → Run.Along step Continues ⟨net, ""⟩ acts := by
  intro hall
  have halong := hall authBuild quickSetup _ movedHouse _ rfl rfl rfl
  revert halong
  decide +kernel

end JwtSession

end Firmware

end Vena
