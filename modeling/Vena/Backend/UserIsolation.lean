import Vena.Backend.Access
import Vena.Core.Answers

/-!
# Users Do Not See Each Other

Claims, alias updates and listings of any number of users, one after the other
on one database. A row of `user_devices` belongs to one user, and each of the
requests reads and writes only rows of the caller, besides the table of devices
and the row of the caller in `users`, which none of them changes. So two runs in
which a user makes the same requests end alike for that user, whatever the
others do in between.

A claim stores the reading of the database's clock, which comes back in later
answers. The clock may read differently in two runs. `SameView` therefore takes
a relation between the readings of the one run and the readings of the other:
with equality the answers are equal, and with the relation that always holds
they are equal apart from `claimed_at`.

## Main definitions

* `Call`, `serve`: A request, and how it is answered.
* `SameStart`: Databases that hold the same for a user.
* `SameView`: The same, up to the clock.
* `aliasAnswers`: What the alias updates of a user are answered.
* `SameSight`: What a user is shown is the same.

## Theorems

* `serve_other`: A request of another user leaves the view of a user.
* `claim_same`, `rename_same`: A request of the user keeps two views alike, and
  is answered alike.
* `isolates_serve`: The requests isolate every user.
* `users_isolated`: The runs.
-/

namespace Vena

namespace Backend

namespace UserIsolation

open Answers Python

inductive Request where
  | claim (deviceId code : String)
  | updateAlias (deviceId deviceAlias : String)
  | list
  deriving DecidableEq, Repr

/-- A request, the user `get_current_user` resolved it to, and the reading of the
    database's clock. -/
structure Call where
  user : User
  now : Datetime
  request : Request
  deriving DecidableEq, Repr

inductive Answer where
  | claimed (reply : Reply ClaimResponse)
  | renamed (reply : Reply ClaimResponse)
  | listed (reply : Reply (List DeviceItem))
  deriving DecidableEq, Repr

def serve (env : Env) (db : Database) (c : Call) : Database × Answer :=
  match c.request with
  | .claim deviceId code =>
    let r := claimDevice env db c.user deviceId code c.now
    (r.1, .claimed r.2)
  | .updateAlias deviceId deviceAlias =>
    let r := updateDeviceAlias db c.user deviceId deviceAlias
    (r.1, .renamed r.2)
  | .list => (db, .listed (listUserDevices db c.user))

/-- The rows of `user_devices` of a user. -/
def owned (db : Database) (userId : Uuid) : List UserDevice :=
  db.userDevices.filter (fun ud => ud.userId = userId)

/-- The user has a row in `users`. -/
def Registered (db : Database) (userId : Uuid) : Prop := ∃ user ∈ db.users, user.id = userId

/-- Two databases with the same devices hold the same for a user. -/
structure SameStart (userId : Uuid) (db db' : Database) : Prop where
  devices : db.devices = db'.devices
  registered : Registered db userId ↔ Registered db' userId
  rows : owned db userId = owned db' userId

/-- The same row, up to the clock. -/
structure SameRow (clock : Datetime → Datetime → Prop) (ud ud' : UserDevice) : Prop where
  key : ud.key = ud'.key
  deviceAlias : ud.deviceAlias = ud'.deviceAlias
  claimedAt : clock ud.claimedAt ud'.claimedAt

/-- The same for a user, up to the clock. -/
structure SameView (clock : Datetime → Datetime → Prop) (userId : Uuid) (db db' : Database) :
    Prop where
  devices : db.devices = db'.devices
  registered : Registered db userId ↔ Registered db' userId
  rows : List.Forall₂ (SameRow clock) (owned db userId) (owned db' userId)

inductive SameReply (clock : Datetime → Datetime → Prop) :
    Reply ClaimResponse → Reply ClaimResponse → Prop
  | ok (deviceId : String) (deviceAlias : Option String) (claimedAt claimedAt' : Datetime)
      (h : clock claimedAt claimedAt') :
    SameReply clock (.ok ⟨deviceId, deviceAlias, claimedAt⟩)
      (.ok ⟨deviceId, deviceAlias, claimedAt'⟩)
  | error (status : Nat) (detail : String) :
    SameReply clock (.error status detail) (.error status detail)
  | crash : SameReply clock .crash .crash

inductive SameAnswer (clock : Datetime → Datetime → Prop) : Answer → Answer → Prop
  | claimed (reply reply' : Reply ClaimResponse) (h : SameReply clock reply reply') :
    SameAnswer clock (.claimed reply) (.claimed reply')
  | renamed (reply reply' : Reply ClaimResponse) (h : SameReply clock reply reply') :
    SameAnswer clock (.renamed reply) (.renamed reply')
  | listed (reply : Reply (List DeviceItem)) : SameAnswer clock (.listed reply) (.listed reply)

section Rows

variable (db : Database) (userId : Uuid)

theorem owned_addClaim (ud : UserDevice) (hkey : ∀ r ∈ db.userDevices, r.key ≠ ud.key)
    (huser : ∃ user ∈ db.users, user.id = ud.userId)
    (hdevice : ∃ device ∈ db.devices, device.id = ud.deviceId) :
    owned (db.addClaim ud hkey huser hdevice) userId =
      owned db userId ++ if ud.userId = userId then [ud] else [] := by
  rw [owned, Database.addClaim, List.filter_append, List.filter_singleton, ← owned]
  by_cases howner : ud.userId = userId
  · rw [decide_eq_true howner, cond_true, if_pos howner]
  · rw [decide_eq_false howner, cond_false, if_neg howner]

/-- A rename keeps the owner of a row. -/
theorem owned_setAlias (key : Uuid × String) (deviceAlias : String) :
    owned (db.setAlias key deviceAlias) userId = (owned db userId).map (fun ud =>
      if decide (ud.key = key) then Database.withAlias deviceAlias ud else ud) := by
  rw [owned, Database.setAlias, List.filter_map, owned]
  refine congrArg _ (List.filter_congr (fun ud _ => ?_))
  rw [Function.comp_apply, apply_ite UserDevice.userId, Database.withAlias, ite_self]

/-- The row of another user is not renamed. -/
theorem owned_setAlias_other (key : Uuid × String) (deviceAlias : String) (hne : key.1 ≠ userId) :
    owned (db.setAlias key deviceAlias) userId = owned db userId := by
  rw [owned_setAlias]
  refine (List.map_congr_left (fun ud hud => ?_)).trans (List.map_id _)
  have howner : ud.userId = userId := of_decide_eq_true (List.mem_filter.mp hud).2
  refine if_neg (fun hkey => hne ?_)
  rw [← of_decide_eq_true hkey, ← howner, UserDevice.key]

theorem ownership_eq (user : User) (deviceId : String) :
    ownership db user deviceId = (owned db user.id).filter (fun ud => ud.deviceId = deviceId) := by
  rw [ownership, owned, List.filter_filter]
  exact List.filter_congr (fun ud _ => Bool.and_comm _ _)

end Rows

/-- A request of another user leaves the view of a user. -/
theorem serve_other (env : Env) (db : Database) (c : Call) (userId : Uuid)
    (hne : c.user.id ≠ userId) : SameStart userId (serve env db c).1 db := by
  unfold serve
  split
  · next deviceId code _ =>
      rcases claimDevice_cases env db c.user deviceId code c.now with
        ⟨device, hkey, huser, hdevice, _, hnew⟩ | ⟨reply, hsame⟩
      · simp only [hnew]
        refine ⟨rfl, Iff.rfl, ?_⟩
        rw [owned_addClaim, if_neg hne, List.append_nil]
      · simp only [hsame]
        exact ⟨rfl, Iff.rfl, rfl⟩
  · next deviceId deviceAlias _ =>
      rcases updateDeviceAlias_cases db c.user deviceId deviceAlias with
        ⟨ud, _, hkey, hok⟩ | h403 | hcrash
      · simp only [hok]
        refine ⟨rfl, Iff.rfl, owned_setAlias_other db userId ud.key deviceAlias ?_⟩
        rw [hkey]
        exact hne
      · simp only [h403]
        exact ⟨rfl, Iff.rfl, rfl⟩
      · simp only [hcrash]
        exact ⟨rfl, Iff.rfl, rfl⟩
  · exact ⟨rfl, Iff.rfl, rfl⟩

section View

variable {clock : Datetime → Datetime → Prop} {userId : Uuid} {db db' next : Database}

theorem SameView.left (h : SameView clock userId db db') (hnext : SameStart userId next db) :
    SameView clock userId next db' where
  devices := hnext.devices.trans h.devices
  registered := hnext.registered.trans h.registered
  rows := hnext.rows ▸ h.rows

theorem SameView.right (h : SameView clock userId db db') (hnext : SameStart userId next db') :
    SameView clock userId db next where
  devices := h.devices.trans hnext.devices.symm
  registered := h.registered.trans hnext.registered.symm
  rows := hnext.rows ▸ h.rows

theorem SameStart.view (h : SameStart userId db db') (hclock : ∀ t, clock t t) :
    SameView clock userId db db' where
  devices := h.devices
  registered := h.registered
  rows := h.rows ▸ List.forall₂_same.mpr (fun ud _ => ⟨rfl, rfl, hclock ud.claimedAt⟩)

theorem SameRow.reply {ud ud' : UserDevice} (deviceId : String) (h : SameRow clock ud ud') :
    SameReply clock (.ok (claimResponse deviceId ud)) (.ok (claimResponse deviceId ud')) := by
  rw [claimResponse, claimResponse, h.deviceAlias]
  exact .ok deviceId ud'.deviceAlias ud.claimedAt ud'.claimedAt h.claimedAt

theorem SameRow.rename {ud ud' : UserDevice} (deviceAlias : String) (h : SameRow clock ud ud') :
    SameRow clock { ud with deviceAlias := some deviceAlias }
      { ud' with deviceAlias := some deviceAlias } where
  key := h.key
  deviceAlias := rfl
  claimedAt := h.claimedAt

/-- A rename of the same row. -/
theorem SameView.setAlias (h : SameView clock userId db db') (key : Uuid × String)
    (deviceAlias : String) :
    SameView clock userId (db.setAlias key deviceAlias) (db'.setAlias key deviceAlias) where
  devices := h.devices
  registered := h.registered
  rows := by
    rw [owned_setAlias, owned_setAlias]
    refine List.rel_map (fun ud ud' hrow => ?_) h.rows
    rw [← hrow.key]
    split
    · exact hrow.rename deviceAlias
    · exact hrow

end View

/-- The check of a pairing code reads the devices only. -/
theorem deviceWithCode_congr (env : Env) (db db' : Database) (h : db.devices = db'.devices)
    (deviceId code : String) :
    deviceWithCode env db deviceId code = deviceWithCode env db' deviceId code := by
  rw [deviceWithCode, deviceWithCode, getDeviceOr404, getDeviceOr404, h]

/-- The INSERT of a user without a row for the device fails on a foreign key only. -/
theorem insertClaim_of_free (db : Database) (user : User) (deviceId : String) (now : Datetime)
    (hnone : ownership db user deviceId = []) :
    ((Registered db user.id ∧ ∃ device ∈ db.devices, device.id = deviceId) ∧
      ∃ hkey huser hdevice, insertClaim db ⟨user.id, deviceId, none, now⟩ =
        (db.addClaim ⟨user.id, deviceId, none, now⟩ hkey huser hdevice,
          .ok (claimResponse deviceId ⟨user.id, deviceId, none, now⟩))) ∨
    (¬(Registered db user.id ∧ ∃ device ∈ db.devices, device.id = deviceId) ∧
      insertClaim db ⟨user.id, deviceId, none, now⟩ = (db, .crash)) := by
  unfold insertClaim
  split
  · next h => exact Or.inl ⟨h.2, h.1, h.2.1, h.2.2, rfl⟩
  · next h => exact Or.inr ⟨fun hkeys => h ⟨key_free db user deviceId hnone, hkeys⟩, rfl⟩

section Own

variable {clock : Datetime → Datetime → Prop} {userId : Uuid} {db db' : Database}
  (h : SameView clock userId db db') (user user' : User) (huser : user.id = userId)
  (huser' : user'.id = userId)

include h huser huser'

/-- The user has a row for the device in both, or in neither. -/
theorem ownership_same (deviceId : String) :
    (ownership db user deviceId = [] ∧ ownership db' user' deviceId = []) ∨
    ∃ ud ud', ownership db user deviceId = [ud] ∧ ownership db' user' deviceId = [ud'] ∧
      SameRow clock ud ud' := by
  have hboth : List.Forall₂ (SameRow clock) (ownership db user deviceId)
      (ownership db' user' deviceId) := by
    rw [ownership_eq, ownership_eq, huser, huser']
    refine List.rel_filter (fun ud ud' hrow => ?_) h.rows
    have hdevice : ud.deviceId = ud'.deviceId := congrArg Prod.snd hrow.key
    dsimp only
    rw [hdevice]
  rcases ownership_cases db user deviceId with hnone | ⟨ud, hone⟩
  · rw [hnone, List.forall₂_nil_left_iff] at hboth
    exact Or.inl ⟨hnone, hboth⟩
  · rw [hone, List.forall₂_cons_left_iff] at hboth
    rcases hboth with ⟨ud', rest, hrow, hrest, hone'⟩
    rw [List.forall₂_nil_left_iff] at hrest
    exact Or.inr ⟨ud, ud', hone, hrest ▸ hone', hrow⟩

/-- A new row of the user. -/
theorem addClaim_same (deviceId : String) (now now' : Datetime) (hclock : clock now now')
    (hkey hu hd hkey' hu' hd') :
    SameView clock userId (db.addClaim ⟨user.id, deviceId, none, now⟩ hkey hu hd)
      (db'.addClaim ⟨user'.id, deviceId, none, now'⟩ hkey' hu' hd') where
  devices := h.devices
  registered := h.registered
  rows := by
    rw [owned_addClaim, owned_addClaim, if_pos huser, if_pos huser']
    refine List.rel_append h.rows (.cons ⟨?_, rfl, hclock⟩ .nil)
    rw [UserDevice.key, UserDevice.key, huser, huser']

/-- The INSERT of a first claim meets the same constraints in both. -/
theorem insert_same (deviceId : String) (now now' : Datetime) (hclock : clock now now')
    (hnone : ownership db user deviceId = []) (hnone' : ownership db' user' deviceId = []) :
    SameView clock userId (insertClaim db ⟨user.id, deviceId, none, now⟩).1
        (insertClaim db' ⟨user'.id, deviceId, none, now'⟩).1 ∧
      SameReply clock (insertClaim db ⟨user.id, deviceId, none, now⟩).2
        (insertClaim db' ⟨user'.id, deviceId, none, now'⟩).2 := by
  have hkeys : (Registered db user.id ∧ ∃ device ∈ db.devices, device.id = deviceId) ↔
      (Registered db' user'.id ∧ ∃ device ∈ db'.devices, device.id = deviceId) := by
    rw [huser, huser', h.registered, h.devices]
  rcases insertClaim_of_free db user deviceId now hnone with
    ⟨hvalid, hkey, hu, hd, hnew⟩ | ⟨hinvalid, hcrash⟩
  · rcases insertClaim_of_free db' user' deviceId now' hnone' with
      ⟨_, hkey', hu', hd', hnew'⟩ | ⟨hinvalid', _⟩
    · rw [hnew, hnew']
      exact ⟨addClaim_same h user user' huser huser' deviceId now now' hclock hkey hu hd hkey' hu'
        hd', .ok deviceId none now now' hclock⟩
    · exact absurd (hkeys.mp hvalid) hinvalid'
  · rcases insertClaim_of_free db' user' deviceId now' hnone' with ⟨hvalid', _⟩ | ⟨_, hcrash'⟩
    · exact absurd (hkeys.mpr hvalid') hinvalid
    · rw [hcrash, hcrash']
      exact ⟨h, .crash⟩

/-- Claims of the user. -/
theorem claim_same (env : Env) (deviceId code : String) (now now' : Datetime)
    (hclock : clock now now') :
    SameView clock userId (claimDevice env db user deviceId code now).1
        (claimDevice env db' user' deviceId code now').1 ∧
      SameReply clock (claimDevice env db user deviceId code now).2
        (claimDevice env db' user' deviceId code now').2 := by
  have hcode := deviceWithCode_congr env db db' h.devices deviceId code
  unfold claimDevice
  rw [hcode]
  cases deviceWithCode env db' deviceId code with
  | error status detail => exact ⟨h, .error status detail⟩
  | crash => exact ⟨h, .crash⟩
  | ok device =>
      rcases ownership_same h user user' huser huser' deviceId with
        ⟨hnone, hnone'⟩ | ⟨ud, ud', hone, hone', hrow⟩
      · simp only [hnone, hnone']
        exact insert_same h user user' huser huser' deviceId now now' hclock hnone hnone'
      -- The row that is there comes back with the time of the first claim.
      · simp only [hone, hone']
        exact ⟨h, hrow.reply deviceId⟩

/-- Alias updates of the user. -/
theorem rename_same (deviceId deviceAlias : String) :
    SameView clock userId (updateDeviceAlias db user deviceId deviceAlias).1
        (updateDeviceAlias db' user' deviceId deviceAlias).1 ∧
      SameReply clock (updateDeviceAlias db user deviceId deviceAlias).2
        (updateDeviceAlias db' user' deviceId deviceAlias).2 := by
  unfold updateDeviceAlias
  by_cases htext : (!pgText deviceId) = true
  · rw [if_pos htext, if_pos htext]
    exact ⟨h, .crash⟩
  · rw [if_neg htext, if_neg htext]
    rcases ownership_same h user user' huser huser' deviceId with
      ⟨hnone, hnone'⟩ | ⟨ud, ud', hone, hone', hrow⟩
    · simp only [hnone, hnone']
      exact ⟨h, .error 403 "Device not owned by this user"⟩
    -- The two rows have one key, so the same row is renamed in both.
    · simp only [hone, hone', ← hrow.key]
      by_cases hname : (!pgText deviceAlias) = true
      · rw [if_pos hname, if_pos hname]
        exact ⟨h, .crash⟩
      · rw [if_neg hname, if_neg hname]
        exact ⟨h.setAlias ud.key deviceAlias, (hrow.rename deviceAlias).reply deviceId⟩

/-- The listing shows nothing of the clock. -/
theorem deviceItems_same : deviceItems db user = deviceItems db' user' := by
  have hrows : List.Forall₂ (SameRow clock) (owned db user.id) (owned db' user'.id) := by
    rw [huser, huser']
    exact h.rows
  rw [deviceItems, deviceItems, List.flatMap_def, List.flatMap_def, h.devices]
  refine congrArg List.flatten (map_eq_of_forall₂ (fun ud ud' hrow => ?_) hrows)
  have hdevice : ud.deviceId = ud'.deviceId := congrArg Prod.snd hrow.key
  rw [hdevice, hrow.deviceAlias]

end Own

/-- The call is made by the user. -/
def isBy (userId : Uuid) (c : Call) : Bool := c.user.id = userId

/-- The same request, up to the clock. -/
structure SameCall (clock : Datetime → Datetime → Prop) (c c' : Call) : Prop where
  request : c.request = c'.request
  now : clock c.now c'.now

/-- The requests isolate every user. -/
theorem isolates_serve (clock : Datetime → Datetime → Prop) (env : Env) (userId : Uuid) :
    Isolates (serve env) (isBy userId) (SameView clock userId) (SameCall clock)
      (SameAnswer clock) where
  left := fun db db' c h hother =>
    h.left (serve_other env db c userId (of_decide_eq_false hother))
  right := fun db db' c h hother =>
    h.right (serve_other env db' c userId (of_decide_eq_false hother))
  both := by
    intro db db' c c' h hby hby' hcall
    have huser : c.user.id = userId := of_decide_eq_true hby
    have huser' : c'.user.id = userId := of_decide_eq_true hby'
    unfold serve
    rw [hcall.request]
    cases c'.request with
    | claim deviceId code =>
        rcases claim_same h c.user c'.user huser huser' env deviceId code c.now c'.now hcall.now
          with ⟨hview, hreply⟩
        exact ⟨hview, .claimed _ _ hreply⟩
    | updateAlias deviceId deviceAlias =>
        rcases rename_same h c.user c'.user huser huser' deviceId deviceAlias with ⟨hview, hreply⟩
        exact ⟨hview, .renamed _ _ hreply⟩
    | list =>
        refine ⟨h, ?_⟩
        dsimp only
        rw [listUserDevices, listUserDevices, deviceItems_same h c.user c'.user huser huser']
        exact .listed _

/-- The calls of a user among all calls. -/
def callsOf (userId : Uuid) (calls : List Call) : List Call := calls.filter (isBy userId)

def requestsOf (userId : Uuid) (calls : List Call) : List Request :=
  (callsOf userId calls).map Call.request

/-- The requests of a user with the readings of the clock. -/
def timedRequestsOf (userId : Uuid) (calls : List Call) : List (Request × Datetime) :=
  (callsOf userId calls).map (fun c => (c.request, c.now))

def Answer.renamed? : Answer → Option (Reply ClaimResponse)
  | .renamed reply => some reply
  | _ => none

/-- What the alias updates of a user are answered. -/
def aliasAnswers (env : Env) (userId : Uuid) (db : Database) (calls : List Call) :
    List (Reply ClaimResponse) :=
  (answersTo (serve env) (isBy userId) db calls).filterMap Answer.renamed?

/-- A reply without `claimed_at`. -/
def apartFromClock : Reply ClaimResponse → Reply (String × Option String)
  | .ok response => .ok (response.deviceId, response.deviceAlias)
  | .error status detail => .error status detail
  | .crash => .crash

/-- The run of the calls, from one view to the next. -/
theorem run_same (clock : Datetime → Datetime → Prop) (env : Env) (userId : Uuid)
    (db db' : Database) (h : SameView clock userId db db') (calls calls' : List Call)
    (hcalls : List.Forall₂ (SameCall clock) (callsOf userId calls) (callsOf userId calls')) :
    SameView clock userId (after (serve env) db calls) (after (serve env) db' calls') ∧
      List.Forall₂ (SameReply clock) (aliasAnswers env userId db calls)
        (aliasAnswers env userId db' calls') := by
  rcases isolated (serve env) (isBy userId) _ _ _ (isolates_serve clock env userId) calls calls'
    db db' h hcalls with ⟨hview, hanswers⟩
  refine ⟨hview, List.rel_filterMap (fun answer answer' hanswer => ?_) hanswers⟩
  cases hanswer with
  | claimed _ _ _ => exact .none
  | renamed _ _ hreply => exact .some hreply
  | listed _ => exact .none

theorem SameReply.apartFromClock_eq (clock : Datetime → Datetime → Prop)
    (reply reply' : Reply ClaimResponse) (h : SameReply clock reply reply') :
    apartFromClock reply = apartFromClock reply' := by
  cases h with
  | ok deviceId deviceAlias claimedAt claimedAt' h => rfl
  | error status detail => rfl
  | crash => rfl

theorem SameReply.eq (reply reply' : Reply ClaimResponse) (h : SameReply Eq reply reply') :
    reply = reply' := by
  cases h with
  | ok deviceId deviceAlias claimedAt claimedAt' h => rw [h]
  | error status detail => rfl
  | crash => rfl

/-- The listing of a user and the `devices` claim of the user's credentials are the
    same sets. -/
structure SameSight (env : Env) (user : User) (db db' : Database) : Prop where
  listed : ∃ items items', listUserDevices db user = .ok items ∧
    listUserDevices db' user = .ok items' ∧ ∀ item, item ∈ items ↔ item ∈ items'
  devices : ∀ now now', ∃ claims claims' ids ids',
    (getMqttCredentials env db user now).mqttToken = env.encode claims ∧
    (getMqttCredentials env db' user now').mqttToken = env.encode claims' ∧
    claims.devices = some ids ∧ claims'.devices = some ids' ∧ ∀ id, id ∈ ids ↔ id ∈ ids'

theorem SameView.sight {clock : Datetime → Datetime → Prop} {user : User} {db db' : Database}
    (h : SameView clock user.id db db') (env : Env) : SameSight env user db db' where
  listed := ⟨_, _, rfl, rfl, fun item => by rw [deviceItems_same h user user rfl rfl]⟩
  devices := by
    intro now now'
    refine ⟨_, _, _, _, rfl, rfl, rfl, rfl, fun id => ?_⟩
    have hids := map_eq_of_forall₂ (fun ud ud' hrow => congrArg Prod.snd hrow.key) h.rows
    exact iff_of_eq (congrArg (id ∈ ·) hids)

/-- Two runs with the same requests of a user in the same order, and any requests
    of other users in between, show the user the same devices and answer the
    user's alias updates alike. `claimed_at` in an answer is the clock's reading at
    the claim of the user, and the answers are equal if it reads the same. -/
theorem users_isolated (env : Env) (user : User) (db db' : Database)
    (hstart : SameStart user.id db db') (calls calls' : List Call)
    (hsame : requestsOf user.id calls = requestsOf user.id calls') :
    SameSight env user (after (serve env) db calls) (after (serve env) db' calls') ∧
    (aliasAnswers env user.id db calls).map apartFromClock =
      (aliasAnswers env user.id db' calls').map apartFromClock ∧
    (timedRequestsOf user.id calls = timedRequestsOf user.id calls' →
      aliasAnswers env user.id db calls = aliasAnswers env user.id db' calls') := by
  -- Whatever the clock reads.
  have hany : List.Forall₂ (SameCall (fun _ _ => True)) (callsOf user.id calls)
      (callsOf user.id calls') := forall₂_of_map_eq (fun _ _ hreq => ⟨hreq, trivial⟩) hsame
  rcases run_same (fun _ _ => True) env user.id db db' (hstart.view (fun _ => trivial)) calls
    calls' hany with ⟨hview, hanswers⟩
  refine ⟨hview.sight env, map_eq_of_forall₂ (SameReply.apartFromClock_eq _) hanswers,
    fun htimed => ?_⟩
  -- The same readings: the rows are equal, and with them the answers.
  have hexact : List.Forall₂ (SameCall Eq) (callsOf user.id calls) (callsOf user.id calls') :=
    forall₂_of_map_eq (fun _ _ hpair => ⟨congrArg Prod.fst hpair, congrArg Prod.snd hpair⟩) htimed
  have hequal := (run_same Eq env user.id db db' (hstart.view (fun _ => rfl)) calls calls'
    hexact).2
  have hmap := map_eq_of_forall₂ (f := id) (g := id) SameReply.eq hequal
  rwa [List.map_id, List.map_id] at hmap

def otherUser : User := ⟨0x87654321876543218765432187654321, "google-2", "bia@vena.test"⟩

/-- Two users, and a device that neither has claimed. -/
def twoUsers : Database :=
  Access.demoDb.addUser otherUser (by decide) (by decide)

/-- A user claims the device and names it. -/
def alone : List Call :=
  [⟨Access.demoUser, 1, .claim "vena-b" "C0DE"⟩,
    ⟨Access.demoUser, 2, .updateAlias "vena-b" "Attic"⟩]

/-- The same among requests of the other user for the same device. -/
def shared : List Call :=
  [⟨otherUser, 0, .claim "vena-b" "C0DE"⟩, ⟨Access.demoUser, 1, .claim "vena-b" "C0DE"⟩,
    ⟨otherUser, 1, .updateAlias "vena-b" "Cellar"⟩,
    ⟨Access.demoUser, 2, .updateAlias "vena-b" "Attic"⟩]

theorem users_isolated_shared :
    SameSight Access.demoEnv Access.demoUser (after (serve Access.demoEnv) twoUsers alone)
        (after (serve Access.demoEnv) twoUsers shared) ∧
      aliasAnswers Access.demoEnv Access.demoUser.id twoUsers alone =
        aliasAnswers Access.demoEnv Access.demoUser.id twoUsers shared := by
  have hstart : SameStart Access.demoUser.id twoUsers twoUsers := ⟨rfl, Iff.rfl, rfl⟩
  have hboth := users_isolated Access.demoEnv Access.demoUser twoUsers twoUsers hstart alone shared
    (by decide)
  exact ⟨hboth.1, hboth.2.2 (by decide)⟩

end UserIsolation

end Backend

end Vena
