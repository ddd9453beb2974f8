import Vena.Backend.Devices
import Vena.Core.Run

/-!
# Who May Use a Topic

The tokens of this backend and the broker's questions about them. Requests are
served one after the other on the database; each is made by the user
`get_current_user` resolves its bearer token to, and between requests
ingestion and seeding may change the table of devices. The run keeps a log of
the tokens it handed out, each with its holder and the route it came from, of
the pairing codes the users presented, and of the calls of the route that asks
for none.

A token opens the topics of a device in two ways. The routes that check the
pairing code, directly or when the device was claimed, hand out tokens for
devices whose code the holder presented. `POST /devices/{device_id}/provision`
signs whatever its path says for any user. `acl_guarded` states that there is
no third way.

## Main definitions

* `getCurrentUser`: The user behind a bearer token.
* `loginWithGoogle`, `refreshSession`: The two routes that start a session.
* `mqttAcl`: The broker's question, answered 200 or 403.
* `Access.State`, `Access.step`: The runs of the API.
* `Access.Backed`: Where the authority of a token comes from.
* `Access.Guarded`: What holds of every run.

## Theorems

* `Access.step_guarded`, `Access.run_guarded`: Every run keeps `Guarded`.
* `Access.acl_guarded`: What a token of a user opens.
* `Access.acl_unguarded`: A device opened without its code.
-/

namespace Vena

namespace Backend

open Python Refresh

/-- `get_current_user`. -/
def getCurrentUser (env : Env) (db : Database) (bearer : String) (now : Datetime) : Reply User :=
  let unauth := Reply.error 401 "Could not validate credentials"
  match env.decode bearer now with
  | none => unauth
  | some payload => match payload.sub with
    | none => unauth
    | some sub => match Uuid.ofStr (PyStr.ofString sub) with
      | none => unauth
      | some userId => match db.users.filter (fun u => u.id = userId) with
        | [] => unauth
        | [user] => .ok user
        | _ => .crash

/-- The user of a Google identity, created with the drawn id if there is none;
    `none` when a constraint is violated. -/
def upsertUser (db : Database) (info : GoogleUserInfo) (drawn : Uuid) : Option (Database × User) :=
  match db.users.filter (fun u => u.googleSub = info.sub) with
  | [] =>
    if h : (∀ u ∈ db.users, u.id ≠ drawn) ∧ (∀ u ∈ db.users, u.googleSub ≠ info.sub) then
      some (db.addUser ⟨drawn, info.sub, info.email⟩ h.1 h.2, ⟨drawn, info.sub, info.email⟩)
    else none
  | [user] => some (db.setEmail user.id info.email, { user with email := info.email })
  | _ => none

/-- `login_with_google`. -/
def loginWithGoogle (env : Env) (db : Database) (idToken : String) (drawn : Uuid)
    (issue : Issue) : Database × Reply TokenResponse :=
  match verifyGoogleToken env idToken with
  | .error (.valueError detail) => (db, .error 401 detail)
  -- No handler is in place for the `KeyError` of a token without an email.
  | .error .keyError => (db, .crash)
  | .ok info => match upsertUser db info drawn with
    | none => (db, .crash)
    | some (db', user) =>
      if h : (∀ r ∈ db'.tokens, r.id ≠ (newToken env user issue).id) ∧
          (∃ u ∈ db'.users, u.id = (newToken env user issue).userId) then
        (db'.addToken (newToken env user issue) h.1 h.2, .ok (issueResponse env user issue))
      else (db, .crash)

/-- `POST /auth/refresh`. -/
def refreshSession (env : Env) (db : Database) (raw : String) (now : Datetime) (issue : Issue) :
    Database × Reply TokenResponse :=
  (db.withTokens (refreshAccessToken env db.tokenDb raw now issue).1
    (users_refreshAccessToken env db.tokenDb raw now issue),
    (refreshAccessToken env db.tokenDb raw now issue).2)

/-- The status of `POST /mqtt/acl`. -/
def mqttAcl (env : Env) (username topic : String) (now : Datetime) : Nat :=
  match env.decode username now with
  | none => 403
  | some payload => match split '/' topic with
    | "vena" :: topicDeviceId :: _ =>
      if payload.scope = some "backend" then 200
      else if payload.scope = some "app" then
        if topicDeviceId ∈ payload.devices.getD [] then 200 else 403
      else if payload.scope = some "device" then
        if payload.deviceId = some topicDeviceId then 200 else 403
      else 403
    | _ => 403

namespace Access

/-- The routes that ask for a user. -/
inductive Endpoint where
  | claim (deviceId code : String)
  | provision (deviceId code : String)
  | provisionDevice (deviceId : String)
  | mqttCredentials
  | updateAlias (deviceId deviceAlias : String)
  | listDevices
  deriving DecidableEq, Repr

/-- A login, a refresh, a request with a bearer token, or a change of the
    devices by ingestion and seeding. -/
inductive Act where
  | login (idToken : String) (drawn : Uuid) (issue : Issue)
  | refresh (raw : String) (now : Datetime) (issue : Issue)
  | request (bearer : String) (now : Datetime) (endpoint : Endpoint)
  | devices (rows : List Device)
  deriving DecidableEq, Repr

/-- Where a token came from. -/
inductive Route where
  | session
  | credentials
  | provision
  | provisionDevice
  deriving DecidableEq, Repr

/-- A token that was handed out, and the user who got it. -/
structure Issued where
  holder : Uuid
  token : String
  route : Route
  deriving DecidableEq, Repr

/-- The database, and the log of the run: the devices whose code each user
    presented, the devices each user provisioned without one, and the tokens
    handed out. -/
structure State where
  db : Database
  presented : List (Uuid × String)
  unguarded : List (Uuid × String)
  issued : List Issued

/-- A claim that is there at the start was made with the code. -/
def start (db : Database) : State where
  db := db
  presented := db.userDevices.map UserDevice.key
  unguarded := []
  issued := []

/-- The user has submitted a code for the device, and it was the right one. -/
def present (env : Env) (s : State) (user : User) (deviceId code : String) : List (Uuid × String) :=
  match deviceWithCode env s.db deviceId code with
  | .ok _ => (user.id, deviceId) :: s.presented
  | _ => s.presented

def serve (env : Env) (s : State) (user : User) (now : Datetime) : Endpoint → State
  | .claim deviceId code => { s with
      db := (claimDevice env s.db user deviceId code now).1
      presented := present env s user deviceId code }
  | .provision deviceId code => { s with
      presented := present env s user deviceId code
      issued := match provision env s.db deviceId code now with
        | .ok resp => ⟨user.id, resp.deviceJwt, .provision⟩ :: s.issued
        | _ => s.issued }
  | .provisionDevice deviceId => { s with
      unguarded := (user.id, deviceId) :: s.unguarded
      issued := ⟨user.id, (provisionDevice env deviceId now).deviceJwt, .provisionDevice⟩ ::
        s.issued }
  | .mqttCredentials => { s with
      issued := ⟨user.id, (getMqttCredentials env s.db user now).mqttToken, .credentials⟩ ::
        s.issued }
  | .updateAlias deviceId deviceAlias =>
      { s with db := (updateDeviceAlias s.db user deviceId deviceAlias).1 }
  | .listDevices => s

/-- The access token of a login or a refresh. -/
def openSession (s : State) (r : Database × Reply TokenResponse) : State :=
  { s with
    db := r.1
    issued := match r.2 with
      | .ok resp => ⟨resp.user.id, resp.accessToken, .session⟩ :: s.issued
      | _ => s.issued }

def step (env : Env) (s : State) : Act → Option State
  | .login idToken drawn issue =>
      some (openSession s (loginWithGoogle env s.db idToken drawn issue))
  | .refresh raw now issue => some (openSession s (refreshSession env s.db raw now issue))
  | .request bearer now endpoint => match getCurrentUser env s.db bearer now with
    | .ok user => some (serve env s user now endpoint)
    | _ => some s
  | .devices rows =>
    if h : (rows.map Device.id).Nodup ∧
        ∀ ud ∈ s.db.userDevices, ∃ device ∈ rows, device.id = ud.deviceId then
      some { s with db := s.db.setDevices rows h.1 h.2 }
    else none

/-- Where the authority of a token comes from: sessions open no topic,
    credentials and `POST /devices/provision` open devices whose code the
    holder presented, and `POST /devices/{device_id}/provision` opens the
    device of its path. -/
def Backed (env : Env) (s : State) (it : Issued) : Prop :=
  ∃ claims, it.token = env.encode claims ∧ match it.route with
    | .session => claims.scope = some "user"
    | .credentials => claims.scope = some "app" ∧
        ∃ ids, claims.devices = some ids ∧ ∀ id ∈ ids, (it.holder, id) ∈ s.presented
    | .provision => claims.scope = some "device" ∧
        ∃ id, claims.deviceId = some id ∧ (it.holder, id) ∈ s.presented
    | .provisionDevice => claims.scope = some "device" ∧
        ∃ id, claims.deviceId = some id ∧ (it.holder, id) ∈ s.unguarded

/-- What holds of every run: whoever owns a device has presented its code, and
    every token is backed. -/
structure Guarded (env : Env) (s : State) : Prop where
  owners : ∀ ud ∈ s.db.userDevices, ud.key ∈ s.presented
  issued : ∀ it ∈ s.issued, Backed env s it

/-- A longer log backs the same tokens. -/
theorem backed_mono (env : Env) (s s' : State) (it : Issued)
    (hpresented : ∀ x ∈ s.presented, x ∈ s'.presented)
    (hunguarded : ∀ x ∈ s.unguarded, x ∈ s'.unguarded) (h : Backed env s it) :
    Backed env s' it := by
  rcases h with ⟨claims, htoken, h⟩
  refine ⟨claims, htoken, ?_⟩
  cases hroute : it.route with
  | session =>
      rw [hroute] at h
      exact h
  | credentials =>
      rw [hroute] at h
      rcases h with ⟨hscope, ids, hids, hall⟩
      exact ⟨hscope, ids, hids, fun id hid => hpresented _ (hall id hid)⟩
  | provision =>
      rw [hroute] at h
      rcases h with ⟨hscope, id, hid, hin⟩
      exact ⟨hscope, id, hid, hpresented _ hin⟩
  | provisionDevice =>
      rw [hroute] at h
      rcases h with ⟨hscope, id, hid, hin⟩
      exact ⟨hscope, id, hid, hunguarded _ hin⟩

theorem presented_present (env : Env) (s : State) (user : User) (deviceId code : String) :
    ∀ x ∈ s.presented, x ∈ present env s user deviceId code := by
  intro x hx
  unfold present
  split
  · exact List.mem_cons_of_mem _ hx
  · exact hx

/-- A claim adds at most a row for the user and the device, and only if the
    code was right. -/
theorem mem_claimDevice (env : Env) (db : Database) (user : User) (deviceId code : String)
    (now : Datetime) (ud : UserDevice)
    (h : ud ∈ (claimDevice env db user deviceId code now).1.userDevices) :
    ud ∈ db.userDevices ∨
      (ud.key = (user.id, deviceId) ∧
          ∃ device, deviceWithCode env db deviceId code = .ok device) := by
  rcases claimDevice_cases env db user deviceId code now with
    ⟨device, hkey, huser, hdevice, hok, hnew⟩ | ⟨reply, hsame⟩
  · rw [hnew] at h
    rcases List.mem_append.mp h with hold | hrow
    · exact Or.inl hold
    · rw [List.mem_singleton.mp hrow]
      exact Or.inr ⟨rfl, device, hok⟩
  · rw [hsame] at h
    exact Or.inl h

/-- The owners of the devices stay who they are when an alias changes. -/
theorem mem_updateDeviceAlias (db : Database) (user : User) (deviceId deviceAlias : String)
    (ud : UserDevice) (h : ud ∈ (updateDeviceAlias db user deviceId deviceAlias).1.userDevices) :
    ∃ old ∈ db.userDevices, old.key = ud.key := by
  rcases updateDeviceAlias_cases db user deviceId deviceAlias with ⟨row, _, _, hok⟩ | h403 | hcrash
  · rw [hok] at h
    rcases List.mem_map.mp h with ⟨old, hold, heq⟩
    refine ⟨old, hold, ?_⟩
    rw [← heq]
    split
    · rfl
    · rfl
  · rw [h403] at h
    exact ⟨ud, h, rfl⟩
  · rw [hcrash] at h
    exact ⟨ud, h, rfl⟩

/-- An upsert of a user writes to `users` only. -/
theorem upsertUser_frame (db db' : Database) (info : GoogleUserInfo) (drawn : Uuid)
    (user : User) (h : upsertUser db info drawn = some (db', user)) :
    db'.devices = db.devices ∧ db'.userDevices = db.userDevices := by
  unfold upsertUser at h
  split at h
  · split at h
    · simp only [Option.some.injEq, Prod.mk.injEq] at h
      rw [← h.1]
      exact ⟨rfl, rfl⟩
    · exact absurd h (by simp only [reduceCtorEq, not_false_eq_true])
  · simp only [Option.some.injEq, Prod.mk.injEq] at h
    rw [← h.1]
    exact ⟨rfl, rfl⟩
  · exact absurd h (by simp only [reduceCtorEq, not_false_eq_true])

/-- A login writes to `users` and `refresh_tokens` only. -/
theorem loginWithGoogle_frame (env : Env) (db : Database) (idToken : String) (drawn : Uuid)
    (issue : Issue) :
    (loginWithGoogle env db idToken drawn issue).1.devices = db.devices ∧
      (loginWithGoogle env db idToken drawn issue).1.userDevices = db.userDevices := by
  unfold loginWithGoogle
  split
  · exact ⟨rfl, rfl⟩
  · exact ⟨rfl, rfl⟩
  · split
    · exact ⟨rfl, rfl⟩
    · next db' user hupsert =>
        split
        · exact upsertUser_frame db db' _ drawn user hupsert
        · exact ⟨rfl, rfl⟩

/-- The answer of a login or a refresh carries the claims of an access token
    for its user. -/
def OpensSession (env : Env) (r : Reply TokenResponse) : Prop :=
  ∀ resp, r = .ok resp → ∃ user issue, resp = issueResponse env user issue

theorem opensSession_loginWithGoogle (env : Env) (db : Database) (idToken : String) (drawn : Uuid)
    (issue : Issue) : OpensSession env (loginWithGoogle env db idToken drawn issue).2 := by
  intro resp h
  unfold loginWithGoogle at h
  split at h
  · exact absurd h (by simp only [reduceCtorEq, not_false_eq_true])
  · exact absurd h (by simp only [reduceCtorEq, not_false_eq_true])
  · split at h
    · exact absurd h (by simp only [reduceCtorEq, not_false_eq_true])
    · next db' user _ =>
        split at h
        · simp only [Reply.ok.injEq] at h
          exact ⟨user, issue, h.symm⟩
        · exact absurd h (by simp only [reduceCtorEq, not_false_eq_true])

theorem opensSession_refreshSession (env : Env) (db : Database) (raw : String) (now : Datetime)
    (issue : Issue) : OpensSession env (refreshSession env db raw now issue).2 := by
  intro resp h
  rcases refreshAccessToken_cases env db.tokenDb raw now issue with ⟨_, hno⟩ | ⟨_, user, _, _, hok⟩
  · exact absurd h (hno resp)
  · have heq := hok.symm.trans h
    rw [Reply.ok.injEq] at heq
    exact ⟨user, issue, heq.symm⟩

theorem guarded_openSession (env : Env) (s : State) (r : Database × Reply TokenResponse)
    (h : Guarded env s) (hdb : r.1.userDevices = s.db.userDevices) (hopens : OpensSession env r.2) :
    Guarded env (openSession s r) := by
  refine ⟨?_, ?_⟩
  · intro ud hud
    simp only [openSession, hdb] at hud
    exact h.owners ud hud
  · have hmono : ∀ it ∈ s.issued, Backed env (openSession s r) it := fun it hit =>
      backed_mono env s _ it (fun _ hx => hx) (fun _ hx => hx) (h.issued it hit)
    intro it hit
    simp only [openSession] at hit
    split at hit
    · next resp hresp =>
        rcases List.mem_cons.mp hit with hnew | hold
        · rcases hopens resp hresp with ⟨user, issue, hissue⟩
          rw [hnew, hissue]
          exact ⟨accessClaims env user issue.accessNow, rfl, rfl⟩
        · exact hmono it hold
    · exact hmono it hit

theorem guarded_serve (env : Env) (s : State) (user : User) (now : Datetime) (endpoint : Endpoint)
    (h : Guarded env s) : Guarded env (serve env s user now endpoint) := by
  cases endpoint with
  | claim deviceId code =>
      refine ⟨?_, ?_⟩
      · intro ud hud
        rcases mem_claimDevice env s.db user deviceId code now ud hud
          with hold | ⟨hkey, device, hok⟩
        · exact presented_present env s user deviceId code _ (h.owners ud hold)
        · simp only [serve, present, hok, hkey]
          exact List.mem_cons_self
      · intro it hit
        exact backed_mono env s _ it (presented_present env s user deviceId code)
          (fun _ hx => hx) (h.issued it hit)
  | provision deviceId code =>
      have hmono :
          ∀ it ∈ s.issued, Backed env (serve env s user now (.provision deviceId code)) it :=
        fun it hit => backed_mono env s _ it (presented_present env s user deviceId code)
          (fun _ hx => hx) (h.issued it hit)
      refine ⟨?_, ?_⟩
      · intro ud hud
        exact presented_present env s user deviceId code _ (h.owners ud hud)
      · intro it hit
        simp only [serve] at hit
        split at hit
        · next resp hresp =>
            -- The token is issued only where the code was right, which `present` has noted.
            rcases List.mem_cons.mp hit with hnew | hold
            · unfold provision at hresp
              cases hcode : deviceWithCode env s.db deviceId code with
              | ok device =>
                  rw [hcode, Reply.ok.injEq] at hresp
                  rw [hnew, ← hresp]
                  refine ⟨deviceClaims env deviceId now, rfl, rfl, deviceId, rfl, ?_⟩
                  simp only [serve, present, hcode]
                  exact List.mem_cons_self
              | error status detail =>
                  simp only [hcode, reduceCtorEq] at hresp
              | crash =>
                  simp only [hcode, reduceCtorEq] at hresp
            · exact hmono it hold
        · exact hmono it hit
  | provisionDevice deviceId =>
      refine ⟨h.owners, ?_⟩
      intro it hit
      rcases List.mem_cons.mp hit with hnew | hold
      · rw [hnew]
        exact ⟨deviceClaims env deviceId now, rfl, rfl, deviceId, rfl, List.mem_cons_self⟩
      · exact backed_mono env s _ it (fun _ hx => hx) (fun _ hx => List.mem_cons_of_mem _ hx)
          (h.issued it hold)
  | mqttCredentials =>
      refine ⟨h.owners, ?_⟩
      intro it hit
      rcases List.mem_cons.mp hit with hnew | hold
      · rw [hnew]
        refine ⟨mqttClaims env user _ now, rfl, rfl, _, rfl, fun id hid => ?_⟩
        -- The devices in the claims are the user's rows, and the rows are backed.
        rcases List.mem_map.mp hid with ⟨ud, hud, hdevice⟩
        rcases List.mem_filter.mp hud with ⟨hin, hmine⟩
        rw [decide_eq_true_eq] at hmine
        have hkey := h.owners ud hin
        rw [UserDevice.key, hmine, hdevice] at hkey
        exact hkey
      · exact backed_mono env s _ it (fun _ hx => hx) (fun _ hx => hx) (h.issued it hold)
  | updateAlias deviceId deviceAlias =>
      refine ⟨?_, ?_⟩
      -- A rename keeps who owns what.
      · intro ud hud
        rcases mem_updateDeviceAlias s.db user deviceId deviceAlias ud hud with ⟨old, hold, hkey⟩
        rw [← hkey]
        exact h.owners old hold
      · intro it hit
        exact backed_mono env s _ it (fun _ hx => hx) (fun _ hx => hx) (h.issued it hit)
  | listDevices => exact h

theorem step_guarded (env : Env) (s s' : State) (a : Act) (h : Guarded env s)
    (hstep : step env s a = some s') : Guarded env s' := by
  cases a with
  | login idToken drawn issue =>
      simp only [step, Option.some.injEq] at hstep
      rw [← hstep]
      exact guarded_openSession env s _ h (loginWithGoogle_frame env s.db idToken drawn issue).2
        (opensSession_loginWithGoogle env s.db idToken drawn issue)
  | refresh raw now issue =>
      simp only [step, Option.some.injEq] at hstep
      rw [← hstep]
      exact guarded_openSession env s _ h rfl (opensSession_refreshSession env s.db raw now issue)
  | request bearer now endpoint =>
      simp only [step] at hstep
      split at hstep
      · next user _ =>
          rw [Option.some.injEq] at hstep
          rw [← hstep]
          exact guarded_serve env s user now endpoint h
      · rw [Option.some.injEq] at hstep
        rw [← hstep]
        exact h
  | devices rows =>
      simp only [step] at hstep
      split at hstep
      · rw [Option.some.injEq] at hstep
        rw [← hstep]
        refine ⟨h.owners, fun it hit => ?_⟩
        exact backed_mono env s _ it (fun _ hx => hx) (fun _ hx => hx) (h.issued it hit)
      · exact absurd hstep (by simp only [reduceCtorEq, not_false_eq_true])

theorem start_guarded (env : Env) (db : Database) : Guarded env (start db) where
  owners := fun _ hud => List.mem_map_of_mem hud
  issued := fun _ hit => absurd hit List.not_mem_nil

theorem run_guarded (env : Env) (db : Database) (as : List Act) (s : State)
    (hrun : Run.run (step env) (start db) as = some s) : Guarded env s :=
  Run.run_invariant (step env) (Guarded env) (fun t a t' ht ht' => step_guarded env t t' a ht ht')
    as (start db) s (start_guarded env db) hrun

/-- What a token that passed the check of the broker says. -/
theorem mqttAcl_ok (env : Env) (username topic : String) (now : Datetime)
    (h : mqttAcl env username topic now = 200) :
    ∃ payload id rest, env.decode username now = some payload ∧
      split '/' topic = "vena" :: id :: rest ∧
      (payload.scope = some "backend" ∨
        (payload.scope = some "app" ∧ id ∈ payload.devices.getD []) ∨
        (payload.scope = some "device" ∧ payload.deviceId = some id)) := by
  unfold mqttAcl at h
  split at h
  · exact absurd h (by decide)
  · next payload hdecode =>
      split at h
      · next id rest hsplit =>
          refine ⟨payload, id, rest, hdecode, hsplit, ?_⟩
          -- Scope by scope, in the order the handler tests them.
          by_cases hbackend : payload.scope = some "backend"
          · exact Or.inl hbackend
          · rw [if_neg hbackend] at h
            by_cases happ : payload.scope = some "app"
            · rw [if_pos happ] at h
              by_cases hin : id ∈ payload.devices.getD []
              · exact Or.inr (Or.inl ⟨happ, hin⟩)
              · rw [if_neg hin] at h
                exact absurd h (by decide)
            · rw [if_neg happ] at h
              by_cases hdevice : payload.scope = some "device"
              · rw [if_pos hdevice] at h
                by_cases hid : payload.deviceId = some id
                · exact Or.inr (Or.inr ⟨hdevice, hid⟩)
                · rw [if_neg hid] at h
                  exact absurd h (by decide)
              · rw [if_neg hdevice] at h
                exact absurd h (by decide)
      · exact absurd h (by decide)

/-- A verified token carries exactly the claims it was signed with. -/
def Signs (env : Env) : Prop :=
  ∀ claims now payload, env.decode (env.encode claims) now = some payload → payload = claims

/-- A backed token opens only topics of devices whose code its holder
    presented, or of the device it was provisioned for without one. -/
theorem opens_of_backed (env : Env) (s : State) (it : Issued) (topic : String) (now : Datetime)
    (hsigns : Signs env) (h : Backed env s it) (hok : mqttAcl env it.token topic now = 200) :
    ∃ id rest, split '/' topic = "vena" :: id :: rest ∧
      (if it.route = .provisionDevice then (it.holder, id) ∈ s.unguarded
        else (it.holder, id) ∈ s.presented) := by
  rcases mqttAcl_ok env it.token topic now hok with ⟨payload, id, rest, hdecode, hsplit, hscope⟩
  rcases h with ⟨claims, htoken, hback⟩
  rw [htoken] at hdecode
  -- What the broker decodes is what the backend signed.
  have hclaims := hsigns claims now payload hdecode
  subst hclaims
  refine ⟨id, rest, hsplit, ?_⟩
  cases hroute : it.route with
  | session =>
      -- A session token has no scope that opens a topic.
      rw [hroute] at hback
      simp only [hback, Option.some.injEq, String.reduceEq, false_and, or_self] at hscope
  | credentials =>
      rw [hroute] at hback
      rcases hback with ⟨happ, ids, hids, hall⟩
      simp only [happ, hids, Option.some.injEq, String.reduceEq, Option.getD_some, true_and,
        false_and, or_false, false_or] at hscope
      rw [if_neg (by simp only [reduceCtorEq, not_false_eq_true])]
      exact hall id hscope
  | provision =>
      rw [hroute] at hback
      rcases hback with ⟨hdevice, id', hid', hin⟩
      simp only [hdevice, hid', Option.some.injEq, String.reduceEq, true_and, false_and,
        false_or] at hscope
      rw [if_neg (by simp only [reduceCtorEq, not_false_eq_true]), ← hscope]
      exact hin
  | provisionDevice =>
      rw [hroute] at hback
      rcases hback with ⟨hdevice, id', hid', hin⟩
      simp only [hdevice, hid', Option.some.injEq, String.reduceEq, true_and, false_and,
        false_or] at hscope
      rw [if_pos rfl, ← hscope]
      exact hin

/-- In every run, the tokens a user got open only topics of devices whose
    pairing code the user presented, except the ones from
    `POST /devices/{device_id}/provision`, which open the device of the path.
    A device token from `POST /devices/provision` names a device whose code its
    holder presented. -/
theorem acl_guarded (env : Env) (hsigns : Signs env) (db : Database) (as : List Act) (s : State)
    (hrun : Run.run (step env) (start db) as = some s) : ∀ it ∈ s.issued,
    (∀ topic now, mqttAcl env it.token topic now = 200 →
      ∃ id rest, split '/' topic = "vena" :: id :: rest ∧
        (if it.route = .provisionDevice then (it.holder, id) ∈ s.unguarded
          else (it.holder, id) ∈ s.presented)) ∧
    (it.route = .provision → ∃ claims id, it.token = env.encode claims ∧
      claims.deviceId = some id ∧ (it.holder, id) ∈ s.presented) := by
  intro it hit
  have hback := (run_guarded env db as s hrun).issued it hit
  refine ⟨fun topic now hok => opens_of_backed env s it topic now hsigns hback hok, ?_⟩
  intro hroute
  rcases hback with ⟨claims, htoken, hback⟩
  rw [hroute] at hback
  rcases hback with ⟨_, id, hid, hin⟩
  exact ⟨claims, id, htoken, hid, hin⟩

def demoUser : User := ⟨0x12345678123456781234567812345678, "google-1", "ana@vena.test"⟩

/-- A user without devices, and a device of somebody else. -/
def demoDb : Database where
  users := [demoUser]
  devices := [⟨"vena-b", "C0DE", none, none, none, "online"⟩]
  userDevices := []
  tokens := []
  userKey := by decide
  googleKey := by decide
  deviceKey := by decide
  pairKey := by decide
  tokenKey := by decide
  userFk := by decide
  deviceFk := by decide
  tokenFk := by decide

/-- Claims are signed without a key: two payloads have their own texts. -/
def demoEnv : Env where
  settings := {}
  sha256hex := fun raw => raw
  encode := fun claims =>
    if claims.scope = some "device" ∧ claims.sub = some "vena-b" ∧ claims.email = none ∧
      claims.devices = none ∧ claims.deviceId = some "vena-b" ∧ claims.iat = 0 ∧
      claims.exp = 2147483647 then "device"
    else "other"
  decode := fun token _ =>
    if token = "device" then some ⟨some "vena-b", some "device", none, none, some "vena-b", 0,
      2147483647⟩
    else if token = "session" then some ⟨some demoUser.id.str, some "user", none, none, none, 0, 0⟩
    else none
  checkpw := fun code hashed => some (code = hashed)
  verifyOauth2Token := fun _ => .error "Token expired"

theorem signs_demoEnv : Signs demoEnv := by
  intro claims now payload h
  rcases claims with ⟨sub, scope, email, devices, deviceId, iat, exp⟩
  simp only [demoEnv] at h
  split at h
  · next hclaims =>
      simp only [if_true, Option.some.injEq] at h
      rcases hclaims with ⟨h1, h2, h3, h4, h5, h6, h7⟩
      rw [← h, h1, h2, h3, h4, h5, h6, h7]
  · simp only [String.reduceEq, if_false, reduceCtorEq] at h

/-- The user provisions the device with its code and may then read it. -/
theorem acl_guarded_provision : ∃ s it, Run.run (step demoEnv) (start demoDb)
      [.request "session" 0 (.provision "vena-b" "C0DE")] = some s ∧ it ∈ s.issued ∧
    mqttAcl demoEnv it.token "vena/vena-b/telemetry" 0 = 200 ∧
    ∃ id rest, split '/' "vena/vena-b/telemetry" = "vena" :: id :: rest ∧
      (if it.route = .provisionDevice then (it.holder, id) ∈ s.unguarded
        else (it.holder, id) ∈ s.presented) :=
  have hin : (⟨demoUser.id, "device", .provision⟩ : Issued) ∈
      [(⟨demoUser.id, "device", .provision⟩ : Issued)] := List.mem_singleton.mpr rfl
  ⟨_, _, rfl, hin, by decide, (acl_guarded demoEnv signs_demoEnv demoDb
    [.request "session" 0 (.provision "vena-b" "C0DE")] _ rfl _ hin).1 _ 0 (by decide)⟩

/-- The user gets a token for the device without its code. -/
theorem acl_unguarded : ¬ ∀ (env : Env) (db : Database) (as : List Act) (s : State), Signs env →
    Run.run (step env) (start db) as = some s → ∀ it ∈ s.issued, ∀ topic now,
    mqttAcl env it.token topic now = 200 →
    ∃ id rest, split '/' topic = "vena" :: id :: rest ∧ (it.holder, id) ∈ s.presented := by
  intro hall
  rcases hall demoEnv demoDb [.request "session" 0 (.provisionDevice "vena-b")] _ signs_demoEnv rfl
    ⟨demoUser.id, "device", .provisionDevice⟩ (List.mem_singleton.mpr rfl) "vena/vena-b/cmd" 0
    (by decide) with ⟨id, rest, _, hin⟩
  exact absurd hin List.not_mem_nil

end Access

end Backend

end Vena
