import Vena.Backend.Models

/-!
# Tokens

`app/auth/jwt.py`: the claims of the four kinds of signed token and the opaque
refresh token. Signing, hashing and the check of a Google identity belong to
libraries and are taken as given functions in `Env`; every reading of the clock
is an argument.

## Main definitions

* `Claims`: The payload of a signed token, after its timestamps were encoded.
* `Settings`, `Env`: The configuration, and what the service gets from outside.
* `verifyGoogleToken`: The identity behind an id token.
* `createAccessToken`, `createMqttToken`, `createBackendToken`,
  `createDeviceJwt`: The signed tokens.
* `createRefreshToken`: The refresh token and its expiry.
-/

namespace Vena

namespace Backend

open Python

/-- The claims a token of this backend may carry. -/
structure Claims where
  sub : Option String
  scope : Option String
  email : Option String
  devices : Option (List String)
  deviceId : Option String
  iat : Int
  exp : Int
  deriving DecidableEq, Repr

/-- The settings the modelled functions read. -/
structure Settings where
  mqttHost : String := "localhost"
  mqttPublicHost : String := ""
  mqttPort : Int := 1883
  mqttPublicPort : Int := 0
  jwtExpireMinutes : Int := 60
  jwtRefreshExpireDays : Int := 30
  mqttJwtExpireMinutes : Int := 60
  deviceJwtExpireDays : Int := 0
  deriving DecidableEq, Repr

/-- The claims of an id token that Google has confirmed. -/
structure IdInfo where
  sub : Option String
  email : Option String
  deriving DecidableEq, Repr

structure GoogleUserInfo where
  sub : String
  email : String
  deriving DecidableEq, Repr

/-- The configuration, and what libraries and services contribute: the hash of
    `_hash_token`, the signer and the verifier of `jose.jwt` with `none` for
    `JWTError`, `bcrypt.checkpw` with `none` for `ValueError`, and Google's
    verdict on an id token, or the text of the exception. -/
structure Env where
  settings : Settings
  sha256hex : String → String
  encode : Claims → String
  decode : String → Datetime → Option Claims
  checkpw : String → String → Option Bool
  verifyOauth2Token : String → Except String IdInfo

/-- The exceptions of `verify_google_token`. -/
inductive GoogleError where
  | valueError (detail : String)
  | keyError
  deriving DecidableEq, Repr

/-- `verify_google_token`. The claims are read outside of its `try`. -/
def verifyGoogleToken (env : Env) (token : String) : Except GoogleError GoogleUserInfo :=
  match env.verifyOauth2Token token with
  | .error exc => .error (.valueError ("Invalid Google token: " ++ exc))
  | .ok ⟨some sub, some email⟩ => .ok ⟨sub, email⟩
  | .ok _ => .error .keyError

/-- `_JWT_MAX_EXP`, 2038-01-19T03:14:07Z. -/
def jwtMaxExp : Datetime := Datetime.seconds 2147483647

def accessClaims (env : Env) (user : User) (now : Datetime) : Claims where
  sub := some user.id.str
  scope := some "user"
  email := some user.email
  devices := none
  deviceId := none
  iat := Datetime.timestamp now
  exp := Datetime.timestamp (now + Datetime.minutes env.settings.jwtExpireMinutes)

def mqttClaims (env : Env) (user : User) (deviceIds : List String) (now : Datetime) : Claims where
  sub := some user.id.str
  scope := some "app"
  email := none
  devices := some deviceIds
  deviceId := none
  iat := Datetime.timestamp now
  exp := Datetime.timestamp (now + Datetime.minutes env.settings.mqttJwtExpireMinutes)

def backendClaims (env : Env) (now : Datetime) : Claims where
  sub := some "vena-backend"
  scope := some "backend"
  email := none
  devices := none
  deviceId := none
  iat := Datetime.timestamp now
  exp := Datetime.timestamp (now + Datetime.minutes env.settings.mqttJwtExpireMinutes)

def deviceClaims (env : Env) (deviceId : String) (now : Datetime) : Claims where
  sub := some deviceId
  scope := some "device"
  email := none
  devices := none
  deviceId := some deviceId
  iat := Datetime.timestamp now
  exp := Datetime.timestamp (if env.settings.deviceJwtExpireDays = 0 then jwtMaxExp
    else now + Datetime.days env.settings.deviceJwtExpireDays)

def createAccessToken (env : Env) (user : User) (now : Datetime) : String :=
  env.encode (accessClaims env user now)

def createMqttToken (env : Env) (user : User) (deviceIds : List String) (now : Datetime) :
    String :=
  env.encode (mqttClaims env user deviceIds now)

def createBackendToken (env : Env) (now : Datetime) : String :=
  env.encode (backendClaims env now)

def createDeviceJwt (env : Env) (deviceId : String) (now : Datetime) : String :=
  env.encode (deviceClaims env deviceId now)

/-- The raw token, drawn as `str(uuid.uuid4())`, and its expiry. -/
def createRefreshToken (env : Env) (drawn : Uuid) (now : Datetime) : String × Datetime :=
  (drawn.str, now + Datetime.days env.settings.jwtRefreshExpireDays)

end Backend

end Vena
