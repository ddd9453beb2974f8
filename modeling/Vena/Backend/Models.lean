import Vena.Python.Uuid

/-!
# Tables and Replies of the Backend

The records of `app/db/models.py` as far as the modelled functions use them,
and the three ways a request handler ends. Instants are microseconds since the
Unix epoch, in UTC, which is the resolution of both `datetime` and
`timestamptz`.

## Main definitions

* `Datetime`: An aware instant.
* `User`, `Device`, `UserDevice`, `RefreshToken`: The rows.
* `Reply`: A response body, an `HTTPException` or an unhandled exception.
* `pgText`: The strings a statement can carry.
-/

namespace Vena

namespace Backend

open Python

/-- Microseconds since the Unix epoch. -/
abbrev Datetime := Int

def Datetime.seconds (n : Int) : Int := n * 1000000

def Datetime.minutes (n : Int) : Int := seconds (n * 60)

def Datetime.days (n : Int) : Int := seconds (n * 86400)

/-- `timegm(d.utctimetuple())`. -/
def Datetime.timestamp (d : Datetime) : Int := d / 1000000

structure User where
  id : Uuid
  googleSub : String
  email : String
  deriving DecidableEq, Repr

structure Device where
  id : String
  pairingCodeHash : String
  fwVersion : Option String
  firstSeenAt : Option Datetime
  lastSeenAt : Option Datetime
  status : String
  deriving DecidableEq, Repr

structure UserDevice where
  userId : Uuid
  deviceId : String
  deviceAlias : Option String
  claimedAt : Datetime
  deriving DecidableEq, Repr

structure RefreshToken where
  id : Uuid
  userId : Uuid
  tokenHash : String
  expiresAt : Datetime
  revokedAt : Option Datetime
  deriving DecidableEq, Repr

/-- How a request handler ends: with a response body, with an
    `HTTPException`, or with an exception nothing handles, which the client
    sees as a 500. -/
inductive Reply (α : Type) where
  | ok (body : α)
  | error (status : Nat) (detail : String)
  | crash
  deriving DecidableEq, Repr

/-- What asyncpg can send as `text`: PostgreSQL refuses U+0000. -/
def pgText (s : String) : Bool :=
  s.toList.all (fun c => c ≠ '\x00')

end Backend

end Vena
