import AccountDirectory.Account.Json

/-!
The claims that a token carries about an account, and the times between which they hold.
-/

namespace AccountDirectory

open AccountDirectory.Time (Instant)
open AccountDirectory.Json (Reader Value record)

structure ClaimSet where
  subjectId : UserId
  loginName : String
  displayName : String
  email : String
  isAdmin : Bool
  issuedAt : Instant
  expiresAt : Instant
deriving DecidableEq, Repr

/-- Why claims do not hold at an instant. -/
inductive WindowError where
  | expired
  | notYetValid
  | invalidWindow
  /-- The instant with the leeway lies outside the range of time. -/
  | outOfTime
deriving DecidableEq, Repr

namespace WindowError

def message : WindowError → String
  | expired => "token has expired"
  | notYetValid => "token not yet valid (issued_at is in the future)"
  | invalidWindow => "invalid token time window (expires_at <= issued_at)"
  | outOfTime => Instant.outOfTimeMessage

end WindowError

namespace ClaimSet

/-- The claims of an account that has just logged in, for `validity` seconds from the start of the
    second; none if they would end outside the range of time. -/
def issue? (record : AuthRecord) (now : Instant) (validity : Int) : Option ClaimSet := do
  let expiresAt ← now.floor.addSeconds? validity
  return { subjectId := record.id, loginName := record.loginName,
           displayName := record.displayName, email := record.email, isAdmin := record.isAdmin,
           issuedAt := now.floor, expiresAt }

/-- The difference in seconds that is allowed between the clocks of issuer and verifier. -/
def leeway : Int := 30

/-- Whether the claims hold at an instant. -/
def validateWindow (claims : ClaimSet) (now : Instant) : Except WindowError Unit :=
  if claims.expiresAt ≤ claims.issuedAt then .error .invalidWindow
  else
    match now.addSeconds? leeway with
    | none => .error .outOfTime
    | some latest =>
      if latest < claims.issuedAt then .error .notYetValid
      else if claims.expiresAt ≤ now then .error .expired
      else .ok ()

def reader : Reader ClaimSet := do
  let (subjectId, loginName, displayName, email, isAdmin, issuedAt, expiresAt, ()) ←
    record "ClaimSet" [UserId, String, String, String, Bool, Instant, Instant]
      (.required "subjectId" .userId, .required "loginName" .text,
        .required "displayName" .text, .required "email" .text, .required "isAdmin" .boolean,
        .required "issuedAt" .instantOfSeconds, .required "expiresAt" .instantOfSeconds, ())
  return { subjectId, loginName, displayName, email, isAdmin, issuedAt, expiresAt }

def toJson (c : ClaimSet) : Value :=
  .object
    [("subjectId", .userId c.subjectId), ("loginName", .string c.loginName),
      ("displayName", .string c.displayName), ("email", .string c.email),
      ("isAdmin", .bool c.isAdmin), ("issuedAt", .number c.issuedAt.seconds),
      ("expiresAt", .number c.expiresAt.seconds)]

end ClaimSet

end AccountDirectory
