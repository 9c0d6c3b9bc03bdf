import AccountDirectory.Credential
import AccountDirectory.Store.Call
import AccountDirectory.Token.Basic

/-!
Logins: a credential is exchanged for a token.
-/

namespace AccountDirectory

open AccountDirectory.Store (Program)
open AccountDirectory.Time (Instant)
open AccountDirectory.Token (SigningKey)

/-- Why a login was denied. -/
inductive LoginError where
  | usernameNotFound
  | accountInactive
  | accountLocked
  | wrongCredential
  | internalFailure (detail : String)
  /-- The token would end outside the range of time. -/
  | outOfTime
deriving DecidableEq, Repr

def LoginError.message : LoginError → String
  | usernameNotFound => "login name not found"
  | accountInactive => "account is not active"
  | accountLocked => "account is locked"
  | wrongCredential => "wrong credential"
  | internalFailure detail => "internal failure: " ++ detail
  | outOfTime => Instant.outOfTimeMessage

structure IssuedToken where
  token : String
  claims : ClaimSet
deriving DecidableEq, Repr

/-- The failure of a call of the store. -/
def LoginError.ofStore (e : StoreError) : LoginError :=
  .internalFailure e.message

/-- Checks the account and the credential, in this order, and issues a token that is valid for a
    number of seconds. -/
def grant (key : SigningKey) (validity : Int) (record : AuthRecord) (candidate : String)
    (now : Instant) : Except LoginError IssuedToken :=
  if !record.isActive then .error .accountInactive
  else if record.isLocked then .error .accountLocked
  else if !Credential.verify record.credentialDigest candidate then .error .wrongCredential
  else
    match ClaimSet.issue? record now validity with
    | some claims => .ok { token := Token.mint key claims, claims }
    | none => .error .outOfTime

/-- Checks the login name, then what its account grants. Nothing is written to the store. -/
def login (key : SigningKey) (validity : Int) (loginName candidate : String) (now : Instant) :
    ExceptT LoginError Program IssuedToken := do
  let id ← match ← Program.call (.findIdByLoginName loginName) with
    | .ok id => pure id
    | .error (.notFound _) => throw .usernameNotFound
    | .error e => throw (.ofStore e)
  let record ← match ← Program.call (.loadAuthRecord id) with
    | .ok record => pure record
    | .error e => throw (.ofStore e)
  grant key validity record candidate now

end AccountDirectory
