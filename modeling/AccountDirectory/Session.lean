import AccountDirectory.Store.Call
import AccountDirectory.Token.Basic

/-!
Sessions: a token is accepted while its account may be used, which is read anew each time.
-/

namespace AccountDirectory

open AccountDirectory.Store (Program)
open AccountDirectory.Time (Instant)
open AccountDirectory.Token (SigningKey TokenError)

/-- Why a token opens no session. -/
inductive SessionError where
  | token (e : TokenError)
  | accountDeactivated
  | accountLocked
  | accountGone
  | internal (detail : String)
deriving DecidableEq, Repr

namespace SessionError

def message : SessionError → String
  | token e => e.message
  | accountDeactivated => "account has been deactivated"
  | accountLocked => "account has been locked"
  | accountGone => "account no longer exists"
  | internal detail => "session check failed: " ++ detail

def isInternal : SessionError → Bool
  | internal _ => true
  | _ => false

def ofStore : StoreError → SessionError
  | .notFound _ => accountGone
  | e => internal e.message

end SessionError

/-- Verifies a token, then asks the store whether its account is active and not locked. -/
def openSession (key : SigningKey) (token : String) (now : Instant) :
    ExceptT SessionError Program ClaimSet := do
  let claims ← match Token.verifyAt key token now with
    | .ok claims => pure claims
    | .error e => throw (.token e)
  let state ← match ← Program.call (.accountState claims.subjectId) with
    | .ok state => pure state
    | .error e => throw (.ofStore e)
  if !state.isActive then throw .accountDeactivated
  if state.isLocked then throw .accountLocked
  return claims

end AccountDirectory
