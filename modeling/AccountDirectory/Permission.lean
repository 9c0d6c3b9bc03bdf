import AccountDirectory.Claims

/-!
What the bearer of claims may do.
-/

namespace AccountDirectory

/-- Why an action is forbidden. -/
inductive Forbidden where
  | administratorRequired
  | otherUser (subject target : UserId)
  | bootstrapDeletion
deriving DecidableEq, Repr

namespace Forbidden

def reason : Forbidden → String
  | administratorRequired => "administrator role required"
  | otherUser subject target =>
    "user " ++ subject.render ++ " may not act on user " ++ target.render
  | bootstrapDeletion => "the bootstrap administrator cannot be deleted"

def message (f : Forbidden) : String :=
  "forbidden: " ++ f.reason

end Forbidden

namespace ClaimSet

def requireAdmin (claims : ClaimSet) : Except Forbidden Unit :=
  if claims.isAdmin then .ok () else .error .administratorRequired

/-- Administrators may act on any account, others on their own. -/
def requireSelfOrAdmin (claims : ClaimSet) (target : UserId) : Except Forbidden Unit :=
  if claims.isAdmin ∨ claims.subjectId = target then .ok ()
  else .error (.otherUser claims.subjectId target)

/-- Nobody may delete the bootstrap administrator. -/
def authorizeDeletion (claims : ClaimSet) (target : UserId) : Except Forbidden Unit :=
  if target = .bootstrap then .error .bootstrapDeletion
  else claims.requireSelfOrAdmin target

end ClaimSet

end AccountDirectory
