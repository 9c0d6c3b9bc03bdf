import AccountDirectory.Json.Record

/-!
What requests carry that is no record of the directory: logins, changes of a password, and the part
of a list that is wanted.
-/

namespace AccountDirectory.Http

open AccountDirectory.Json (Field Reader record)

structure LoginForm where
  loginName : String
  credentialDigest : String
deriving DecidableEq, Repr

def LoginForm.reader : Reader LoginForm := do
  let (loginName, credentialDigest, ()) ← record "LoginRequest" [String, String]
    ((Field.required "loginName" .text).orNamed "username",
      (Field.required "credentialDigest" .text).orNamed "password_hash", ())
  return { loginName, credentialDigest }

/-- Callers who are no administrators must give the old digest too. -/
structure PasswordForm where
  old : Option String
  new : String
deriving DecidableEq, Repr

def PasswordForm.reader : Reader PasswordForm := do
  let (old, new, ()) ← record "ChangePasswordRequest" [Option String, String]
    ((Field.optional "oldCredentialDigest" .text).orNamed "old_password_hash",
      (Field.required "newCredentialDigest" .text).orNamed "password_hash", ())
  return { old, new }

/-- The wanted part of a list, as it is asked for. -/
structure PageQuery where
  offset : Option Int
  limit : Option Int
deriving DecidableEq, Repr

/-- A part of a list. -/
structure Page where
  offset : Int
  limit : Int
deriving DecidableEq, Repr

inductive PageError where
  | negativeOffset (offset : Int)
  | limitOutOfRange (limit : Int)
deriving DecidableEq, Repr

namespace PageQuery

def defaultLimit : Int := 100

def maxLimit : Int := 1000

def resolve (q : PageQuery) : Except PageError Page :=
  let offset := q.offset.getD 0
  let limit := q.limit.getD defaultLimit
  if offset < 0 then .error (.negativeOffset offset)
  else if limit < 1 ∨ maxLimit < limit then .error (.limitOutOfRange limit)
  else .ok { offset, limit }

end PageQuery

def PageError.message : PageError → String
  | negativeOffset offset => s!"offset must not be negative, got {offset}"
  | limitOutOfRange limit => s!"limit must be between 1 and {PageQuery.maxLimit}, got {limit}"

end AccountDirectory.Http
