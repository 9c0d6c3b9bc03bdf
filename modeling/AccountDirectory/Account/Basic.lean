import AccountDirectory.Identifier
import AccountDirectory.Text.Blank
import AccountDirectory.Time.Instant

/-!
User accounts: the records, what creates and changes them, and the rules for their identity.
-/

namespace AccountDirectory

open AccountDirectory.Time (Instant)

/-- An account as it is shown. The credential digest is no part of it. -/
structure User where
  id : UserId
  name : String
  email : String
  username : String
  externalId : Option Int32
  orgUnitId : Option Int32
  groupIds : List GroupId
  phone : Option String
  isLocked : Bool
  isAdmin : Bool
  createTime : Instant
  creator : UserId
  lastModificationTime : Option Instant
  lastModificationUser : Option UserId
  isActive : Bool
  inactivationTime : Option Instant
  inactivationReason : Option String
  comment : Option String
  badPasswordCount : Int32
deriving DecidableEq, Repr

/-- What a list of accounts shows of each. -/
structure UserSummary where
  id : UserId
  name : String
  email : String
  username : String
  creator : UserId
  createTime : Instant
  isAdmin : Bool
  isLocked : Bool
  isActive : Bool
deriving DecidableEq, Repr

def User.summary (u : User) : UserSummary where
  id := u.id
  name := u.name
  email := u.email
  username := u.username
  creator := u.creator
  createTime := u.createTime
  isAdmin := u.isAdmin
  isLocked := u.isLocked
  isActive := u.isActive

/-- An account to create. The digest is the fast one as it is submitted, and the salted one once it
    is handed to a store. -/
structure NewUser where
  name : String
  email : String
  username : String
  credentialDigest : String
  externalId : Option Int32
  orgUnitId : Option Int32
  groupIds : List GroupId
  phone : Option String
  isAdmin : Bool
  comment : Option String
deriving DecidableEq, Repr

/-- The values that an account is to have. -/
structure UserUpdate where
  id : UserId
  name : String
  email : String
  username : String
  externalId : Option Int32
  orgUnitId : Option Int32
  groupIds : List GroupId
  phone : Option String
  isLocked : Bool
  isAdmin : Bool
  isActive : Bool
  inactivationReason : Option String
  comment : Option String
deriving DecidableEq, Repr

/-- Why an identity is refused. -/
inductive IdentityFault where
  | empty (field : String)
  | tooShort (field : String) (minimum length : Nat)
  | emailWithoutAt
deriving DecidableEq, Repr

namespace IdentityFault

def message : IdentityFault → String
  | empty field => field ++ " cannot be empty"
  | tooShort field minimum length => s!"{field} minLength is {minimum} not ({length})"
  | emailWithoutAt => "email must contain '@'"

end IdentityFault

/-- The least numbers of characters, without the white space at the ends. -/
def minNameLength : Nat := 5

def minUsernameLength : Nat := 3

def minEmailLength : Nat := 4

def minGroupNameLength : Nat := 5

def checkLength (field value : String) (minimum : Nat) : Except IdentityFault Unit :=
  let length := Text.trimmedLength value
  if length = 0 then .error (.empty field)
  else if length < minimum then .error (.tooShort field minimum length)
  else .ok ()

/-- The rules for the identity of an account; the first that fails decides. -/
def checkIdentity (name email username : String) : Except IdentityFault Unit := do
  checkLength "name" name minNameLength
  checkLength "username" username minUsernameLength
  checkLength "email" email minEmailLength
  if '@' ∉ email.toList then throw .emailWithoutAt

def IdentityFault.asDomainError (fault : IdentityFault) : DomainError :=
  .validation fault.message

def NewUser.validate (u : NewUser) : Except DomainError Unit :=
  (checkIdentity u.name u.email u.username).mapError IdentityFault.asDomainError

/-- A valid update names the account that it is meant for. -/
def UserUpdate.validateFor (u : UserUpdate) (target : UserId) : Except DomainError Unit :=
  if u.id ≠ target then
    .error (.invariant
      ("path id [" ++ target.render ++ "] and body id [" ++ u.id.render ++ "] cannot differ"))
  else (checkIdentity u.name u.email u.username).mapError IdentityFault.asDomainError

/-- The fields that only an administrator may change. -/
inductive AdminField where
  | isAdmin
  | isLocked
  | isActive
  | groups
  | orgUnit
  | external
deriving DecidableEq, Repr

namespace AdminField

/-- All of them, in the order in which changes are listed. -/
def all : List AdminField :=
  [isAdmin, isLocked, isActive, groups, orgUnit, external]

def name : AdminField → String
  | isAdmin => "is_admin"
  | isLocked => "is_locked"
  | isActive => "is_active"
  | groups => "groups_id"
  | orgUnit => "orgunit_id"
  | external => "external_id"

/-- The groups of a list in ascending order, each of them once. -/
def inOrder (ids : List GroupId) : List GroupId :=
  (ids.mergeSort fun a b => a.value ≤ b.value).eraseReps

/-- Whether an update gives the field another value than the account has. -/
def differs (u : UserUpdate) (current : User) : AdminField → Bool
  | isAdmin => u.isAdmin != current.isAdmin
  | isLocked => u.isLocked != current.isLocked
  | isActive => u.isActive != current.isActive
  | groups => inOrder u.groupIds != inOrder current.groupIds
  | orgUnit => u.orgUnitId != current.orgUnitId
  | external => u.externalId != current.externalId

end AdminField

/-- The administrative fields that an update would change. -/
def UserUpdate.administrativeChanges (u : UserUpdate) (current : User) : List AdminField :=
  AdminField.all.filter (AdminField.differs u current)

/-- What a login sees of an account. -/
structure AuthRecord where
  id : UserId
  loginName : String
  displayName : String
  email : String
  credentialDigest : String
  isAdmin : Bool
  isLocked : Bool
  isActive : Bool
  badCredentialCount : Int32
deriving DecidableEq, Repr

/-- The flags that decide whether an account may be used. -/
structure AccountState where
  isActive : Bool
  isLocked : Bool
deriving DecidableEq, Repr

/-- The settings of the administrator that every directory starts with. -/
structure AdminAccount where
  username : String
  email : String
  password : String
deriving DecidableEq, Repr

namespace AdminAccount

/-- The name and the comment of the account when it is first created. -/
def displayName : String := "Administrative Account"

def initialComment : String := "Initial setup of Admin account"

end AdminAccount

end AccountDirectory
