import AccountDirectory.Account.Basic

/-!
Groups of accounts.
-/

namespace AccountDirectory

open AccountDirectory.Time (Instant)

structure Group where
  id : GroupId
  name : String
  createTime : Instant
  creator : UserId
  lastModificationTime : Option Instant
  lastModificationUser : Option UserId
  isActive : Bool
  inactivationTime : Option Instant
  inactivationReason : Option String
  comment : Option String
deriving DecidableEq, Repr

structure NewGroup where
  name : String
  comment : Option String
deriving DecidableEq, Repr

structure GroupUpdate where
  name : String
  isActive : Bool
  inactivationReason : Option String
  comment : Option String
deriving DecidableEq, Repr

def checkGroupName (name : String) : Except DomainError Unit :=
  (checkLength "name" name minGroupNameLength).mapError IdentityFault.asDomainError

def NewGroup.validate (g : NewGroup) : Except DomainError Unit :=
  checkGroupName g.name

def GroupUpdate.validate (g : GroupUpdate) : Except DomainError Unit :=
  checkGroupName g.name

end AccountDirectory
