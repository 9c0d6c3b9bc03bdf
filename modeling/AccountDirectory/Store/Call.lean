import AccountDirectory.Group.Basic
import AccountDirectory.Interaction

/-!
Uses of a store. Each call is answered in one step; what is done with the answer is up to the
program that made the call.
-/

namespace AccountDirectory.Store

/-- A call of a store, by the type of the answer. -/
inductive Call : Type → Type where
  | listUsers (offset limit : Int) : Call (List UserSummary)
  | getUser (id : UserId) : Call User
  | userExists (id : UserId) : Call Bool
  | maxUserId : Call Int32
  | countUsers : Call Int
  | createUser (new : NewUser) (creator : UserId) : Call User
  | updateUser (id : UserId) (update : UserUpdate) (actor : UserId) : Call User
  /-- Changes the name, the email address, the user name, the phone and the comment only. -/
  | updateProfile (id : UserId) (update : UserUpdate) (actor : UserId) : Call User
  | deleteUser (id : UserId) : Call Unit
  | listGroups (offset limit : Int) : Call (List Group)
  | getGroup (id : GroupId) : Call Group
  | countGroups : Call Int
  | createGroup (new : NewGroup) (creator : UserId) : Call Group
  | updateGroup (id : GroupId) (update : GroupUpdate) (actor : UserId) : Call Group
  | deleteGroup (id : GroupId) : Call Unit
  | findIdByLoginName (loginName : String) : Call UserId
  | loadAuthRecord (id : UserId) : Call AuthRecord
  | isActive (id : UserId) : Call Bool
  | isAdmin (id : UserId) : Call Bool
  | isLocked (id : UserId) : Call Bool
  | accountState (id : UserId) : Call AccountState
  /-- Stores a digest, unlocks the account and resets its count of bad passwords. -/
  | resetPassword (id : UserId) (digest : String) (actor : UserId) : Call Unit

/-- Calls of a store, each of which may depend on the answers before it. -/
abbrev Program := Interaction Call StoreError

/-- One call, with its answer or failure. -/
def Program.call {β : Type} (c : Call β) : Program (Except StoreError β) :=
  Interaction.ask c

end AccountDirectory.Store
