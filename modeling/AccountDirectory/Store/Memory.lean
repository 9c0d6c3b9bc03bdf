import AccountDirectory.Credential
import AccountDirectory.Store.Call
import AccountDirectory.Store.Table

/-!
A store in memory. The clock reading of a call and the salts are arguments. A call that fails
leaves the tables as they were.
-/

namespace AccountDirectory.Store

open AccountDirectory.Crypto (Salt)
open AccountDirectory.Time (Instant)

/-- A user with the stored digest. -/
structure StoredUser where
  user : User
  credentialDigest : String
deriving DecidableEq, Repr

def StoredUser.key (s : StoredUser) : Int32 :=
  s.user.id.value

def groupKey (g : Group) : Int32 :=
  g.id.value

def StoredUser.authRecord (s : StoredUser) : AuthRecord where
  id := s.user.id
  loginName := s.user.username
  displayName := s.user.name
  email := s.user.email
  credentialDigest := s.credentialDigest
  isAdmin := s.user.isAdmin
  isLocked := s.user.isLocked
  isActive := s.user.isActive
  badCredentialCount := s.user.badPasswordCount

/-- Users, groups, and the highest identifiers ever given to one. -/
structure Tables where
  users : Table StoredUser StoredUser.key := .empty
  groups : Table Group groupKey := .empty
  lastUserId : Int32 := 0
  lastGroupId : Int32 := 0

namespace Tables

/-- Why a user would clash with this one, if it would. -/
def clash? (name email username : String) (u : User) : Option String :=
  if u.username = username then some ("username '" ++ username ++ "' already exists")
  else if u.email = email then some ("email '" ++ email ++ "' already exists")
  else if u.name = name then some ("name '" ++ name ++ "' already exists")
  else none

/-- No other user than `skip` may have the user name, the email address or the name; the first
    user that has one decides. -/
def checkUserUnique (t : Tables) (skip : Option UserId) (name email username : String) :
    Except StoreError Unit :=
  let others := t.users.rows.filter fun s => some s.user.id ≠ skip
  match others.findSome? fun s => clash? name email username s.user with
  | some what => .error (.conflict what)
  | none => .ok ()

def checkGroupUnique (t : Tables) (skip : Option GroupId) (name : String) :
    Except StoreError Unit :=
  if t.groups.rows.any fun g => some g.id ≠ skip ∧ g.name = name then
    .error (.conflict ("group name '" ++ name ++ "' already exists"))
  else .ok ()

def user (t : Tables) (id : UserId) : Except StoreError StoredUser :=
  match t.users.find? id.value with
  | some s => .ok s
  | none => .error (.notFound ("user " ++ id.render))

def group (t : Tables) (id : GroupId) : Except StoreError Group :=
  match t.groups.find? id.value with
  | some g => .ok g
  | none => .error (.notFound ("group " ++ id.render))

def putUser (t : Tables) (s : StoredUser) : Tables :=
  { t with users := t.users.insert s }

def putGroup (t : Tables) (g : Group) : Tables :=
  { t with groups := t.groups.insert g }

/-- When an account or a group was inactivated, after an update: an active one never was, and one
    that stays inactive keeps its time. -/
def inactivatedAt (isActive : Bool) (before : Option Instant) (now : Instant) : Option Instant :=
  if isActive then none else before.or (some now)

/-- The record of a new user. -/
def newRecord (new : NewUser) (id creator : UserId) (now : Instant) : User where
  id := id
  name := new.name
  email := new.email
  username := new.username
  externalId := new.externalId
  orgUnitId := new.orgUnitId
  groupIds := new.groupIds
  phone := new.phone
  isLocked := false
  isAdmin := new.isAdmin
  createTime := now
  creator := creator
  lastModificationTime := none
  lastModificationUser := none
  isActive := true
  inactivationTime := none
  inactivationReason := none
  comment := new.comment
  badPasswordCount := 0

def createUser (t : Tables) (new : NewUser) (creator : UserId) (now : Instant) :
    Except StoreError (User × Tables) := do
  t.checkUserUnique none new.name new.email new.username
  let id : UserId := ⟨t.lastUserId + 1⟩
  let user := newRecord new id creator now
  let t := { t with lastUserId := id.value }
  return (user, t.putUser { user, credentialDigest := new.credentialDigest })

/-- A record after an administrative update. -/
def updatedRecord (u : User) (update : UserUpdate) (actor : UserId) (now : Instant) : User :=
  { u with
    name := update.name
    email := update.email
    username := update.username
    externalId := update.externalId
    orgUnitId := update.orgUnitId
    groupIds := update.groupIds
    phone := update.phone
    isLocked := update.isLocked
    isAdmin := update.isAdmin
    lastModificationTime := some now
    lastModificationUser := some actor
    inactivationTime := inactivatedAt update.isActive u.inactivationTime now
    isActive := update.isActive
    inactivationReason := update.inactivationReason
    comment := update.comment
    badPasswordCount := 0 }

/-- A record after its user's own update. -/
def profileRecord (u : User) (update : UserUpdate) (actor : UserId) (now : Instant) : User :=
  { u with
    name := update.name
    email := update.email
    username := update.username
    phone := update.phone
    comment := update.comment
    lastModificationTime := some now
    lastModificationUser := some actor }

def changeUser (t : Tables) (id : UserId) (update : UserUpdate) (change : User → User) :
    Except StoreError (User × Tables) := do
  let stored ← t.user id
  t.checkUserUnique (some id) update.name update.email update.username
  let user := change stored.user
  return (user, t.putUser { stored with user })

def updateUser (t : Tables) (id : UserId) (update : UserUpdate) (actor : UserId) (now : Instant) :
    Except StoreError (User × Tables) :=
  t.changeUser id update (updatedRecord · update actor now)

def updateProfile (t : Tables) (id : UserId) (update : UserUpdate) (actor : UserId)
    (now : Instant) : Except StoreError (User × Tables) :=
  t.changeUser id update (profileRecord · update actor now)

def deleteUser (t : Tables) (id : UserId) : Except StoreError (Unit × Tables) := do
  let _ ← t.user id
  return ((), { t with users := t.users.erase id.value })

def createGroup (t : Tables) (new : NewGroup) (creator : UserId) (now : Instant) :
    Except StoreError (Group × Tables) := do
  t.checkGroupUnique none new.name
  let id : GroupId := ⟨t.lastGroupId + 1⟩
  let group : Group :=
    { id, name := new.name, createTime := now, creator, lastModificationTime := none,
      lastModificationUser := none, isActive := true, inactivationTime := none,
      inactivationReason := none, comment := new.comment }
  return (group, { t with lastGroupId := id.value }.putGroup group)

def updatedGroup (g : Group) (update : GroupUpdate) (actor : UserId) (now : Instant) : Group :=
  { g with
    name := update.name
    lastModificationTime := some now
    lastModificationUser := some actor
    inactivationTime := inactivatedAt update.isActive g.inactivationTime now
    isActive := update.isActive
    inactivationReason := update.inactivationReason
    comment := update.comment }

def updateGroup (t : Tables) (id : GroupId) (update : GroupUpdate) (actor : UserId)
    (now : Instant) : Except StoreError (Group × Tables) := do
  t.checkGroupUnique (some id) update.name
  let group := updatedGroup (← t.group id) update actor now
  return (group, t.putGroup group)

def deleteGroup (t : Tables) (id : GroupId) : Except StoreError (Unit × Tables) := do
  let _ ← t.group id
  return ((), { t with groups := t.groups.erase id.value })

def findIdByLoginName (t : Tables) (loginName : String) : Except StoreError UserId :=
  match t.users.rows.find? fun s => s.user.username = loginName with
  | some s => .ok s.user.id
  | none => .error (.notFound ("login name '" ++ loginName ++ "'"))

def resetPassword (t : Tables) (id : UserId) (digest : String) (actor : UserId) (now : Instant) :
    Except StoreError (Unit × Tables) := do
  let stored ← t.user id
  let user := { stored.user with
    isLocked := false
    badPasswordCount := 0
    lastModificationTime := some now
    lastModificationUser := some actor }
  return ((), t.putUser { user, credentialDigest := digest })

/-- What a call answers, and the tables after it. -/
def apply (now : Instant) (t : Tables) {β : Type} : Call β → Except StoreError (β × Tables)
  | .listUsers offset limit => .ok ((t.users.page offset limit).map (·.user.summary), t)
  | .getUser id => (t.user id).map fun s => (s.user, t)
  | .userExists id => .ok ((t.users.find? id.value).isSome, t)
  | .maxUserId => .ok (t.users.maxKey, t)
  | .countUsers => .ok (t.users.size, t)
  | .createUser new creator => t.createUser new creator now
  | .updateUser id update actor => t.updateUser id update actor now
  | .updateProfile id update actor => t.updateProfile id update actor now
  | .deleteUser id => t.deleteUser id
  | .listGroups offset limit => .ok (t.groups.page offset limit, t)
  | .getGroup id => (t.group id).map fun g => (g, t)
  | .countGroups => .ok (t.groups.size, t)
  | .createGroup new creator => t.createGroup new creator now
  | .updateGroup id update actor => t.updateGroup id update actor now
  | .deleteGroup id => t.deleteGroup id
  | .findIdByLoginName loginName => (t.findIdByLoginName loginName).map fun id => (id, t)
  | .loadAuthRecord id => (t.user id).map fun s => (s.authRecord, t)
  | .isActive id => (t.user id).map fun s => (s.user.isActive, t)
  | .isAdmin id => (t.user id).map fun s => (s.user.isAdmin, t)
  | .isLocked id => (t.user id).map fun s => (s.user.isLocked, t)
  | .accountState id => (t.user id).map fun s =>
    ({ isActive := s.user.isActive, isLocked := s.user.isLocked }, t)
  | .resetPassword id digest actor => t.resetPassword id digest actor now

/-- The tables answer a call, at a reading of the clock. -/
def answer (now : Instant) {β : Type} (c : Call β) : StateM Tables (Except StoreError β) := fun t =>
  match t.apply now c with
  | .ok (b, t) => (.ok b, t)
  | .error e => (.error e, t)

/-- The administrator's record when it is first stored. -/
def bootstrapRecord (admin : AdminAccount) (now : Instant) : User where
  id := .bootstrap
  name := AdminAccount.displayName
  email := admin.email
  username := admin.username
  externalId := none
  orgUnitId := none
  groupIds := []
  phone := none
  isLocked := false
  isAdmin := true
  createTime := now
  creator := .bootstrap
  lastModificationTime := none
  lastModificationUser := none
  isActive := true
  inactivationTime := none
  inactivationReason := none
  comment := some AdminAccount.initialComment
  badPasswordCount := 0

/-- The administrator's record when it is set up again. -/
def restoredRecord (u : User) (admin : AdminAccount) (now : Instant) : User :=
  { u with
    username := admin.username
    isLocked := false
    isAdmin := true
    isActive := true
    badPasswordCount := 0
    lastModificationTime := some now
    lastModificationUser := some .bootstrap }

/-- Stores the bootstrap administrator, or sets it up again, with the digest of the configured
    password. -/
def ensureAdmin (t : Tables) (admin : AdminAccount) (salt : Salt) (now : Instant) : Tables :=
  let credentialDigest := admin.credentialDigest salt
  match t.users.find? UserId.bootstrap.value with
  | some stored => t.putUser { user := restoredRecord stored.user admin now, credentialDigest }
  | none =>
    { t with lastUserId := max t.lastUserId UserId.bootstrap.value }.putUser
      { user := bootstrapRecord admin now, credentialDigest }

/-- A store that holds the bootstrap administrator only. -/
def withBootstrapAdmin (admin : AdminAccount) (salt : Salt) (now : Instant) : Tables :=
  ({} : Tables).ensureAdmin admin salt now

/-- Locks or unlocks an account. -/
def setLocked (t : Tables) (id : UserId) (locked : Bool) : Except StoreError Tables := do
  let stored ← t.user id
  return t.putUser { stored with user := { stored.user with isLocked := locked } }

def setBadPasswordCount (t : Tables) (id : UserId) (count : Int32) : Except StoreError Tables := do
  let stored ← t.user id
  return t.putUser { stored with user := { stored.user with badPasswordCount := count } }

end Tables

end AccountDirectory.Store
