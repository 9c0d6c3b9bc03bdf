import AccountDirectory.Account.Basic
import AccountDirectory.Database.Query

/-!
User accounts in the database: the statements for them, and reading them from rows.
-/

namespace AccountDirectory.Database

def Row.userId (row : Row) (name : String) : Except RowFault UserId :=
  return ⟨← row.get .int4 name⟩

/-- When a row was inactivated, after it is set active or not by a parameter. -/
def inactivationTerm (isActiveParam : Nat) : Term :=
  .cond (.param isActiveParam) .null (.coalesce (.column "inactivation_time") .now)

def groupIdCells (ids : List GroupId) : Cell :=
  .int4s (ids.map (·.value))

namespace Accounts

def summaryColumns : List String :=
  ["id", "name", "email", "username", "creator", "create_time", "is_admin", "is_locked",
    "is_active"]

/-- The digest is selected, but it is no part of the account. -/
def columns : List String :=
  ["id", "name", "email", "username", "password_hash", "external_id", "orgunit_id", "groups_id",
    "phone", "is_locked", "is_admin", "create_time", "creator", "last_modification_time",
    "last_modification_user", "is_active", "inactivation_time", "inactivation_reason", "comment",
    "bad_password_count"]

def authColumns : List String :=
  ["id", "username", "name", "email", "password_hash", "is_admin", "is_locked", "is_active",
    "bad_password_count"]

def readSummary (row : Row) : Except RowFault UserSummary := do
  return {
    id := ← row.userId "id"
    name := ← row.get .text "name"
    email := ← row.get .text "email"
    username := ← row.get .text "username"
    creator := ← row.userId "creator"
    createTime := ← row.get .time "create_time"
    isAdmin := ← row.get .bool "is_admin"
    isLocked := ← row.get .bool "is_locked"
    isActive := ← row.get .bool "is_active" }

def readUser (row : Row) : Except RowFault User := do
  return {
    id := ← row.userId "id"
    name := ← row.get .text "name"
    email := ← row.get .text "email"
    username := ← row.get .text "username"
    externalId := ← row.get (.optional .int4) "external_id"
    orgUnitId := ← row.get (.optional .int4) "orgunit_id"
    groupIds := (← row.get .int4s "groups_id").map .mk
    phone := ← row.get (.optional .text) "phone"
    isLocked := ← row.get .bool "is_locked"
    isAdmin := ← row.get .bool "is_admin"
    createTime := ← row.get .time "create_time"
    creator := ← row.userId "creator"
    lastModificationTime := ← row.get (.optional .time) "last_modification_time"
    lastModificationUser := (← row.get (.optional .int4) "last_modification_user").map .mk
    isActive := ← row.get .bool "is_active"
    inactivationTime := ← row.get (.optional .time) "inactivation_time"
    inactivationReason := ← row.get (.optional .text) "inactivation_reason"
    comment := ← row.get (.optional .text) "comment"
    badPasswordCount := ← row.get .int4 "bad_password_count" }

def readAuthRecord (row : Row) : Except RowFault AuthRecord := do
  return {
    id := ← row.userId "id"
    loginName := ← row.get .text "username"
    displayName := ← row.get .text "name"
    email := ← row.get .text "email"
    credentialDigest := ← row.get .text "password_hash"
    isAdmin := ← row.get .bool "is_admin"
    isLocked := ← row.get .bool "is_locked"
    isActive := ← row.get .bool "is_active"
    badCredentialCount := ← row.get .int4 "bad_password_count" }

def readState (row : Row) : Except RowFault AccountState := do
  return { isActive := ← row.nth .bool 0, isLocked := ← row.nth .bool 1 }

def insertCommand (new : NewUser) (creator : UserId) : Command where
  statement := .insert .users
    [("name", .param 1), ("email", .param 2), ("username", .param 3),
      ("password_hash", .param 4), ("external_id", .param 5), ("orgunit_id", .param 6),
      ("groups_id", .param 7), ("phone", .param 8), ("is_locked", .bool false),
      ("is_admin", .param 9), ("create_time", .now), ("creator", .param 10),
      ("is_active", .bool true), ("comment", .param 11), ("bad_password_count", .int 0)]
  parameters :=
    [.text new.name, .text new.email, .text new.username, .text new.credentialDigest,
      .optional .int4 new.externalId, .optional .int4 new.orgUnitId, groupIdCells new.groupIds,
      .optional .text new.phone, .bool new.isAdmin, .int4 creator.value,
      .optional .text new.comment]

def updateCommand (id : UserId) (update : UserUpdate) (actor : UserId) : Command where
  statement := .update .users
    [("name", .param 1), ("email", .param 2), ("username", .param 3), ("external_id", .param 4),
      ("orgunit_id", .param 5), ("groups_id", .param 6), ("phone", .param 7),
      ("is_locked", .param 8), ("is_admin", .param 9), ("last_modification_time", .now),
      ("last_modification_user", .param 10), ("inactivation_time", inactivationTerm 11),
      ("is_active", .param 11), ("inactivation_reason", .param 12), ("comment", .param 13),
      ("bad_password_count", .int 0)]
    14
  parameters :=
    [.text update.name, .text update.email, .text update.username,
      .optional .int4 update.externalId, .optional .int4 update.orgUnitId,
      groupIdCells update.groupIds, .optional .text update.phone, .bool update.isLocked,
      .bool update.isAdmin, .int4 actor.value, .bool update.isActive,
      .optional .text update.inactivationReason, .optional .text update.comment,
      .int4 id.value]

def updateProfileCommand (id : UserId) (update : UserUpdate) (actor : UserId) : Command where
  statement := .update .users
    [("name", .param 1), ("email", .param 2), ("username", .param 3), ("phone", .param 4),
      ("comment", .param 5), ("last_modification_time", .now),
      ("last_modification_user", .param 6)]
    7
  parameters :=
    [.text update.name, .text update.email, .text update.username, .optional .text update.phone,
      .optional .text update.comment, .int4 actor.value, .int4 id.value]

def resetPasswordCommand (id : UserId) (digest : String) (actor : UserId) : Command where
  statement := .update .users
    [("password_hash", .param 1), ("is_locked", .bool false), ("bad_password_count", .int 0),
      ("last_modification_time", .now), ("last_modification_user", .param 2)]
    3
  parameters := [.text digest, .int4 actor.value, .int4 id.value]

/-- Stores the bootstrap administrator, or sets it up again. -/
def ensureAdminCommand (admin : AdminAccount) (digest : String) : Command where
  statement := .insertOrUpdate .users
    [("id", .int 1), ("name", .param 1), ("email", .param 2), ("username", .param 3),
      ("password_hash", .param 4), ("is_admin", .bool true), ("creator", .int 1),
      ("comment", .text AdminAccount.initialComment)]
    [("username", .excluded "username"), ("password_hash", .excluded "password_hash"),
      ("is_locked", .bool false), ("is_admin", .bool true), ("last_modification_time", .now),
      ("last_modification_user", .int 1), ("is_active", .bool true),
      ("bad_password_count", .int 0)]
  parameters :=
    [.text AdminAccount.displayName, .text admin.email, .text admin.username, .text digest]

end Accounts

end AccountDirectory.Database
