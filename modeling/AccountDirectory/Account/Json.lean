import AccountDirectory.Account.Basic
import AccountDirectory.Json.Record
import AccountDirectory.Json.Value

/-!
Accounts in JSON.
-/

namespace AccountDirectory

open AccountDirectory.Time (Instant)
open AccountDirectory.Json (Field Reader Value record)

namespace Json

def Reader.userId : Reader UserId :=
  return ⟨← Reader.int32⟩

def Reader.groupId : Reader GroupId :=
  return ⟨← Reader.int32⟩

def Value.instant (t : Instant) : Value :=
  string t.render

def Value.userId (id : UserId) : Value :=
  int32 id.value

def Value.groupId (id : GroupId) : Value :=
  int32 id.value

end Json

namespace User

def reader : Reader User := do
  let (id, name, email, username, externalId, orgUnitId, groupIds, phone, isLocked, isAdmin,
      createTime, creator, lastModificationTime, lastModificationUser, isActive,
      inactivationTime, inactivationReason, comment, badPasswordCount, ()) ←
    record "User" [UserId, String, String, String, Option Int32, Option Int32, List GroupId,
        Option String, Bool, Bool, Instant, UserId, Option Instant, Option UserId, Bool,
        Option Instant, Option String, Option String, Int32]
      (.required "id" .userId, .required "name" .text, .required "email" .text,
        .required "username" .text, .nullable "external_id" .int32,
        .nullable "orgunit_id" .int32, .required "groups_id" (.list .groupId),
        .nullable "phone" .text, .required "is_locked" .boolean, .required "is_admin" .boolean,
        .required "create_time" .instant, .required "creator" .userId,
        .nullable "last_modification_time" .instant,
        .nullable "last_modification_user" .userId, .required "is_active" .boolean,
        .nullable "inactivation_time" .instant, .nullable "inactivation_reason" .text,
        .nullable "comment" .text, .required "bad_password_count" .int32, ())
  return { id, name, email, username, externalId, orgUnitId, groupIds, phone, isLocked, isAdmin,
           createTime, creator, lastModificationTime, lastModificationUser, isActive,
           inactivationTime, inactivationReason, comment, badPasswordCount }

def toJson (u : User) : Value :=
  .object
    [("id", .userId u.id), ("name", .string u.name), ("email", .string u.email),
      ("username", .string u.username), ("external_id", .optional .int32 u.externalId),
      ("orgunit_id", .optional .int32 u.orgUnitId),
      ("groups_id", .list (u.groupIds.map .groupId)), ("phone", .optional .string u.phone),
      ("is_locked", .bool u.isLocked), ("is_admin", .bool u.isAdmin),
      ("create_time", .instant u.createTime), ("creator", .userId u.creator),
      ("last_modification_time", .optional .instant u.lastModificationTime),
      ("last_modification_user", .optional .userId u.lastModificationUser),
      ("is_active", .bool u.isActive),
      ("inactivation_time", .optional .instant u.inactivationTime),
      ("inactivation_reason", .optional .string u.inactivationReason),
      ("comment", .optional .string u.comment),
      ("bad_password_count", .int32 u.badPasswordCount)]

end User

def UserSummary.toJson (u : UserSummary) : Value :=
  .object
    [("id", .userId u.id), ("name", .string u.name), ("email", .string u.email),
      ("username", .string u.username), ("creator", .userId u.creator),
      ("create_time", .instant u.createTime), ("is_admin", .bool u.isAdmin),
      ("is_locked", .bool u.isLocked), ("is_active", .bool u.isActive)]

namespace NewUser

def reader : Reader NewUser := do
  let (name, email, username, credentialDigest, externalId, orgUnitId, groupIds, phone, isAdmin,
      comment, ()) ←
    record "NewUser" [String, String, String, String, Option Int32, Option Int32, List GroupId,
        Option String, Bool, Option String]
      (.required "name" .text, .required "email" .text,
        (Field.required "username" .text).orNamed "loginName",
        (Field.required "password_hash" .text).orNamed "credentialDigest",
        .optional "external_id" .int32, .optional "orgunit_id" .int32,
        .withDefault "groups_id" [] (.list .groupId), .optional "phone" .text,
        .withDefault "is_admin" false .boolean, .optional "comment" .text, ())
  return { name, email, username, credentialDigest, externalId, orgUnitId, groupIds, phone,
           isAdmin, comment }

def toJson (u : NewUser) : Value :=
  .object
    [("name", .string u.name), ("email", .string u.email), ("username", .string u.username),
      ("password_hash", .string u.credentialDigest),
      ("external_id", .optional .int32 u.externalId),
      ("orgunit_id", .optional .int32 u.orgUnitId),
      ("groups_id", .list (u.groupIds.map .groupId)), ("phone", .optional .string u.phone),
      ("is_admin", .bool u.isAdmin), ("comment", .optional .string u.comment)]

end NewUser

namespace UserUpdate

def reader : Reader UserUpdate := do
  let (id, name, email, username, externalId, orgUnitId, groupIds, phone, isLocked, isAdmin,
      isActive, inactivationReason, comment, ()) ←
    record "UserUpdate" [UserId, String, String, String, Option Int32, Option Int32,
        List GroupId, Option String, Bool, Bool, Bool, Option String, Option String]
      (.required "id" .userId, .required "name" .text, .required "email" .text,
        (Field.required "username" .text).orNamed "loginName", .optional "external_id" .int32,
        .optional "orgunit_id" .int32, .withDefault "groups_id" [] (.list .groupId),
        .optional "phone" .text, .withDefault "is_locked" false .boolean,
        .withDefault "is_admin" false .boolean, .withDefault "is_active" true .boolean,
        .optional "inactivation_reason" .text, .optional "comment" .text, ())
  return { id, name, email, username, externalId, orgUnitId, groupIds, phone, isLocked, isAdmin,
           isActive, inactivationReason, comment }

def toJson (u : UserUpdate) : Value :=
  .object
    [("id", .userId u.id), ("name", .string u.name), ("email", .string u.email),
      ("username", .string u.username), ("external_id", .optional .int32 u.externalId),
      ("orgunit_id", .optional .int32 u.orgUnitId),
      ("groups_id", .list (u.groupIds.map .groupId)), ("phone", .optional .string u.phone),
      ("is_locked", .bool u.isLocked), ("is_admin", .bool u.isAdmin),
      ("is_active", .bool u.isActive),
      ("inactivation_reason", .optional .string u.inactivationReason),
      ("comment", .optional .string u.comment)]

end UserUpdate

namespace AuthRecord

def reader : Reader AuthRecord := do
  let (id, loginName, displayName, email, credentialDigest, isAdmin, isLocked, isActive,
      badCredentialCount, ()) ←
    record "AuthRecord" [UserId, String, String, String, String, Bool, Bool, Bool, Int32]
      (.required "id" .userId, .required "login_name" .text, .required "display_name" .text,
        .required "email" .text, .required "credential_digest" .text,
        .required "is_admin" .boolean, .required "is_locked" .boolean,
        .required "is_active" .boolean, .required "bad_credential_count" .int32, ())
  return { id, loginName, displayName, email, credentialDigest, isAdmin, isLocked, isActive,
           badCredentialCount }

def toJson (r : AuthRecord) : Value :=
  .object
    [("id", .userId r.id), ("login_name", .string r.loginName),
      ("display_name", .string r.displayName), ("email", .string r.email),
      ("credential_digest", .string r.credentialDigest), ("is_admin", .bool r.isAdmin),
      ("is_locked", .bool r.isLocked), ("is_active", .bool r.isActive),
      ("bad_credential_count", .int32 r.badCredentialCount)]

/-- The record for diagnostics, without the digest. -/
def describe (r : AuthRecord) : String :=
  "AuthRecord \x7b id: UserId(" ++ r.id.render ++ "), login_name: " ++ Text.quoted r.loginName ++
    s!", credential_digest: \"<redacted>\", is_admin: {r.isAdmin}, is_locked: {r.isLocked}" ++
    s!", is_active: {r.isActive}, bad_credential_count: {r.badCredentialCount.toInt} " ++ "\x7d"

end AuthRecord

namespace AccountState

def reader : Reader AccountState := do
  let (isActive, isLocked, ()) ← record "AccountState" [Bool, Bool]
    (.required "is_active" .boolean, .required "is_locked" .boolean, ())
  return { isActive, isLocked }

def toJson (s : AccountState) : Value :=
  .object [("is_active", .bool s.isActive), ("is_locked", .bool s.isLocked)]

end AccountState

end AccountDirectory
