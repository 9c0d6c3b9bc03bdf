import AccountDirectory.Account.Json
import AccountDirectory.Group.Basic

/-!
Groups in JSON.
-/

namespace AccountDirectory

open AccountDirectory.Time (Instant)
open AccountDirectory.Json (Reader Value record)

namespace Group

def reader : Reader Group := do
  let (id, name, createTime, creator, lastModificationTime, lastModificationUser, isActive,
      inactivationTime, inactivationReason, comment, ()) ←
    record "Group" [GroupId, String, Instant, UserId, Option Instant, Option UserId, Bool,
        Option Instant, Option String, Option String]
      (.required "id" .groupId, .required "name" .text, .required "create_time" .instant,
        .required "creator" .userId, .nullable "last_modification_time" .instant,
        .nullable "last_modification_user" .userId, .required "is_active" .boolean,
        .nullable "inactivation_time" .instant, .nullable "inactivation_reason" .text,
        .nullable "comment" .text, ())
  return { id, name, createTime, creator, lastModificationTime, lastModificationUser, isActive,
           inactivationTime, inactivationReason, comment }

def toJson (g : Group) : Value :=
  .object
    [("id", .groupId g.id), ("name", .string g.name), ("create_time", .instant g.createTime),
      ("creator", .userId g.creator),
      ("last_modification_time", .optional .instant g.lastModificationTime),
      ("last_modification_user", .optional .userId g.lastModificationUser),
      ("is_active", .bool g.isActive),
      ("inactivation_time", .optional .instant g.inactivationTime),
      ("inactivation_reason", .optional .string g.inactivationReason),
      ("comment", .optional .string g.comment)]

end Group

namespace NewGroup

def reader : Reader NewGroup := do
  let (name, comment, ()) ← record "NewGroup" [String, Option String]
    (.required "name" .text, .optional "comment" .text, ())
  return { name, comment }

def toJson (g : NewGroup) : Value :=
  .object [("name", .string g.name), ("comment", .optional .string g.comment)]

end NewGroup

namespace GroupUpdate

def reader : Reader GroupUpdate := do
  let (name, isActive, inactivationReason, comment, ()) ←
    record "GroupUpdate" [String, Bool, Option String, Option String]
      (.required "name" .text, .withDefault "is_active" true .boolean,
        .optional "inactivation_reason" .text, .optional "comment" .text, ())
  return { name, isActive, inactivationReason, comment }

def toJson (g : GroupUpdate) : Value :=
  .object
    [("name", .string g.name), ("is_active", .bool g.isActive),
      ("inactivation_reason", .optional .string g.inactivationReason),
      ("comment", .optional .string g.comment)]

end GroupUpdate

end AccountDirectory
