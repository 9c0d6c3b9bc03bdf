import AccountDirectory.Database.Accounts
import AccountDirectory.Group.Basic

/-!
Groups in the database: the statements for them, and reading them from rows.
-/

namespace AccountDirectory.Database.Groups

def columns : List String :=
  ["id", "name", "create_time", "creator", "last_modification_time", "last_modification_user",
    "is_active", "inactivation_time", "inactivation_reason", "comment"]

def readGroup (row : Row) : Except RowFault Group := do
  return {
    id := ⟨← row.get .int4 "id"⟩
    name := ← row.get .text "name"
    createTime := ← row.get .time "create_time"
    creator := ← row.userId "creator"
    lastModificationTime := ← row.get (.optional .time) "last_modification_time"
    lastModificationUser := (← row.get (.optional .int4) "last_modification_user").map .mk
    isActive := ← row.get .bool "is_active"
    inactivationTime := ← row.get (.optional .time) "inactivation_time"
    inactivationReason := ← row.get (.optional .text) "inactivation_reason"
    comment := ← row.get (.optional .text) "comment" }

def insertCommand (new : NewGroup) (creator : UserId) : Command where
  statement := .insert .groups
    [("name", .param 1), ("create_time", .now), ("creator", .param 2), ("is_active", .bool true),
      ("comment", .param 3)]
  parameters := [.text new.name, .int4 creator.value, .optional .text new.comment]

def updateCommand (id : GroupId) (update : GroupUpdate) (actor : UserId) : Command where
  statement := .update .groups
    [("name", .param 1), ("last_modification_time", .now), ("last_modification_user", .param 2),
      ("inactivation_time", inactivationTerm 3), ("is_active", .param 3),
      ("inactivation_reason", .param 4), ("comment", .param 5)]
    6
  parameters :=
    [.text update.name, .int4 actor.value, .bool update.isActive,
      .optional .text update.inactivationReason, .optional .text update.comment, .int4 id.value]

end AccountDirectory.Database.Groups
