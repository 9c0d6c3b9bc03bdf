import AccountDirectory.Account.Json
import AccountDirectory.Proofs.Json.List
import AccountDirectory.Proofs.Json.Record

/-!
The written form of an account, read as an update of it.
-/

namespace AccountDirectory

open AccountDirectory.Json
open AccountDirectory.Text (utf8)

theorem userId_takes (id : UserId) : Reader.Takes Reader.userId (utf8 (Value.userId id).render) id := by
  intro bound rest enough follows
  exact Reader.bind_ok (Reader.int32_takes id.value bound rest enough follows)

theorem groupId_takes (id : GroupId) : Reader.Takes Reader.groupId (utf8 (Value.groupId id).render) id := by
  intro bound rest enough follows
  exact Reader.bind_ok (Reader.int32_takes id.value bound rest enough follows)

/-- The update that gives an account the values it has. -/
def User.asUpdate (u : User) : UserUpdate where
  id := u.id
  name := u.name
  email := u.email
  username := u.username
  externalId := u.externalId
  orgUnitId := u.orgUnitId
  groupIds := u.groupIds
  phone := u.phone
  isLocked := u.isLocked
  isAdmin := u.isAdmin
  isActive := u.isActive
  inactivationReason := u.inactivationReason
  comment := u.comment

theorem scalar_optional {α : Type} {write : α → Value} (scalar : ∀ a, (write a).Scalar) (o : Option α) :
    (Value.optional write o).Scalar := by
  cases o with
  | none => exact .null
  | some a => exact scalar a

section

variable (n : Option Int32) (text : Option String) (groups : List GroupId)

theorem optionalInt32_takes :
    Reader.Takes Reader.int32.optional (utf8 (Value.optional .int32 n).render) n :=
  Reader.optional_takes Reader.int32_takes fun _ => .number _

theorem optionalText_takes :
    Reader.Takes Reader.text.optional (utf8 (Value.optional .string text).render) text :=
  Reader.optional_takes Reader.text_takes .string

theorem groupIds_takes :
    Reader.Takes Reader.groupId.list (utf8 (Value.list (groups.map .groupId)).render) groups :=
  Reader.list_takes (fun id _ => groupId_takes id) fun _ _ => .number _

end

open Fields (Assigns Fills) in
/-- What is shown of an account is read as the update that gives it the same values. The members that
    no update has are passed over. -/
theorem UserUpdate.reader_takes_user (u : User) :
    Reader.Takes UserUpdate.reader (utf8 u.toJson.render) u.asUpdate := by
  refine Reader.Takes.bind (a := (u.id, u.name, u.email, u.username, u.externalId, u.orgUnitId,
    u.groupIds, u.phone, u.isLocked, u.isAdmin, u.isActive, u.inactivationReason, u.comment, ())) ?_
    fun bound rest => rfl
  refine record_takes [UserId, String, String, String, Option Int32, Option Int32, List GroupId,
    Option String, Bool, Bool, Bool, Option String, Option String]
    (some u.id, some u.name, some u.email, some u.username, some u.externalId, some u.orgUnitId,
      some u.groupIds, some u.phone, some u.isLocked, some u.isAdmin, some u.isActive,
      some u.inactivationReason, some u.comment, ()) ?_ rfl
  apply Fills.known
  · exact .here rfl (userId_takes u.id)
  apply Fills.known
  · exact .later rfl (.here rfl (Reader.text_takes u.name))
  apply Fills.known
  · iterate 2 apply Assigns.later rfl
    exact .here rfl (Reader.text_takes u.email)
  apply Fills.known
  · iterate 3 apply Assigns.later rfl
    exact .here rfl (Reader.text_takes u.username)
  apply Fills.known
  · iterate 4 apply Assigns.later rfl
    exact .here rfl (optionalInt32_takes u.externalId)
  apply Fills.known
  · iterate 5 apply Assigns.later rfl
    exact .here rfl (optionalInt32_takes u.orgUnitId)
  apply Fills.known
  · iterate 6 apply Assigns.later rfl
    exact .here rfl (groupIds_takes u.groupIds)
  apply Fills.known
  · iterate 7 apply Assigns.later rfl
    exact .here rfl (optionalText_takes u.phone)
  apply Fills.known
  · iterate 8 apply Assigns.later rfl
    exact .here rfl (Reader.boolean_takes u.isLocked)
  apply Fills.known
  · iterate 9 apply Assigns.later rfl
    exact .here rfl (Reader.boolean_takes u.isAdmin)
  refine .unknown rfl (.string _) ?_
  refine .unknown rfl (.number _) ?_
  refine .unknown rfl (scalar_optional (fun _ => .string _) _) ?_
  refine .unknown rfl (scalar_optional (fun _ => .number _) _) ?_
  apply Fills.known
  · iterate 10 apply Assigns.later rfl
    exact .here rfl (Reader.boolean_takes u.isActive)
  refine .unknown rfl (scalar_optional (fun _ => .string _) _) ?_
  apply Fills.known
  · iterate 11 apply Assigns.later rfl
    exact .here rfl (optionalText_takes u.inactivationReason)
  apply Fills.known
  · iterate 12 apply Assigns.later rfl
    exact .here rfl (optionalText_takes u.comment)
  refine .unknown rfl (.number _) ?_
  exact .done

end AccountDirectory
