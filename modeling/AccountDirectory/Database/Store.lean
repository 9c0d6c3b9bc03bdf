import AccountDirectory.Database.Groups
import AccountDirectory.Store.Call

/-!
A store in a relational database: each call is answered by statements. A call that writes a row
reads it again afterwards.
-/

namespace AccountDirectory.Database

open AccountDirectory.Store (Call)
open Operation (fetchAll fetchKeyed fetchOne writeKeyed)

/-- What is not found without the row of a user. -/
def userText (id : UserId) : String :=
  "user " ++ id.render

def groupText (id : GroupId) : String :=
  "group " ++ id.render

def findUser (columns : List String) (id : UserId) : Command where
  statement := .find .users columns "id"
  parameters := [.int4 id.value]

def getUser (id : UserId) : Operation User :=
  fetchKeyed "get_user" (userText id) (findUser Accounts.columns id) Accounts.readUser

def getGroup (id : GroupId) : Operation Group :=
  fetchKeyed "get_group" (groupText id)
    { statement := .find .groups Groups.columns "id", parameters := [.int4 id.value] }
    Groups.readGroup

/-- The only value of a row. -/
def single {α : Type} (c : ColumnType α) (row : Row) : Except RowFault α :=
  row.nth c 0

def count (operation : String) (r : Relation) : Operation Int :=
  fetchOne operation { statement := .countAll r } (single .int8)

/-- A flag of an account; the operation is called like the column. -/
def flag (name : String) (id : UserId) : Operation Bool :=
  fetchKeyed name (userText id) (findUser [name] id) (single .bool)

/-- The identifier that the database gave to a new row. -/
def insertedId (operation : String) (c : Command) : Operation Int32 :=
  fetchOne operation c (single .int4)

def pageParameters (offset limit : Int) : List Cell :=
  [.int8 limit, .int8 offset]

def operation : {β : Type} → Call β → Operation β
  | _, .listUsers offset limit =>
    fetchAll "list_users"
      { statement := .page .users Accounts.summaryColumns
        parameters := pageParameters offset limit }
      Accounts.readSummary
  | _, .getUser id => getUser id
  | _, .userExists id => do
    let n ← fetchOne "user_exists"
      { statement := .countById .users, parameters := [.int4 id.value] } (single .int8)
    return 0 < n
  | _, .maxUserId => do
    let greatest ← fetchOne "max_user_id" { statement := .greatestId .users }
      (single (.optional .int4))
    return greatest.getD 0
  | _, .countUsers => count "count_users" .users
  | _, .createUser new creator => do
    getUser ⟨← insertedId "create_user" (Accounts.insertCommand new creator)⟩
  | _, .updateUser id update actor => do
    writeKeyed "update_user" (userText id) (Accounts.updateCommand id update actor)
    getUser id
  | _, .updateProfile id update actor => do
    writeKeyed "update_user_profile" (userText id)
      (Accounts.updateProfileCommand id update actor)
    getUser id
  | _, .deleteUser id =>
    writeKeyed "delete_user" (userText id)
      { statement := .delete .users, parameters := [.int4 id.value] }
  | _, .listGroups offset limit =>
    fetchAll "list_groups"
      { statement := .page .groups Groups.columns, parameters := pageParameters offset limit }
      Groups.readGroup
  | _, .getGroup id => getGroup id
  | _, .countGroups => count "count_groups" .groups
  | _, .createGroup new creator => do
    getGroup ⟨← insertedId "create_group" (Groups.insertCommand new creator)⟩
  | _, .updateGroup id update actor => do
    writeKeyed "update_group" (groupText id) (Groups.updateCommand id update actor)
    getGroup id
  | _, .deleteGroup id =>
    writeKeyed "delete_group" (groupText id)
      { statement := .delete .groups, parameters := [.int4 id.value] }
  | _, .findIdByLoginName loginName => do
    let id ← fetchKeyed "find_id_by_login_name" ("login name '" ++ loginName ++ "'")
      { statement := .find .users ["id"] "username", parameters := [.text loginName] }
      (single .int4)
    return ⟨id⟩
  | _, .loadAuthRecord id =>
    fetchKeyed "load_auth_record" (userText id) (findUser Accounts.authColumns id)
      Accounts.readAuthRecord
  | _, .isActive id => flag "is_active" id
  | _, .isAdmin id => flag "is_admin" id
  | _, .isLocked id => flag "is_locked" id
  | _, .accountState id =>
    fetchKeyed "account_state" (userText id) (findUser ["is_active", "is_locked"] id)
      Accounts.readState
  | _, .resetPassword id digest actor =>
    writeKeyed "reset_password" (userText id) (Accounts.resetPasswordCommand id digest actor)

/-- What a call of the store is answered after. -/
def answer {β : Type} (c : Call β) : Program (Except StoreError β) :=
  (operation c).run

end AccountDirectory.Database
