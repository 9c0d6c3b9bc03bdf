import AccountDirectory.Proofs.Run
import AccountDirectory.Proofs.Store.Memory
import AccountDirectory.Proofs.Store.Run

/-!
All that is done to a store in memory, one operation after another. An operation either leaves the
tables or puts one record that follows from what was stored, or removes one.
-/

namespace AccountDirectory.Store

open AccountDirectory.Crypto (Salt)
open AccountDirectory.Time (Instant)

/-- A call, the setting up of the administrator, or a change of one field of an account. -/
inductive Operation : Type 1 where
  | call {β : Type} (c : Call β)
  | ensureAdmin (admin : AdminAccount) (salt : Salt)
  | setLocked (id : UserId) (locked : Bool)
  | setBadPasswordCount (id : UserId) (count : Int32)

/-- The tables after what may have failed. -/
def Tables.orElse (t : Tables) : Except StoreError Tables → Tables
  | .ok after => after
  | .error _ => t

def Operation.perform (now : Instant) (t : Tables) : Operation → Tables
  | call c => (t.answer now c).2
  | ensureAdmin admin salt => t.ensureAdmin admin salt now
  | setLocked id locked => t.orElse (t.setLocked id locked)
  | setBadPasswordCount id count => t.orElse (t.setBadPasswordCount id count)

/-- The record of a user that an operation stores, and the highest identifier given after it. -/
inductive WritesUser (now : Instant) (t : Tables) : Operation → StoredUser → Int32 → Prop where
  | created {new : NewUser} {creator : UserId}
      (unique : t.checkUserUnique none new.name new.email new.username = .ok ()) :
      WritesUser now t (.call (.createUser new creator))
        { user := Tables.newRecord new ⟨t.lastUserId + 1⟩ creator now
          credentialDigest := new.credentialDigest }
        (t.lastUserId + 1)
  | updated {id actor : UserId} {update : UserUpdate} {stored : StoredUser}
      (found : t.users.find? id.value = some stored)
      (unique : t.checkUserUnique (some id) update.name update.email update.username = .ok ()) :
      WritesUser now t (.call (.updateUser id update actor))
        { stored with user := Tables.updatedRecord stored.user update actor now } t.lastUserId
  | profiled {id actor : UserId} {update : UserUpdate} {stored : StoredUser}
      (found : t.users.find? id.value = some stored)
      (unique : t.checkUserUnique (some id) update.name update.email update.username = .ok ()) :
      WritesUser now t (.call (.updateProfile id update actor))
        { stored with user := Tables.profileRecord stored.user update actor now } t.lastUserId
  | reset {id actor : UserId} {digest : String} {stored : StoredUser}
      (found : t.users.find? id.value = some stored) :
      WritesUser now t (.call (.resetPassword id digest actor))
        { user := Tables.resetRecord stored.user actor now, credentialDigest := digest } t.lastUserId
  | seeded {admin : AdminAccount} {salt : Salt}
      (absent : t.users.find? UserId.bootstrap.value = none) :
      WritesUser now t (.ensureAdmin admin salt)
        { user := Tables.bootstrapRecord admin now, credentialDigest := admin.credentialDigest salt }
        (max t.lastUserId UserId.bootstrap.value)
  | restored {admin : AdminAccount} {salt : Salt} {stored : StoredUser}
      (found : t.users.find? UserId.bootstrap.value = some stored) :
      WritesUser now t (.ensureAdmin admin salt)
        { user := Tables.restoredRecord stored.user admin now
          credentialDigest := admin.credentialDigest salt }
        t.lastUserId
  | locked {id : UserId} {locked : Bool} {stored : StoredUser}
      (found : t.users.find? id.value = some stored) :
      WritesUser now t (.setLocked id locked)
        { stored with user := { stored.user with isLocked := locked } } t.lastUserId
  | counted {id : UserId} {count : Int32} {stored : StoredUser}
      (found : t.users.find? id.value = some stored) :
      WritesUser now t (.setBadPasswordCount id count)
        { stored with user := { stored.user with badPasswordCount := count } } t.lastUserId

/-- The record of a group that an operation stores, and the highest identifier given after it. -/
inductive WritesGroup (now : Instant) (t : Tables) : Operation → Group → Int32 → Prop where
  | created {new : NewGroup} {creator : UserId}
      (unique : t.checkGroupUnique none new.name = .ok ()) :
      WritesGroup now t (.call (.createGroup new creator))
        (Tables.newGroup new ⟨t.lastGroupId + 1⟩ creator now) (t.lastGroupId + 1)
  | updated {id : GroupId} {update : GroupUpdate} {actor : UserId} {stored : Group}
      (found : t.groups.find? id.value = some stored)
      (unique : t.checkGroupUnique (some id) update.name = .ok ()) :
      WritesGroup now t (.call (.updateGroup id update actor))
        (Tables.updatedGroup stored update actor now) t.lastGroupId

/-- Whether an operation sets the administrator up. It never fails. -/
def Operation.seeds : Operation → Bool
  | ensureAdmin .. => true
  | _ => false

/-- What remains of the tables after an operation. One that fails or only reads changes nothing. -/
inductive Change (now : Instant) (t : Tables) (o : Operation) : Tables → Prop where
  | nothing (refusable : o.seeds = false) : Change now t o t
  | putUser {stored : StoredUser} {last : Int32} (writes : WritesUser now t o stored last) :
      Change now t o ({ t with lastUserId := last }.putUser stored)
  | eraseUser {id : UserId} (erases : o = .call (.deleteUser id)) :
      Change now t o { t with users := t.users.erase id.value }
  | putGroup {group : Group} {last : Int32} (writes : WritesGroup now t o group last) :
      Change now t o ({ t with lastGroupId := last }.putGroup group)
  | eraseGroup {id : GroupId} (erases : o = .call (.deleteGroup id)) :
      Change now t o { t with groups := t.groups.erase id.value }

namespace Tables

variable {now : Instant} {t after : Tables}

theorem apply_change {β : Type} {c : Call β} {b : β} (done : t.apply now c = .ok (b, after)) :
    Change now t (.call c) after := by
  cases c with
  | createUser new creator =>
    obtain ⟨unique, rfl, rfl⟩ := createUser_ok done
    exact .putUser (.created unique)
  | updateUser id update actor =>
    have changed : t.changeUser id update (updatedRecord · update actor now) = .ok (b, after) := done
    obtain ⟨stored, found, unique, rfl, rfl⟩ := changeUser_ok changed
    exact .putUser (.updated found unique)
  | updateProfile id update actor =>
    have changed : t.changeUser id update (profileRecord · update actor now) = .ok (b, after) := done
    obtain ⟨stored, found, unique, rfl, rfl⟩ := changeUser_ok changed
    exact .putUser (.profiled found unique)
  | deleteUser id =>
    obtain rfl := deleteUser_ok done
    exact .eraseUser rfl
  | resetPassword id digest actor =>
    obtain ⟨stored, found, rfl⟩ := resetPassword_ok done
    exact .putUser (.reset found)
  | createGroup new creator =>
    obtain ⟨unique, rfl, rfl⟩ := createGroup_ok done
    exact .putGroup (.created unique)
  | updateGroup id update actor =>
    obtain ⟨stored, found, unique, rfl, rfl⟩ := updateGroup_ok done
    exact .putGroup (.updated found unique)
  | deleteGroup id =>
    obtain rfl := deleteGroup_ok done
    exact .eraseGroup rfl
  | listUsers | getUser | userExists | maxUserId | countUsers | listGroups | getGroup | countGroups
  | findIdByLoginName | loadAuthRecord | isActive | isAdmin | isLocked | accountState =>
    obtain rfl := apply_keeps rfl done
    exact .nothing rfl

theorem perform_call {β : Type} {c : Call β} {b : β} (done : t.apply now c = .ok (b, after)) :
    (Operation.call c).perform now t = after := by
  simp only [Operation.perform, answer, done]

theorem perform_reads {β : Type} {c : Call β} (reads : c.writes = false) :
    (Operation.call c).perform now t = t := by
  simp only [Operation.perform, answer]
  cases done : t.apply now c with
  | ok result => exact apply_keeps reads done
  | error e => rfl

theorem ensureAdmin_change (t : Tables) (admin : AdminAccount) (salt : Salt) (now : Instant) :
    Change now t (.ensureAdmin admin salt) (t.ensureAdmin admin salt now) := by
  unfold ensureAdmin
  cases found : t.users.find? UserId.bootstrap.value with
  | none => exact .putUser (.seeded found)
  | some stored => exact .putUser (.restored found)

theorem perform_change (now : Instant) (t : Tables) (o : Operation) :
    Change now t o (o.perform now t) := by
  cases o with
  | call c =>
    simp only [Operation.perform, answer]
    cases done : t.apply now c with
    | error e => exact .nothing rfl
    | ok result => exact apply_change done
  | ensureAdmin admin salt => exact ensureAdmin_change t admin salt now
  | setLocked id locked =>
    simp only [Operation.perform]
    cases done : t.setLocked id locked with
    | error e => exact .nothing rfl
    | ok after =>
      obtain ⟨stored, found, rfl⟩ := setLocked_ok done
      exact .putUser (.locked found)
  | setBadPasswordCount id count =>
    simp only [Operation.perform]
    cases done : t.setBadPasswordCount id count with
    | error e => exact .nothing rfl
    | ok after =>
      obtain ⟨stored, found, rfl⟩ := setBadPasswordCount_ok done
      exact .putUser (.counted found)

/-- What stands under an identifier after an operation: what stood there, nothing after a removal,
    or the record that the operation stores. -/
theorem find?_perform (now : Instant) (t : Tables) (o : Operation) (id : UserId) :
    (o.perform now t).users.find? id.value = t.users.find? id.value ∨
      (o = .call (.deleteUser id) ∧ (o.perform now t).users.find? id.value = none) ∨
      ∃ stored last, WritesUser now t o stored last ∧ stored.user.id = id ∧
        (o.perform now t).users.find? id.value = some stored := by
  have change := perform_change now t o
  generalize o.perform now t = after at change
  cases change with
  | nothing | putGroup | eraseGroup => exact .inl rfl
  | @putUser stored last writes =>
    by_cases own : stored.user.id = id
    · exact .inr (.inr ⟨stored, last, writes, own, find?_putUser_of_id own⟩)
    · exact .inl (find?_putUser_other own)
  | @eraseUser other erases =>
    by_cases own : other = id
    · subst own
      exact .inr (.inl ⟨erases, Table.find?_erase_self _ _⟩)
    · exact .inl (Table.find?_erase_other _ fun same => own (congrArg UserId.mk same))

end Tables

section

open Tables

variable {now : Instant} {t : Tables} {o : Operation}

theorem WritesUser.perform {stored : StoredUser} {last : Int32}
    (writes : WritesUser now t o stored last) :
    o.perform now t = { t with lastUserId := last }.putUser stored := by
  cases writes with
  | created unique => exact perform_call (bind_eq_ok.2 ⟨(), unique, rfl⟩)
  | updated found unique | profiled found unique =>
    exact perform_call (user_bind_ok.2 ⟨_, found, bind_eq_ok.2 ⟨(), unique, rfl⟩⟩)
  | reset found => exact perform_call (user_bind_ok.2 ⟨_, found, rfl⟩)
  | seeded absent =>
    simp only [Operation.perform, ensureAdmin, absent]
  | restored found =>
    simp only [Operation.perform, ensureAdmin, found]
  | locked found =>
    exact congrArg t.orElse (user_bind_ok.2 ⟨_, found, rfl⟩)
  | counted found =>
    exact congrArg t.orElse (user_bind_ok.2 ⟨_, found, rfl⟩)

theorem WritesGroup.perform {group : Group} {last : Int32}
    (writes : WritesGroup now t o group last) :
    o.perform now t = { t with lastGroupId := last }.putGroup group := by
  cases writes with
  | created unique => exact perform_call (bind_eq_ok.2 ⟨(), unique, rfl⟩)
  | updated found unique =>
    exact perform_call (bind_eq_ok.2 ⟨(), unique, bind_eq_ok.2 ⟨_, group_ok.2 found, rfl⟩⟩)

end

/-- An operation, with the reading of the clock that it takes. -/
structure Act : Type 1 where
  clock : Instant
  operation : Operation

namespace Tables

/-- The tables of a new store: empty, or with the bootstrap administrator. -/
inductive Initial : Tables → Prop where
  | empty : Initial {}
  | bootstrap (admin : AdminAccount) (salt : Salt) (start : Instant) :
      Initial (withBootstrapAdmin admin salt start)

def act (t : Tables) (a : Act) : Tables :=
  a.operation.perform a.clock t

/-- The tables after a run of operations. -/
def play (t : Tables) (run : List Act) : Tables :=
  run.foldl act t

variable (t : Tables)

@[simp]
theorem play_nil : t.play [] = t := rfl

@[simp]
theorem play_cons (a : Act) (run : List Act) : t.play (a :: run) = (t.act a).play run := rfl

@[simp]
theorem play_append (first later : List Act) :
    t.play (first ++ later) = (t.play first).play later :=
  List.foldl_append

/-- What holds after a run and not before it begins to hold at some operation, for the last time. -/
theorem begins {P : Tables → Prop} {t : Tables} {run : List Act} (start : ¬ P t)
    (finish : P (t.play run)) :
    ∃ before a rest, run = before ++ a :: rest ∧ ¬ P (t.play before) ∧
      ∀ part, part <+: rest → P (t.play (before ++ a :: part)) :=
  Run.begins start finish

end Tables

end AccountDirectory.Store
