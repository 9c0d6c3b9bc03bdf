import AccountDirectory.Proofs.Outcome
import AccountDirectory.Proofs.Store.Table
import AccountDirectory.Store.Memory

/-!
When what writes the record of a user or a group succeeds, and what it makes of the tables; and what is
found under a user name.
-/

namespace AccountDirectory.Store.Tables

open AccountDirectory.Time (Instant)

variable {t after : Tables} {id actor : UserId} {now : Instant}

theorem user_ok {s : StoredUser} : t.user id = .ok s ↔ t.users.find? id.value = some s := by
  unfold user
  cases t.users.find? id.value <;> simp

theorem id_of_find? {s : StoredUser} (found : t.users.find? id.value = some s) : s.user.id = id := by
  have same : s.key = id.value := Table.key_of_find? found
  exact congrArg UserId.mk same

/-- What needs a stored user ends well when the user is there and the rest ends well. -/
theorem user_bind_ok {β : Type} {f : StoredUser → Except StoreError β} {b : β} :
    (t.user id >>= f) = .ok b ↔ ∃ s, t.users.find? id.value = some s ∧ f s = .ok b := by
  unfold user
  cases t.users.find? id.value with
  | none => simp [Bind.bind, Except.bind]
  | some s => simp [Bind.bind, Except.bind]

theorem user_map_ok {β : Type} {f : StoredUser → β} {b : β} :
    (t.user id).map f = .ok b ↔ ∃ s, t.users.find? id.value = some s ∧ f s = b := by
  unfold user
  cases t.users.find? id.value with
  | none => simp [Except.map]
  | some s => simp [Except.map]

theorem createUser_ok {new : NewUser} {creator : UserId} {user : User}
    (done : t.createUser new creator now = .ok (user, after)) :
    t.checkUserUnique none new.name new.email new.username = .ok () ∧
      user = newRecord new ⟨t.lastUserId + 1⟩ creator now ∧
      after = { t with lastUserId := t.lastUserId + 1 }.putUser
        { user, credentialDigest := new.credentialDigest } := by
  obtain ⟨_, unique, done⟩ := bind_eq_ok.1 done
  cases done
  exact ⟨unique, rfl, rfl⟩

theorem changeUser_ok {update : UserUpdate} {change : User → User} {user : User}
    (done : t.changeUser id update change = .ok (user, after)) :
    ∃ stored, t.users.find? id.value = some stored ∧
      t.checkUserUnique (some id) update.name update.email update.username = .ok () ∧
      user = change stored.user ∧ after = t.putUser { stored with user := change stored.user } := by
  obtain ⟨stored, found, done⟩ := user_bind_ok.1 done
  obtain ⟨_, unique, done⟩ := bind_eq_ok.1 done
  cases done
  exact ⟨stored, found, unique, rfl, rfl⟩

theorem deleteUser_ok {u : Unit} (done : t.deleteUser id = .ok (u, after)) :
    after = { t with users := t.users.erase id.value } := by
  obtain ⟨stored, -, done⟩ := user_bind_ok.1 done
  cases done
  rfl

/-- A record whose password was reset. -/
def resetRecord (u : User) (actor : UserId) (now : Instant) : User :=
  { u with
    isLocked := false
    badPasswordCount := 0
    lastModificationTime := some now
    lastModificationUser := some actor }

theorem resetRecord_of_unlocked {u : User} (unlocked : u.isLocked = false) :
    resetRecord u actor now =
      { u with
        badPasswordCount := 0
        lastModificationTime := some now
        lastModificationUser := some actor } := by
  unfold resetRecord
  rw [← unlocked]

theorem resetPassword_ok {digest : String} {u : Unit}
    (done : t.resetPassword id digest actor now = .ok (u, after)) :
    ∃ stored, t.users.find? id.value = some stored ∧
      after = t.putUser
        { user := resetRecord stored.user actor now, credentialDigest := digest } := by
  obtain ⟨stored, found, done⟩ := user_bind_ok.1 done
  cases done
  exact ⟨stored, found, rfl⟩

theorem setLocked_ok {locked : Bool} (done : t.setLocked id locked = .ok after) :
    ∃ stored, t.users.find? id.value = some stored ∧
      after = t.putUser { stored with user := { stored.user with isLocked := locked } } := by
  obtain ⟨stored, found, done⟩ := user_bind_ok.1 done
  cases done
  exact ⟨stored, found, rfl⟩

theorem setBadPasswordCount_ok {count : Int32} (done : t.setBadPasswordCount id count = .ok after) :
    ∃ stored, t.users.find? id.value = some stored ∧
      after = t.putUser { stored with user := { stored.user with badPasswordCount := count } } := by
  obtain ⟨stored, found, done⟩ := user_bind_ok.1 done
  cases done
  exact ⟨stored, found, rfl⟩

theorem group_ok {id : GroupId} {g : Group} :
    t.group id = .ok g ↔ t.groups.find? id.value = some g := by
  unfold group
  cases t.groups.find? id.value <;> simp

/-- The record of a new group. -/
def newGroup (new : NewGroup) (id : GroupId) (creator : UserId) (now : Instant) : Group where
  id := id
  name := new.name
  createTime := now
  creator := creator
  lastModificationTime := none
  lastModificationUser := none
  isActive := true
  inactivationTime := none
  inactivationReason := none
  comment := new.comment

theorem createGroup_ok {new : NewGroup} {creator : UserId} {group : Group}
    (done : t.createGroup new creator now = .ok (group, after)) :
    t.checkGroupUnique none new.name = .ok () ∧ group = newGroup new ⟨t.lastGroupId + 1⟩ creator now ∧
      after = { t with lastGroupId := t.lastGroupId + 1 }.putGroup group := by
  obtain ⟨_, unique, done⟩ := bind_eq_ok.1 done
  cases done
  exact ⟨unique, rfl, rfl⟩

theorem updateGroup_ok {id : GroupId} {update : GroupUpdate} {group : Group}
    (done : t.updateGroup id update actor now = .ok (group, after)) :
    ∃ stored, t.groups.find? id.value = some stored ∧
      t.checkGroupUnique (some id) update.name = .ok () ∧
      group = updatedGroup stored update actor now ∧ after = t.putGroup group := by
  obtain ⟨_, unique, done⟩ := bind_eq_ok.1 done
  obtain ⟨stored, found, done⟩ := bind_eq_ok.1 done
  cases done
  exact ⟨stored, group_ok.1 found, unique, rfl, rfl⟩

theorem deleteGroup_ok {id : GroupId} {u : Unit} (done : t.deleteGroup id = .ok (u, after)) :
    after = { t with groups := t.groups.erase id.value } := by
  obtain ⟨stored, -, done⟩ := bind_eq_ok.1 done
  cases done
  rfl

theorem find?_putUser_other {s : StoredUser} (other : s.user.id ≠ id) :
    (t.putUser s).users.find? id.value = t.users.find? id.value := by
  apply Table.find?_insert_other
  exact fun same => other (congrArg UserId.mk same)

theorem find?_putUser_self (t : Tables) (s : StoredUser) :
    (t.putUser s).users.find? s.user.id.value = some s :=
  Table.find?_insert_self t.users s

theorem find?_putUser_some {s stored : StoredUser}
    (found : (t.putUser s).users.find? id.value = some stored) :
    (s.user.id = id ∧ stored = s) ∨ t.users.find? id.value = some stored := by
  by_cases own : s.user.id = id
  · subst own
    exact .inl ⟨rfl, Option.some.inj (found.symm.trans (find?_putUser_self t s))⟩
  · exact .inr ((find?_putUser_other own).symm.trans found)

theorem withBootstrapAdmin_find? (admin : AdminAccount) (salt : Crypto.Salt) (start : Instant)
    (other : id ≠ .bootstrap) : (withBootstrapAdmin admin salt start).users.find? id.value = none := by
  have key : UserId.bootstrap ≠ id := other.symm
  exact (find?_putUser_other key).trans (Table.find?_empty id.value)

theorem find?_putUser_of_id {s : StoredUser} (own : s.user.id = id) :
    (t.putUser s).users.find? id.value = some s := by
  rw [← own]
  exact find?_putUser_self t s

theorem findIdByLoginName_error {name : String} {e : StoreError} (missed : t.findIdByLoginName name = .error e) :
    ∃ what, e = .notFound what := by
  unfold findIdByLoginName at missed
  split at missed
  · cases missed
  · cases missed
    exact ⟨_, rfl⟩

theorem user_of_findIdByLoginName {name : String} (found : t.findIdByLoginName name = .ok id) :
    ∃ stored, t.user id = .ok stored := by
  unfold findIdByLoginName at found
  split at found
  · rename_i s first
    cases found
    exact ⟨s, user_ok.2 (Table.find?_of_mem (List.mem_of_find?_eq_some first))⟩
  · cases found

end AccountDirectory.Store.Tables
