import AccountDirectory.Proofs.Store.Operation

/-!
Operations as steps on tables that are changed in place: what a step has written stays when a later
one fails. Every operation does all that can fail before it writes, or writes nothing when it fails.
-/

namespace AccountDirectory.Store

open AccountDirectory.Time (Instant)

/-- Steps on the tables. A failure takes nothing back. -/
abbrev InPlace := ExceptT StoreError (StateM Tables)

namespace InPlace

variable {α : Type}

def look (f : Tables → Except StoreError α) : InPlace α := do
  liftM (f (← get))

def createUser (new : NewUser) (creator : UserId) (now : Instant) : InPlace User := do
  look fun t => t.checkUserUnique none new.name new.email new.username
  modify fun t => { t with lastUserId := t.lastUserId + 1 }
  let id : UserId := ⟨(← get).lastUserId⟩
  let user := Tables.newRecord new id creator now
  modify fun t => t.putUser { user, credentialDigest := new.credentialDigest }
  return user

def changeUser (id : UserId) (update : UserUpdate) (change : User → User) : InPlace User := do
  let _ ← look fun t => t.user id
  look fun t => t.checkUserUnique (some id) update.name update.email update.username
  let stored ← look fun t => t.user id
  let user := change stored.user
  modify fun t => t.putUser { stored with user }
  return user

/-- Changes the record of a stored user; `change` cannot fail. -/
def assign (id : UserId) (change : StoredUser → StoredUser) : InPlace Unit := do
  let stored ← look fun t => t.user id
  modify fun t => t.putUser (change stored)

/-- Takes the user out first, and then sees whether there was one. -/
def deleteUser (id : UserId) : InPlace Unit := do
  let removed? := (← get).users.find? id.value
  modify fun t => { t with users := t.users.erase id.value }
  if removed?.isNone then throw (.notFound ("user " ++ id.render))

def createGroup (new : NewGroup) (creator : UserId) (now : Instant) : InPlace Group := do
  look fun t => t.checkGroupUnique none new.name
  modify fun t => { t with lastGroupId := t.lastGroupId + 1 }
  let group := Tables.newGroup new ⟨(← get).lastGroupId⟩ creator now
  modify fun t => t.putGroup group
  return group

def updateGroup (id : GroupId) (update : GroupUpdate) (actor : UserId) (now : Instant) :
    InPlace Group := do
  look fun t => t.checkGroupUnique (some id) update.name
  let stored ← look fun t => t.group id
  let group := Tables.updatedGroup stored update actor now
  modify fun t => t.putGroup group
  return group

def deleteGroup (id : GroupId) : InPlace Unit := do
  let removed? := (← get).groups.find? id.value
  modify fun t => { t with groups := t.groups.erase id.value }
  if removed?.isNone then throw (.notFound ("group " ++ id.render))

/-- The steps of a call. One that only reads is one look at the tables. -/
def call (now : Instant) {β : Type} : Call β → InPlace β
  | .createUser new creator => createUser new creator now
  | .updateUser id update actor => changeUser id update (Tables.updatedRecord · update actor now)
  | .updateProfile id update actor => changeUser id update (Tables.profileRecord · update actor now)
  | .deleteUser id => deleteUser id
  | .createGroup new creator => createGroup new creator now
  | .updateGroup id update actor => updateGroup id update actor now
  | .deleteGroup id => deleteGroup id
  | .resetPassword id digest actor => assign id fun stored =>
    { user := Tables.resetRecord stored.user actor now, credentialDigest := digest }
  | c => look fun t => (t.apply now c).map Prod.fst

end InPlace

def Operation.inPlace (now : Instant) : Operation → InPlace Unit
  | call c => do
    let _ ← InPlace.call now c
  | ensureAdmin admin salt => modify fun t => t.ensureAdmin admin salt now
  | setLocked id locked => InPlace.assign id fun stored =>
    { stored with user := { stored.user with isLocked := locked } }
  | setBadPasswordCount id count => InPlace.assign id fun stored =>
    { stored with user := { stored.user with badPasswordCount := count } }

namespace Tables

variable {β : Type}

/-- What is answered, and what is left, by what writes nothing when it fails. -/
def settle (t : Tables) : Except StoreError (β × Tables) → Except StoreError β × Tables
  | .ok (b, after) => (.ok b, after)
  | .error e => (.error e, t)

theorem answer_eq_settle {now : Instant} {t : Tables} (c : Call β) :
    t.answer now c = t.settle (t.apply now c) := by
  unfold answer settle
  rcases t.apply now c with e | ⟨b, after⟩ <;> rfl

theorem settle_error {t after : Tables} {r : Except StoreError (β × Tables)} {e : StoreError}
    (failed : t.settle r = (.error e, after)) : after = t := by
  cases r with
  | ok result => cases failed
  | error e =>
    cases failed
    rfl

end Tables

namespace InPlace

variable {α β : Type} {now : Instant} {t : Tables}

def exec (p : InPlace α) (t : Tables) : Except StoreError α × Tables :=
  p t

@[simp]
theorem exec_pure (a : α) : exec (pure a) t = (.ok a, t) := rfl

@[simp]
theorem exec_throw (e : StoreError) : exec (throw e : InPlace α) t = (.error e, t) := rfl

@[simp]
theorem exec_get : exec (get : InPlace Tables) t = (.ok t, t) := rfl

@[simp]
theorem exec_modify (f : Tables → Tables) : exec (modify f : InPlace PUnit) t = (.ok ⟨⟩, f t) := rfl

@[simp]
theorem exec_look (f : Tables → Except StoreError α) : exec (look f) t = (f t, t) := rfl

theorem exec_bind (p : InPlace α) (f : α → InPlace β) :
    exec (p >>= f) t =
      match exec p t with
      | (.ok a, t) => exec (f a) t
      | (.error e, t) => (.error e, t) := by
  show StateT.bind p.run (ExceptT.bindCont f) t = _
  unfold exec StateT.bind
  rcases result : p t with ⟨_ | _, _⟩
  · exact congrArg (fun r => ExceptT.bindCont f r.1 r.2) result
  · exact congrArg (fun r => ExceptT.bindCont f r.1 r.2) result

theorem exec_assign (id : UserId) (change : StoredUser → StoredUser) :
    exec (assign id change) t =
      t.settle ((t.user id).map fun stored => ((), t.putUser (change stored))) := by
  simp only [assign, exec_bind, exec_look]
  cases t.user id with
  | ok stored => rfl
  | error e => rfl

theorem exec_createUser (new : NewUser) (creator : UserId) :
    exec (createUser new creator now) t = t.settle (t.createUser new creator now) := by
  simp only [createUser, exec_bind, exec_look, Tables.createUser]
  cases t.checkUserUnique none new.name new.email new.username with
  | ok u => rfl
  | error e => rfl

theorem exec_changeUser (id : UserId) (update : UserUpdate) (change : User → User) :
    exec (changeUser id update change) t = t.settle (t.changeUser id update change) := by
  simp only [changeUser, exec_bind, exec_look, Tables.changeUser]
  cases found : t.user id with
  | error e => rfl
  | ok stored =>
    simp only
    cases t.checkUserUnique (some id) update.name update.email update.username with
    | error e => rfl
    | ok u =>
      simp only [found]
      rfl

theorem exec_deleteUser (id : UserId) : exec (deleteUser id) t = t.settle (t.deleteUser id) := by
  simp only [deleteUser, exec_bind, exec_get, exec_modify, Tables.deleteUser, Tables.user]
  cases absent : t.users.find? id.value with
  | some stored => rfl
  | none =>
    simp only [Table.erase_of_absent absent]
    rfl

theorem exec_createGroup (new : NewGroup) (creator : UserId) :
    exec (createGroup new creator now) t = t.settle (t.createGroup new creator now) := by
  simp only [createGroup, exec_bind, exec_look, Tables.createGroup]
  cases t.checkGroupUnique none new.name with
  | ok u => rfl
  | error e => rfl

theorem exec_updateGroup (id : GroupId) (update : GroupUpdate) (actor : UserId) :
    exec (updateGroup id update actor now) t = t.settle (t.updateGroup id update actor now) := by
  simp only [updateGroup, exec_bind, exec_look, Tables.updateGroup]
  cases t.checkGroupUnique (some id) update.name with
  | error e => rfl
  | ok u =>
    simp only
    cases t.group id with
    | ok stored => rfl
    | error e => rfl

theorem exec_deleteGroup (id : GroupId) : exec (deleteGroup id) t = t.settle (t.deleteGroup id) := by
  simp only [deleteGroup, exec_bind, exec_get, exec_modify, Tables.deleteGroup, Tables.group]
  cases absent : t.groups.find? id.value with
  | some stored => rfl
  | none =>
    simp only [Table.erase_of_absent absent]
    rfl

theorem exec_read {c : Call β} (reads : c.writes = false) :
    exec (look fun t => (t.apply now c).map Prod.fst) t = t.settle (t.apply now c) := by
  simp only [exec_look]
  cases done : t.apply now c with
  | ok result =>
    obtain ⟨b, after⟩ := result
    obtain rfl := apply_keeps reads done
    rfl
  | error e => rfl

/-- The steps of a call end as the call is answered, and leave what it leaves. -/
theorem exec_call (now : Instant) (c : Call β) (t : Tables) :
    exec (call now c) t = t.answer now c := by
  rw [Tables.answer_eq_settle]
  cases c with
  | createUser new creator => exact exec_createUser new creator
  | updateUser id update actor =>
    exact exec_changeUser id update (Tables.updatedRecord · update actor now)
  | updateProfile id update actor =>
    exact exec_changeUser id update (Tables.profileRecord · update actor now)
  | deleteUser id => exact exec_deleteUser id
  | createGroup new creator => exact exec_createGroup new creator
  | updateGroup id update actor => exact exec_updateGroup id update actor
  | deleteGroup id => exact exec_deleteGroup id
  | resetPassword id digest actor =>
    refine (exec_assign id _).trans (congrArg t.settle ?_)
    simp only [Tables.apply, Tables.resetPassword]
    cases t.user id with
    | ok stored => rfl
    | error e => rfl
  | listUsers | getUser | userExists | maxUserId | countUsers | listGroups | getGroup | countGroups
  | findIdByLoginName | loadAuthRecord | isActive | isAdmin | isLocked | accountState =>
    exact exec_read rfl

end InPlace

namespace Operation

open InPlace

variable {now : Instant} {t after : Tables}

theorem exec_inPlace (now : Instant) (o : Operation) (t : Tables) :
    (exec (o.inPlace now) t).2 = o.perform now t := by
  cases o with
  | call c =>
    simp only [inPlace, perform, exec_bind, exec_call]
    rcases t.answer now c with ⟨_ | _, _⟩ <;> rfl
  | ensureAdmin admin salt => rfl
  | setLocked id locked | setBadPasswordCount id count =>
    simp only [inPlace, perform, exec_assign, Tables.setLocked, Tables.setBadPasswordCount]
    cases t.user id with
    | ok stored => rfl
    | error e => rfl

theorem inPlace_failed {o : Operation} {e : StoreError}
    (failed : exec (o.inPlace now) t = (.error e, after)) : after = t := by
  cases o with
  | call c =>
    simp only [inPlace, exec_bind, exec_call, Tables.answer_eq_settle] at failed
    cases done : t.apply now c with
    | ok result =>
      rw [done] at failed
      cases failed
    | error e =>
      rw [done] at failed
      cases failed
      rfl
  | ensureAdmin admin salt => cases failed
  | setLocked id locked | setBadPasswordCount id count =>
    rw [inPlace, exec_assign] at failed
    exact Tables.settle_error failed

end Operation

end AccountDirectory.Store
