import AccountDirectory.Proofs.Interaction
import AccountDirectory.Store.Memory

/-!
Tables that agree in all but the digests of credentials. Only one call answers with a digest; all
others are answered alike by such tables, and leave such tables.
-/

namespace AccountDirectory.Store

open AccountDirectory.Time (Instant)

/-- Whether the answer to a call holds a stored digest. -/
def Call.loads {β : Type} : Call β → Bool
  | .loadAuthRecord _ => true
  | _ => false

def SameRecord (a b : AuthRecord) : Prop :=
  ∃ digest, b = { a with credentialDigest := digest }

namespace Table

def userKey (u : User) : Int32 :=
  u.id.value

theorem map_insertRow (stored : StoredUser) (rows : List StoredUser) :
    (insertRow StoredUser.key stored rows).map StoredUser.user =
      insertRow userKey stored.user (rows.map StoredUser.user) := by
  induction rows with
  | nil => rfl
  | cons first rest ih =>
    have below : (stored.key < first.key) = (userKey stored.user < userKey first.user) := rfl
    have equal : (stored.key = first.key) = (userKey stored.user = userKey first.user) := rfl
    simp only [insertRow, List.map_cons, below, equal, apply_ite (List.map StoredUser.user), ih]

end Table

/-- The tables agree in all but the digests. -/
structure Alike (t w : Tables) : Prop where
  users : t.users.rows.map StoredUser.user = w.users.rows.map StoredUser.user
  groups : t.groups = w.groups
  lastUserId : t.lastUserId = w.lastUserId
  lastGroupId : t.lastGroupId = w.lastGroupId

theorem Alike.refl (t : Tables) : Alike t t :=
  ⟨rfl, rfl, rfl, rfl⟩

/-- Both succeed with the same value and leave tables that are alike, or both fail in the same way. -/
inductive Similar {β : Type} : (r l : Except StoreError (β × Tables)) → Prop where
  | ok (b : β) {t w : Tables} (alike : Alike t w) : Similar (.ok (b, t)) (.ok (b, w))
  | error (e : StoreError) : Similar (.error e) (.error e)

namespace Alike

variable {β : Type} {t w : Tables} {now : Instant}

theorem putUser (alike : Alike t w) {stored other : StoredUser} (same : stored.user = other.user) :
    Alike (t.putUser stored) (w.putUser other) := by
  refine ⟨?_, alike.groups, alike.lastUserId, alike.lastGroupId⟩
  simp only [Tables.putUser, Table.insert, Table.map_insertRow, alike.users, same]

theorem eraseUser (alike : Alike t w) (k : Int32) :
    Alike { t with users := t.users.erase k } { w with users := w.users.erase k } := by
  refine ⟨?_, alike.groups, alike.lastUserId, alike.lastGroupId⟩
  have erased (rows : List StoredUser) : (rows.filter fun s => s.key ≠ k).map StoredUser.user =
      (rows.map StoredUser.user).filter fun u => Table.userKey u ≠ k := by
    rw [List.filter_map]
    rfl
  simp only [Table.erase, erased, alike.users]

theorem find? (alike : Alike t w) (k : Int32) :
    (t.users.find? k).map StoredUser.user = (w.users.find? k).map StoredUser.user := by
  have found (t : Tables) : (t.users.find? k).map StoredUser.user =
      (t.users.rows.map StoredUser.user).find? fun u => Table.userKey u = k := by
    rw [List.find?_map]
    rfl
  rw [found, found, alike.users]

theorem found_or_missed {r l : Option StoredUser}
    (same : r.map StoredUser.user = l.map StoredUser.user) :
    (∃ stored other, r = some stored ∧ l = some other ∧ stored.user = other.user) ∨
      r = none ∧ l = none := by
  cases r with
  | some stored =>
    obtain ⟨other, there, equal⟩ := Option.map_eq_some_iff.1 same.symm
    exact .inl ⟨stored, other, rfl, there, equal.symm⟩
  | none => exact .inr ⟨rfl, Option.map_eq_none_iff.1 same.symm⟩

/-- Whatever the salts, setting up the administrator leaves tables that are alike. -/
theorem ensureAdmin (alike : Alike t w) (admin : AdminAccount) (salt other : Crypto.Salt) :
    Alike (t.ensureAdmin admin salt now) (w.ensureAdmin admin other now) := by
  unfold Tables.ensureAdmin
  rcases found_or_missed (alike.find? UserId.bootstrap.value) with
    ⟨stored, again, here, there, same⟩ | ⟨here, there⟩
  · rw [here, there]
    exact alike.putUser (congrArg (Tables.restoredRecord · admin now) same)
  · rw [here, there]
    have counted : Alike { t with lastUserId := max t.lastUserId UserId.bootstrap.value }
        { w with lastUserId := max w.lastUserId UserId.bootstrap.value } :=
      ⟨alike.users, alike.groups, congrArg (max · _) alike.lastUserId, alike.lastGroupId⟩
    exact counted.putUser rfl

theorem user (alike : Alike t w) (id : UserId) :
    (∃ stored other, t.user id = .ok stored ∧ w.user id = .ok other ∧ stored.user = other.user) ∨
      ∃ e, t.user id = .error e ∧ w.user id = .error e := by
  unfold Tables.user
  rcases found_or_missed (alike.find? id.value) with ⟨stored, other, here, there, same⟩ | ⟨here, there⟩
  · rw [here, there]
    exact .inl ⟨stored, other, rfl, rfl, same⟩
  · rw [here, there]
    exact .inr ⟨_, rfl, rfl⟩

theorem user_bind (alike : Alike t w) (id : UserId)
    {f g : StoredUser → Except StoreError (β × Tables)}
    (rest : ∀ stored other, stored.user = other.user → Similar (f stored) (g other)) :
    Similar (t.user id >>= f) (w.user id >>= g) := by
  rcases alike.user id with ⟨stored, other, here, there, same⟩ | ⟨e, here, there⟩
  · rw [here, there]
    exact rest stored other same
  · rw [here, there]
    exact .error e

theorem user_map (alike : Alike t w) (id : UserId) (f : User → β) :
    Similar ((t.user id).map fun stored => (f stored.user, t))
      ((w.user id).map fun stored => (f stored.user, w)) := by
  rcases alike.user id with ⟨stored, other, here, there, same⟩ | ⟨e, here, there⟩
  · rw [here, there]
    simp only [Except.map, same]
    exact .ok _ alike
  · rw [here, there]
    exact .error e

theorem checkUserUnique (alike : Alike t w) (skip : Option UserId) (name email username : String) :
    t.checkUserUnique skip name email username = w.checkUserUnique skip name email username := by
  have clash (t : Tables) : ((t.users.rows.filter fun s => some s.user.id ≠ skip).findSome?
      fun s => Tables.clash? name email username s.user) =
        ((t.users.rows.map StoredUser.user).filter fun u => some u.id ≠ skip).findSome?
          (Tables.clash? name email username) := by
    rw [List.filter_map, List.findSome?_map]
    rfl
  simp only [Tables.checkUserUnique, clash, alike.users]

theorem checked {r : Except StoreError Unit} {f g : Unit → Except StoreError (β × Tables)}
    (rest : Similar (f ()) (g ())) : Similar (r >>= f) (r >>= g) := by
  cases r with
  | ok u => exact rest
  | error e => exact .error e

theorem createUser (alike : Alike t w) (new : NewUser) (creator : UserId) :
    Similar (t.createUser new creator now) (w.createUser new creator now) := by
  unfold Tables.createUser
  rw [alike.checkUserUnique, alike.lastUserId]
  have counted : Alike { t with lastUserId := w.lastUserId + 1 }
      { w with lastUserId := w.lastUserId + 1 } := ⟨alike.users, alike.groups, rfl, alike.lastGroupId⟩
  exact checked (.ok _ (counted.putUser rfl))

theorem changeUser (alike : Alike t w) (id : UserId) (update : UserUpdate) (change : User → User) :
    Similar (t.changeUser id update change) (w.changeUser id update change) := by
  refine alike.user_bind id fun stored other same => ?_
  rw [alike.checkUserUnique, same]
  exact checked (.ok _ (alike.putUser rfl))

theorem findIdByLoginName (alike : Alike t w) (name : String) :
    t.findIdByLoginName name = w.findIdByLoginName name := by
  have found (t : Tables) : (t.users.rows.find? fun s => s.user.username = name).map StoredUser.user =
      (t.users.rows.map StoredUser.user).find? fun u => u.username = name := by
    rw [List.find?_map]
    rfl
  unfold Tables.findIdByLoginName
  rcases found_or_missed ((found t).trans ((congrArg _ alike.users).trans (found w).symm)) with
    ⟨stored, other, here, there, same⟩ | ⟨here, there⟩
  · rw [here, there]
    exact congrArg (fun u : User => Except.ok u.id) same
  · rw [here, there]

theorem checkGroupUnique (alike : Alike t w) (skip : Option GroupId) (name : String) :
    t.checkGroupUnique skip name = w.checkGroupUnique skip name := by
  simp only [Tables.checkGroupUnique, alike.groups]

theorem group (alike : Alike t w) (id : GroupId) : t.group id = w.group id := by
  simp only [Tables.group, alike.groups]

theorem createGroup (alike : Alike t w) (new : NewGroup) (creator : UserId) :
    Similar (t.createGroup new creator now) (w.createGroup new creator now) := by
  unfold Tables.createGroup
  rw [alike.checkGroupUnique, alike.lastGroupId]
  refine checked (.ok _ ⟨alike.users, ?_, alike.lastUserId, rfl⟩)
  simp only [Tables.putGroup, alike.groups]

theorem withGroup (alike : Alike t w) (id : GroupId) {f g : Group → Except StoreError (β × Tables)}
    (rest : ∀ stored, Similar (f stored) (g stored)) :
    Similar (t.group id >>= f) (w.group id >>= g) := by
  rw [alike.group]
  cases w.group id with
  | ok stored => exact rest stored
  | error e => exact .error e

theorem updateGroup (alike : Alike t w) (id : GroupId) (update : GroupUpdate) (actor : UserId) :
    Similar (t.updateGroup id update actor now) (w.updateGroup id update actor now) := by
  unfold Tables.updateGroup
  rw [alike.checkGroupUnique]
  refine checked (alike.withGroup id fun stored => .ok _ ⟨alike.users, ?_, alike.lastUserId,
    alike.lastGroupId⟩)
  simp only [Tables.putGroup, alike.groups]

theorem deleteGroup (alike : Alike t w) (id : GroupId) :
    Similar (t.deleteGroup id) (w.deleteGroup id) := by
  refine alike.withGroup id fun stored => .ok _ ⟨alike.users, ?_, alike.lastUserId, alike.lastGroupId⟩
  simp only [alike.groups]

theorem listUsers (alike : Alike t w) (offset limit : Int) :
    (t.users.page offset limit).map (·.user.summary) =
      (w.users.page offset limit).map (·.user.summary) := by
  have shown (t : Tables) : (t.users.page offset limit).map (·.user.summary) =
      (((t.users.rows.map StoredUser.user).drop offset.toNat).take limit.toNat).map User.summary := by
    rw [← List.map_drop, ← List.map_take, List.map_map]
    rfl
  rw [shown, shown, alike.users]

theorem maxUserId (alike : Alike t w) : t.users.maxKey = w.users.maxKey := by
  have shown (t : Tables) : t.users.maxKey =
      ((t.users.rows.map StoredUser.user).getLast?.map Table.userKey).getD 0 := by
    rw [List.getLast?_map, Option.map_map]
    rfl
  rw [shown, shown, alike.users]

theorem countUsers (alike : Alike t w) : t.users.size = w.users.size := by
  have same := congrArg List.length alike.users
  rwa [List.length_map, List.length_map] at same

theorem userExists (alike : Alike t w) (id : UserId) :
    (t.users.find? id.value).isSome = (w.users.find? id.value).isSome := by
  have same := congrArg Option.isSome (alike.find? id.value)
  rwa [Option.isSome_map, Option.isSome_map] at same

theorem resetPassword (alike : Alike t w) (id : UserId) (digest : String) (actor : UserId) :
    Similar (t.resetPassword id digest actor now) (w.resetPassword id digest actor now) := by
  refine alike.user_bind id fun stored other same => .ok _ (alike.putUser ?_)
  simp only [same]

theorem apply (alike : Alike t w) (c : Call β) (plain : c.loads = false) :
    Similar (t.apply now c) (w.apply now c) := by
  cases c with
  | loadAuthRecord => cases plain
  | listUsers offset limit =>
    simp only [Tables.apply, alike.listUsers]
    exact .ok _ alike
  | userExists id =>
    simp only [Tables.apply, alike.userExists]
    exact .ok _ alike
  | maxUserId =>
    simp only [Tables.apply, alike.maxUserId]
    exact .ok _ alike
  | countUsers =>
    simp only [Tables.apply, alike.countUsers]
    exact .ok _ alike
  | getUser id => exact alike.user_map id fun u => u
  | isActive id => exact alike.user_map id User.isActive
  | isAdmin id => exact alike.user_map id User.isAdmin
  | isLocked id => exact alike.user_map id User.isLocked
  | accountState id =>
    exact alike.user_map id fun u : User => (AccountState.mk u.isActive u.isLocked)
  | createUser new creator => exact alike.createUser new creator
  | updateUser id update actor =>
    exact alike.changeUser id update (Tables.updatedRecord · update actor now)
  | updateProfile id update actor =>
    exact alike.changeUser id update (Tables.profileRecord · update actor now)
  | deleteUser id => exact alike.user_bind id fun _ _ _ => .ok () (alike.eraseUser id.value)
  | resetPassword id digest actor => exact alike.resetPassword id digest actor
  | findIdByLoginName name =>
    simp only [Tables.apply, alike.findIdByLoginName]
    cases w.findIdByLoginName name with
    | ok id => exact .ok id alike
    | error e => exact .error e
  | listGroups offset limit =>
    simp only [Tables.apply, alike.groups]
    exact .ok _ alike
  | countGroups =>
    simp only [Tables.apply, alike.groups]
    exact .ok _ alike
  | getGroup id =>
    simp only [Tables.apply, alike.group]
    cases w.group id with
    | ok stored => exact .ok stored alike
    | error e => exact .error e
  | createGroup new creator => exact alike.createGroup new creator
  | updateGroup id update actor => exact alike.updateGroup id update actor
  | deleteGroup id => exact alike.deleteGroup id

theorem answer (alike : Alike t w) (c : Call β) (plain : c.loads = false) :
    (t.answer now c).1 = (w.answer now c).1 ∧ Alike (t.answer now c).2 (w.answer now c).2 := by
  have similar : Similar (t.apply now c) (w.apply now c) := alike.apply c plain
  unfold Tables.answer
  generalize t.apply now c = r at similar ⊢
  generalize w.apply now c = l at similar ⊢
  cases similar with
  | ok b after => exact ⟨rfl, after⟩
  | error e => exact ⟨rfl, alike⟩

/-- The one call that answers with a digest is answered with records that are the same but for it. -/
theorem answer_loadAuthRecord (alike : Alike t w) (now : Instant) (id : UserId) :
    (∃ record other, t.answer now (.loadAuthRecord id) = (.ok record, t) ∧
      w.answer now (.loadAuthRecord id) = (.ok other, w) ∧ SameRecord record other) ∨
    ∃ e, t.answer now (.loadAuthRecord id) = (.error e, t) ∧
      w.answer now (.loadAuthRecord id) = (.error e, w) := by
  simp only [Tables.answer, Tables.apply]
  rcases alike.user id with ⟨stored, other, here, there, same⟩ | ⟨e, here, there⟩
  · rw [here, there]
    refine .inl ⟨stored.authRecord, other.authRecord, rfl, rfl, other.credentialDigest, ?_⟩
    simp only [StoredUser.authRecord, same]
  · rw [here, there]
    exact .inr ⟨e, rfl, rfl⟩

variable {α : Type}

/-- A program that never asks for a digest ends in the same way on tables that are alike. -/
theorem run (alike : Alike t w) {p : Program α} (plain : p.Asks fun c => c.loads = false) :
    (Interaction.run (Tables.answer now) p t).1 = (Interaction.run (Tables.answer now) p w).1 ∧
      Alike (Interaction.run (Tables.answer now) p t).2 (Interaction.run (Tables.answer now) p w).2 := by
  induction p generalizing t w with
  | done a => exact ⟨rfl, alike⟩
  | step q next ih =>
    obtain ⟨same, after⟩ : (t.answer now q).1 = (w.answer now q).1 ∧
        Alike (t.answer now q).2 (w.answer now q).2 := alike.answer q plain.1
    have later := ih (t.answer now q).1 after (plain.2 _)
    rw [same] at later
    change (Interaction.run (Tables.answer now) (next (t.answer now q).1) (t.answer now q).2).1 =
      (Interaction.run (Tables.answer now) (next (w.answer now q).1) (w.answer now q).2).1 ∧
        Alike (Interaction.run (Tables.answer now) (next (t.answer now q).1) (t.answer now q).2).2
          (Interaction.run (Tables.answer now) (next (w.answer now q).1) (w.answer now q).2).2
    rw [same]
    exact later

end Alike

end AccountDirectory.Store
