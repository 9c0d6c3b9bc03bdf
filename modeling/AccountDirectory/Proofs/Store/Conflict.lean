import AccountDirectory.Proofs.Store.Identifiers
import AccountDirectory.Proofs.Store.Missing

/-!
Conflicts. What would give a record a name that another one has is refused, and nothing else that
names a record is. Of several users in the way, the one with the lowest identifier is told of.
-/

namespace AccountDirectory

/-- What a user is told apart by. -/
structure Names where
  username : String
  email : String
  name : String

namespace Names

def Meet (held wanted : Names) : Prop :=
  held.username = wanted.username ∨ held.email = wanted.email ∨ held.name = wanted.name

/-- What is said of the first of the names that are held already. -/
inductive Clash (held wanted : Names) : String → Prop where
  | username (same : held.username = wanted.username) :
      Clash held wanted ("username '" ++ wanted.username ++ "' already exists")
  | email (free : held.username ≠ wanted.username) (same : held.email = wanted.email) :
      Clash held wanted ("email '" ++ wanted.email ++ "' already exists")
  | name (free : held.username ≠ wanted.username) (unused : held.email ≠ wanted.email)
      (same : held.name = wanted.name) :
      Clash held wanted ("name '" ++ wanted.name ++ "' already exists")

variable {held wanted : Names} {what : String}

theorem Clash.meet (clash : held.Clash wanted what) : held.Meet wanted := by
  cases clash with
  | username same => exact .inl same
  | email _ same => exact .inr (.inl same)
  | name _ _ same => exact .inr (.inr same)

theorem Meet.clash (meet : held.Meet wanted) : ∃ what, held.Clash wanted what := by
  by_cases username : held.username = wanted.username
  · exact ⟨_, .username username⟩
  · by_cases email : held.email = wanted.email
    · exact ⟨_, .email username email⟩
    · have name := (meet.resolve_left username).resolve_left email
      exact ⟨_, .name username email name⟩

end Names

def User.names (u : User) : Names :=
  { username := u.username, email := u.email, name := u.name }

def NewUser.names (new : NewUser) : Names :=
  { username := new.username, email := new.email, name := new.name }

def UserUpdate.names (update : UserUpdate) : Names :=
  { username := update.username, email := update.email, name := update.name }

namespace Store

open AccountDirectory.Time (Instant)

/-- The names that a call is to give to a user, and which user may have them already. -/
def Call.names? : {β : Type} → Call β → Option (Option UserId × Names)
  | _, .createUser new _ => some (none, new.names)
  | _, .updateUser id update _ | _, .updateProfile id update _ => some (some id, update.names)
  | _, _ => none

def Call.groupName? : {β : Type} → Call β → Option (Option GroupId × String)
  | _, .createGroup new _ => some (none, new.name)
  | _, .updateGroup id update _ => some (some id, update.name)
  | _, _ => none

/-- Of records with ascending keys, the one with the lowest key that yields something decides. -/
theorem Table.findSome?_ascending {α β : Type} {key : α → Int32} {l : List α} {f : α → Option β} {b : β}
    (ascending : l.Pairwise fun a b => key a < key b) :
    l.findSome? f = some b ↔
      ∃ a ∈ l, f a = some b ∧ ∀ w ∈ l, key w < key a → f w = none := by
  rw [List.findSome?_eq_some_iff]
  constructor
  · rintro ⟨before, a, rest, rfl, yields, earlier⟩
    refine ⟨a, by simp, yields, fun w member less => ?_⟩
    rcases List.mem_append.1 member with first | later
    · exact earlier w first
    · rcases List.mem_cons.1 later with rfl | last
      · exact absurd less Int32.lt_irrefl
      · have above := (List.pairwise_cons.1 (List.pairwise_append.1 ascending).2.1).1 w last
        exact absurd (Int32.lt_trans less above) Int32.lt_irrefl
  · rintro ⟨a, member, yields, earlier⟩
    obtain ⟨before, rest, rfl⟩ := List.append_of_mem member
    refine ⟨before, a, rest, rfl, yields, fun w first => ?_⟩
    have below := (List.pairwise_append.1 ascending).2.2 w first a List.mem_cons_self
    exact earlier w (List.mem_append_left _ first) below

namespace Tables

/-- Another user than the one with this identifier has one of the names. -/
def Taken (t : Tables) (own : Option UserId) (names : Names) : Prop :=
  ∃ s ∈ t.users.rows, some s.user.id ≠ own ∧ s.user.names.Meet names

def GroupTaken (t : Tables) (own : Option GroupId) (name : String) : Prop :=
  ∃ g ∈ t.groups.rows, some g.id ≠ own ∧ g.name = name

/-- What is said of the user with the lowest identifier that has one of the names. -/
def FirstClash (t : Tables) (own : Option UserId) (names : Names) (what : String) : Prop :=
  ∃ s ∈ t.users.rows, some s.user.id ≠ own ∧ s.user.names.Clash names what ∧
    ∀ w ∈ t.users.rows, some w.user.id ≠ own → w.user.id.value < s.user.id.value →
      ¬ w.user.names.Meet names

/-- No number in use is above the last one given, there is a next one, and no two records have a name
    in common. -/
structure Sound (t : Tables) : Prop where
  within : ∀ (kind : Kind) k, kind.Holds t k → k ≤ kind.last t
  room : ∀ kind : Kind, kind.last t < Int32.maxValue
  users : t.Distinct
  groups : t.groups.Distinct Group.name

/-- How calls that name users are decided. An update is of a user that is stored. -/
structure UserConflicts (now : Instant) (t : Tables) : Prop where
  refused : ∀ {β : Type} (c : Call β) own names, c.names? = some (own, names) →
    (∀ id, own = some id → Kind.user.Holds t id.value) →
    ((∃ what, t.reply now c = .error (.conflict what)) ↔ t.Taken own names)
  told : ∀ {β : Type} (c : Call β) own names what, c.names? = some (own, names) →
    (∀ id, own = some id → Kind.user.Holds t id.value) →
    (t.reply now c = .error (.conflict what) ↔ t.FirstClash own names what)
  done : ∀ {β : Type} (c : Call β) own names, c.names? = some (own, names) →
    (∀ id, own = some id → Kind.user.Holds t id.value) →
    ((∃ b, t.reply now c = .ok b) ↔ ¬ t.Taken own names)
  resubmitted : ∀ id stored, t.users.find? id.value = some stored →
    ¬ t.Taken (some id) stored.user.names
  freed : ∀ id own names, ((Operation.call (.deleteUser id)).perform now t).Taken own names ↔
    ∃ s ∈ t.users.rows, s.user.id ≠ id ∧ some s.user.id ≠ own ∧ s.user.names.Meet names
  renamed : ∀ {β : Type} (c : Call β) id given b, c.names? = some (some id, given) →
    t.reply now c = .ok b → ∀ own names, ((Operation.call c).perform now t).Taken own names ↔
      (some id ≠ own ∧ given.Meet names) ∨
        ∃ s ∈ t.users.rows, s.user.id ≠ id ∧ some s.user.id ≠ own ∧ s.user.names.Meet names

structure GroupConflicts (now : Instant) (t : Tables) : Prop where
  refused : ∀ {β : Type} (c : Call β) own name what, c.groupName? = some (own, name) →
    (∀ id, own = some id → Kind.group.Holds t id.value) →
    (t.reply now c = .error (.conflict what) ↔
      t.GroupTaken own name ∧ what = "group name '" ++ name ++ "' already exists")
  done : ∀ {β : Type} (c : Call β) own name, c.groupName? = some (own, name) →
    (∀ id, own = some id → Kind.group.Holds t id.value) →
    ((∃ b, t.reply now c = .ok b) ↔ ¬ t.GroupTaken own name)
  resubmitted : ∀ id stored, t.groups.find? id.value = some stored →
    ¬ t.GroupTaken (some id) stored.name
  freed : ∀ id own name, ((Operation.call (.deleteGroup id)).perform now t).GroupTaken own name ↔
    ∃ g ∈ t.groups.rows, g.id ≠ id ∧ some g.id ≠ own ∧ g.name = name
  renamed : ∀ {β : Type} (c : Call β) id given b, c.groupName? = some (some id, given) →
    t.reply now c = .ok b → ∀ own name, ((Operation.call c).perform now t).GroupTaken own name ↔
      (some id ≠ own ∧ given = name) ∨
        ∃ g ∈ t.groups.rows, g.id ≠ id ∧ some g.id ≠ own ∧ g.name = name

variable {now : Instant} {t : Tables} {own : Option UserId} {names : Names} {what : String}

theorem clash?_eq_some {u : User} :
    clash? names.name names.email names.username u = some what ↔ u.names.Clash names what := by
  unfold clash?
  constructor
  · intro found
    split at found
    · cases found
      rename_i same
      exact .username same
    · split at found
      · cases found
        rename_i free same
        exact .email free same
      · split at found
        · cases found
          rename_i free unused same
          exact .name free unused same
        · cases found
  · intro clash
    cases clash with
    | username same => exact if_pos same
    | email free same => exact (if_neg free).trans (if_pos same)
    | name free unused same => exact (if_neg free).trans ((if_neg unused).trans (if_pos same))

theorem clash?_of_not_meet {u : User} (apart : ¬ u.names.Meet names) :
    clash? names.name names.email names.username u = none := by
  cases found : clash? names.name names.email names.username u with
  | none => rfl
  | some what => exact absurd (clash?_eq_some.1 found).meet apart

/-- Of the users that may be in the way, the first one that is decides. -/
theorem findSome?_clash :
    (t.users.rows.filter fun s => some s.user.id ≠ own).findSome?
        (fun s => clash? names.name names.email names.username s.user) = some what ↔
      t.FirstClash own names what := by
  rw [Table.findSome?_ascending (t.users.ascending.filter _)]
  simp only [List.mem_filter, decide_eq_true_eq, FirstClash, clash?_eq_some, and_assoc, and_imp]
  constructor
  · rintro ⟨s, member, other, clash, earlier⟩
    refine ⟨s, member, other, clash, fun w inside apart less meet => ?_⟩
    obtain ⟨reason, clashes⟩ := meet.clash
    cases (clash?_eq_some.2 clashes).symm.trans (earlier w inside apart less)
  · rintro ⟨s, member, other, clash, earlier⟩
    exact ⟨s, member, other, clash, fun w inside apart less =>
      clash?_of_not_meet (earlier w inside apart less)⟩

theorem checkUserUnique_eq_error {e : StoreError} :
    t.checkUserUnique own names.name names.email names.username = .error e ↔
      ∃ what, e = .conflict what ∧ t.FirstClash own names what := by
  simp only [← findSome?_clash, checkUserUnique]
  split
  · rename_i reason found
    constructor
    · rintro ⟨⟩
      exact ⟨reason, rfl, found⟩
    · rintro ⟨what, rfl, same⟩
      cases found.symm.trans same
      rfl
  · rename_i found
    constructor
    · rintro ⟨⟩
    · rintro ⟨what, -, same⟩
      cases found.symm.trans same

theorem checkUserUnique_eq_ok :
    t.checkUserUnique own names.name names.email names.username = .ok () ↔ ¬ t.Taken own names := by
  rw [checkUserUnique_ok]
  simp only [Taken, Names.Meet, User.names, not_exists, not_and, not_or, ne_eq]

theorem exists_firstClash : (∃ what, t.FirstClash own names what) ↔ t.Taken own names := by
  constructor
  · rintro ⟨what, s, member, other, clash, -⟩
    exact ⟨s, member, other, clash.meet⟩
  · intro taken
    cases checked : t.checkUserUnique own names.name names.email names.username with
    | ok u => exact absurd taken (checkUserUnique_eq_ok.1 checked)
    | error e =>
      obtain ⟨what, -, first⟩ := checkUserUnique_eq_error.1 checked
      exact ⟨what, first⟩

theorem checkGroupUnique_eq_ok {own : Option GroupId} {name : String} :
    t.checkGroupUnique own name = .ok () ↔ ¬ t.GroupTaken own name := by
  rw [checkGroupUnique_ok]
  simp only [GroupTaken, not_exists, not_and, ne_eq]

theorem checkGroupUnique_eq_error {own : Option GroupId} {name : String} {e : StoreError} :
    t.checkGroupUnique own name = .error e ↔
      t.GroupTaken own name ∧ e = .conflict ("group name '" ++ name ++ "' already exists") := by
  cases checked : t.checkGroupUnique own name with
  | ok u =>
    have free := checkGroupUnique_eq_ok.1 checked
    simp [free]
  | error reason =>
    have taken : t.GroupTaken own name := by
      refine Classical.not_not.1 fun free => ?_
      cases checked.symm.trans (checkGroupUnique_eq_ok.2 free)
    have said : reason = .conflict ("group name '" ++ name ++ "' already exists") := by
      unfold checkGroupUnique at checked
      split at checked <;> cases checked
      rfl
    simp only [taken, said, true_and, Except.error.injEq, eq_comm]

section

variable {β : Type} {c : Call β}

/-- A call that names a user comes to its end when the names are free. -/
theorem apply_of_names (now : Instant) (named : c.names? = some (own, names))
    (stored : ∀ id, own = some id → Kind.user.Holds t id.value) :
    ∃ done, t.apply now c =
      (t.checkUserUnique own names.name names.email names.username).map fun _ => done := by
  have change (id : UserId) (update : UserUpdate) (f : User → User)
      (held : Kind.user.Holds t id.value) : ∃ done, t.changeUser id update f =
        (t.checkUserUnique (some id) update.name update.email update.username).map fun _ => done := by
    obtain ⟨before, found⟩ := held
    refine ⟨(f before.user, t.putUser { before with user := f before.user }), ?_⟩
    unfold changeUser
    rw [user_ok.2 found]
    cases t.checkUserUnique (some id) update.name update.email update.username <;> rfl
  cases c with
  | createUser new creator =>
    cases named
    refine ⟨(newRecord new ⟨t.lastUserId + 1⟩ creator now,
      { t with lastUserId := t.lastUserId + 1 }.putUser
        { user := newRecord new ⟨t.lastUserId + 1⟩ creator now
          credentialDigest := new.credentialDigest }), ?_⟩
    simp only [apply, createUser, NewUser.names]
    cases t.checkUserUnique none new.name new.email new.username <;> rfl
  | updateUser id update actor =>
    cases named
    exact change id update (updatedRecord · update actor now) (stored id rfl)
  | updateProfile id update actor =>
    cases named
    exact change id update (profileRecord · update actor now) (stored id rfl)
  | listUsers | getUser | userExists | maxUserId | countUsers | deleteUser | listGroups | getGroup
  | countGroups | createGroup | updateGroup | deleteGroup | findIdByLoginName | loadAuthRecord
  | isActive | isAdmin | isLocked | accountState | resetPassword => cases named

theorem apply_of_groupName {own : Option GroupId} {name : String}
    (now : Instant) (named : c.groupName? = some (own, name))
    (stored : ∀ id, own = some id → Kind.group.Holds t id.value) :
    ∃ done, t.apply now c = (t.checkGroupUnique own name).map fun _ => done := by
  cases c with
  | createGroup new creator =>
    cases named
    refine ⟨(newGroup new ⟨t.lastGroupId + 1⟩ creator now,
      { t with lastGroupId := t.lastGroupId + 1 }.putGroup
        (newGroup new ⟨t.lastGroupId + 1⟩ creator now)), ?_⟩
    simp only [apply, createGroup]
    cases t.checkGroupUnique none new.name <;> rfl
  | updateGroup id update actor =>
    cases named
    obtain ⟨before, found⟩ := stored id rfl
    refine ⟨(updatedGroup before update actor now,
      t.putGroup (updatedGroup before update actor now)), ?_⟩
    simp only [apply, updateGroup, group_ok.2 found]
    cases t.checkGroupUnique (some id) update.name <;> rfl
  | listUsers | getUser | userExists | maxUserId | countUsers | createUser | updateUser
  | updateProfile | deleteUser | listGroups | getGroup | countGroups | deleteGroup
  | findIdByLoginName | loadAuthRecord | isActive | isAdmin | isLocked | accountState
  | resetPassword => cases named

/-- What a check decides alone answers with the check's failure or well. -/
theorem reply_of_check {check : Except StoreError Unit} {done : β × Tables}
    (applied : t.apply now c = check.map fun _ => done) :
    (∀ e, t.reply now c = .error e ↔ check = .error e) ∧
      ((∃ b, t.reply now c = .ok b) ↔ check = .ok ()) := by
  refine ⟨fun e => by rw [reply_error, applied, map_eq_error], ?_⟩
  simp only [reply_ok, applied]
  cases check with
  | error e => simp [Except.map]
  | ok u => exact iff_of_true ⟨done.1, done.2, rfl⟩ rfl

/-- A call that renames a user puts one with the names in the place of the other. -/
theorem perform_of_names {id : UserId} {b : β} (named : c.names? = some (some id, names))
    (answered : t.reply now c = .ok b) :
    ∃ after : StoredUser, after.user.id = id ∧ after.user.names = names ∧
      (Operation.call c).perform now t = t.putUser after := by
  obtain ⟨after, applied⟩ := reply_ok.1 answered
  rw [perform_call applied]
  cases c with
  | updateUser id update actor =>
    cases named
    have changed : t.changeUser id update (updatedRecord · update actor now) = .ok (b, after) := applied
    obtain ⟨stored, found, -, -, rfl⟩ := changeUser_ok changed
    have own : stored.user.id = id := id_of_find? found
    exact ⟨{ stored with user := updatedRecord stored.user update actor now }, own, rfl, rfl⟩
  | updateProfile id update actor =>
    cases named
    have changed : t.changeUser id update (profileRecord · update actor now) = .ok (b, after) := applied
    obtain ⟨stored, found, -, -, rfl⟩ := changeUser_ok changed
    have own : stored.user.id = id := id_of_find? found
    exact ⟨{ stored with user := profileRecord stored.user update actor now }, own, rfl, rfl⟩
  | createUser | listUsers | getUser | userExists | maxUserId | countUsers | deleteUser | listGroups
  | getGroup | countGroups | createGroup | updateGroup | deleteGroup | findIdByLoginName
  | loadAuthRecord | isActive | isAdmin | isLocked | accountState | resetPassword => cases named

theorem perform_of_groupName {id : GroupId} {name : String} {b : β}
    (named : c.groupName? = some (some id, name)) (answered : t.reply now c = .ok b) :
    ∃ after : Group, after.id = id ∧ after.name = name ∧
      (Operation.call c).perform now t = t.putGroup after := by
  obtain ⟨after, applied⟩ := reply_ok.1 answered
  rw [perform_call applied]
  cases c with
  | updateGroup id update actor =>
    cases named
    obtain ⟨stored, found, -, rfl, rfl⟩ := updateGroup_ok applied
    have own : groupKey stored = id.value := Table.key_of_find? found
    exact ⟨updatedGroup stored update actor now, congrArg GroupId.mk own, rfl, rfl⟩
  | createUser | updateUser | updateProfile | listUsers | getUser | userExists | maxUserId
  | countUsers | deleteUser | listGroups | getGroup | countGroups | createGroup | deleteGroup
  | findIdByLoginName | loadAuthRecord | isActive | isAdmin | isLocked | accountState
  | resetPassword => cases named

end

theorem perform_deleteUser (now : Instant) (t : Tables) (id : UserId) :
    (Operation.call (.deleteUser id)).perform now t = { t with users := t.users.erase id.value } := by
  simp only [Operation.perform, answer, apply, deleteUser, user]
  cases found : t.users.find? id.value with
  | some stored => rfl
  | none => rw [Table.erase_of_absent found]; rfl

theorem perform_deleteGroup (now : Instant) (t : Tables) (id : GroupId) :
    (Operation.call (.deleteGroup id)).perform now t = { t with groups := t.groups.erase id.value } := by
  simp only [Operation.perform, answer, apply, deleteGroup, group]
  cases found : t.groups.find? id.value with
  | some stored => rfl
  | none => rw [Table.erase_of_absent found]; rfl

theorem groupKey_ne_value_iff {g : Group} {id : GroupId} : groupKey g ≠ id.value ↔ g.id ≠ id :=
  not_congr ⟨fun same => congrArg GroupId.mk same, fun same => congrArg GroupId.value same⟩

theorem groupKey_ne_iff {g h : Group} : groupKey g ≠ groupKey h ↔ g.id ≠ h.id :=
  groupKey_ne_value_iff

theorem taken_deleteUser {id : UserId} :
    ((Operation.call (.deleteUser id)).perform now t).Taken own names ↔
      ∃ s ∈ t.users.rows, s.user.id ≠ id ∧ some s.user.id ≠ own ∧ s.user.names.Meet names := by
  rw [perform_deleteUser]
  simp only [Taken, Table.mem_erase, key_ne_value_iff, and_assoc]

theorem taken_putUser {after : StoredUser} :
    (t.putUser after).Taken own names ↔
      (some after.user.id ≠ own ∧ after.user.names.Meet names) ∨
        ∃ s ∈ t.users.rows, s.user.id ≠ after.user.id ∧ some s.user.id ≠ own ∧
          s.user.names.Meet names := by
  simp only [Taken, putUser, Table.mem_insert, key_ne_iff]
  constructor
  · rintro ⟨s, rfl | ⟨member, other⟩, free, meet⟩
    · exact .inl ⟨free, meet⟩
    · exact .inr ⟨s, member, other, free, meet⟩
  · rintro (⟨free, meet⟩ | ⟨s, member, other, free, meet⟩)
    · exact ⟨after, .inl rfl, free, meet⟩
    · exact ⟨s, .inr ⟨member, other⟩, free, meet⟩

theorem groupTaken_deleteGroup {id : GroupId} {own : Option GroupId} {name : String} :
    ((Operation.call (.deleteGroup id)).perform now t).GroupTaken own name ↔
      ∃ g ∈ t.groups.rows, g.id ≠ id ∧ some g.id ≠ own ∧ g.name = name := by
  rw [perform_deleteGroup]
  simp only [GroupTaken, Table.mem_erase, groupKey_ne_value_iff, and_assoc]

theorem groupTaken_putGroup {after : Group} {own : Option GroupId} {name : String} :
    (t.putGroup after).GroupTaken own name ↔
      (some after.id ≠ own ∧ after.name = name) ∨
        ∃ g ∈ t.groups.rows, g.id ≠ after.id ∧ some g.id ≠ own ∧ g.name = name := by
  simp only [GroupTaken, putGroup, Table.mem_insert, groupKey_ne_iff]
  constructor
  · rintro ⟨g, rfl | ⟨member, other⟩, free, same⟩
    · exact .inl ⟨free, same⟩
    · exact .inr ⟨g, member, other, free, same⟩
  · rintro (⟨free, same⟩ | ⟨g, member, other, free, same⟩)
    · exact ⟨after, .inl rfl, free, same⟩
    · exact ⟨g, .inr ⟨member, other⟩, free, same⟩

/-- A user's own names are nobody else's. -/
theorem not_taken_own (distinct : t.Distinct) {id : UserId} {stored : StoredUser}
    (found : t.users.find? id.value = some stored) : ¬ t.Taken (some id) stored.user.names := by
  rintro ⟨s, member, other, meet⟩
  have free := free_of_same distinct found rfl rfl rfl rfl
  have own := id_of_find? found
  have apart := free s member fun same => other (congrArg some (same.trans own))
  rcases meet with username | email | name
  · exact apart.username username
  · exact apart.email email
  · exact apart.name name

theorem userConflicts (distinct : t.Distinct) (now : Instant) : UserConflicts now t where
  refused c own names named stored := by
    obtain ⟨done, applied⟩ := apply_of_names now named stored
    simp only [(reply_of_check applied).1, checkUserUnique_eq_error, StoreError.conflict.injEq,
      exists_eq_left', exists_firstClash]
  told c own names what named stored := by
    obtain ⟨done, applied⟩ := apply_of_names now named stored
    simp only [(reply_of_check applied).1, checkUserUnique_eq_error, StoreError.conflict.injEq,
      exists_eq_left']
  done c own names named stored := by
    obtain ⟨done, applied⟩ := apply_of_names now named stored
    rw [(reply_of_check applied).2, checkUserUnique_eq_ok]
  resubmitted _ _ found := not_taken_own distinct found
  freed _ _ _ := taken_deleteUser
  renamed c id given b named answered own names := by
    obtain ⟨after, rfl, rfl, performed⟩ := perform_of_names named answered
    rw [performed, taken_putUser]

theorem groupConflicts (distinct : t.groups.Distinct Group.name) (now : Instant) :
    GroupConflicts now t where
  refused c own name what named stored := by
    obtain ⟨done, applied⟩ := apply_of_groupName now named stored
    simp only [(reply_of_check applied).1, checkGroupUnique_eq_error, StoreError.conflict.injEq]
  done c own name named stored := by
    obtain ⟨done, applied⟩ := apply_of_groupName now named stored
    rw [(reply_of_check applied).2, checkGroupUnique_eq_ok]
  resubmitted id stored found := by
    rintro ⟨g, member, other, same⟩
    have own : groupKey stored = id.value := Table.key_of_find? found
    cases distinct g member stored (Table.mem_of_find? found) same
    exact other (congrArg (fun k => some (GroupId.mk k)) own)
  freed _ _ _ := groupTaken_deleteGroup
  renamed c id given b named answered own name := by
    obtain ⟨after, rfl, rfl, performed⟩ := perform_of_groupName named answered
    rw [performed, groupTaken_putGroup]

theorem within_perform {kind : Kind} (within : ∀ k, kind.Holds t k → k ≤ kind.last t)
    (room : kind.last t < Int32.maxValue) (now : Instant) (o : Operation) :
    ∀ k, kind.Holds (o.perform now t) k → k ≤ kind.last (o.perform now t) := by
  intro k held
  by_cases before : kind.Holds t k
  · exact Int32.le_trans (within k before) (last_le_perform now o room)
  · rcases appears_perform ⟨before, held⟩ with ⟨-, last⟩ | ⟨-, rfl, above⟩
    · exact last ▸ Int32.le_refl _
    · exact above

theorem appears_of_gives {kind : Kind} {a : Act} {k : Int32}
    (within : ∀ k, kind.Holds t k → k ≤ kind.last t) (room : kind.last t < Int32.maxValue)
    (gives : kind.Gives t a k) : kind.Appears t (t.act a) k := by
  obtain ⟨rfl, -, held, -⟩ := gives_next gives
  refine ⟨fun taken => ?_, held⟩
  exact Int32.lt_irrefl (Int32.lt_of_lt_of_le (lt_succ room) (within _ taken))

/-- Calls that name a record are refused just when another one has the name, and then tell of the
    first one that has; otherwise they end well. A record's own names are never in the way, nor those
    of one that was removed or renamed. No call gives two records a name, and each record created has
    a number of its own. -/
theorem conflicts_are_exact (sound : t.Sound) (now : Instant) :
    UserConflicts now t ∧ GroupConflicts now t ∧
      (∀ {β : Type} (c : Call β), ((Operation.call c).perform now t).Distinct ∧
        ((Operation.call c).perform now t).groups.Distinct Group.name ∧
        (∀ (kind : Kind) k, kind.Holds ((Operation.call c).perform now t) k →
          k ≤ kind.last ((Operation.call c).perform now t)) ∧
        ∀ later, UserConflicts later ((Operation.call c).perform now t) ∧
          GroupConflicts later ((Operation.call c).perform now t)) ∧
      ∀ (kind : Kind) {β : Type} (c : Call β) k, kind.Gives t ⟨now, .call c⟩ k →
        kind.Appears t ((Operation.call c).perform now t) k := by
  refine ⟨userConflicts sound.users now, groupConflicts sound.groups now, fun c => ?_, ?_⟩
  · have users := (distinct_perform now (.call c) sound.users).2 trivial
    have groups := groups_distinct_perform now (.call c) sound.groups
    refine ⟨users, groups, fun kind => ?_, fun later =>
      ⟨userConflicts users later, groupConflicts groups later⟩⟩
    exact within_perform (sound.within kind) (sound.room kind) now (.call c)
  · exact fun kind _ c k gives => appears_of_gives (sound.within kind) (sound.room kind) gives

/-- A new user is to have the user name of the second user and the email address of the first one. -/
theorem conflicts_are_exact_first :
    let admin : AdminAccount := { username := "admin", email := "a@e.org", password := "p" }
    let start : Instant := { seconds := 0, nanos := 0 }
    let empty : Tables := withBootstrapAdmin admin ⟨List.replicate 16 0, by decide⟩ start
    let new (username email name : String) : NewUser :=
      { name, email, username, credentialDigest := "", externalId := none, orgUnitId := none,
        groupIds := [], phone := none, isAdmin := false, comment := none }
    let bobby := new "bobby" "b@e.org" "Bobby"
    let rival := new "bobby" "a@e.org" "Rival"
    let t := (Operation.call (.createUser bobby .bootstrap)).perform start empty
    empty.Sound ∧ t.Sound ∧ Kind.user.Appears empty t 2 ∧
      t.reply start (.createUser rival .bootstrap) =
        .error (.conflict "email 'a@e.org' already exists") ∧
      t.FirstClash none rival.names "email 'a@e.org' already exists" ∧
      ¬ t.Taken (some ⟨2⟩) bobby.names := by
  intro admin start empty new bobby rival t
  have initial : empty.Initial := .bootstrap admin _ start
  have sound : empty.Sound :=
    { within := fun kind k held => ((initial.numbered kind).within k held).2
      room := fun kind => by cases kind <;> decide
      users := initial.distinct
      groups := initial.groups_distinct }
  obtain ⟨-, -, keeps, appears⟩ := conflicts_are_exact sound start
  obtain ⟨users, groups, within, -⟩ := keeps (.createUser bobby .bootstrap)
  have later : t.Sound := ⟨within, fun kind => by cases kind <;> decide, users, groups⟩
  obtain ⟨decided, -, -⟩ := conflicts_are_exact later start
  have refused : t.reply start (.createUser rival .bootstrap) =
      .error (.conflict "email 'a@e.org' already exists") := rfl
  have told := (decided.told (.createUser rival .bootstrap) none rival.names _ rfl nofun).1 refused
  exact ⟨sound, later, appears .user _ 2 ⟨bobby, .bootstrap, _, rfl, rfl, rfl⟩, refused,
    told, decided.resubmitted ⟨2⟩ _ rfl⟩

end Tables

end Store

end AccountDirectory
