import AccountDirectory.Proofs.Store.Memory

/-!
What the calls that only read answer: all of it fits with the lists of users and of groups.
-/

namespace AccountDirectory.Store.Tables

open AccountDirectory.Time (Instant)

def reply {β : Type} (now : Instant) (t : Tables) (c : Call β) : Except StoreError β :=
  (t.answer now c).1

/-- What the calls that read users answer fits with the list of all users. -/
structure UsersAgree (now : Instant) (t : Tables) (listed : List UserSummary) : Prop where
  count : t.reply now .countUsers = .ok (listed.length : Int)
  whole : t.reply now (.listUsers 0 listed.length) = .ok listed
  pages : ∀ offset limit, t.reply now (.listUsers offset limit) =
    .ok ((listed.drop offset.toNat).take limit.toNat)
  ascending : listed.Pairwise fun u w => u.id.value < w.id.value
  highest : t.reply now .maxUserId = .ok ((listed.getLast?.map (·.id.value)).getD 0)
  exist : ∀ id, t.reply now (.userExists id) = .ok (listed.any (·.id = id))
  got : ∀ id, (∃ u, t.reply now (.getUser id) = .ok u) ↔ ∃ u ∈ listed, u.id = id
  summary : ∀ id u, t.reply now (.getUser id) = .ok u → u.id = id ∧ u.summary ∈ listed
  record : ∃ digest : UserId → String, ∀ id, t.reply now (.loadAuthRecord id) =
    (t.reply now (.getUser id)).map fun u =>
      StoredUser.authRecord { user := u, credentialDigest := digest id }
  state : ∀ id, t.reply now (.accountState id) =
    (t.reply now (.getUser id)).map fun u => { isActive := u.isActive, isLocked := u.isLocked }
  active : ∀ id, t.reply now (.isActive id) = (t.reply now (.getUser id)).map User.isActive
  admin : ∀ id, t.reply now (.isAdmin id) = (t.reply now (.getUser id)).map User.isAdmin
  locked : ∀ id, t.reply now (.isLocked id) = (t.reply now (.getUser id)).map User.isLocked

structure GroupsAgree (now : Instant) (t : Tables) (listed : List Group) : Prop where
  count : t.reply now .countGroups = .ok (listed.length : Int)
  whole : t.reply now (.listGroups 0 listed.length) = .ok listed
  pages : ∀ offset limit, t.reply now (.listGroups offset limit) =
    .ok ((listed.drop offset.toNat).take limit.toNat)
  ascending : listed.Pairwise fun g h => g.id.value < h.id.value
  got : ∀ id g, t.reply now (.getGroup id) = .ok g ↔ g ∈ listed ∧ g.id = id

variable {now : Instant} {t : Tables}

theorem reply_ok {β : Type} {c : Call β} {b : β} :
    t.reply now c = .ok b ↔ ∃ after, t.apply now c = .ok (b, after) := by
  simp only [reply, answer]
  cases applied : t.apply now c with
  | error e => simp
  | ok result =>
    obtain ⟨b, after⟩ := result
    simp

theorem reply_error {β : Type} {c : Call β} {e : StoreError} :
    t.reply now c = .error e ↔ t.apply now c = .error e := by
  simp only [reply, answer]
  cases t.apply now c with
  | error e => simp
  | ok result => simp

theorem reply_user {β : Type} {c : Call β} {id : UserId} {f : StoredUser → β}
    (asked : t.apply now c = (t.user id).map fun stored => (f stored, t)) :
    t.reply now c = (t.user id).map f := by
  unfold reply answer
  rw [asked]
  cases t.user id <;> rfl

theorem reply_of_getUser {β : Type} {c : Call β} {id : UserId} {f : User → β}
    (asked : t.apply now c = (t.user id).map fun stored => (f stored.user, t)) :
    t.reply now c = (t.reply now (.getUser id)).map f := by
  rw [reply_user (f := fun stored => f stored.user) asked, reply_user (f := StoredUser.user) rfl]
  cases t.user id <;> rfl

theorem listed_iff {id : UserId} :
    (∃ u ∈ t.users.rows.map (·.user.summary), u.id = id) ↔
      ∃ stored, t.users.find? id.value = some stored := by
  constructor
  · rintro ⟨u, member, rfl⟩
    obtain ⟨stored, inside, rfl⟩ := List.mem_map.1 member
    exact ⟨stored, Table.find?_of_mem inside⟩
  · rintro ⟨stored, found⟩
    exact ⟨stored.user.summary, List.mem_map_of_mem (Table.mem_of_find? found), id_of_find? found⟩

theorem exists_record (now : Instant) (t : Tables) :
    ∃ digest : UserId → String, ∀ id, t.reply now (.loadAuthRecord id) =
      (t.reply now (.getUser id)).map fun u =>
        StoredUser.authRecord { user := u, credentialDigest := digest id } := by
  refine ⟨fun id => ((t.users.find? id.value).map StoredUser.credentialDigest).getD "", fun id => ?_⟩
  rw [reply_user (f := StoredUser.authRecord) rfl, reply_user (f := StoredUser.user) rfl]
  simp only [user]
  cases t.users.find? id.value <;> rfl

theorem usersAgree (now : Instant) (t : Tables) :
    UsersAgree now t (t.users.rows.map (·.user.summary)) where
  count := by
    rw [List.length_map]
    rfl
  whole := by
    rw [List.length_map]
    simp [reply, answer, apply, Table.page]
  pages offset limit := by
    rw [← List.map_drop, ← List.map_take]
    rfl
  ascending := List.pairwise_map.2 t.users.ascending
  highest := by
    rw [List.getLast?_map, Option.map_map]
    rfl
  exist id := by
    have same : (t.users.rows.map (·.user.summary)).any (·.id = id) =
        (t.users.find? id.value).isSome := by
      rw [Bool.eq_iff_iff, Option.isSome_iff_exists, ← listed_iff, List.any_eq_true]
      simp only [decide_eq_true_eq]
    rw [same]
    rfl
  got id := by
    rw [listed_iff, reply_user (f := StoredUser.user) rfl]
    unfold user
    cases t.users.find? id.value <;> simp [Except.map]
  summary id u answered := by
    rw [reply_user (f := StoredUser.user) rfl] at answered
    obtain ⟨stored, found, rfl⟩ := user_map_ok.1 answered
    exact ⟨id_of_find? found, List.mem_map.2 ⟨stored, Table.mem_of_find? found, rfl⟩⟩
  record := exists_record now t
  state _ := reply_of_getUser rfl
  active _ := reply_of_getUser rfl
  admin _ := reply_of_getUser rfl
  locked _ := reply_of_getUser rfl

theorem groupsAgree (now : Instant) (t : Tables) : GroupsAgree now t t.groups.rows where
  count := rfl
  whole := by simp [reply, answer, apply, Table.page]
  pages _ _ := rfl
  ascending := t.groups.ascending
  got id g := by
    have asked : t.reply now (.getGroup id) = t.group id := by
      simp only [reply, answer, apply]
      cases t.group id <;> rfl
    rw [asked, group_ok, Table.find?_eq_some_iff]
    exact and_congr_right fun _ => ⟨congrArg GroupId.mk, congrArg GroupId.value⟩

end AccountDirectory.Store.Tables
