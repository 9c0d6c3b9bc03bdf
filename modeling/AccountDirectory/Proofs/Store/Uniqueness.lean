import AccountDirectory.Proofs.Store.Operation

/-!
No two users share a user name, an email address or a name, and no two groups a name. Every write
checks this but for the setting up of the administrator, which is why the users stay distinct just
as long as nobody else has what it stores.
-/

namespace AccountDirectory.Store

open AccountDirectory.Crypto (Salt)
open AccountDirectory.Time (Instant)

/-- Two accounts that have nothing in common by which they are told apart. -/
structure Apart (u w : User) : Prop where
  username : u.username ≠ w.username
  email : u.email ≠ w.email
  name : u.name ≠ w.name

namespace Tables

structure Distinct (t : Tables) : Prop where
  usernames : t.users.Distinct (·.user.username)
  emails : t.users.Distinct (·.user.email)
  names : t.users.Distinct (·.user.name)

/-- No other account than the one with the same identifier clashes with this one. -/
def Free (t : Tables) (u : User) : Prop :=
  ∀ s ∈ t.users.rows, s.user.id ≠ u.id → Apart s.user u

end Tables

/-- The setting up of the administrator takes nothing that another account has. -/
def Operation.Fits (t : Tables) : Operation → Prop
  | ensureAdmin admin _ =>
    match t.users.find? UserId.bootstrap.value with
    | some _ => ∀ s ∈ t.users.rows, s.user.id ≠ .bootstrap → s.user.username ≠ admin.username
    | none => ∀ s ∈ t.users.rows, s.user.username ≠ admin.username ∧ s.user.email ≠ admin.email ∧
        s.user.name ≠ AdminAccount.displayName
  | _ => True

namespace Tables

variable {now : Instant} {t after : Tables} {u : User} {stored : StoredUser} {last : Int32}
  {o : Operation}

theorem key_ne_value_iff {a : StoredUser} {id : UserId} : a.key ≠ id.value ↔ a.user.id ≠ id :=
  not_congr ⟨fun same => congrArg UserId.mk same, fun same => congrArg UserId.value same⟩

theorem key_ne_iff {a b : StoredUser} : a.key ≠ b.key ↔ a.user.id ≠ b.user.id :=
  key_ne_value_iff

theorem clash?_eq_none {name email username : String} :
    clash? name email username u = none ↔
      u.username ≠ username ∧ u.email ≠ email ∧ u.name ≠ name := by
  unfold clash?
  split
  · simp_all
  · split
    · simp_all
    · split
      · simp_all
      · simp_all

theorem checkUserUnique_ok {skip : Option UserId} {name email username : String} :
    t.checkUserUnique skip name email username = .ok () ↔
      ∀ s ∈ t.users.rows, some s.user.id ≠ skip →
        s.user.username ≠ username ∧ s.user.email ≠ email ∧ s.user.name ≠ name := by
  have none : t.checkUserUnique skip name email username = .ok () ↔
      ((t.users.rows.filter fun s => some s.user.id ≠ skip).findSome?
        fun s => clash? name email username s.user) = none := by
    unfold checkUserUnique
    simp only
    split
    · rename_i what found
      rw [found]
      simp
    · rename_i found
      rw [found]
      simp
  rw [none, List.findSome?_eq_none_iff]
  simp only [List.mem_filter, decide_eq_true_eq, clash?_eq_none, and_imp]

theorem checkGroupUnique_ok {skip : Option GroupId} {name : String} :
    t.checkGroupUnique skip name = .ok () ↔
      ∀ g ∈ t.groups.rows, some g.id ≠ skip → g.name ≠ name := by
  unfold checkGroupUnique
  split
  · rename_i taken
    simp only [reduceCtorEq, false_iff]
    simpa using taken
  · rename_i free
    simpa using free

theorem free_of_unique {skip : Option UserId} (own : ∀ id, skip = some id → u.id = id)
    (unique : t.checkUserUnique skip u.name u.email u.username = .ok ()) : t.Free u := by
  intro s member other
  have skipped : some s.user.id ≠ skip := fun same => other (own _ same.symm).symm
  obtain ⟨username, email, name⟩ := checkUserUnique_ok.1 unique s member skipped
  exact ⟨username, email, name⟩

/-- An account that keeps what tells it apart clashes with nobody. -/
theorem free_of_same (distinct : t.Distinct) {id : UserId}
    (found : t.users.find? id.value = some stored) (same : u.id = stored.user.id)
    (username : u.username = stored.user.username) (email : u.email = stored.user.email)
    (name : u.name = stored.user.name) : t.Free u := by
  have member := Table.mem_of_find? found
  intro s inside other
  have apart : s ≠ stored := fun equal => other (same ▸ congrArg (·.user.id) equal)
  refine ⟨fun h => apart ?_, fun h => apart ?_, fun h => apart ?_⟩
  · exact distinct.usernames s inside stored member (h.trans username)
  · exact distinct.emails s inside stored member (h.trans email)
  · exact distinct.names s inside stored member (h.trans name)

theorem distinct_putUser (distinct : t.Distinct) :
    ({ t with lastUserId := last }.putUser stored).Distinct ↔ t.Free stored.user := by
  constructor
  · intro kept s member other
    have otherKey := key_ne_iff.2 other
    exact ⟨(Table.distinct_insert distinct.usernames).1 kept.usernames s member otherKey,
      (Table.distinct_insert distinct.emails).1 kept.emails s member otherKey,
      (Table.distinct_insert distinct.names).1 kept.names s member otherKey⟩
  · intro free
    have apart : ∀ s ∈ t.users.rows, s.key ≠ stored.key → Apart s.user stored.user :=
      fun s member other => free s member (key_ne_iff.1 other)
    constructor
    · exact (Table.distinct_insert distinct.usernames).2 fun s h other => (apart s h other).username
    · exact (Table.distinct_insert distinct.emails).2 fun s h other => (apart s h other).email
    · exact (Table.distinct_insert distinct.names).2 fun s h other => (apart s h other).name

theorem fits_of_refusable (refusable : o.seeds = false) : o.Fits t := by
  cases o with
  | ensureAdmin => cases refusable
  | call | setLocked | setBadPasswordCount => trivial

theorem seeded_free_iff {admin : AdminAccount} :
    t.Free (bootstrapRecord admin now) ↔
      ∀ s ∈ t.users.rows, s.user.id ≠ .bootstrap → s.user.username ≠ admin.username ∧
        s.user.email ≠ admin.email ∧ s.user.name ≠ AdminAccount.displayName :=
  ⟨fun free s member other =>
      have apart := free s member other
      ⟨apart.username, apart.email, apart.name⟩,
    fun fits s member other =>
      have ⟨username, email, name⟩ := fits s member other
      ⟨username, email, name⟩⟩

/-- Setting the administrator up again writes only the user name. -/
theorem restored_free_iff (distinct : t.Distinct) {admin : AdminAccount}
    (found : t.users.find? UserId.bootstrap.value = some stored) :
    t.Free (restoredRecord stored.user admin now) ↔
      ∀ s ∈ t.users.rows, s.user.id ≠ .bootstrap → s.user.username ≠ admin.username := by
  have own : stored.user.id = .bootstrap := id_of_find? found
  constructor
  · intro free s member other
    exact (free s member (own ▸ other)).username
  · intro fits s member other
    have apart := free_of_same distinct found rfl rfl rfl rfl s member other
    exact ⟨fits s member (own ▸ other), apart.email, apart.name⟩

theorem free_iff_fits (distinct : t.Distinct) (writes : WritesUser now t o stored last) :
    t.Free stored.user ↔ o.Fits t := by
  cases writes with
  | created unique => exact iff_of_true (free_of_unique (by simp) unique) trivial
  | updated found unique | profiled found unique =>
    have own := id_of_find? found
    exact iff_of_true (free_of_unique (fun _ same => own.trans (Option.some.inj same)) unique) trivial
  | reset found | locked found | counted found =>
    exact iff_of_true (free_of_same distinct found rfl rfl rfl rfl) trivial
  | seeded absent =>
    have noBootstrap : ∀ s ∈ t.users.rows, s.user.id ≠ .bootstrap := by
      intro s member own
      have present := Table.find?_of_mem member
      rw [StoredUser.key, own, absent] at present
      cases present
    rw [seeded_free_iff]
    simp only [Operation.Fits, absent]
    exact ⟨fun free s member => free s member (noBootstrap s member), fun fits s member _ => fits s member⟩
  | restored found =>
    rw [restored_free_iff distinct found]
    simp only [Operation.Fits, found]

/-- One operation keeps the users distinct unless it sets up an administrator that does not fit. -/
theorem distinct_perform (now : Instant) (o : Operation) (distinct : t.Distinct) :
    (o.perform now t).Distinct ↔ o.Fits t := by
  have change := perform_change now t o
  generalize o.perform now t = after at change
  cases change with
  | nothing refusable => exact iff_of_true distinct (fits_of_refusable refusable)
  | putUser writes => exact (distinct_putUser distinct).trans (free_iff_fits distinct writes)
  | eraseUser erases =>
    subst erases
    exact iff_of_true ⟨Table.distinct_erase distinct.usernames _,
      Table.distinct_erase distinct.emails _, Table.distinct_erase distinct.names _⟩ trivial
  | putGroup writes =>
    have refusable : o.seeds = false := by cases writes <;> rfl
    exact iff_of_true ⟨distinct.usernames, distinct.emails, distinct.names⟩
      (fits_of_refusable refusable)
  | eraseGroup erases =>
    subst erases
    exact iff_of_true ⟨distinct.usernames, distinct.emails, distinct.names⟩ trivial

theorem groups_distinct_of_writes {group : Group} (distinct : t.groups.Distinct Group.name)
    (writes : WritesGroup now t o group last) : (t.groups.insert group).Distinct Group.name := by
  refine (Table.distinct_insert distinct).2 fun g member other => ?_
  cases writes with
  | created unique => exact checkGroupUnique_ok.1 unique g member (by simp)
  | @updated id _ _ stored found unique =>
    refine checkGroupUnique_ok.1 unique g member fun same => other ?_
    have own : groupKey stored = id.value := Table.key_of_find? found
    exact (congrArg GroupId.value (Option.some.inj same)).trans own.symm

theorem groups_distinct_perform (now : Instant) (o : Operation)
    (distinct : t.groups.Distinct Group.name) : (o.perform now t).groups.Distinct Group.name := by
  have change := perform_change now t o
  generalize o.perform now t = after at change
  cases change with
  | nothing | putUser | eraseUser => exact distinct
  | putGroup writes =>
    have kept := groups_distinct_of_writes distinct writes
    exact kept
  | eraseGroup => exact Table.distinct_erase distinct _

theorem Initial.distinct (initial : t.Initial) : t.Distinct := by
  have empty : ({} : Tables).Distinct :=
    ⟨Table.distinct_empty, Table.distinct_empty, Table.distinct_empty⟩
  cases initial with
  | empty => exact empty
  | bootstrap admin salt start =>
    refine (distinct_perform start (.ensureAdmin admin salt) empty).2 ?_
    intro s member
    cases member

theorem Initial.groups_distinct (initial : t.Initial) : t.groups.Distinct Group.name := by
  cases initial with
  | empty => exact Table.distinct_empty
  | bootstrap => exact Table.distinct_empty

/-- Where user names are distinct, the first user of a name is the only one. -/
theorem findIdByLoginName_ok_iff (distinct : t.users.Distinct (·.user.username)) {name : String}
    {id : UserId} :
    t.findIdByLoginName name = .ok id ↔
      ∃ stored, t.users.find? id.value = some stored ∧ stored.user.username = name := by
  unfold findIdByLoginName
  constructor
  · intro done
    split at done
    · rename_i s found
      cases done
      have same : s.user.username = name := by simpa using List.find?_some found
      exact ⟨s, Table.find?_of_mem (List.mem_of_find?_eq_some found), same⟩
    · cases done
  · rintro ⟨stored, found, same⟩
    have member := Table.mem_of_find? found
    cases first : t.users.rows.find? fun s => s.user.username = name with
    | none =>
      have other := List.find?_eq_none.1 first stored member
      exact absurd (by simpa using same) other
    | some s =>
      have named : s.user.username = name := by simpa using List.find?_some first
      have only : s = stored := distinct s (List.mem_of_find?_eq_some first) stored member
        (named.trans same.symm)
      simp only [only, id_of_find? found]

/-- Along every run of a new store, the users are distinct just when the administrator is never set
    up with what another user has, a login name then belongs to one user at most, and the names of
    groups are always distinct. -/
theorem distinct_iff_seedings_fit (initial : t.Initial) (run : List Act) :
    ((∀ part, part <+: run → (t.play part).Distinct) ↔
      ∀ before a rest, run = before ++ a :: rest → a.operation.Fits (t.play before)) ∧
    (∀ part, part <+: run → (t.play part).Distinct → ∀ name id,
      (t.play part).findIdByLoginName name = .ok id ↔
        ∃ stored, (t.play part).users.find? id.value = some stored ∧
          stored.user.username = name) ∧
    ∀ part, part <+: run → (t.play part).groups.Distinct Group.name := by
  refine ⟨?_, fun _ _ distinct _ _ => findIdByLoginName_ok_iff distinct.usernames, ?_⟩
  · exact Run.holds_along_iff initial.distinct fun t (a : Act) distinct =>
      distinct_perform a.clock a.operation distinct
  · refine Run.along initial.groups_distinct fun before a rest _ distinct => ?_
    rw [play_append]
    exact groups_distinct_perform a.clock a.operation distinct

/-- The administrator is set up again under a user name that is still free. -/
theorem distinct_iff_seedings_fit_renamed :
    let admin : AdminAccount := { username := "admin", email := "a@e.org", password := "p" }
    let salt : Salt := ⟨List.replicate 16 0, by decide⟩
    let start : Instant := { seconds := 0, nanos := 0 }
    let t : Tables := withBootstrapAdmin admin salt start
    let bobby : NewUser :=
      { name := "Bobby", email := "b@e.org", username := "bobby", credentialDigest := "",
        externalId := none, orgUnitId := none, groupIds := [], phone := none, isAdmin := false,
        comment := none }
    let run : List Act :=
      [{ clock := start, operation := .call (.createUser bobby .bootstrap) },
        { clock := start, operation := .ensureAdmin { admin with username := "root" } salt }]
    t.Initial ∧ (∀ part, part <+: run → (t.play part).Distinct) ∧
      ∃ stored, (t.play run).users.find? UserId.bootstrap.value = some stored ∧
        stored.user.username = "root" ∧ (t.play run).findIdByLoginName "root" = .ok .bootstrap := by
  intro admin salt start t bobby run
  have initial : t.Initial := .bootstrap admin salt start
  have settled := distinct_iff_seedings_fit initial run
  have fits : ∀ before a rest, run = before ++ a :: rest → a.operation.Fits (t.play before) := by
    intro before a rest place
    match before with
    | [] =>
      obtain ⟨rfl, -⟩ := List.cons.inj place
      trivial
    | [first] =>
      obtain ⟨atFirst, place⟩ := List.cons.inj place
      obtain ⟨rfl, -⟩ := List.cons.inj place
      subst atFirst
      have rows : (t.play [{ clock := start, operation := .call (.createUser bobby .bootstrap) }]).users.rows.map
          (·.user.username) = ["admin", "bobby"] := rfl
      intro s member _ taken
      have listed := List.mem_map_of_mem (f := (·.user.username)) member
      rw [rows] at listed
      simp [taken] at listed
    | first :: second :: before => simp [run] at place
  have distinct := settled.1.2 fits
  refine ⟨initial, distinct, _, rfl, rfl, ?_⟩
  exact (settled.2.1 run List.prefix_rfl (distinct run List.prefix_rfl) _ _).2 ⟨_, rfl, rfl⟩

/-- An administrator that is set up under the user name of another user takes over the login. -/
theorem distinct_lost_by_seeding :
    let admin : AdminAccount := { username := "admin", email := "a@e.org", password := "p" }
    let salt : Salt := ⟨List.replicate 16 0, by decide⟩
    let start : Instant := { seconds := 0, nanos := 0 }
    let t : Tables := withBootstrapAdmin admin salt start
    let bobby : NewUser :=
      { name := "Bobby", email := "b@e.org", username := "bobby", credentialDigest := "",
        externalId := none, orgUnitId := none, groupIds := [], phone := none, isAdmin := false,
        comment := none }
    let run : List Act :=
      [{ clock := start, operation := .call (.createUser bobby .bootstrap) },
        { clock := start, operation := .ensureAdmin { admin with username := "bobby" } salt }]
    t.Initial ∧ ¬ (t.play run).users.Distinct (·.user.username) ∧
      (t.play run).findIdByLoginName "bobby" = .ok .bootstrap ∧
      ∃ stored, (t.play run).users.find? 2 = some stored ∧ stored.user.username = "bobby" := by
  intro admin salt start t bobby run
  refine ⟨.bootstrap admin salt start, ?_, rfl, _, rfl, rfl⟩
  intro distinct
  have second : (t.play run).findIdByLoginName "bobby" = .ok ⟨2⟩ :=
    (findIdByLoginName_ok_iff distinct).2 ⟨_, rfl, rfl⟩
  have first : (t.play run).findIdByLoginName "bobby" = .ok .bootstrap := rfl
  cases first.symm.trans second

end Tables

end AccountDirectory.Store
