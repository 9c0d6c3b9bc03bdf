import AccountDirectory.Proofs.Store.InPlace
import AccountDirectory.Proofs.Store.Uniqueness

/-!
Operations on a record that is not stored. Each of them looks the record up before it does anything
else, but for the update of a group, which looks at the names of the other groups first.
-/

namespace AccountDirectory.Store

open AccountDirectory.Time (Instant)

/-- The record that an operation is addressed to. -/
inductive Target where
  | user (id : UserId)
  | group (id : GroupId)

namespace Target

def Stored (t : Tables) : Target → Prop
  | user id => ∃ stored, t.users.find? id.value = some stored
  | group id => ∃ stored, t.groups.find? id.value = some stored

/-- What is not found without the record. -/
def text : Target → String
  | user id => "user " ++ id.render
  | group id => "group " ++ id.render

end Target

def Call.target? : {β : Type} → Call β → Option Target
  | _, .getUser id | _, .updateUser id .. | _, .updateProfile id .. | _, .deleteUser id
  | _, .loadAuthRecord id | _, .isActive id | _, .isAdmin id | _, .isLocked id | _, .accountState id
  | _, .resetPassword id .. => some (.user id)
  | _, .getGroup id | _, .updateGroup id .. | _, .deleteGroup id => some (.group id)
  | _, _ => none

namespace Operation

def target? : Operation → Option Target
  | call c => c.target?
  | setLocked id _ | setBadPasswordCount id _ => some (.user id)
  | ensureAdmin .. => none

/-- The operation is the update of a group to a name that another group has. -/
def TakesName (t : Tables) : Operation → String → Prop
  | call (.updateGroup id update _), name =>
    update.name = name ∧ ∃ other ∈ t.groups.rows, other.id ≠ id ∧ other.name = name
  | _, _ => False

def result (now : Instant) (t : Tables) (o : Operation) : Except StoreError Unit :=
  (InPlace.exec (o.inPlace now) t).1

theorem result_call {β : Type} (now : Instant) (t : Tables) (c : Call β) :
    (call c).result now t = (t.apply now c).map fun _ => () := by
  simp only [result, inPlace, InPlace.exec_bind, InPlace.exec_call, Tables.answer_eq_settle]
  rcases t.apply now c with e | ⟨b, after⟩ <;> rfl

end Operation

section

variable {α β : Type} {now : Instant} {t : Tables}

def NeverMisses (r : Except StoreError α) : Prop :=
  ∀ what, r ≠ .error (.notFound what)

theorem NeverMisses.andReturn {r : Except StoreError α} (finds : NeverMisses r) (f : α → β) :
    NeverMisses (do return f (← r)) := by
  intro what failed
  rcases bind_eq_error.1 failed with failed | ⟨_, _, failed⟩
  · exact finds what failed
  · cases failed

theorem bind_eq_notFound {r : Except StoreError α} {f : α → Except StoreError β}
    (rest : ∀ a, NeverMisses (f a)) {what : String} :
    (r >>= f) = .error (.notFound what) ↔ r = .error (.notFound what) := by
  rw [bind_eq_error]
  exact or_iff_left fun ⟨a, _, failed⟩ => rest a what failed

namespace Tables

theorem user_eq_notFound {id : UserId} {what : String} :
    t.user id = .error (.notFound what) ↔
      t.users.find? id.value = none ∧ what = "user " ++ id.render := by
  unfold user
  cases t.users.find? id.value <;> simp [eq_comm]

theorem group_eq_notFound {id : GroupId} {what : String} :
    t.group id = .error (.notFound what) ↔
      t.groups.find? id.value = none ∧ what = "group " ++ id.render := by
  unfold group
  cases t.groups.find? id.value <;> simp [eq_comm]

theorem checkUserUnique_finds (skip : Option UserId) (name email username : String) :
    NeverMisses (t.checkUserUnique skip name email username) := by
  intro what failed
  unfold checkUserUnique at failed
  simp only at failed
  split at failed
  · cases failed
  · cases failed

theorem checkGroupUnique_taken {id : GroupId} {name : String} {other : Group}
    (member : other ∈ t.groups.rows) (apart : other.id ≠ id) (same : other.name = name) :
    t.checkGroupUnique (some id) name =
      .error (.conflict ("group name '" ++ name ++ "' already exists")) := by
  have taken : (t.groups.rows.any fun g => some g.id ≠ some id ∧ g.name = name) = true :=
    List.any_eq_true.2 ⟨other, member, by simp [apart, same]⟩
  unfold checkGroupUnique
  rw [if_pos taken]

theorem checkGroupUnique_finds (skip : Option GroupId) (name : String) :
    NeverMisses (t.checkGroupUnique skip name) := by
  intro what failed
  unfold checkGroupUnique at failed
  split at failed
  · cases failed
  · cases failed

/-- What is done with a stored user does not miss another record. -/
theorem apply_of_user {c : Call β} {id : UserId} (addressed : c.target? = some (.user id)) :
    ∃ rest : StoredUser → Except StoreError (β × Tables),
      t.apply now c = t.user id >>= rest ∧ ∀ stored, NeverMisses (rest stored) := by
  have map {γ : Type} (target : UserId) (f : StoredUser → γ) :
      ∃ rest : StoredUser → Except StoreError (γ × Tables),
        ((t.user target).map fun stored => (f stored, t)) = t.user target >>= rest ∧
          ∀ stored, NeverMisses (rest stored) := by
    refine ⟨fun stored => .ok (f stored, t), ?_, fun stored what failed => nomatch failed⟩
    cases t.user target <;> rfl
  have change (target : UserId) (update : UserUpdate) (f : User → User) :
      ∃ rest : StoredUser → Except StoreError (User × Tables),
        t.changeUser target update f = t.user target >>= rest ∧ ∀ stored, NeverMisses (rest stored) :=
    ⟨_, rfl, fun stored => NeverMisses.andReturn (checkUserUnique_finds _ _ _ _) _⟩
  cases c with
  | getUser | loadAuthRecord | isActive | isAdmin | isLocked | accountState =>
    cases addressed
    exact map id _
  | updateUser target update actor =>
    cases addressed
    exact change id update (updatedRecord · update actor now)
  | updateProfile target update actor =>
    cases addressed
    exact change id update (profileRecord · update actor now)
  | deleteUser | resetPassword =>
    cases addressed
    exact ⟨_, rfl, fun stored what failed => nomatch failed⟩
  | listUsers | userExists | maxUserId | countUsers | createUser | listGroups | getGroup
  | countGroups | createGroup | updateGroup | deleteGroup | findIdByLoginName => cases addressed

theorem user_notFound_iff {o : Operation} {id : UserId} (addressed : o.target? = some (.user id))
    {what : String} :
    o.result now t = .error (.notFound what) ↔
      t.users.find? id.value = none ∧ what = "user " ++ id.render := by
  rw [← user_eq_notFound]
  cases o with
  | call c =>
    obtain ⟨rest, same, finds⟩ : ∃ rest, t.apply now c = t.user id >>= rest ∧
        ∀ stored, NeverMisses (rest stored) := apply_of_user addressed
    rw [Operation.result_call, map_eq_error, same]
    exact bind_eq_notFound finds
  | ensureAdmin => cases addressed
  | setLocked target locked | setBadPasswordCount target count =>
    cases addressed
    simp only [Operation.result, Operation.inPlace, InPlace.exec_assign]
    cases t.user id <;> simp [settle, Except.map]

theorem updateGroup_eq_notFound {id : GroupId} {update : GroupUpdate} {actor : UserId}
    {what : String} :
    t.updateGroup id update actor now = .error (.notFound what) ↔
      t.group id = .error (.notFound what) ∧
        ∀ other ∈ t.groups.rows, other.id ≠ id → other.name ≠ update.name := by
  have free : (∀ other ∈ t.groups.rows, other.id ≠ id → other.name ≠ update.name) ↔
      t.checkGroupUnique (some id) update.name = .ok () := by
    rw [checkGroupUnique_ok]
    simp only [ne_eq, Option.some.injEq]
  have found : ∀ stored : Group, NeverMisses (Except.ok (updatedGroup stored update actor now,
      t.putGroup (updatedGroup stored update actor now))) := fun stored what failed => nomatch failed
  -- the name is checked before the record is looked up, so a clash hides that it is missing
  unfold updateGroup
  rw [free, bind_eq_error, or_iff_right (checkGroupUnique_finds _ _ what)]
  constructor
  · rintro ⟨_, unique, failed⟩
    exact ⟨(bind_eq_notFound found).1 failed, unique⟩
  · rintro ⟨missing, unique⟩
    exact ⟨(), unique, (bind_eq_notFound found).2 missing⟩

/-- What an operation addressed to a group ends with. The update to a name that another group has is
    the one that says nothing of a missing record. -/
theorem group_notFound_iff {o : Operation} {id : GroupId} (addressed : o.target? = some (.group id))
    {what : String} :
    o.result now t = .error (.notFound what) ↔
      t.groups.find? id.value = none ∧ what = "group " ++ id.render ∧ ∀ name, ¬ o.TakesName t name := by
  rw [← and_assoc, ← group_eq_notFound]
  cases o with
  | ensureAdmin | setLocked | setBadPasswordCount => cases addressed
  | call c =>
    rw [Operation.result_call, map_eq_error]
    cases c with
    | getGroup target =>
      cases addressed
      exact map_eq_error.trans (and_iff_left fun _ taken => taken).symm
    | deleteGroup target =>
      cases addressed
      have found : ∀ stored : Group, NeverMisses (Except.ok ((),
          { t with groups := t.groups.erase id.value })) := fun stored what failed => nomatch failed
      exact (bind_eq_notFound found).trans (and_iff_left fun _ taken => taken).symm
    | updateGroup target update actor =>
      cases addressed
      refine updateGroup_eq_notFound.trans (and_congr_right fun _ => ?_)
      constructor
      · rintro free name ⟨rfl, other, member, apart, same⟩
        exact free other member apart same
      · intro free other member apart same
        exact free _ ⟨rfl, other, member, apart, same⟩
    | listUsers | getUser | userExists | maxUserId | countUsers | createUser | updateUser
    | updateProfile | deleteUser | listGroups | countGroups | createGroup | findIdByLoginName
    | loadAuthRecord | isActive | isAdmin | isLocked | accountState | resetPassword => cases addressed

theorem takesName_iff {o : Operation} {name : String} :
    o.TakesName t name ↔ ∃ id update actor, o = .call (.updateGroup id update actor) ∧
      update.name = name ∧ ∃ other ∈ t.groups.rows, other.id ≠ id ∧ other.name = name := by
  constructor
  · intro taken
    cases o with
    | ensureAdmin | setLocked | setBadPasswordCount => cases taken
    | call c =>
      cases c with
      | updateGroup id update actor => exact ⟨id, update, actor, rfl, taken⟩
      | listUsers | getUser | userExists | maxUserId | countUsers | createUser | updateUser
      | updateProfile | deleteUser | listGroups | getGroup | countGroups | createGroup | deleteGroup
      | findIdByLoginName | loadAuthRecord | isActive | isAdmin | isLocked | accountState
      | resetPassword => cases taken
  · rintro ⟨id, update, actor, rfl, taken⟩
    exact taken

theorem takesName_conflicts {o : Operation} {name : String} (taken : o.TakesName t name) :
    o.result now t = .error (.conflict ("group name '" ++ name ++ "' already exists")) := by
  obtain ⟨id, update, actor, rfl, rfl, other, member, apart, same⟩ := takesName_iff.1 taken
  have refused := checkGroupUnique_taken member apart same
  rw [Operation.result_call, map_eq_error]
  exact bind_eq_error.2 (.inl refused)

theorem result_eq_notFound {o : Operation} {target : Target} (addressed : o.target? = some target)
    {what : String} :
    o.result now t = .error (.notFound what) ↔
      ¬ target.Stored t ∧ what = target.text ∧ ∀ name, ¬ o.TakesName t name := by
  cases target with
  | user id =>
    have free : ∀ name, ¬ o.TakesName t name := by
      intro name taken
      obtain ⟨_, _, _, rfl, -⟩ := takesName_iff.1 taken
      cases addressed
    rw [user_notFound_iff addressed, and_iff_left free, Option.eq_none_iff_forall_ne_some]
    simp only [Target.Stored, Target.text, not_exists, ne_eq]
  | group id =>
    rw [group_notFound_iff addressed, Option.eq_none_iff_forall_ne_some]
    simp only [Target.Stored, Target.text, not_exists, ne_eq]

end Tables

end

end AccountDirectory.Store
