import AccountDirectory.Proofs.Store.Memory
import Mathlib.Data.Finset.Dedup

/-!
The administrative changes that an update asks for. Groups are compared in ascending order and each
of them once, so that only which groups they are matters.
-/

namespace AccountDirectory

open AccountDirectory.Store (StoredUser Tables)
open AccountDirectory.Time (Instant)

section

variable {α : Type} [DecidableEq α]

theorem eraseReps_loop_cons (a b : α) (l kept : List α) :
    List.eraseRepsBy.loop (· == ·) a (b :: l) kept =
      if a = b then List.eraseRepsBy.loop (· == ·) a l kept
      else List.eraseRepsBy.loop (· == ·) b l (a :: kept) := by
  rw [List.eraseRepsBy.loop]
  by_cases same : a = b
  · rw [if_pos same, beq_iff_eq.2 same]
  · rw [if_neg same, beq_false_of_ne same]

theorem eraseReps_loop (a : α) (l kept : List α) :
    List.eraseRepsBy.loop (· == ·) a l kept =
      kept.reverse ++ List.eraseRepsBy.loop (· == ·) a l [] := by
  induction l generalizing a kept with
  | nil => simp [List.eraseRepsBy.loop]
  | cons b l ih =>
    rw [eraseReps_loop_cons, eraseReps_loop_cons]
    split
    · exact ih a kept
    · rw [ih b (a :: kept), ih b [a]]
      simp

theorem eraseReps_cons_cons (a b : α) (l : List α) :
    (a :: b :: l).eraseReps = if a = b then (b :: l).eraseReps else a :: (b :: l).eraseReps := by
  change List.eraseRepsBy.loop (· == ·) a (b :: l) [] = _
  rw [eraseReps_loop_cons]
  split
  · rename_i same
    rw [same]
    rfl
  · rw [eraseReps_loop]
    rfl

theorem mem_eraseReps {x : α} {l : List α} : x ∈ l.eraseReps ↔ x ∈ l := by
  induction l with
  | nil => rfl
  | cons a l ih =>
    cases l with
    | nil => rfl
    | cons b l =>
      rw [eraseReps_cons_cons]
      split
      · rename_i same
        simp [ih, same]
      · simp only [List.mem_cons, ih]

end

namespace AdminField

variable {a b : List GroupId}

theorem ascending_eraseReps {l : List GroupId} (sorted : l.Pairwise fun x y => x.value ≤ y.value) :
    l.eraseReps.Pairwise fun x y => x.value < y.value := by
  induction l with
  | nil => exact List.Pairwise.nil
  | cons g l ih =>
    obtain ⟨below, rest⟩ := List.pairwise_cons.1 sorted
    have kept := ih rest
    cases l with
    | nil => exact List.pairwise_singleton _ g
    | cons h l =>
      rw [eraseReps_cons_cons]
      split
      · exact kept
      · rename_i other
        have less : g.value < h.value :=
          Int32.lt_of_le_of_ne (below h List.mem_cons_self) fun same => other (congrArg GroupId.mk same)
        refine List.pairwise_cons.2 ⟨fun x member => ?_, kept⟩
        rcases List.mem_cons.1 (mem_eraseReps.1 member) with rfl | later
        · exact less
        · exact Int32.lt_of_lt_of_le less ((List.pairwise_cons.1 rest).1 x later)

theorem mem_inOrder {g : GroupId} {ids : List GroupId} : g ∈ inOrder ids ↔ g ∈ ids := by
  unfold inOrder
  rw [mem_eraseReps, List.mem_mergeSort]

theorem ascending_inOrder (ids : List GroupId) :
    (inOrder ids).Pairwise fun x y => x.value < y.value := by
  have pairs : (ids.mergeSort fun x y => x.value ≤ y.value).Pairwise fun x y =>
      decide (x.value ≤ y.value) = true := by
    refine List.pairwise_mergeSort (fun x y z first second => ?_) (fun x y => ?_) ids
    · simp only [decide_eq_true_eq] at first second ⊢
      exact Int32.le_trans first second
    · simpa using Int32.le_total x.value y.value
  exact ascending_eraseReps (by simpa using pairs)

/-- Two lists come to the same in ascending order, each group once, just when they have the same
    groups. -/
theorem inOrder_eq_iff : inOrder a = inOrder b ↔ a.toFinset = b.toFinset := by
  constructor
  · intro same
    ext g
    rw [List.mem_toFinset, List.mem_toFinset, ← mem_inOrder, same, mem_inOrder]
  · intro same
    have members : ∀ g, g ∈ inOrder a ↔ g ∈ inOrder b := by
      intro g
      rw [mem_inOrder, mem_inOrder, ← List.mem_toFinset, same, List.mem_toFinset]
    have nodup (ids : List GroupId) : (inOrder ids).Nodup := by
      refine (ascending_inOrder ids).imp fun less => ?_
      rintro rfl
      exact Int32.lt_irrefl less
    have perm := (List.perm_ext_iff_of_nodup (nodup a) (nodup b)).2 members
    refine perm.eq_of_pairwise (fun x y _ _ less more => ?_) (ascending_inOrder a) (ascending_inOrder b)
    exact absurd (Int32.lt_trans less more) Int32.lt_irrefl

/-- The update gives the field another value than the account has. Of the groups only the set
    counts. -/
def Changed (u : UserUpdate) (current : User) : AdminField → Prop
  | isAdmin => u.isAdmin ≠ current.isAdmin
  | isLocked => u.isLocked ≠ current.isLocked
  | isActive => u.isActive ≠ current.isActive
  | groups => u.groupIds.toFinset ≠ current.groupIds.toFinset
  | orgUnit => u.orgUnitId ≠ current.orgUnitId
  | external => u.externalId ≠ current.externalId

instance (u : UserUpdate) (current : User) : DecidablePred (Changed u current)
  | isAdmin => inferInstanceAs (Decidable (u.isAdmin ≠ current.isAdmin))
  | isLocked => inferInstanceAs (Decidable (u.isLocked ≠ current.isLocked))
  | isActive => inferInstanceAs (Decidable (u.isActive ≠ current.isActive))
  | groups => inferInstanceAs (Decidable (u.groupIds.toFinset ≠ current.groupIds.toFinset))
  | orgUnit => inferInstanceAs (Decidable (u.orgUnitId ≠ current.orgUnitId))
  | external => inferInstanceAs (Decidable (u.externalId ≠ current.externalId))

variable {u : UserUpdate} {current : User} {field : AdminField}

theorem differs_iff : differs u current field = true ↔ Changed u current field := by
  cases field with
  | groups =>
    rw [Changed, ne_eq, ← inOrder_eq_iff]
    exact bne_iff_ne
  | isAdmin | isLocked | isActive | orgUnit | external => exact bne_iff_ne

end AdminField

/-- The two records of an account are alike in what only an administrator may change. -/
structure User.SameAdministration (before after : User) : Prop where
  isAdmin : after.isAdmin = before.isAdmin
  isLocked : after.isLocked = before.isLocked
  isActive : after.isActive = before.isActive
  groups : after.groupIds.toFinset = before.groupIds.toFinset
  orgUnit : after.orgUnitId = before.orgUnitId
  external : after.externalId = before.externalId

section

variable {u : UserUpdate} {current : User} {actor : UserId} {now : Instant}

theorem UserUpdate.administrativeChanges_eq (u : UserUpdate) (current : User) :
    u.administrativeChanges current = AdminField.all.filter (AdminField.Changed u current ·) := by
  refine List.filter_congr fun field _ => ?_
  rw [Bool.eq_iff_iff, decide_eq_true_iff]
  exact AdminField.differs_iff

theorem UserUpdate.administrativeChanges_eq_nil :
    u.administrativeChanges current = [] ↔
      current.SameAdministration (Tables.updatedRecord current u actor now) := by
  have unchanged : u.administrativeChanges current = [] ↔
      ∀ field ∈ AdminField.all, ¬ AdminField.Changed u current field := by
    rw [u.administrativeChanges_eq, List.filter_eq_nil_iff]
    simp only [decide_eq_true_iff]
  rw [unchanged]
  constructor
  · intro none
    have same (field : AdminField) : ¬ AdminField.Changed u current field :=
      none field (by cases field <;> decide)
    exact ⟨not_not.1 (same .isAdmin), not_not.1 (same .isLocked), not_not.1 (same .isActive),
      not_not.1 (same .groups), not_not.1 (same .orgUnit), not_not.1 (same .external)⟩
  · intro same field _
    cases field with
    | isAdmin => exact not_not_intro same.isAdmin
    | isLocked => exact not_not_intro same.isLocked
    | isActive => exact not_not_intro same.isActive
    | groups => exact not_not_intro same.groups
    | orgUnit => exact not_not_intro same.orgUnit
    | external => exact not_not_intro same.external

end

/-- The administrative changes are the fields, in their order, to which the update gives another value;
    of either list of groups neither the order nor repetitions matter. There are none just when a full
    update of the account, also by the store, leaves the administration of it as it is. -/
theorem administrative_changes_exact (u : UserUpdate) (current : User) :
    AdminField.all.map AdminField.name =
      ["is_admin", "is_locked", "is_active", "groups_id", "orgunit_id", "external_id"] ∧
    u.administrativeChanges current = AdminField.all.filter (AdminField.Changed u current ·) ∧
    (∀ wanted stored, (∀ g, g ∈ wanted ↔ g ∈ u.groupIds) → (∀ g, g ∈ stored ↔ g ∈ current.groupIds) →
      { u with groupIds := wanted }.administrativeChanges { current with groupIds := stored } =
        u.administrativeChanges current) ∧
    (∀ actor now, u.administrativeChanges current = [] ↔
      current.SameAdministration (Tables.updatedRecord current u actor now)) ∧
    ∀ (t after : Tables) id actor now digest written,
      t.users.find? id.value = some { user := current, credentialDigest := digest } →
      t.apply now (.updateUser id u actor) = .ok (written, after) →
        (u.administrativeChanges current = [] ↔ current.SameAdministration written) := by
  refine ⟨rfl, u.administrativeChanges_eq current, fun wanted stored ids held => ?_,
    fun actor now => UserUpdate.administrativeChanges_eq_nil,
    fun t after id actor now digest written found done => ?_⟩
  · have same {a b : List GroupId} (members : ∀ g, g ∈ a ↔ g ∈ b) : a.toFinset = b.toFinset := by
      ext g
      rw [List.mem_toFinset, List.mem_toFinset, members]
    rw [UserUpdate.administrativeChanges_eq, u.administrativeChanges_eq]
    refine List.filter_congr fun field _ => decide_eq_decide.2 ?_
    cases field with
    | groups => rw [AdminField.Changed, AdminField.Changed, same ids, same held]
    | isAdmin | isLocked | isActive | orgUnit | external => rfl
  · have changed : t.changeUser id u (Tables.updatedRecord · u actor now) = .ok (written, after) := done
    obtain ⟨stored, again, -, rfl, -⟩ := Tables.changeUser_ok changed
    cases found.symm.trans again
    exact UserUpdate.administrativeChanges_eq_nil

/-- The groups of an account come in another order and twice, beside a new phone number. -/
theorem administrative_changes_exact_reordered :
    let now : Instant := { seconds := 0, nanos := 0 }
    let current : User :=
      { id := ⟨2⟩, name := "Lovelace", email := "b@e.org", username := "lovelace", externalId := none,
        orgUnitId := some 7, groupIds := [⟨5⟩, ⟨3⟩], phone := none, isLocked := false, isAdmin := false,
        createTime := now, creator := .bootstrap, lastModificationTime := none,
        lastModificationUser := none, isActive := true, inactivationTime := none,
        inactivationReason := none, comment := none, badPasswordCount := 0 }
    let u : UserUpdate :=
      { id := ⟨2⟩, name := "Lovelace", email := "b@e.org", username := "lovelace", externalId := none,
        orgUnitId := some 7, groupIds := [⟨3⟩, ⟨5⟩, ⟨3⟩], phone := some "7", isLocked := false,
        isAdmin := false, isActive := true, inactivationReason := none, comment := none }
    let t : Tables := Tables.putUser {} { user := current, credentialDigest := "" }
    ∃ written after, t.apply now (.updateUser ⟨2⟩ u .bootstrap) = .ok (written, after) ∧
      u.administrativeChanges current = [] ∧ current.SameAdministration written ∧
      { u with groupIds := [⟨5⟩, ⟨3⟩] }.administrativeChanges current = [] := by
  intro now current u t
  obtain ⟨-, listed, invariant, -, stored⟩ := administrative_changes_exact u current
  have none : u.administrativeChanges current = [] := by
    rw [listed]
    decide
  have done : ∃ written after, t.apply now (.updateUser ⟨2⟩ u .bootstrap) = .ok (written, after) :=
    ⟨_, _, rfl⟩
  obtain ⟨written, after, done⟩ := done
  have kept := (stored t after ⟨2⟩ .bootstrap now "" written rfl done).1 none
  have again := invariant [⟨5⟩, ⟨3⟩] current.groupIds (fun g => by simp [u, or_comm]) fun g => Iff.rfl
  exact ⟨written, after, done, none, kept, again.trans none⟩

end AccountDirectory
