import AccountDirectory.Proofs.Store.Inactivation

/-!
The time of inactivation of a group. Only updates make a group inactive or active, and each of them
writes the time and the flag together, so the time is always that of the update that made it inactive.
-/

namespace AccountDirectory.Store

open AccountDirectory.Time (Instant)

/-- How a group that is stored after an operation comes by its activity. -/
inductive GroupActivity (now : Instant) (t : Tables) (o : Operation) (g : Group) : Prop where
  | kept (found : t.groups.find? g.id.value = some g)
  | begun (active : g.isActive = true) (never : g.inactivationTime = none)
  | updated {update : GroupUpdate} {actor : UserId} {before : Group}
      (updates : o = .call (.updateGroup g.id update actor))
      (found : t.groups.find? g.id.value = some before)
      (time : g.inactivationTime = Tables.inactivatedAt g.isActive before.inactivationTime now)

namespace Tables

def GroupInactive (t : Tables) (id : GroupId) : Prop :=
  ∃ g, t.groups.find? id.value = some g ∧ g.isActive = false

def GroupActive (t : Tables) (id : GroupId) : Prop :=
  ∃ g, t.groups.find? id.value = some g ∧ g.isActive = true

/-- Every group has a time of inactivation just while it is inactive. -/
def GroupsTruthful (t : Tables) : Prop :=
  ∀ g ∈ t.groups.rows, g.isActive = true ↔ g.inactivationTime = none

/-- If the group is stored, its time of inactivation is this one. -/
def GroupInactiveSince (t : Tables) (id : GroupId) (time : Instant) : Prop :=
  ∀ g, t.groups.find? id.value = some g → g.inactivationTime = some time

variable {now time : Instant} {t : Tables} {id : GroupId} {o : Operation} {g : Group} {a : Act}
  {run : List Act}

theorem group_id_of_find? (found : t.groups.find? id.value = some g) : g.id = id := by
  have own : groupKey g = id.value := Table.key_of_find? found
  exact congrArg GroupId.mk own

theorem groupActivity_perform (member : g ∈ (o.perform now t).groups.rows) : GroupActivity now t o g := by
  have change := perform_change now t o
  generalize o.perform now t = after at change member
  cases change with
  | nothing | putUser | eraseUser => exact .kept (Table.find?_of_mem member)
  | eraseGroup => exact .kept (Table.find?_of_mem (Table.mem_erase.1 member).1)
  | putGroup writes =>
    rcases Table.mem_insert.1 member with rfl | ⟨earlier, -⟩
    · cases writes with
      | created => exact .begun rfl rfl
      | updated found =>
        obtain rfl := group_id_of_find? found
        exact .updated rfl found rfl
    · exact .kept (Table.find?_of_mem earlier)

theorem groupsTruthful_perform (truthful : t.GroupsTruthful) : (o.perform now t).GroupsTruthful := by
  intro g member
  cases groupActivity_perform member with
  | kept found => exact truthful g (Table.mem_of_find? found)
  | begun active never => exact iff_of_true active never
  | updated updates found time =>
    rw [time]
    exact inactivatedAt_eq_none.symm

/-- A group that becomes inactive was active, and the update that it becomes so by leaves its clock
    reading. -/
theorem groupInactivated_perform (truthful : t.GroupsTruthful) (before : ¬ t.GroupInactive id)
    (found : (o.perform now t).groups.find? id.value = some g) (inactive : g.isActive = false) :
    (∃ update actor, o = .call (.updateGroup id update actor)) ∧ t.GroupActive id ∧
      g.inactivationTime = some now := by
  obtain rfl := group_id_of_find? found
  cases groupActivity_perform (Table.mem_of_find? found) with
  | kept earlier => exact absurd ⟨g, earlier, inactive⟩ before
  | begun active =>
    rw [inactive] at active
    cases active
  | @updated update actor earlier updates present time =>
    have active : earlier.isActive = true := by
      cases was : earlier.isActive with
      | true => rfl
      | false => exact absurd ⟨earlier, present, was⟩ before
    have never := (truthful earlier (Table.mem_of_find? present)).1 active
    refine ⟨⟨update, actor, updates⟩, ⟨earlier, present, active⟩, ?_⟩
    rw [time, inactive, never]
    rfl

theorem groupInactiveSince_perform (since : t.GroupInactiveSince id time)
    (after : (o.perform now t).GroupInactive id) : (o.perform now t).GroupInactiveSince id time := by
  intro g found
  obtain ⟨other, again, inactive⟩ := after
  cases found.symm.trans again
  obtain rfl := group_id_of_find? found
  cases groupActivity_perform (Table.mem_of_find? found) with
  | kept earlier => exact since g earlier
  | begun active =>
    rw [inactive] at active
    cases active
  | updated updates present same =>
    rw [same, inactive, since _ present]
    rfl

theorem Initial.no_groups (initial : t.Initial) : t.groups.rows = [] := by
  cases initial with
  | empty | bootstrap => rfl

theorem groupsTruthful_play (initial : t.Initial) : (t.play run).GroupsTruthful := by
  have start : t.GroupsTruthful := by
    intro g member
    rw [initial.no_groups] at member
    cases member
  refine Run.along (P := fun part => (t.play part).GroupsTruthful) start (fun before a rest _ here => ?_)
    run List.prefix_rfl
  rw [play_append]
  exact groupsTruthful_perform here

/-- In every state that a new store reaches, the groups have a time of inactivation just while they are
    inactive. The time of an inactive group is the clock reading of the update that turned it from
    active to inactive, and after which it stayed inactive, with this time all along. -/
theorem group_inactivation_recorded (initial : t.Initial) (run : List Act) :
    (∀ part, part <+: run → ∀ g ∈ (t.play part).groups.rows,
      g.isActive = true ↔ g.inactivationTime = none) ∧
    ∀ id g, (t.play run).groups.find? id.value = some g → g.isActive = false →
      ∃ before a rest, run = before ++ a :: rest ∧
        (∃ update actor, a.operation = .call (.updateGroup id update actor)) ∧
        (t.play before).GroupActive id ∧ g.inactivationTime = some a.clock ∧
        ∀ part, part <+: rest → ∃ h, (t.play (before ++ a :: part)).groups.find? id.value = some h ∧
          h.isActive = false ∧ h.inactivationTime = some a.clock := by
  refine ⟨fun part _ => groupsTruthful_play initial, fun id g found inactive => ?_⟩
  have absent : ¬ t.GroupInactive id := by
    rintro ⟨first, present, -⟩
    have member := Table.mem_of_find? present
    rw [initial.no_groups] at member
    cases member
  have turns : ∀ before a rest, run = before ++ a :: rest → ¬ (t.play before).GroupInactive id →
      ((t.play before).act a).GroupInactive id →
        ((∃ update actor, a.operation = .call (.updateGroup id update actor)) ∧
          (t.play before).GroupActive id) ∧ ((t.play before).act a).GroupInactiveSince id a.clock := by
    rintro before a rest - missing ⟨turned, present, closed⟩
    obtain ⟨updates, active, time⟩ :=
      groupInactivated_perform (groupsTruthful_play initial) missing present closed
    refine ⟨⟨updates, active⟩, fun other again => ?_⟩
    cases present.symm.trans again
    exact time
  obtain ⟨before, a, rest, place, ⟨updates, active⟩, kept⟩ :=
    Run.since (P := fun t : Tables => t.GroupInactive id)
      (Q := fun t (a : Act) =>
        (∃ update actor, a.operation = .call (.updateGroup id update actor)) ∧ t.GroupActive id)
      (F := fun (a : Act) (t : Tables) => t.GroupInactiveSince id a.clock) absent
      ⟨g, found, inactive⟩ turns fun _ _ _ => groupInactiveSince_perform
  subst place
  have last := (kept rest List.prefix_rfl).2 g found
  refine ⟨before, a, rest, rfl, updates, active, last, fun part inside => ?_⟩
  obtain ⟨⟨h, present, closed⟩, time⟩ := kept part inside
  exact ⟨h, present, closed, time h present⟩

/-- A group is made inactive, renamed, made active, refused a name that is taken, and made inactive
    once more. -/
theorem group_inactivation_recorded_twice :
    let start : Instant := { seconds := 0, nanos := 0 }
    let last : Instant := { seconds := 5, nanos := 0 }
    let create (name : String) : Act :=
      { clock := start, operation := .call (.createGroup { name, comment := none } .bootstrap) }
    let update (clock : Instant) (name : String) (isActive : Bool) : Act :=
      { clock
        operation := .call (.updateGroup ⟨1⟩
          { name, isActive, inactivationReason := none, comment := none } .bootstrap) }
    let run : List Act :=
      [create "Staff", create "Guests", update { seconds := 1, nanos := 0 } "Staff" false,
        update { seconds := 2, nanos := 0 } "Crew" false, update { seconds := 3, nanos := 0 } "Crew" true,
        update { seconds := 4, nanos := 0 } "Guests" false, update last "Crew" false]
    let t : Tables := {}
    (∀ part, part <+: run → ∀ g ∈ (t.play part).groups.rows,
      g.isActive = true ↔ g.inactivationTime = none) ∧
    ∃ g before a rest, (t.play run).groups.find? 1 = some g ∧ g.isActive = false ∧
      run = before ++ a :: rest ∧ (t.play before).GroupActive ⟨1⟩ ∧
      g.inactivationTime = some a.clock ∧ a.clock = last := by
  intro start last create update run t
  have finish : ((t.play run).groups.find? 1).map (fun g => (g.isActive, g.inactivationTime)) =
      some (false, some last) := by decide +kernel
  obtain ⟨g, found, left⟩ := Option.map_eq_some_iff.1 finish
  obtain ⟨inactive, time⟩ := Prod.mk.inj left
  obtain ⟨truthful, recorded⟩ := group_inactivation_recorded .empty run
  obtain ⟨before, a, rest, place, -, active, since, -⟩ := recorded ⟨1⟩ g found inactive
  exact ⟨truthful, g, before, a, rest, found, inactive, place, active, since,
    Option.some.inj (since.symm.trans time)⟩

end Tables

end AccountDirectory.Store
