import AccountDirectory.Proofs.Store.Operation

/-!
The time of inactivation of an account: it is there just while the account is inactive, and it is
that of the operation that made it inactive. Only the setting up of an inactive administrator, which
makes the account active and leaves the time, breaks this.
-/

namespace AccountDirectory.Store

open AccountDirectory.Crypto (Salt)
open AccountDirectory.Time (Instant)

/-- How an operation that stores a record comes by its activity. -/
inductive Activity (now : Instant) (t : Tables) (o : Operation) (u : User) : Prop where
  | begun (active : u.isActive = true) (never : u.inactivationTime = none)
  | kept {before : StoredUser} (found : t.users.find? u.id.value = some before)
      (active : u.isActive = before.user.isActive)
      (time : u.inactivationTime = before.user.inactivationTime)
  | updated {before : StoredUser} (found : t.users.find? u.id.value = some before)
      (time : u.inactivationTime =
        Tables.inactivatedAt u.isActive before.user.inactivationTime now)
  | restored {before : StoredUser} (seeds : o.seeds = true) (own : u.id = .bootstrap)
      (found : t.users.find? u.id.value = some before) (active : u.isActive = true)
      (time : u.inactivationTime = before.user.inactivationTime)

namespace Tables

def Inactive (t : Tables) (id : UserId) : Prop :=
  ∃ stored, t.users.find? id.value = some stored ∧ stored.user.isActive = false

def Active (t : Tables) (id : UserId) : Prop :=
  ∃ stored, t.users.find? id.value = some stored ∧ stored.user.isActive = true

/-- If the account is stored, it has a time of inactivation just while it is inactive. -/
def Truthful (t : Tables) (id : UserId) : Prop :=
  ∀ stored, t.users.find? id.value = some stored →
    (stored.user.isActive = true ↔ stored.user.inactivationTime = none)

/-- If the account is stored, its time of inactivation is this one. -/
def InactiveSince (t : Tables) (id : UserId) (time : Instant) : Prop :=
  ∀ stored, t.users.find? id.value = some stored → stored.user.inactivationTime = some time

end Tables

/-- The operation sets the administrator up while the account is inactive. -/
def Operation.Revives (t : Tables) (id : UserId) (o : Operation) : Prop :=
  o.seeds = true ∧ id = .bootstrap ∧ t.Inactive id

namespace Tables

variable {now : Instant} {t : Tables} {id : UserId} {o : Operation} {stored : StoredUser}
  {last : Int32}

theorem activity_of_writes (writes : WritesUser now t o stored last) :
    Activity now t o stored.user := by
  cases writes with
  | created | seeded => exact .begun rfl rfl
  | @updated id actor update before found =>
    have own : before.user.id = id := id_of_find? found
    subst own
    exact .updated found rfl
  | @profiled id actor update before found | @reset id actor digest before found
  | @locked id locked before found | @counted id count before found =>
    have own : before.user.id = id := id_of_find? found
    subst own
    exact .kept found rfl rfl
  | @restored admin salt before found =>
    have own : before.user.id = .bootstrap := id_of_find? found
    have present : t.users.find? before.user.id.value = some before := own ▸ found
    exact .restored rfl own present rfl rfl

/-- What an operation leaves under an identifier: what stood there, nothing, or a new record. -/
theorem activity_perform (found : (o.perform now t).users.find? id.value = some stored) :
    t.users.find? id.value = some stored ∨ (stored.user.id = id ∧ Activity now t o stored.user) := by
  rcases find?_perform now t o id with kept | ⟨-, gone⟩ | ⟨written, last, writes, own, put⟩
  · exact .inl (kept ▸ found)
  · cases gone.symm.trans found
  · cases put.symm.trans found
    exact .inr ⟨own, activity_of_writes writes⟩

theorem inactivatedAt_eq_none {active : Bool} {before : Option Instant} :
    inactivatedAt active before now = none ↔ active = true := by
  cases active with
  | true => simp [inactivatedAt]
  | false => cases before <;> simp [inactivatedAt]

theorem truthful_of_quiet (truthful : t.Truthful id) (quiet : ¬ o.Revives t id) :
    (o.perform now t).Truthful id := by
  intro stored found
  rcases activity_perform found with kept | ⟨rfl, activity⟩
  · exact truthful stored kept
  · cases activity with
    | begun active never => exact iff_of_true active never
    | kept found active time =>
      rw [active, time]
      exact truthful _ found
    | updated found time =>
      rw [time]
      exact inactivatedAt_eq_none.symm
    | @restored before seeds own found active time =>
      have wasActive : before.user.isActive = true := by
        cases was : before.user.isActive with
        | true => rfl
        | false => exact absurd ⟨seeds, own, before, found, was⟩ quiet
      exact iff_of_true active (time.trans ((truthful before found).1 wasActive))

/-- The administrator is active after being set up, with the time of inactivation it had before. -/
theorem ensureAdmin_find? (found : t.users.find? UserId.bootstrap.value = some stored)
    (admin : AdminAccount) (salt : Salt) :
    (t.ensureAdmin admin salt now).users.find? UserId.bootstrap.value =
      some { user := restoredRecord stored.user admin now
             credentialDigest := admin.credentialDigest salt } := by
  have own : stored.user.id = .bootstrap := id_of_find? found
  simp only [ensureAdmin, found]
  exact find?_putUser_of_id own

/-- One operation keeps the time of inactivation truthful unless it revives the account. -/
theorem truthful_perform (now : Instant) (o : Operation) (truthful : t.Truthful id) :
    (o.perform now t).Truthful id ↔ ¬ o.Revives t id := by
  refine ⟨fun kept revives => ?_, truthful_of_quiet truthful⟩
  obtain ⟨seeds, rfl, stored, found, inactive⟩ := revives
  cases o with
  | call | setLocked | setBadPasswordCount => cases seeds
  | ensureAdmin admin salt =>
    have never := (kept _ (ensureAdmin_find? found admin salt)).1 rfl
    have active := (truthful stored found).2 never
    rw [inactive] at active
    cases active

/-- An account that becomes inactive was active, and takes the time of the operation. -/
theorem inactiveSince_of_inactivated (truthful : t.Truthful id) (before : ¬ t.Inactive id)
    (found : (o.perform now t).users.find? id.value = some stored)
    (inactive : stored.user.isActive = false) :
    t.Active id ∧ stored.user.inactivationTime = some now := by
  rcases activity_perform found with kept | ⟨rfl, activity⟩
  · exact absurd ⟨stored, kept, inactive⟩ before
  · cases activity with
    | begun active | restored _ _ _ active =>
      rw [inactive] at active
      cases active
    | kept found active => exact absurd ⟨_, found, active.symm.trans inactive⟩ before
    | @updated earlier found time =>
      have active : earlier.user.isActive = true := by
        cases was : earlier.user.isActive with
        | true => rfl
        | false => exact absurd ⟨earlier, found, was⟩ before
      have never := (truthful earlier found).1 active
      refine ⟨⟨earlier, found, active⟩, ?_⟩
      rw [time, inactive, never]
      rfl

/-- An account that stays inactive keeps its time. -/
theorem inactiveSince_perform {time : Instant} (since : t.InactiveSince id time)
    (after : (o.perform now t).Inactive id) : (o.perform now t).InactiveSince id time := by
  intro stored found
  obtain ⟨other, again, inactive⟩ := after
  cases found.symm.trans again
  rcases activity_perform found with kept | ⟨rfl, activity⟩
  · exact since stored kept
  · cases activity with
    | begun active | restored _ _ _ active =>
      rw [inactive] at active
      cases active
    | kept found _ same => exact same.trans (since _ found)
    | updated found same =>
      rw [same, inactive, since _ found]
      rfl

theorem Initial.active (initial : t.Initial) (found : t.users.find? id.value = some stored) :
    stored.user.isActive = true ∧ stored.user.inactivationTime = none := by
  cases initial with
  | empty => cases found
  | bootstrap admin salt start =>
    have performed : ((Operation.ensureAdmin admin salt).perform start {}).users.find? id.value =
      some stored := found
    rcases activity_perform performed with kept | ⟨-, activity⟩
    · cases kept
    · cases activity with
      | begun active never => exact ⟨active, never⟩
      | kept found | updated found | restored _ _ found => cases found

variable {run : List Act}

/-- An account that is inactive at the end of a run has the time of the operation that made it so
    and after which it stayed inactive. -/
theorem inactive_since_last (initial : t.Initial)
    (truthful : ∀ part, part <+: run → (t.play part).Truthful id)
    (found : (t.play run).users.find? id.value = some stored)
    (inactive : stored.user.isActive = false) :
    ∃ before a rest, run = before ++ a :: rest ∧ (t.play before).Active id ∧
      stored.user.inactivationTime = some a.clock ∧
      ∀ part, part <+: rest → (t.play (before ++ a :: part)).Inactive id := by
  have atStart : ¬ t.Inactive id := by
    rintro ⟨first, present, closed⟩
    rw [(initial.active present).1] at closed
    cases closed
  have turns : ∀ before a rest, run = before ++ a :: rest → ¬ (t.play before).Inactive id →
      ((t.play before).act a).Inactive id →
        (t.play before).Active id ∧ ((t.play before).act a).InactiveSince id a.clock := by
    rintro before a rest place absent ⟨turned, present, closed⟩
    have earlier := truthful before ⟨a :: rest, place.symm⟩
    obtain ⟨active, time⟩ := inactiveSince_of_inactivated earlier absent present closed
    refine ⟨active, fun other again => ?_⟩
    cases present.symm.trans again
    exact time
  obtain ⟨before, a, rest, place, active, kept⟩ :=
    Run.since (P := fun t : Tables => t.Inactive id) (Q := fun t (_ : Act) => t.Active id)
      (F := fun (a : Act) (t : Tables) => t.InactiveSince id a.clock) atStart
      ⟨stored, found, inactive⟩ turns fun _ _ _ => inactiveSince_perform
  refine ⟨before, a, rest, place, active, ?_, fun part inside => (kept part inside).1⟩
  subst place
  exact (kept rest List.prefix_rfl).2 stored found

/-- Along every run of a new store, an account has a time of inactivation just while it is inactive,
    exactly if setting the administrator up never revives it. That time is then the one at which it
    was last made inactive. -/
theorem inactivation_recorded_iff (initial : t.Initial) (run : List Act) (id : UserId) :
    ((∀ part, part <+: run → (t.play part).Truthful id) ↔
      ∀ before a rest, run = before ++ a :: rest → ¬ a.operation.Revives (t.play before) id) ∧
    ((∀ before a rest, run = before ++ a :: rest → ¬ a.operation.Revives (t.play before) id) →
      ∀ stored, (t.play run).users.find? id.value = some stored → stored.user.isActive = false →
        ∃ before a rest, run = before ++ a :: rest ∧ (t.play before).Active id ∧
          stored.user.inactivationTime = some a.clock ∧
          ∀ part, part <+: rest → (t.play (before ++ a :: part)).Inactive id) := by
  have start : t.Truthful id := fun stored found =>
    have ⟨active, never⟩ := initial.active found
    iff_of_true active never
  have truthful_iff : (∀ part, part <+: run → (t.play part).Truthful id) ↔
      ∀ before a rest, run = before ++ a :: rest → ¬ a.operation.Revives (t.play before) id :=
    Run.holds_along_iff (P := fun t : Tables => t.Truthful id)
      (Q := fun t (a : Act) => ¬ a.operation.Revives t id) start fun _ a truthful =>
        truthful_perform a.clock a.operation truthful
  refine ⟨truthful_iff, fun quiet stored found inactive => ?_⟩
  exact inactive_since_last initial (truthful_iff.2 quiet) found inactive

/-- The administrator is made inactive and active again, set up while it is active, and made inactive
    once more. -/
theorem inactivation_recorded_iff_twice :
    let admin : AdminAccount := { username := "admin", email := "a@e.org", password := "p" }
    let salt : Salt := ⟨List.replicate 16 0, by decide⟩
    let update (isActive : Bool) : Operation := .call (.updateUser .bootstrap
      { id := .bootstrap, name := "Admin", email := "a@e.org", username := "admin",
        externalId := none, orgUnitId := none, groupIds := [], phone := none, isLocked := false,
        isAdmin := true, isActive, inactivationReason := none, comment := none } .bootstrap)
    let t : Tables := withBootstrapAdmin admin salt { seconds := 0, nanos := 0 }
    let run : List Act :=
      [{ clock := { seconds := 1, nanos := 0 }, operation := update false },
        { clock := { seconds := 2, nanos := 0 }, operation := update true },
        { clock := { seconds := 3, nanos := 0 }, operation := .ensureAdmin admin salt },
        { clock := { seconds := 4, nanos := 0 }, operation := update false }]
    t.Initial ∧
      (∀ before a rest, run = before ++ a :: rest →
        ¬ a.operation.Revives (t.play before) .bootstrap) ∧
      (t.play run).Truthful .bootstrap ∧
      ∃ before a rest stored, run = before ++ a :: rest ∧
        (t.play run).users.find? UserId.bootstrap.value = some stored ∧
        stored.user.inactivationTime = some a.clock ∧ a.clock.seconds = 4 := by
  intro admin salt update t run
  have initial : t.Initial := .bootstrap admin salt _
  have quiet : ∀ before a rest, run = before ++ a :: rest →
      ¬ a.operation.Revives (t.play before) .bootstrap := by
    rintro before a rest place ⟨seeds, -, stored, found, inactive⟩
    match before with
    | [] | [_] | [_, _, _] =>
      simp only [run, List.cons_append, List.nil_append, List.cons.injEq] at place
      simp only [← place] at seeds
      cases seeds
    | [_, _] =>
      simp only [run, List.cons_append, List.nil_append, List.cons.injEq] at place
      obtain ⟨rfl, rfl, -⟩ := place
      cases found
      cases inactive
    | _ :: _ :: _ :: _ :: before => simp [run] at place
  have finish : ∃ stored, (t.play run).users.find? UserId.bootstrap.value = some stored ∧
      stored.user.isActive = false ∧
      stored.user.inactivationTime = some { seconds := 4, nanos := 0 } := ⟨_, rfl, rfl, rfl⟩
  obtain ⟨stored, found, inactive, atFour⟩ := finish
  obtain ⟨truthful, since⟩ := inactivation_recorded_iff initial run .bootstrap
  obtain ⟨before, a, rest, place, -, time, -⟩ := since quiet stored found inactive
  have clock : a.clock = { seconds := 4, nanos := 0 } := Option.some.inj (time.symm.trans atFour)
  exact ⟨initial, quiet, truthful.2 quiet run List.prefix_rfl, before, a, rest, stored, place, found,
    time, congrArg Instant.seconds clock⟩

/-- An administrator that is set up while it is inactive becomes active and keeps the time, which
    then is taken for that of the next inactivation. -/
theorem inactivation_kept_by_seeding :
    let admin : AdminAccount := { username := "admin", email := "a@e.org", password := "p" }
    let salt : Salt := ⟨List.replicate 16 0, by decide⟩
    let leave : Operation := .call (.updateUser .bootstrap
      { id := .bootstrap, name := "Admin", email := "a@e.org", username := "admin",
        externalId := none, orgUnitId := none, groupIds := [], phone := none, isLocked := false,
        isAdmin := true, isActive := false, inactivationReason := none, comment := none } .bootstrap)
    let t : Tables := withBootstrapAdmin admin salt { seconds := 0, nanos := 0 }
    let run : List Act :=
      [{ clock := { seconds := 1, nanos := 0 }, operation := leave },
        { clock := { seconds := 2, nanos := 0 }, operation := .ensureAdmin admin salt }]
    let again : Act := { clock := { seconds := 3, nanos := 0 }, operation := leave }
    t.Initial ∧ ¬ (t.play run).Truthful .bootstrap ∧ (t.play run).Active .bootstrap ∧
      (t.play (run ++ [again])).Inactive .bootstrap ∧
      (t.play (run ++ [again])).InactiveSince .bootstrap { seconds := 1, nanos := 0 } := by
  intro admin salt leave t run again
  refine ⟨.bootstrap admin salt _, ?_, ⟨_, rfl, rfl⟩, ⟨_, rfl, rfl⟩, ?_⟩
  · intro truthful
    cases (truthful _ rfl).1 rfl
  · intro stored found
    cases found
    rfl

end Tables

end AccountDirectory.Store
