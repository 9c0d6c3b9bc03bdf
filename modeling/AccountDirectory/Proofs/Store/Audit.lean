import AccountDirectory.Proofs.Store.Identifiers
import AccountDirectory.Proofs.Store.Missing

/-!
The audit trail. A record says who made it and when, and who rewrote it last and when: along every
run these are the actors and the clock readings of the operations that did so.
-/

namespace AccountDirectory.Store

open AccountDirectory.Time (Instant)

/-- What a record says of its making and of the last change to it. -/
structure Stamps where
  number : Int32
  creator : UserId
  created : Instant
  changer : Option UserId
  changed : Option Instant
deriving DecidableEq, Repr

namespace Stamps

def ofUser (u : User) : Stamps where
  number := u.id.value
  creator := u.creator
  created := u.createTime
  changer := u.lastModificationUser
  changed := u.lastModificationTime

def ofGroup (g : Group) : Stamps where
  number := g.id.value
  creator := g.creator
  created := g.createTime
  changer := g.lastModificationUser
  changed := g.lastModificationTime

def fresh (number : Int32) (creator : UserId) (created : Instant) : Stamps where
  number := number
  creator := creator
  created := created
  changer := none
  changed := none

def rewritten (s : Stamps) (actor : UserId) (now : Instant) : Stamps :=
  { s with changer := some actor, changed := some now }

end Stamps

def Kind.stamps? (t : Tables) (k : Int32) : Kind → Option Stamps
  | user => (t.users.find? k).map fun stored => .ofUser stored.user
  | group => (t.groups.find? k).map .ofGroup

/-- The operation puts a new record under a number: it creates one and answers its number, or it sets
    up an administrator who is not there. -/
inductive Inserts (t : Tables) (a : Act) : Kind → Int32 → UserId → Prop where
  | user {new : NewUser} {creator : UserId} {u : User}
      (creates : a.operation = .call (.createUser new creator))
      (answered : t.reply a.clock (.createUser new creator) = .ok u) :
      Inserts t a .user u.id.value creator
  | group {new : NewGroup} {creator : UserId} {g : Group}
      (creates : a.operation = .call (.createGroup new creator))
      (answered : t.reply a.clock (.createGroup new creator) = .ok g) :
      Inserts t a .group g.id.value creator
  | administrator (seeds : a.operation.seeds = true)
      (absent : ¬ Kind.user.Holds t UserId.bootstrap.value) :
      Inserts t a .user UserId.bootstrap.value .bootstrap

/-- The record that an operation is to rewrite, and for whom. -/
def Operation.rewrites? : Operation → Option (Kind × Int32 × UserId)
  | call (.updateUser id _ actor) | call (.updateProfile id _ actor)
  | call (.resetPassword id _ actor) => some (.user, id.value, actor)
  | call (.updateGroup id _ actor) => some (.group, id.value, actor)
  | ensureAdmin .. => some (.user, UserId.bootstrap.value, .bootstrap)
  | _ => none

/-- The operation finds the record, rewrites it and ends well. -/
structure Rewrites (t : Tables) (a : Act) (kind : Kind) (k : Int32) (actor : UserId) : Prop where
  addressed : a.operation.rewrites? = some (kind, k, actor)
  found : kind.Holds t k
  done : a.operation.result a.clock t = .ok ()

def Operation.removes? : Operation → Option (Kind × Int32)
  | call (.deleteUser id) => some (.user, id.value)
  | call (.deleteGroup id) => some (.group, id.value)
  | _ => none

/-- The operation changes one field of an account, and its stamps do not tell. -/
def Operation.setsFlag : Operation → Bool
  | setLocked .. | setBadPasswordCount .. => true
  | _ => false

/-- No operation of a run does it. -/
def Never (does : Tables → Act → Prop) (t : Tables) (run : List Act) : Prop :=
  ∀ before a, before ++ [a] <+: run → ¬ does (t.play before) a

/-- Who rewrote a record last in a run, and when. -/
inductive LastRewrite (kind : Kind) (k : Int32) (t : Tables) :
    List Act → Option UserId → Option Instant → Prop where
  | none {run : List Act} (never : Never (fun t a => ∃ actor, Rewrites t a kind k actor) t run) :
      LastRewrite kind k t run none none
  | some {before later : List Act} {a : Act} {actor : UserId}
      (rewrites : Rewrites (t.play before) a kind k actor)
      (never : Never (fun t a => ∃ actor, Rewrites t a kind k actor) ((t.play before).act a) later) :
      LastRewrite kind k t (before ++ a :: later) (some actor) (some a.clock)

/-- The record under a number was put there by an operation of the run and has stood there since, and
    it says by whom and when this was done, and who rewrote it last. -/
inductive Traced (kind : Kind) (k : Int32) (t : Tables) : List Act → Stamps → Prop where
  | intro {before rest : List Act} {a : Act} {stamps : Stamps}
      (number : stamps.number = k) (created : stamps.created = a.clock)
      (inserts : Inserts (t.play before) a kind k stamps.creator)
      (stands : ∀ part, part <+: rest → kind.Holds (((t.play before).act a).play part) k)
      (never : Never (fun t a => ∃ creator, Inserts t a kind k creator) ((t.play before).act a) rest)
      (last : LastRewrite kind k ((t.play before).act a) rest stamps.changer stamps.changed) :
      Traced kind k t (before ++ a :: rest) stamps

section

variable {now : Instant} {t : Tables} {o : Operation} {a : Act} {kind : Kind} {k : Int32}
  {actor creator : UserId} {stamps : Stamps} {run : List Act} {stored : StoredUser} {group : Group}
  {last : Int32}

open Tables

theorem Kind.stamps?_isSome : (kind.stamps? t k).isSome ↔ kind.Holds t k := by
  cases kind <;> simp [Kind.stamps?, Kind.Holds, Option.isSome_iff_exists]

theorem Operation.result_of_apply {β : Type} {c : Call β} {b : β} {after : Tables}
    (done : t.apply now c = .ok (b, after)) : (Operation.call c).result now t = .ok () := by
  rw [result_call, done]
  rfl

theorem apply_of_result {β : Type} {c : Call β} (done : (Operation.call c).result now t = .ok ()) :
    ∃ b, t.apply now c = .ok (b, (Operation.call c).perform now t) := by
  rw [Operation.result_call] at done
  cases applied : t.apply now c with
  | error e =>
    rw [applied] at done
    cases done
  | ok result =>
    obtain ⟨b, after⟩ := result
    exact ⟨b, by rw [perform_call applied]⟩

theorem stamps?_putUser : Kind.user.stamps? ({ t with lastUserId := last }.putUser stored) stored.key =
    some (.ofUser stored.user) :=
  congrArg (Option.map _) (Table.find?_insert_self t.users stored)

theorem stamps?_putGroup : Kind.group.stamps? ({ t with lastGroupId := last }.putGroup group)
    (groupKey group) = some (.ofGroup group) :=
  congrArg (Option.map _) (Table.find?_insert_self t.groups group)

theorem WritesUser.stamps?_act (writes : WritesUser a.clock t a.operation stored last) :
    Kind.user.stamps? (t.act a) stored.key = some (.ofUser stored.user) := by
  rw [act, writes.perform]
  exact stamps?_putUser

theorem WritesGroup.stamps?_act (writes : WritesGroup a.clock t a.operation group last) :
    Kind.group.stamps? (t.act a) (groupKey group) = some (.ofGroup group) := by
  rw [act, writes.perform]
  exact stamps?_putGroup

theorem WritesUser.result (writes : WritesUser now t o stored last) : o.result now t = .ok () := by
  cases writes with
  | created unique => exact Operation.result_of_apply (bind_eq_ok.2 ⟨(), unique, rfl⟩)
  | updated found unique | profiled found unique =>
    exact Operation.result_of_apply (user_bind_ok.2 ⟨_, found, bind_eq_ok.2 ⟨(), unique, rfl⟩⟩)
  | reset found => exact Operation.result_of_apply (user_bind_ok.2 ⟨_, found, rfl⟩)
  | seeded | restored => rfl
  | locked found | counted found =>
    simp only [Operation.result, Operation.inPlace, InPlace.exec_assign, user_ok.2 found]
    rfl

theorem WritesGroup.result (writes : WritesGroup now t o group last) : o.result now t = .ok () := by
  cases writes with
  | created unique => exact Operation.result_of_apply (bind_eq_ok.2 ⟨(), unique, rfl⟩)
  | updated found unique =>
    exact Operation.result_of_apply (bind_eq_ok.2 ⟨(), unique, bind_eq_ok.2 ⟨_, group_ok.2 found, rfl⟩⟩)

theorem Inserts.stamps?_act (inserts : Inserts t a kind k creator) :
    kind.stamps? (t.act a) k = some (.fresh k creator a.clock) := by
  obtain ⟨clock, o⟩ := a
  cases inserts with
  | user creates answered =>
    subst creates
    obtain ⟨after, applied⟩ := reply_ok.1 answered
    obtain ⟨unique, rfl, -⟩ := createUser_ok applied
    have writes : WritesUser clock t (.call (.createUser _ creator)) _ _ := .created unique
    exact writes.stamps?_act (a := ⟨clock, _⟩)
  | group creates answered =>
    subst creates
    obtain ⟨after, applied⟩ := reply_ok.1 answered
    obtain ⟨unique, rfl, -⟩ := createGroup_ok applied
    have writes : WritesGroup clock t (.call (.createGroup _ creator)) _ _ := .created unique
    exact writes.stamps?_act (a := ⟨clock, _⟩)
  | administrator seeds absent =>
    cases o with
    | call | setLocked | setBadPasswordCount => cases seeds
    | ensureAdmin admin salt =>
      have missing : t.users.find? UserId.bootstrap.value = none :=
        Option.eq_none_iff_forall_ne_some.2 fun stored found => absent ⟨stored, found⟩
      have writes : WritesUser clock t (.ensureAdmin admin salt) _ _ := .seeded missing
      exact writes.stamps?_act (a := ⟨clock, _⟩)

theorem Rewrites.writesUser (rewrites : Rewrites t a .user k actor) :
    ∃ stored last, WritesUser a.clock t a.operation stored last := by
  obtain ⟨clock, o⟩ := a
  obtain ⟨addressed, ⟨before, found⟩, done⟩ := rewrites
  cases o with
  | setLocked | setBadPasswordCount => cases addressed
  | ensureAdmin admin salt =>
    cases addressed
    exact ⟨_, _, .restored found⟩
  | call c =>
    obtain ⟨b, applied⟩ := apply_of_result done
    cases c with
    | updateUser id update actor =>
      have changed : t.changeUser id update (updatedRecord · update actor clock) = .ok (b, _) := applied
      obtain ⟨stored, present, unique, -⟩ := changeUser_ok changed
      exact ⟨_, _, .updated present unique⟩
    | updateProfile id update actor =>
      have changed : t.changeUser id update (profileRecord · update actor clock) = .ok (b, _) := applied
      obtain ⟨stored, present, unique, -⟩ := changeUser_ok changed
      exact ⟨_, _, .profiled present unique⟩
    | resetPassword id digest actor =>
      obtain ⟨stored, present, -⟩ := resetPassword_ok applied
      exact ⟨_, _, .reset present⟩
    | listUsers | getUser | userExists | maxUserId | countUsers | createUser | deleteUser
    | listGroups | getGroup | countGroups | createGroup | updateGroup | deleteGroup
    | findIdByLoginName | loadAuthRecord | isActive | isAdmin | isLocked | accountState =>
      cases addressed

theorem Rewrites.writesGroup (rewrites : Rewrites t a .group k actor) :
    ∃ group last, WritesGroup a.clock t a.operation group last := by
  obtain ⟨clock, o⟩ := a
  obtain ⟨addressed, -, done⟩ := rewrites
  cases o with
  | setLocked | setBadPasswordCount | ensureAdmin => cases addressed
  | call c =>
    obtain ⟨b, applied⟩ := apply_of_result done
    cases c with
    | updateGroup id update actor =>
      obtain ⟨before, present, unique, -⟩ := updateGroup_ok applied
      exact ⟨_, _, .updated present unique⟩
    | listUsers | getUser | userExists | maxUserId | countUsers | createUser | updateUser
    | updateProfile | deleteUser | listGroups | getGroup | countGroups | createGroup | deleteGroup
    | findIdByLoginName | loadAuthRecord | isActive | isAdmin | isLocked | accountState
    | resetPassword => cases addressed

/-- What rewrites a user leaves who made it and when. -/
theorem WritesUser.rewritten {before : StoredUser} (writes : WritesUser now t o stored last)
    (addressed : o.rewrites? = some (.user, k, actor)) (found : t.users.find? k = some before) :
    stored.key = k ∧ Stamps.ofUser stored.user = (Stamps.ofUser before.user).rewritten actor now := by
  have own : before.key = k := Table.key_of_find? found
  cases writes with
  | created | locked | counted => cases addressed
  | updated present | profiled present | reset present | restored present =>
    cases addressed
    cases present.symm.trans found
    exact ⟨own, rfl⟩
  | seeded absent =>
    cases addressed
    cases absent.symm.trans found

theorem WritesGroup.rewritten {before : Group} (writes : WritesGroup now t o group last)
    (addressed : o.rewrites? = some (.group, k, actor)) (found : t.groups.find? k = some before) :
    groupKey group = k ∧ Stamps.ofGroup group = (Stamps.ofGroup before).rewritten actor now := by
  have own : groupKey before = k := Table.key_of_find? found
  cases writes with
  | created => cases addressed
  | updated present =>
    cases addressed
    cases present.symm.trans found
    exact ⟨own, rfl⟩

theorem Rewrites.stamps?_act (rewrites : Rewrites t a kind k actor) :
    ∃ s, kind.stamps? t k = some s ∧ kind.stamps? (t.act a) k = some (s.rewritten actor a.clock) := by
  cases kind with
  | user =>
    obtain ⟨stored, last, writes⟩ := rewrites.writesUser
    obtain ⟨before, found⟩ := rewrites.found
    obtain ⟨rfl, same⟩ := writes.rewritten rewrites.addressed found
    have here : Kind.user.stamps? t stored.key = some (.ofUser before.user) :=
      congrArg (Option.map _) found
    exact ⟨_, here, writes.stamps?_act.trans (congrArg some same)⟩
  | group =>
    obtain ⟨group, last, writes⟩ := rewrites.writesGroup
    obtain ⟨before, found⟩ := rewrites.found
    obtain ⟨rfl, same⟩ := writes.rewritten rewrites.addressed found
    have here : Kind.group.stamps? t (groupKey group) = some (.ofGroup before) :=
      congrArg (Option.map _) found
    exact ⟨_, here, writes.stamps?_act.trans (congrArg some same)⟩

/-- What neither inserts nor rewrites a user may still set its lock or its count of bad passwords. -/
theorem WritesUser.quiet (writes : WritesUser a.clock t a.operation stored last)
    (noInsert : ∀ creator, ¬ Inserts t a .user stored.key creator)
    (noRewrite : ∀ actor, ¬ Rewrites t a .user stored.key actor) :
    Kind.user.stamps? t stored.key = some (.ofUser stored.user) := by
  obtain ⟨clock, o⟩ := a
  have done := writes.result
  cases writes with
  | created =>
    obtain ⟨u, applied⟩ := apply_of_result done
    obtain ⟨-, rfl, -⟩ := createUser_ok applied
    exact absurd (Inserts.user rfl (reply_ok.2 ⟨_, applied⟩)) (noInsert _)
  | seeded absent =>
    refine absurd (Inserts.administrator rfl ?_) (noInsert .bootstrap)
    rintro ⟨stored, found⟩
    cases absent.symm.trans found
  | @updated id actor update before found | @profiled id actor update before found
  | @reset id actor digest before found =>
    have own : before.user.id = id := id_of_find? found
    subst own
    exact absurd ⟨rfl, ⟨before, found⟩, done⟩ (noRewrite actor)
  | @restored admin salt before found =>
    have own : before.key = UserId.bootstrap.value := Table.key_of_find? found
    refine absurd ⟨?_, ⟨before, own ▸ found⟩, done⟩ (noRewrite .bootstrap)
    exact congrArg (fun k => some (Kind.user, k, UserId.bootstrap)) own.symm
  | @locked id locked before found | @counted id count before found =>
    have own : before.user.id = id := id_of_find? found
    subst own
    exact congrArg (Option.map _) found

theorem WritesGroup.not_quiet (writes : WritesGroup a.clock t a.operation group last)
    (noInsert : ∀ creator, ¬ Inserts t a .group (groupKey group) creator)
    (noRewrite : ∀ actor, ¬ Rewrites t a .group (groupKey group) actor) : False := by
  obtain ⟨clock, o⟩ := a
  have done := writes.result
  cases writes with
  | created =>
    obtain ⟨g, applied⟩ := apply_of_result done
    obtain ⟨-, rfl, -⟩ := createGroup_ok applied
    exact noInsert _ (Inserts.group rfl (reply_ok.2 ⟨_, applied⟩))
  | @updated id update actor before found =>
    have own : groupKey before = id.value := Table.key_of_find? found
    refine noRewrite actor ⟨?_, ⟨before, own ▸ found⟩, done⟩
    exact congrArg (fun k => some (Kind.group, k, actor)) own.symm

/-- What neither inserts nor rewrites a record leaves its stamps, unless it removes it. -/
theorem stamps?_act_of_quiet (noInsert : ∀ creator, ¬ Inserts t a kind k creator)
    (noRewrite : ∀ actor, ¬ Rewrites t a kind k actor) :
    kind.stamps? (t.act a) k = kind.stamps? t k ∨
      a.operation.removes? = some (kind, k) ∧ kind.stamps? (t.act a) k = none := by
  have change := perform_change a.clock t a.operation
  unfold act
  generalize a.operation.perform a.clock t = after at change
  cases kind with
  | user =>
    cases change with
    | nothing | putGroup | eraseGroup => exact .inl rfl
    | @putUser stored last writes =>
      by_cases own : stored.key = k
      · subst own
        exact .inl (stamps?_putUser.trans (writes.quiet noInsert noRewrite).symm)
      · exact .inl (congrArg (Option.map _) (Table.find?_insert_other _ _ own))
    | @eraseUser id erases =>
      by_cases own : id.value = k
      · subst own
        exact .inr ⟨by rw [erases]; rfl, congrArg (Option.map _) (Table.find?_erase_self _ _)⟩
      · exact .inl (congrArg (Option.map _) (Table.find?_erase_other _ own))
  | group =>
    cases change with
    | nothing | putUser | eraseUser => exact .inl rfl
    | @putGroup group last writes =>
      by_cases own : groupKey group = k
      · subst own
        exact (writes.not_quiet noInsert noRewrite).elim
      · exact .inl (congrArg (Option.map _) (Table.find?_insert_other _ _ own))
    | @eraseGroup id erases =>
      by_cases own : id.value = k
      · subst own
        exact .inr ⟨by rw [erases]; rfl, congrArg (Option.map _) (Table.find?_erase_self _ _)⟩
      · exact .inl (congrArg (Option.map _) (Table.find?_erase_other _ own))

theorem Never.nil {does : Tables → Act → Prop} : Never does t [] := by
  intro before a inside
  simp at inside

theorem Never.snoc {does : Tables → Act → Prop} (never : Never does t run)
    (here : ¬ does (t.play run) a) : Never does t (run ++ [a]) := by
  intro before b inside
  rcases List.prefix_concat_iff.1 inside with whole | earlier
  · obtain ⟨rfl, same⟩ := List.append_inj' whole rfl
    cases same
    exact here
  · exact never before b earlier

theorem LastRewrite.quiet {changer : Option UserId} {changed : Option Instant}
    (lastly : LastRewrite kind k t run changer changed)
    (noRewrite : ∀ actor, ¬ Rewrites (t.play run) a kind k actor) :
    LastRewrite kind k t (run ++ [a]) changer changed := by
  cases lastly with
  | none never => exact .none (never.snoc fun ⟨actor, rewrites⟩ => noRewrite actor rewrites)
  | @some before later b actor rewrites never =>
    rw [play_append, play_cons] at noRewrite
    rw [List.append_assoc, List.cons_append]
    exact .some rewrites (never.snoc fun ⟨actor, rewrites⟩ => noRewrite actor rewrites)

/-- A record that is put there has a trace of its own. -/
theorem Traced.inserted (inserts : Inserts (t.play run) a kind k creator) :
    Traced kind k t (run ++ [a]) (.fresh k creator a.clock) := by
  have held : kind.Holds ((t.play run).act a) k := by
    rw [← Kind.stamps?_isSome, inserts.stamps?_act]
    rfl
  refine .intro rfl rfl inserts (fun part inside => ?_) .nil (.none .nil)
  rw [List.prefix_nil.1 inside]
  exact held

/-- The trace goes on while the record stands and no other is put in its place. -/
theorem Traced.goes_on (traced : Traced kind k t run stamps)
    (noInsert : ∀ creator, ¬ Inserts (t.play run) a kind k creator)
    (held : kind.Holds (t.play (run ++ [a])) k) {after : Stamps} (number : after.number = stamps.number)
    (creator : after.creator = stamps.creator) (created : after.created = stamps.created)
    (lastly : ∀ {start rest}, LastRewrite kind k start rest stamps.changer stamps.changed →
      start.play rest = t.play run → LastRewrite kind k start (rest ++ [a]) after.changer after.changed) :
    Traced kind k t (run ++ [a]) after := by
  cases traced with
  | @intro before rest b _ numbered atClock inserts stands never last =>
    have place : ((t.play before).act b).play rest = t.play (before ++ b :: rest) := by
      rw [play_append, play_cons]
    rw [List.append_assoc, List.cons_append]
    refine .intro (number.trans numbered) (created.trans atClock) (creator ▸ inserts)
      (fun part inside => ?_) (never.snoc ?_) (lastly last place)
    · rcases List.prefix_concat_iff.1 inside with rfl | earlier
      · rw [play_append] at held
        rwa [play_append, place]
      · exact stands part earlier
    · rintro ⟨creator, inserts⟩
      exact noInsert creator (place ▸ inserts)

/-- Along a run of the empty store, the stamps of every record have their trace. -/
theorem traced_play (run : List Act) :
    ∀ part, part <+: run → ∀ stamps, kind.stamps? (({} : Tables).play part) k = some stamps →
      Traced kind k {} part stamps := by
  refine Run.along (fun stamps found => ?_) fun before a rest _ ih stamps found => ?_
  · cases kind <;> cases found
  have held : kind.Holds (({} : Tables).play (before ++ [a])) k := by
    rw [← Kind.stamps?_isSome, found]
    rfl
  rw [play_append] at found
  by_cases inserted : ∃ creator, Inserts (({} : Tables).play before) a kind k creator
  · obtain ⟨creator, inserts⟩ := inserted
    cases inserts.stamps?_act.symm.trans found
    exact .inserted inserts
  have noInsert := not_exists.1 inserted
  by_cases rewritten : ∃ actor, Rewrites (({} : Tables).play before) a kind k actor
  · obtain ⟨actor, rewrites⟩ := rewritten
    obtain ⟨earlier, here, there⟩ := rewrites.stamps?_act
    cases there.symm.trans found
    refine (ih earlier here).goes_on noInsert held rfl rfl rfl fun _ place => ?_
    exact .some (place ▸ rewrites) .nil
  · have noRewrite := not_exists.1 rewritten
    rcases stamps?_act_of_quiet noInsert noRewrite with kept | ⟨-, gone⟩
    · refine (ih stamps (kept ▸ found)).goes_on noInsert held rfl rfl rfl fun last place => ?_
      exact last.quiet fun actor rewrites => noRewrite actor (place ▸ rewrites)
    · cases gone.symm.trans found

theorem Tables.Initial.begun (initial : t.Initial) :
    ∃ first : List Act, ({} : Tables).play first = t ∧
      (first = [] ∨ ∃ admin salt start, first = [⟨start, .ensureAdmin admin salt⟩]) := by
  cases initial with
  | empty => exact ⟨[], rfl, .inl rfl⟩
  | bootstrap admin salt start => exact ⟨_, rfl, .inr ⟨admin, salt, start, rfl⟩⟩

theorem stamps?_act_of_failed {e : StoreError} (failed : a.operation.result a.clock t = .error e) :
    kind.stamps? (t.act a) k = kind.stamps? t k := by
  have kept : t.act a = t := by
    unfold act
    rw [← Operation.exec_inPlace]
    exact Operation.inPlace_failed (Prod.ext failed rfl)
  rw [kept]

theorem stamps?_act_of_elsewhere (elsewhere : a.operation.place? t ≠ some (kind, k)) :
    kind.stamps? (t.act a) k = kind.stamps? t k := by
  have same := same_perform a.clock elsewhere
  cases kind with
  | user | group => exact congrArg (Option.map _) same

theorem stamps?_act_of_flag (flag : a.operation.setsFlag = true) :
    kind.stamps? (t.act a) k = kind.stamps? t k := by
  obtain ⟨clock, o⟩ := a
  have noInsert : ∀ creator, ¬ Inserts t ⟨clock, o⟩ kind k creator := by
    intro creator inserts
    cases inserts with
    | user creates | group creates =>
      subst creates
      cases flag
    | administrator seeds => cases o <;> cases flag <;> cases seeds
  have noRewrite : ∀ actor, ¬ Rewrites t ⟨clock, o⟩ kind k actor := by
    intro actor rewrites
    have addressed := rewrites.addressed
    cases o <;> cases flag <;> cases addressed
  rcases stamps?_act_of_quiet noInsert noRewrite with kept | ⟨removes, -⟩
  · exact kept
  · cases o <;> cases flag <;> cases removes

/-- Along every run of a new store, each record says by whom and when it was put there, and who
    rewrote it last and when, if anyone did. An operation that fails, that is for another record or
    that only sets a flag leaves this as it was. -/
theorem stamps_follow_operations (initial : t.Initial) (run : List Act) :
    (∃ first : List Act, ({} : Tables).play first = t ∧
      (first = [] ∨ ∃ admin salt start, first = [⟨start, .ensureAdmin admin salt⟩]) ∧
      ∀ (kind : Kind) k stamps, kind.stamps? (t.play run) k = some stamps →
        Traced kind k {} (first ++ run) stamps) ∧
    ∀ before a rest, run = before ++ a :: rest → ∀ (kind : Kind) k,
      ((∃ e, a.operation.result a.clock (t.play before) = .error e) ∨
        a.operation.place? (t.play before) ≠ some (kind, k) ∨ a.operation.setsFlag = true) →
      kind.stamps? ((t.play before).act a) k = kind.stamps? (t.play before) k := by
  refine ⟨?_, fun before a rest _ kind k spared => ?_⟩
  · obtain ⟨first, begun, seeded⟩ := initial.begun
    refine ⟨first, begun, seeded, fun kind k stamps found => ?_⟩
    refine traced_play (first ++ run) _ List.prefix_rfl stamps ?_
    rwa [play_append, begun]
  · rcases spared with ⟨e, failed⟩ | elsewhere | flag
    · exact stamps?_act_of_failed failed
    · exact stamps?_act_of_elsewhere elsewhere
    · exact stamps?_act_of_flag flag

/-- A user is created, updated, resets its password and is then locked; the name of another user is
    refused to it in between. -/
theorem stamps_follow_operations_locked :
    let admin : AdminAccount := { username := "admin", email := "a@e.org", password := "p" }
    let t : Tables := withBootstrapAdmin admin ⟨List.replicate 16 0, by decide⟩ { seconds := 0, nanos := 0 }
    let ada (name : String) : UserUpdate :=
      { id := ⟨2⟩, name, email := "ada@e.org", username := "ada", externalId := none,
        orgUnitId := none, groupIds := [], phone := none, isLocked := false, isAdmin := false,
        isActive := true, inactivationReason := none, comment := none }
    let new : NewUser :=
      { name := "Ada", email := "ada@e.org", username := "ada", credentialDigest := "",
        externalId := none, orgUnitId := none, groupIds := [], phone := none, isAdmin := false,
        comment := none }
    let refused : Act :=
      { clock := { seconds := 4, nanos := 0 }, operation := .call (.updateUser ⟨2⟩ (ada AdminAccount.displayName) .bootstrap) }
    let before : List Act :=
      [{ clock := { seconds := 1, nanos := 0 }, operation := .call (.createUser new .bootstrap) },
        { clock := { seconds := 2, nanos := 0 }, operation := .call (.updateUser ⟨2⟩ (ada "Ada L.") .bootstrap) },
        { clock := { seconds := 3, nanos := 0 }, operation := .call (.resetPassword ⟨2⟩ "" ⟨2⟩) }]
    let rest : List Act := [{ clock := { seconds := 5, nanos := 0 }, operation := .setLocked ⟨2⟩ true }]
    let stamps : Stamps :=
      { number := 2, creator := .bootstrap, created := { seconds := 1, nanos := 0 }, changer := some ⟨2⟩,
        changed := some { seconds := 3, nanos := 0 } }
    t.Initial ∧ Kind.user.stamps? (t.play (before ++ refused :: rest)) 2 = some stamps ∧
      (∃ first, Traced .user 2 {} (first ++ (before ++ refused :: rest)) stamps) ∧
      (∃ e, refused.operation.result refused.clock (t.play before) = .error e) ∧
      Kind.user.stamps? ((t.play before).act refused) 2 = some stamps := by
  intro admin t ada new refused before rest stamps
  have initial : t.Initial := .bootstrap admin _ _
  have found : Kind.user.stamps? (t.play (before ++ refused :: rest)) 2 = some stamps := by
    decide +kernel
  have failed : ∃ e, refused.operation.result refused.clock (t.play before) = .error e :=
    ⟨_, Operation.result_call _ _ _⟩
  obtain ⟨⟨first, -, -, traced⟩, spared⟩ :=
    stamps_follow_operations initial (before ++ refused :: rest)
  refine ⟨initial, found, ⟨first, traced .user 2 stamps found⟩, failed, ?_⟩
  exact (spared before refused rest rfl .user 2 (.inl failed)).trans rfl

end

end AccountDirectory.Store
