import AccountDirectory.Proofs.Store.Answers
import AccountDirectory.Proofs.Store.Operation

/-!
Identifiers. Each new record gets the number after the highest one that was ever given, so that no
identifier is given twice while there are numbers left; only the administrator, whose identifier is
fixed, may come back after a removal. Every operation writes under the identifier that it is for.
-/

namespace AccountDirectory.Store

open AccountDirectory.Time (Instant)

section

variable {n : Int32}

theorem toInt_succ (room : n < Int32.maxValue) : (n + 1).toInt = n.toInt + 1 := by
  have high := Int32.lt_iff_toInt_lt.1 room
  have low := Int32.minValue_le_toInt n
  have top : Int32.maxValue.toInt = 2147483647 := by decide
  have bottom : Int32.minValue.toInt = -2147483648 := by decide
  rw [Int32.toInt_add, Int32.toInt_one]
  apply Int.bmod_eq_of_le <;> omega

theorem lt_succ (room : n < Int32.maxValue) : n < n + 1 := by
  rw [Int32.lt_iff_toInt_lt, toInt_succ room]
  omega

theorem one_le_succ (counts : 0 ≤ n) (room : n < Int32.maxValue) : 1 ≤ n + 1 := by
  have low := Int32.le_iff_toInt_le.1 counts
  rw [Int32.toInt_zero] at low
  rw [Int32.le_iff_toInt_le, toInt_succ room, Int32.toInt_one]
  omega

theorem le_max (n m : Int32) : n ≤ max n m ∧ m ≤ max n m := by
  change n ≤ (if n ≤ m then m else n) ∧ m ≤ (if n ≤ m then m else n)
  split
  · rename_i below
    exact ⟨below, Int32.le_refl m⟩
  · rename_i above
    exact ⟨Int32.le_refl n, Int32.le_of_lt (Int32.not_le.1 above)⟩

end

theorem Table.find?_of_erase {α : Type} {key : α → Int32} {t : Table α key} {k l : Int32} {a : α}
    (found : (t.erase l).find? k = some a) : t.find? k = some a := by
  obtain ⟨member, own⟩ := find?_eq_some_iff.1 found
  exact find?_eq_some_iff.2 ⟨(mem_erase.1 member).1, own⟩

/-- What identifiers are given to. Users and groups have numbers of their own. -/
inductive Kind where
  | user
  | group
deriving DecidableEq

namespace Kind

def last (t : Tables) : Kind → Int32
  | user => t.lastUserId
  | group => t.lastGroupId

def Holds (t : Tables) (k : Int32) : Kind → Prop
  | user => ∃ stored, t.users.find? k = some stored
  | group => ∃ stored, t.groups.find? k = some stored

def Same (t after : Tables) (k : Int32) : Kind → Prop
  | user => after.users.find? k = t.users.find? k
  | group => after.groups.find? k = t.groups.find? k

/-- Every record has a number from 1 to the highest that was given. -/
structure Numbered (t : Tables) (kind : Kind) : Prop where
  counts : 0 ≤ kind.last t
  within : ∀ k, kind.Holds t k → 1 ≤ k ∧ k ≤ kind.last t

def Appears (t after : Tables) (k : Int32) (kind : Kind) : Prop :=
  ¬ kind.Holds t k ∧ kind.Holds after k

/-- A record that is stored has the next number, or is the administrator's, or stands for one that was
    stored under its number. `last` is the highest number given by then. -/
inductive Numbers (t : Tables) : Kind → (k last : Int32) → Prop where
  | next {kind : Kind} : Numbers t kind (kind.last t + 1) (kind.last t + 1)
  | seeded : Numbers t user 1 (max t.lastUserId 1)
  | kept {kind : Kind} {k : Int32} (held : kind.Holds t k) : Numbers t kind k (kind.last t)

/-- The operation creates a record and answers that this is its number. -/
def Gives (t : Tables) (a : Act) (k : Int32) : Kind → Prop
  | user => ∃ new creator u, a.operation = .call (.createUser new creator) ∧
      (t.answer a.clock (.createUser new creator)).1 = .ok u ∧ u.id.value = k
  | group => ∃ new creator g, a.operation = .call (.createGroup new creator) ∧
      (t.answer a.clock (.createGroup new creator)).1 = .ok g ∧ g.id.value = k

variable {t : Tables} {kind : Kind} {k last : Int32}

theorem Numbers.le (number : kind.Numbers t k last) (room : kind.last t < Int32.maxValue) :
    kind.last t ≤ last := by
  cases number with
  | next => exact Int32.le_of_lt (lt_succ room)
  | seeded => exact (le_max t.lastUserId 1).1
  | kept => exact Int32.le_refl _

theorem Numbers.new (number : kind.Numbers t k last) (absent : ¬ kind.Holds t k) :
    (k = kind.last t + 1 ∧ last = k) ∨ (kind = user ∧ k = 1 ∧ 1 ≤ last) := by
  cases number with
  | next => exact .inl ⟨rfl, rfl⟩
  | seeded => exact .inr ⟨rfl, rfl, (le_max t.lastUserId 1).2⟩
  | kept held => exact absurd held absent

end Kind

/-- The number under which an operation may write. -/
def Operation.place? (t : Tables) : Operation → Option (Kind × Int32)
  | call (.createUser ..) => some (.user, t.lastUserId + 1)
  | call (.createGroup ..) => some (.group, t.lastGroupId + 1)
  | call (.updateUser id ..) | call (.updateProfile id ..) | call (.deleteUser id)
  | call (.resetPassword id ..) | setLocked id _ | setBadPasswordCount id _ => some (.user, id.value)
  | call (.updateGroup id ..) | call (.deleteGroup id) => some (.group, id.value)
  | ensureAdmin .. => some (.user, UserId.bootstrap.value)
  | _ => none

namespace Tables

variable {now : Instant} {t : Tables} {o : Operation} {k : Int32} {kind : Kind}
  {stored : StoredUser} {group : Group} {last : Int32}

theorem place_of_writesUser (writes : WritesUser now t o stored last) :
    o.place? t = some (.user, stored.user.id.value) := by
  cases writes with
  | created | seeded => rfl
  | @updated id actor update before found | @profiled id actor update before found
  | @reset id actor digest before found | @locked id locked before found
  | @counted id count before found =>
    have own : before.user.id = id := id_of_find? found
    subst own
    rfl
  | @restored admin salt before found =>
    have own : before.user.id = .bootstrap := id_of_find? found
    exact congrArg (fun id : UserId => some (Kind.user, id.value)) own.symm

theorem place_of_writesGroup (writes : WritesGroup now t o group last) :
    o.place? t = some (.group, group.id.value) := by
  cases writes with
  | created => rfl
  | @updated id update actor before found =>
    have own : groupKey before = id.value := Table.key_of_find? found
    exact congrArg (fun n : Int32 => some (Kind.group, n)) own.symm

/-- An operation leaves alone what stands under other numbers than its own. -/
theorem same_perform (now : Instant) (elsewhere : o.place? t ≠ some (kind, k)) :
    kind.Same t (o.perform now t) k := by
  have change := perform_change now t o
  generalize o.perform now t = after at change
  cases change with
  | nothing => cases kind <;> rfl
  | @putUser stored last writes =>
    rw [place_of_writesUser writes] at elsewhere
    cases kind with
    | user => exact Table.find?_insert_other _ _ fun same => elsewhere (by rw [← same]; rfl)
    | group => rfl
  | @putGroup group last writes =>
    rw [place_of_writesGroup writes] at elsewhere
    cases kind with
    | user => rfl
    | group => exact Table.find?_insert_other _ _ fun same => elsewhere (by rw [← same]; rfl)
  | eraseUser erases =>
    subst erases
    cases kind with
    | user => exact Table.find?_erase_other _ fun same => elsewhere (by rw [← same]; rfl)
    | group => rfl
  | eraseGroup erases =>
    subst erases
    cases kind with
    | user => rfl
    | group => exact Table.find?_erase_other _ fun same => elsewhere (by rw [← same]; rfl)

theorem number_of_writesUser (writes : WritesUser now t o stored last) :
    Kind.user.Numbers t stored.key last := by
  cases writes with
  | created => exact .next
  | seeded => exact .seeded
  | @updated id actor update before found | @profiled id actor update before found
  | @reset id actor digest before found | @locked id locked before found
  | @counted id count before found | @restored admin salt before found =>
    have own : before.key = _ := Table.key_of_find? found
    exact .kept ⟨before, own ▸ found⟩

theorem number_of_writesGroup (writes : WritesGroup now t o group last) :
    Kind.group.Numbers t (groupKey group) last := by
  cases writes with
  | created => exact .next
  | @updated id update actor before found =>
    have own : groupKey before = id.value := Table.key_of_find? found
    exact .kept ⟨before, own ▸ found⟩

theorem last_le_perform (now : Instant) (o : Operation) (room : kind.last t < Int32.maxValue) :
    kind.last t ≤ kind.last (o.perform now t) := by
  have change := perform_change now t o
  generalize o.perform now t = after at change
  cases change with
  | nothing | eraseUser | eraseGroup => exact Int32.le_refl _
  | putUser writes =>
    cases kind with
    | user => exact (number_of_writesUser writes).le room
    | group => exact Int32.le_refl _
  | putGroup writes =>
    cases kind with
    | user => exact Int32.le_refl _
    | group => exact (number_of_writesGroup writes).le room

/-- A record appears under the next number, or it is the administrator's. -/
theorem appears_perform (appears : kind.Appears t (o.perform now t) k) :
    (k = kind.last t + 1 ∧ kind.last (o.perform now t) = k) ∨
      (kind = .user ∧ k = 1 ∧ 1 ≤ kind.last (o.perform now t)) := by
  obtain ⟨absent, present⟩ := appears
  have change := perform_change now t o
  generalize o.perform now t = after at change present
  cases kind with
  | user =>
    obtain ⟨there, found⟩ := present
    cases change with
    | nothing | putGroup | eraseGroup => exact absurd ⟨there, found⟩ absent
    | @putUser stored last writes =>
      by_cases own : stored.key = k
      · subst own
        exact (number_of_writesUser writes).new absent
      · exact absurd ⟨there, (Table.find?_insert_other _ _ own).symm.trans found⟩ absent
    | eraseUser => exact absurd ⟨there, Table.find?_of_erase found⟩ absent
  | group =>
    obtain ⟨there, found⟩ := present
    cases change with
    | nothing | putUser | eraseUser => exact absurd ⟨there, found⟩ absent
    | @putGroup group last writes =>
      by_cases own : groupKey group = k
      · subst own
        exact (number_of_writesGroup writes).new absent
      · exact absurd ⟨there, (Table.find?_insert_other _ _ own).symm.trans found⟩ absent
    | eraseGroup => exact absurd ⟨there, Table.find?_of_erase found⟩ absent

theorem numbered_perform (now : Instant) (o : Operation) (numbered : kind.Numbered t)
    (room : kind.last t < Int32.maxValue) : kind.Numbered (o.perform now t) := by
  have grows := last_le_perform now o room
  refine ⟨Int32.le_trans numbered.counts grows, fun k held => ?_⟩
  by_cases before : kind.Holds t k
  · obtain ⟨low, high⟩ := numbered.within k before
    exact ⟨low, Int32.le_trans high grows⟩
  · rcases appears_perform ⟨before, held⟩ with ⟨rfl, counted⟩ | ⟨-, rfl, counted⟩
    · exact ⟨one_le_succ numbered.counts room, counted ▸ Int32.le_refl _⟩
    · exact ⟨Int32.le_refl 1, counted⟩

theorem Initial.numbered (initial : t.Initial) (kind : Kind) : kind.Numbered t := by
  have empty : kind.Numbered {} := by
    refine ⟨by cases kind <;> decide, fun k held => ?_⟩
    cases kind with
    | user | group =>
      obtain ⟨stored, found⟩ := held
      cases found
  cases initial with
  | empty => exact empty
  | bootstrap admin salt start =>
    exact numbered_perform start (.ensureAdmin admin salt) empty (by cases kind <;> decide)

theorem gives_next {a : Act} (gives : kind.Gives t a k) :
    k = kind.last t + 1 ∧ kind.last (t.act a) = k ∧ kind.Holds (t.act a) k ∧
      a.operation.place? t = some (kind, k) := by
  obtain ⟨clock, o⟩ := a
  cases kind with
  | user =>
    obtain ⟨new, creator, u, rfl, answered, rfl⟩ := gives
    simp only [answer, apply] at answered
    split at answered
    · rename_i written after done
      cases answered
      have performed : t.act ⟨clock, .call (.createUser new creator)⟩ = after := perform_call done
      obtain ⟨-, rfl, rfl⟩ := createUser_ok done
      rw [performed]
      exact ⟨rfl, rfl, ⟨_, find?_putUser_self _ _⟩, rfl⟩
    · cases answered
  | group =>
    obtain ⟨new, creator, g, rfl, answered, rfl⟩ := gives
    simp only [answer, apply] at answered
    split at answered
    · rename_i written after done
      cases answered
      have performed : t.act ⟨clock, .call (.createGroup new creator)⟩ = after := perform_call done
      obtain ⟨-, rfl, rfl⟩ := createGroup_ok done
      rw [performed]
      exact ⟨rfl, rfl, ⟨_, Table.find?_insert_self _ _⟩, rfl⟩
    · cases answered

theorem gives_fresh {a : Act} (numbered : kind.Numbered t) (room : kind.last t < Int32.maxValue)
    (gives : kind.Gives t a k) :
    kind.Appears t (t.act a) k ∧ ∀ l, l ≠ k → kind.Same t (t.act a) l := by
  obtain ⟨rfl, -, held, place⟩ := gives_next gives
  refine ⟨⟨fun taken => ?_, held⟩, fun l other => ?_⟩
  · -- all numbers in use are at most the last one, and this one is above it
    have below := (numbered.within _ taken).2
    exact Int32.lt_irrefl (Int32.lt_of_lt_of_le (lt_succ room) below)
  · refine same_perform a.clock fun same => ?_
    rw [place] at same
    cases same
    exact other rfl

section

variable {run first between rest : List Act} {a b : Act} {m : Int32}

theorem numbered_play (numbered : kind.Numbered t)
    (room : ∀ part, part <+: run → kind.last (t.play part) < Int32.maxValue) :
    ∀ part, part <+: run → kind.Numbered (t.play part) := by
  refine Run.along numbered fun before a rest place here => ?_
  rw [play_append]
  exact numbered_perform a.clock a.operation here (room before ⟨a :: rest, place.symm⟩)

theorem last_le_play (room : ∀ part, part <+: run → kind.last (t.play part) < Int32.maxValue) :
    kind.last t ≤ kind.last (t.play run) := by
  refine Run.along (P := fun part => kind.last t ≤ kind.last (t.play part)) (Int32.le_refl _)
    (fun before a rest place here => ?_) run List.prefix_rfl
  rw [play_append]
  have grows := last_le_perform a.clock a.operation (room before ⟨a :: rest, place.symm⟩)
  exact Int32.le_trans here grows

theorem last_le_between (room : ∀ part, part <+: run → kind.last (t.play part) < Int32.maxValue)
    (place : run = first ++ a :: between ++ b :: rest) :
    kind.last ((t.play first).act a) ≤ kind.last (t.play (first ++ a :: between)) := by
  have later : ∀ part, part <+: between →
      kind.last (((t.play first).act a).play part) < Int32.maxValue := by
    rintro part ⟨remaining, rfl⟩
    have reached := room (first ++ a :: part) ⟨remaining ++ b :: rest, by simp [place]⟩
    rwa [play_append, play_cons] at reached
  rw [play_append, play_cons]
  exact last_le_play later

theorem gives_ascending (room : ∀ part, part <+: run → kind.last (t.play part) < Int32.maxValue)
    (place : run = first ++ a :: between ++ b :: rest) (gives : kind.Gives (t.play first) a k)
    (again : kind.Gives (t.play (first ++ a :: between)) b m) : k < m := by
  obtain ⟨-, counted, -⟩ := gives_next gives
  obtain ⟨rfl, -⟩ := gives_next again
  have grows := last_le_between room place
  rw [counted] at grows
  exact Int32.lt_of_le_of_lt grows (lt_succ (room _ ⟨b :: rest, place.symm⟩))

/-- Only the number of the administrator is that of two records, one after the other. -/
theorem appears_once (room : ∀ part, part <+: run → kind.last (t.play part) < Int32.maxValue)
    (place : run = first ++ a :: between ++ b :: rest)
    (appears : kind.Appears (t.play first) ((t.play first).act a) k)
    (again : kind.Appears (t.play (first ++ a :: between)) ((t.play (first ++ a :: between)).act b) k) :
    kind = .user ∧ k = UserId.bootstrap.value := by
  -- a number that is the next one twice would have the counter go back in between
  rcases appears_perform appears with ⟨-, counted⟩ | ⟨isUser, one, -⟩
  · rcases appears_perform again with ⟨next, -⟩ | ⟨isUser, one, -⟩
    · have grows := last_le_between room place
      have above := lt_succ (room _ ⟨b :: rest, place.symm⟩)
      rw [← next] at above
      exact absurd (Int32.lt_of_le_of_lt (counted ▸ grows) above) Int32.lt_irrefl
    · exact ⟨isUser, one⟩
  · exact ⟨isUser, one⟩

/-- Along a run of a new store, every record stands under its own number, an operation writes under
    its own number only, and what the calls that read answer fits together. While there are numbers
    left for the users, or for the groups, each of them has one that was given to it; the numbers of
    those that are created ascend and were not in use; and no number but the administrator's is given
    to a second one. -/
theorem identifiers_are_fresh (initial : t.Initial) (run : List Act) :
    (∀ part, part <+: run →
      (∀ k stored, (t.play part).users.find? k = some stored → stored.user.id.value = k) ∧
      (∀ k group, (t.play part).groups.find? k = some group → group.id.value = k) ∧
      ∀ now, (∃ listed, UsersAgree now (t.play part) listed) ∧
        ∃ listed, GroupsAgree now (t.play part) listed) ∧
    (∀ (kind : Kind) first a rest, run = first ++ a :: rest → ∀ k,
      a.operation.place? (t.play first) ≠ some (kind, k) →
        kind.Same (t.play first) ((t.play first).act a) k) ∧
    ∀ kind : Kind, (∀ part, part <+: run → kind.last (t.play part) < Int32.maxValue) →
      (∀ part, part <+: run → kind.Numbered (t.play part)) ∧
      (∀ first a rest k, run = first ++ a :: rest → kind.Gives (t.play first) a k →
        kind.Appears (t.play first) ((t.play first).act a) k ∧
        ∀ l, l ≠ k → kind.Same (t.play first) ((t.play first).act a) l) ∧
      ∀ first a between b rest, run = first ++ a :: between ++ b :: rest →
        (∀ k m, kind.Gives (t.play first) a k → kind.Gives (t.play (first ++ a :: between)) b m →
          k < m) ∧
        ∀ k, kind.Appears (t.play first) ((t.play first).act a) k →
          kind.Appears (t.play (first ++ a :: between)) ((t.play (first ++ a :: between)).act b) k →
            kind = .user ∧ k = UserId.bootstrap.value := by
  refine ⟨fun part inside => ⟨fun k stored found => ?_, fun k group found => ?_, fun now => ?_⟩,
    fun kind first a rest place k elsewhere => same_perform a.clock elsewhere, fun kind room => ?_⟩
  · have own : stored.key = k := Table.key_of_find? found
    exact own
  · have own : groupKey group = k := Table.key_of_find? found
    exact own
  · exact ⟨⟨_, usersAgree now _⟩, _, groupsAgree now _⟩
  · have numbered := numbered_play (initial.numbered kind) room
    refine ⟨numbered, fun first a rest k place gives => ?_, fun first a between b rest place =>
      ⟨fun k m gives again => ?_, fun k appears again => ?_⟩⟩
    · have inside : first <+: run := ⟨a :: rest, place.symm⟩
      exact gives_fresh (numbered first inside) (room first inside) gives
    · exact gives_ascending room place gives again
    · exact appears_once room place appears again

/-- A user is created twice, with a removal in between, and so is the administrator. -/
theorem identifiers_are_fresh_again :
    let admin : AdminAccount := { username := "admin", email := "a@e.org", password := "p" }
    let start : Instant := { seconds := 0, nanos := 0 }
    let new : NewUser :=
      { name := "Ada", email := "ada@e.org", username := "ada", credentialDigest := "",
        externalId := none, orgUnitId := none, groupIds := [], phone := none, isAdmin := false,
        comment := none }
    let seed : Act := { clock := start, operation := .ensureAdmin admin ⟨List.replicate 16 0, by decide⟩ }
    let create : Act := { clock := start, operation := .call (.createUser new .bootstrap) }
    let remove (id : UserId) : Act := { clock := start, operation := .call (.deleteUser id) }
    let t : Tables := {}
    let run : List Act := [seed, create, remove ⟨2⟩, create, remove .bootstrap, seed]
    t.Initial ∧ (∀ part, part <+: run → Kind.user.last (t.play part) < Int32.maxValue) ∧
      (∀ part, part <+: run → Kind.user.Numbered (t.play part)) ∧
      (∃ k m, Kind.user.Gives (t.play [seed]) create k ∧
        Kind.user.Gives (t.play [seed, create, remove ⟨2⟩]) create m ∧ k < m) ∧
      ∃ k, Kind.user.Appears t (t.act seed) k ∧
        Kind.user.Appears (t.play [seed, create, remove ⟨2⟩, create, remove .bootstrap])
          ((t.play [seed, create, remove ⟨2⟩, create, remove .bootstrap]).act seed) k ∧
        k = UserId.bootstrap.value := by
  intro admin start new seed create remove t run
  have room : ∀ part, part <+: run → Kind.user.last (t.play part) < Int32.maxValue := by
    intro part inside
    simp only [run, List.prefix_cons_iff, List.prefix_nil] at inside
    rcases inside with rfl | ⟨_, rfl, rfl | ⟨_, rfl, rfl | ⟨_, rfl, rfl | ⟨_, rfl, rfl | ⟨_, rfl,
      rfl | ⟨_, rfl, rfl⟩⟩⟩⟩⟩⟩ <;> decide
  obtain ⟨numbered, -, fresh⟩ := (identifiers_are_fresh .empty run).2.2 .user room
  have first : Kind.user.Gives (t.play [seed]) create 2 := ⟨new, .bootstrap, _, rfl, rfl, rfl⟩
  have second : Kind.user.Gives (t.play [seed, create, remove ⟨2⟩]) create 3 :=
    ⟨new, .bootstrap, _, rfl, rfl, rfl⟩
  have seeded : Kind.user.Appears t (t.act seed) 1 := ⟨fun ⟨_, held⟩ => (nomatch held), _, rfl⟩
  have gone : (t.play [seed, create, remove ⟨2⟩, create, remove .bootstrap]).users.find? 1 = none := by
    decide
  have back : (((t.play [seed, create, remove ⟨2⟩, create, remove .bootstrap]).act
      seed).users.find? 1).isSome = true := by decide
  have again : Kind.user.Appears (t.play [seed, create, remove ⟨2⟩, create, remove .bootstrap])
      ((t.play [seed, create, remove ⟨2⟩, create, remove .bootstrap]).act seed) 1 :=
    ⟨fun ⟨_, held⟩ => (nomatch gone.symm.trans held), Option.isSome_iff_exists.1 back⟩
  have ascend := (fresh [seed] create [remove ⟨2⟩] create [remove .bootstrap, seed] rfl).1
  have once := (fresh [] seed [create, remove ⟨2⟩, create, remove .bootstrap] seed [] rfl).2
  exact ⟨.empty, room, numbered, ⟨2, 3, first, second, ascend 2 3 first second⟩,
    1, seeded, again, (once 1 seeded again).2⟩

end

end Tables

end AccountDirectory.Store
