import AccountDirectory.Database.Setup
import AccountDirectory.Proofs.Database.Query
import AccountDirectory.Proofs.Database.Records
import AccountDirectory.Proofs.Store.Operation
import Mathlib.Data.List.Basic

/-!
The store in the database and the one in memory write the same records: the row that the statement of
an operation leaves is read as the record that the operation stores in memory.
-/

namespace AccountDirectory.Database

open AccountDirectory.Store (StoredUser Tables WritesGroup WritesUser groupKey)
open AccountDirectory.Time (Instant)

section

variable {r : Relation} {values : Assignments} {s : Scope} {cell : String → Cell}

theorem inserted?_eq {serial : Int32} (taken : r.takes values = true)
    (valued : r.columns.Forall fun c =>
      c.assigned? values s (c.initial? s serial) = some (cell c.name))
    (admitted : ∀ c ∈ r.columns, c.admits (cell c.name) = true) :
    r.inserted? values s serial = some (r.rowOf cell) := by
  have each := List.forall_iff_forall_mem.1 valued
  unfold Relation.inserted?
  rw [if_pos taken]
  exact Relation.row?_eq fun c member => ⟨each c member, admitted c member⟩

theorem updated?_eq (taken : r.takes values = true)
    (valued : r.columns.Forall fun c =>
      c.assigned? values s (s.current.lookup c.name) = some (cell c.name))
    (admitted : ∀ c ∈ r.columns, c.admits (cell c.name) = true) :
    r.updated? values s = some (r.rowOf cell) := by
  have each := List.forall_iff_forall_mem.1 valued
  unfold Relation.updated?
  rw [if_pos taken]
  exact Relation.row?_eq fun c member => ⟨each c member, admitted c member⟩

end

section

variable (now : Instant) (serial : Int32)

theorem insertUser_row? (new : NewUser) (creator : UserId) (current? : Option Row) :
    (Accounts.insertCommand new creator).row? now serial current? =
      some (userRow { user := Tables.newRecord new ⟨serial⟩ creator now
                      credentialDigest := new.credentialDigest }) := by
  unfold Accounts.insertCommand Command.row?
  refine inserted?_eq (by decide) ?_ (userCell_admitted _)
  and_intros
  all_goals rfl

theorem inactivationTerm_value {s : Scope} {k : ColumnKind} {n : Nat} {isActive : Bool}
    {inactivated : Option Instant} (parameter : s.parameters[n]? = some (.bool isActive))
    (current : s.current.lookup "inactivation_time" = some (.optional .time inactivated)) :
    (inactivationTerm (n + 1)).value? s k =
      some (.optional .time (Tables.inactivatedAt isActive inactivated s.now)) := by
  simp only [inactivationTerm, Term.value?, parameter, current]
  cases isActive with
  | true => rfl
  | false => cases inactivated <;> rfl

theorem updateUser_row? (s : StoredUser) (update : UserUpdate) (actor : UserId) :
    (Accounts.updateCommand s.user.id update actor).row? now serial (some (userRow s)) =
      some (userRow { s with user := Tables.updatedRecord s.user update actor now }) := by
  unfold Accounts.updateCommand Command.row?
  refine (if_pos rfl).trans (updated?_eq (by decide) ?_ (userCell_admitted _))
  and_intros
  all_goals first
    | rfl
    | exact inactivationTerm_value rfl rfl

theorem updateProfile_row? (s : StoredUser) (update : UserUpdate) (actor : UserId) :
    (Accounts.updateProfileCommand s.user.id update actor).row? now serial (some (userRow s)) =
      some (userRow { s with user := Tables.profileRecord s.user update actor now }) := by
  unfold Accounts.updateProfileCommand Command.row?
  refine (if_pos rfl).trans (updated?_eq (by decide) ?_ (userCell_admitted _))
  and_intros
  all_goals rfl

theorem resetPassword_row? (s : StoredUser) (digest : String) (actor : UserId) :
    (Accounts.resetPasswordCommand s.user.id digest actor).row? now serial (some (userRow s)) =
      some (userRow { user := Tables.resetRecord s.user actor now, credentialDigest := digest }) := by
  unfold Accounts.resetPasswordCommand Command.row?
  refine (if_pos rfl).trans (updated?_eq (by decide) ?_ (userCell_admitted _))
  and_intros
  all_goals rfl

theorem seedAdmin_row? (admin : AdminAccount) (digest : String) :
    (Accounts.ensureAdminCommand admin digest).row? now serial none =
      some (userRow { user := Tables.bootstrapRecord admin now, credentialDigest := digest }) := by
  unfold Accounts.ensureAdminCommand Command.row?
  refine Option.bind_eq_some_iff.2 ⟨_, inserted?_eq (by decide) ?_ (userCell_admitted _), rfl⟩
  and_intros
  all_goals rfl

theorem restoreAdmin_row? {s : StoredUser} (bootstrap : s.user.id = .bootstrap)
    (admin : AdminAccount) (digest : String) :
    (Accounts.ensureAdminCommand admin digest).row? now serial (some (userRow s)) =
      some (userRow { user := Tables.restoredRecord s.user admin now, credentialDigest := digest }) := by
  have seeding := seedAdmin_row? now serial admin digest
  have same : (userRow s).lookup "id" =
      (userRow { user := Tables.bootstrapRecord admin now, credentialDigest := digest }).lookup "id" :=
    congrArg (fun id : UserId => some (Cell.int4 id.value)) bootstrap
  unfold Accounts.ensureAdminCommand Command.row? at seeding ⊢
  -- The row that is not inserted is the one that is inserted where there is none.
  obtain ⟨excluded, inserted, only⟩ := Option.bind_eq_some_iff.1 seeding
  obtain rfl := Option.some.inj only
  refine Option.bind_eq_some_iff.2 ⟨_, inserted, (if_pos same).trans ?_⟩
  refine updated?_eq (by decide) ?_ (userCell_admitted _)
  and_intros
  all_goals rfl

theorem insertGroup_row? (new : NewGroup) (creator : UserId) (current? : Option Row) :
    (Groups.insertCommand new creator).row? now serial current? =
      some (groupRow (Tables.newGroup new ⟨serial⟩ creator now)) := by
  unfold Groups.insertCommand Command.row?
  refine inserted?_eq (by decide) ?_ (groupCell_admitted _)
  and_intros
  all_goals rfl

theorem updateGroup_row? (g : Group) (update : GroupUpdate) (actor : UserId) :
    (Groups.updateCommand g.id update actor).row? now serial (some (groupRow g)) =
      some (groupRow (Tables.updatedGroup g update actor now)) := by
  unfold Groups.updateCommand Command.row?
  refine (if_pos rfl).trans (updated?_eq (by decide) ?_ (groupCell_admitted _))
  and_intros
  all_goals first
    | rfl
    | exact inactivationTerm_value rfl rfl

end

/-- What is sent to the database for an operation. The flag and the count of an account are set by
    hand in memory only. -/
def program : Store.Operation → Program Unit
  | .call c => do
    let _ ← answer c
  | .ensureAdmin admin salt => do
    let _ ← (ensureAdmin admin salt).run
  | .setLocked .. | .setBadPasswordCount .. => pure ()

/-- The only command that writes, of those that are sent for an operation. -/
def operationCommand? : Store.Operation → Option Command
  | .call c => writeCommand? c
  | .ensureAdmin admin salt =>
    some (Accounts.ensureAdminCommand admin (admin.credentialDigest salt))
  | .setLocked .. | .setBadPasswordCount .. => none

def Sent {α : Type} (p : Program α) (c : Command) : Prop :=
  ∃ asked a, p.Ends asked a ∧ ∃ one ∈ asked, one.question.command? = some c

theorem Sent.here {α β : Type} {q : Query β} {next : Except ServerError β → Program α} {c : Command}
    (sends : q.command? = some c) : Sent (.step q next) c := by
  obtain ⟨later, a, rest⟩ := (next (.error .closed)).exists_ends .closed
  exact ⟨_, a, .step _ rest, ⟨q, _⟩, List.mem_cons_self, sends⟩

theorem Sent.later {α β : Type} {q : Query β} {next : Except ServerError β → Program α}
    {c : Command} (r : Except ServerError β) (sent : Sent (next r) c) : Sent (.step q next) c := by
  obtain ⟨asked, a, rest, one, member, sends⟩ := sent
  exact ⟨_, a, .step r rest, one, List.mem_cons_of_mem _ member, sends⟩

theorem asks_execute {expected? : Option Command} {operation : String} {statement : Statement}
    {parameters : List Cell}
    (fits : statement.writes = true → expected? = some { statement, parameters }) :
    (execute operation statement parameters).run.Asks (Query.WritesOnly expected?) :=
  (Operation.asks_ask (writesOnly_execute fits)).bindExcept fun _ => trivial

theorem asks_execute_other {expected? : Option Command} {operation : String} {statement : Statement}
    {parameters : List Cell} (other : statement.writes = false) :
    (execute operation statement parameters).run.Asks (Query.WritesOnly expected?) :=
  asks_execute fun writes => nomatch other.symm.trans writes

theorem asks_transaction {expected? : Option Command} {operation : String} {writes : Operation Unit}
    (asks : writes.run.Asks (Query.WritesOnly expected?)) :
    (transaction operation writes).run.Asks (Query.WritesOnly expected?) := by
  refine (asks_execute_other rfl).bindExcept fun _ => Interaction.Asks.tryCatch ?_ fun e => ?_
  · exact asks.bindExcept fun _ => asks_execute_other rfl
  · exact ⟨writesOnly_execute nofun, fun _ => trivial⟩

theorem asks_program (o : Store.Operation) :
    (program o).Asks (Query.WritesOnly (operationCommand? o)) := by
  cases o with
  | call c => exact (asks_answer c).bind fun _ => trivial
  | ensureAdmin admin salt =>
    refine (asks_transaction ?_).bind fun _ => trivial
    exact (asks_execute fun _ => rfl).bindExcept fun _ => asks_execute_other rfl
  | setLocked id locked | setBadPasswordCount id count => trivial

theorem sent_iff (o : Store.Operation) (c : Command) :
    Sent (program o) c ∧ c.statement.writes = true ↔ operationCommand? o = some c := by
  constructor
  · rintro ⟨⟨asked, a, ends, one, member, sends⟩, writes⟩
    exact ends.allowed (asks_program o) one member c sends writes
  · intro expected
    cases o with
    | call call =>
      -- A call that writes sends its command first, whatever is replied.
      cases call with
      | createUser | updateUser | updateProfile | deleteUser | resetPassword | createGroup
      | updateGroup | deleteGroup =>
        cases expected
        exact ⟨.here rfl, rfl⟩
      | listUsers | getUser | userExists | maxUserId | countUsers | listGroups | getGroup
      | countGroups | findIdByLoginName | loadAuthRecord | isActive | isAdmin | isLocked
      | accountState => cases expected
    | ensureAdmin admin salt =>
      cases expected
      exact ⟨.later (.ok 0) (.here rfl), rfl⟩
    | setLocked id locked | setBadPasswordCount id count => cases expected

section

variable {α : Type} {r : Relation} {Holds : Row → α → Prop} {encode : α → Row} {now : Instant}
  {serial : Int32} {c : Command}

/-- What stands somewhere in a relation is the row of the record that is stored there. -/
def Stands (r : Relation) (Holds : Row → α → Prop) (stored? : Option α) : Option Row → Prop
  | none => stored? = none
  | some row => r.Fits row ∧ ∃ a, stored? = some a ∧ Holds row a

/-- Where the row of the one record stands, the command leaves a row of the other. -/
def Command.Leaves (c : Command) (r : Relation) (Holds : Row → α → Prop) (now : Instant)
    (serial : Int32) (before? : Option α) (after : α) : Prop :=
  ∀ current?, Stands r Holds before? current? →
    ∃ row, c.row? now serial current? = some row ∧ r.Fits row ∧ Holds row after

theorem Represents.eq_map (represents : Represents r Holds encode) {stored? : Option α}
    {current? : Option Row} (stands : Stands r Holds stored? current?) :
    current? = stored?.map encode := by
  cases current? with
  | none => exact congrArg (Option.map encode) stands.symm
  | some row =>
    obtain ⟨fits, a, rfl, holds⟩ := stands
    obtain ⟨b, rfl⟩ := represents.every row fits
    rw [represents.unique _ a b holds (represents.holds b)]
    rfl

theorem Represents.leaves (represents : Represents r Holds encode) {before? : Option α} {after : α}
    (left : c.row? now serial (before?.map encode) = some (encode after)) :
    c.Leaves r Holds now serial before? after := by
  intro current? stands
  rw [represents.eq_map stands]
  exact ⟨encode after, left, represents.fits after, represents.holds after⟩

end

section

variable {now : Instant} {t : Tables} {o : Store.Operation} {c : Command} {last : Int32}

theorem row?_of_found {id : UserId} {before after : StoredUser}
    (found : t.users.find? id.value = some before) (kept : after.user.id = id)
    (left : c.row? now id.value (some (userRow before)) = some (userRow after)) :
    c.row? now after.key ((t.users.find? after.key).map userRow) = some (userRow after) := by
  rw [StoredUser.key, kept, found]
  exact left

theorem writtenUser_row? {s : StoredUser} (writes : WritesUser now t o s last)
    (command : operationCommand? o = some c) :
    c.row? now s.key ((t.users.find? s.key).map userRow) = some (userRow s) := by
  cases writes with
  | created unique =>
    cases command
    exact insertUser_row? now _ _ _ _
  | @updated id actor update before found unique =>
    obtain rfl := Tables.id_of_find? found
    cases command
    exact row?_of_found found rfl (updateUser_row? now _ before update actor)
  | @profiled id actor update before found unique =>
    obtain rfl := Tables.id_of_find? found
    cases command
    exact row?_of_found found rfl (updateProfile_row? now _ before update actor)
  | @reset id actor digest before found =>
    obtain rfl := Tables.id_of_find? found
    cases command
    exact row?_of_found found rfl (resetPassword_row? now _ before digest actor)
  | seeded absent =>
    cases command
    show Command.row? _ now _ ((t.users.find? UserId.bootstrap.value).map userRow) = _
    rw [absent]
    exact seedAdmin_row? now _ _ _
  | @restored admin salt before found =>
    have bootstrap := Tables.id_of_find? found
    cases command
    exact row?_of_found found bootstrap (restoreAdmin_row? now _ bootstrap _ _)
  | locked found | counted found => cases command

theorem writtenGroup_row? {g : Group} (writes : WritesGroup now t o g last)
    (command : operationCommand? o = some c) :
    c.row? now (groupKey g) ((t.groups.find? (groupKey g)).map groupRow) = some (groupRow g) := by
  cases writes with
  | created unique =>
    cases command
    exact insertGroup_row? now _ _ _ _
  | @updated id update actor before found unique =>
    have key : groupKey before = id.value := Store.Table.key_of_find? found
    obtain rfl : before.id = id := congrArg GroupId.mk key
    cases command
    show Command.row? _ now (groupKey before) ((t.groups.find? (groupKey before)).map groupRow) = _
    rw [groupKey, found]
    exact updateGroup_row? now _ before update actor

end

/-- Every row of a relation is one record, and an operation sends one command that writes, if any. Over
    the row of the record that is in memory, this command leaves the row of the record that the operation
    puts there. -/
theorem commands_leave_stored_records (now : Instant) (t : Tables) (o : Store.Operation) :
    (∀ row, Relation.users.Fits row → ∃! s, HoldsUser row s) ∧
    (∀ row, Relation.groups.Fits row → ∃! g, HoldsGroup row g) ∧
    (∀ c, Sent (program o) c ∧ c.statement.writes = true ↔ operationCommand? o = some c) ∧
    (∀ s last, WritesUser now t o s last →
      o.perform now t = { t with lastUserId := last }.putUser s ∧
      ∀ c, operationCommand? o = some c →
        c.Leaves .users HoldsUser now s.key (t.users.find? s.key) s) ∧
    (∀ g last, WritesGroup now t o g last →
      o.perform now t = { t with lastGroupId := last }.putGroup g ∧
      ∀ c, operationCommand? o = some c →
        c.Leaves .groups HoldsGroup now (groupKey g) (t.groups.find? (groupKey g)) g) := by
  refine ⟨fun row fits => users_represented.existsUnique fits,
    fun row fits => groups_represented.existsUnique fits, sent_iff o, fun s last writes => ?_,
    fun g last writes => ?_⟩
  · exact ⟨writes.perform, fun c command => users_represented.leaves (writtenUser_row? writes command)⟩
  · exact ⟨writes.perform, fun c command => groups_represented.leaves (writtenGroup_row? writes command)⟩

/-- The administrator is set up in an empty store, and a group becomes inactive. -/
theorem commands_leave_stored_records_closing :
    let now : Instant := { seconds := 60, nanos := 0 }
    let admin : AdminAccount := { username := "admin", email := "a@e.org", password := "p" }
    let salt : Crypto.Salt := ⟨List.replicate 16 0, by decide⟩
    let seeded : StoredUser :=
      { user := Tables.bootstrapRecord admin now, credentialDigest := admin.credentialDigest salt }
    let group : Group :=
      Tables.newGroup { name := "Staff", comment := none } ⟨1⟩ .bootstrap { seconds := 0, nanos := 0 }
    let update : GroupUpdate :=
      { name := "Staff", isActive := false, inactivationReason := some "moved", comment := none }
    (∃ row, (Accounts.ensureAdminCommand admin seeded.credentialDigest).row? now 1 none = some row ∧
      HoldsUser row seeded) ∧
    ∃ row, (Groups.updateCommand ⟨1⟩ update .bootstrap).row? now 1 (some (groupRow group)) = some row ∧
      HoldsGroup row
        { group with
          isActive := false
          inactivationTime := some now
          inactivationReason := some "moved"
          lastModificationTime := some now
          lastModificationUser := some .bootstrap } := by
  intro now admin salt seeded group update
  have users := (commands_leave_stored_records now {} (.ensureAdmin admin salt)).2.2.2.1
  have groups := (commands_leave_stored_records now (Tables.putGroup {} group)
    (.call (.updateGroup ⟨1⟩ update .bootstrap))).2.2.2.2
  obtain ⟨row, left, -, holds⟩ := (users seeded 1 (.seeded rfl)).2 _ rfl none rfl
  have stands : Stands .groups HoldsGroup (some group) (some (groupRow group)) :=
    ⟨groups_represented.fits group, group, rfl, holdsGroup_groupRow group⟩
  obtain ⟨closed, leftGroup, -, holdsGroup⟩ := (groups _ 0 (.updated rfl rfl)).2 _ rfl _ stands
  exact ⟨⟨row, left, holds⟩, closed, leftGroup, holdsGroup⟩

end AccountDirectory.Database
