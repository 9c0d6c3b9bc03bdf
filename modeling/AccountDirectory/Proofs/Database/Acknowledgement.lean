import AccountDirectory.Proofs.Database.Query
import AccountDirectory.Proofs.Store.InPlace

/-!
What a failed call has written. In memory it has written nothing. In the database its first statement
may have been acknowledged: a call that answers a record reads it again, and fails if it cannot.
-/

namespace AccountDirectory.Database

open AccountDirectory.Interaction (Asked ends_bindExcept)
open AccountDirectory.Store (Call InPlace Tables)
open AccountDirectory.Time (Instant)
open Operation

variable {α β : Type}

/-- The database has said that a row is written. -/
def Acknowledged : Asked Query ServerError → Prop
  | ⟨.rows c, .ok rows⟩ => c.statement.writes = true ∧ rows ≠ []
  | ⟨.execute c, .ok n⟩ => c.statement.writes = true ∧ n ≠ 0
  | _ => False

/-- All that is asked is one question, whose reply shows this. -/
def ShownBy (decode : Row → Except RowFault α) (asked : List (Asked Query ServerError)) (a : α) :
    Prop :=
  ∃ c r, asked = [⟨.rows c, r⟩] ∧ Shows decode r a

/-- What a call asks after its first statement shows what it answers. One that answers no record asks
    nothing more. -/
def ReadBack : {β : Type} → Call β → List (Asked Query ServerError) → β → Prop
  | _, .createUser .., rest, user | _, .updateUser .., rest, user | _, .updateProfile .., rest, user =>
    ShownBy Accounts.readUser rest user
  | _, .createGroup .., rest, group | _, .updateGroup .., rest, group =>
    ShownBy Groups.readGroup rest group
  | _, _, _, _ => True

/-- A command is asked first and is the only one that writes. What is answered is what is shown after
    it, if it was acknowledged. -/
def DecidedBy (command : Command) (shown : List (Asked Query ServerError) → α → Prop)
    (asked : List (Asked Query ServerError)) (result : Except StoreError α) : Prop :=
  ∃ one rest, asked = one :: rest ∧ one.question.command? = some command ∧
    (∀ other ∈ rest, ¬ Acknowledged other) ∧ ∀ a, result = .ok a ↔ Acknowledged one ∧ shown rest a

section

variable {name missing : String} {absent : StoreError} {command find : Command}
  {decode : Row → Except RowFault α} {asked : List (Asked Query ServerError)}

theorem acknowledged_rows {r : Except ServerError (List Row)} :
    Acknowledged ⟨.rows command, r⟩ ↔
      command.statement.writes = true ∧ ∃ row more, r = .ok (row :: more) := by
  rcases r with e | _ | ⟨row, more⟩ <;> simp [Acknowledged]

theorem acknowledged_execute {r : Except ServerError Nat} :
    Acknowledged ⟨.execute command, r⟩ ↔
      command.statement.writes = true ∧ ∃ n, r = .ok n ∧ n ≠ 0 := by
  cases r <;> simp [Acknowledged]

theorem shownBy_nil {a : α} : ¬ ShownBy decode [] a := by
  rintro ⟨c, r, nothing, -⟩
  cases nothing

theorem shownBy_rows {r : Except ServerError (List Row)} {a : α} :
    ShownBy decode [⟨.rows find, r⟩] a ↔ Shows decode r a := by
  constructor
  · rintro ⟨_, _, same, shows⟩
    cases same
    exact shows
  · exact fun shows => ⟨find, r, rfl, shows⟩

/-- An operation that asks one question, which sends the command, and goes on only if a row is
    written. -/
def Writes {γ : Type} (command : Command) (p : Operation γ) : Prop :=
  ∀ asked result, p.run.Ends asked result →
    ∃ one, asked = [one] ∧ one.question.command? = some command ∧
      ((∃ g, result = .ok g) → Acknowledged one)

theorem writes_writeKeyed (writes : command.statement.writes = true) :
    Writes command (writeKeyed name missing command) := by
  intro asked result ends
  obtain ⟨r, rfl, written⟩ := ends_writeKeyed ends
  refine ⟨_, rfl, rfl, ?_⟩
  rintro ⟨_, succeeded⟩
  exact acknowledged_execute.2 ⟨writes, written.1 succeeded⟩

theorem writes_insertedId (writes : command.statement.writes = true) :
    Writes command (insertedId name command) := by
  intro asked result ends
  obtain ⟨r, rfl, shown⟩ := ends_firstRow ends
  refine ⟨_, rfl, rfl, ?_⟩
  rintro ⟨id, succeeded⟩
  obtain ⟨row, more, replied, -⟩ := (shown id).1 succeeded
  exact acknowledged_rows.2 ⟨writes, row, more, replied⟩

/-- An operation that asks for one row and answers what it shows. -/
def Reads (decode : Row → Except RowFault α) (p : Operation α) : Prop :=
  ∀ asked result, p.run.Ends asked result →
    ∃ find r, asked = [⟨.rows find, r⟩] ∧ find.statement.writes = false ∧
      ∀ a, result = .ok a ↔ Shows decode r a

theorem reads_getUser (id : UserId) : Reads Accounts.readUser (getUser id) := by
  intro asked result ends
  obtain ⟨r, only, shown⟩ := ends_firstRow ends
  exact ⟨_, r, only, rfl, shown⟩

theorem reads_getGroup (id : GroupId) : Reads Groups.readGroup (getGroup id) := by
  intro asked result ends
  obtain ⟨r, only, shown⟩ := ends_firstRow ends
  exact ⟨_, r, only, rfl, shown⟩

/-- Nothing is read when the first question fails; otherwise a row is written and read again. -/
theorem Writes.decidedBy {γ : Type} {p : Operation γ} (writes : Writes command p)
    {f : γ → Operation α} (reads : ∀ g, Reads decode (f g)) {result : Except StoreError α}
    (ends : (p >>= f).run.Ends asked result) : DecidedBy command (ShownBy decode) asked result := by
  rcases ends_bindExcept ends with ⟨e, failed, rfl⟩ | ⟨first, later, g, rfl, start, finish⟩
  · -- The operation may fail after the acknowledgement, without an identifier to read the row by.
    obtain ⟨one, rfl, sends, -⟩ := writes _ _ failed
    exact ⟨one, [], rfl, sends, nofun, fun a => ⟨nofun, fun shown => absurd shown.2 shownBy_nil⟩⟩
  · obtain ⟨one, rfl, sends, acknowledged⟩ := writes _ _ start
    obtain ⟨find, r, rfl, reading, shown⟩ := reads g _ _ finish
    refine ⟨one, [⟨.rows find, r⟩], rfl, sends, ?_, fun a => ?_⟩
    · intro other member written
      obtain rfl := List.mem_singleton.1 member
      cases reading.symm.trans (acknowledged_rows.1 written).1
    · rw [shown a, shownBy_rows]
      exact ⟨fun shows => ⟨acknowledged ⟨g, rfl⟩, shows⟩, And.right⟩

theorem decidedBy_writeKeyed {shown : List (Asked Query ServerError) → Unit → Prop}
    (writes : command.statement.writes = true) (nothing : shown [] ())
    {result : Except StoreError Unit}
    (ends : (writeKeyed name missing command).run.Ends asked result) :
    DecidedBy command shown asked result := by
  obtain ⟨r, rfl, written⟩ := ends_writeKeyed ends
  refine ⟨_, [], rfl, rfl, nofun, fun _ => ?_⟩
  simp only [acknowledged_execute, writes, nothing, true_and, and_true]
  exact written

end

theorem decidedBy_answer {c : Call β} {command : Command} (writes : writeCommand? c = some command)
    {asked : List (Asked Query ServerError)} {result : Except StoreError β}
    (ends : (answer c).Ends asked result) : DecidedBy command (ReadBack c) asked result := by
  cases c with
  | createUser new creator =>
    cases writes
    exact (writes_insertedId rfl).decidedBy (fun n => reads_getUser ⟨n⟩) ends
  | updateUser id update actor | updateProfile id update actor =>
    cases writes
    exact (writes_writeKeyed rfl).decidedBy (fun _ => reads_getUser id) ends
  | createGroup new creator =>
    cases writes
    exact (writes_insertedId rfl).decidedBy (fun n => reads_getGroup ⟨n⟩) ends
  | updateGroup id update actor =>
    cases writes
    exact (writes_writeKeyed rfl).decidedBy (fun _ => reads_getGroup id) ends
  | deleteUser id | deleteGroup id | resetPassword id digest actor =>
    cases writes
    exact decidedBy_writeKeyed rfl trivial ends
  | listUsers | getUser | userExists | maxUserId | countUsers | listGroups | getGroup | countGroups
  | findIdByLoginName | loadAuthRecord | isActive | isAdmin | isLocked | accountState => cases writes

theorem writeCommand?_of_writes {c : Call β} (writes : c.writes = true) :
    ∃ command, writeCommand? c = some command := by
  cases c with
  | createUser | updateUser | updateProfile | deleteUser | createGroup | updateGroup | deleteGroup
  | resetPassword => exact ⟨_, rfl⟩
  | listUsers | getUser | userExists | maxUserId | countUsers | listGroups | getGroup | countGroups
  | findIdByLoginName | loadAuthRecord | isActive | isAdmin | isLocked | accountState => cases writes

/-- A call that writes asks the database to write first, and to write once. After the acknowledgement it
    fails exactly if it cannot read the row again. In memory a call that fails has written nothing. -/
theorem acknowledged_failure_iff_unread {c : Call β} (writes : c.writes = true) :
    (∃ command, writeCommand? c = some command ∧ ∀ asked result, (answer c).Ends asked result →
      DecidedBy command (ReadBack c) asked result ∧
      ((∃ one ∈ asked, Acknowledged one) →
        ((∃ e, result = .error e) ↔ ∀ b, ¬ ReadBack c asked.tail b))) ∧
    ∀ (now : Instant) (t after : Tables) e,
      InPlace.exec (InPlace.call now c) t = (.error e, after) → after = t := by
  constructor
  · obtain ⟨command, sends⟩ := writeCommand?_of_writes writes
    refine ⟨command, sends, fun asked result ends => ?_⟩
    have decided := decidedBy_answer sends ends
    refine ⟨decided, ?_⟩
    obtain ⟨one, rest, rfl, -, others, answered⟩ := decided
    rintro ⟨written, member, acknowledged⟩
    obtain rfl : written = one :=
      (List.mem_cons.1 member).resolve_right fun later => others written later acknowledged
    constructor
    · rintro ⟨e, rfl⟩ b shown
      cases (answered b).2 ⟨acknowledged, shown⟩
    · intro unread
      cases result with
      | ok b => exact absurd ((answered b).1 rfl).2 (unread b)
      | error e => exact ⟨e, rfl⟩
  · intro now t after e failed
    rw [InPlace.exec_call, Tables.answer_eq_settle] at failed
    exact Tables.settle_error failed

/-- The connection is lost when the row of a group is to be read again. -/
theorem acknowledged_failure_iff_unread_lost :
    let update : GroupUpdate :=
      { name := "Editors", isActive := true, inactivationReason := none, comment := none }
    let written : Asked Query ServerError :=
      ⟨.execute (Groups.updateCommand ⟨7⟩ update .bootstrap), .ok 1⟩
    let lost : Except ServerError (List Row) := .error (.lost "connection reset by peer")
    ∃ find e, (answer (.updateGroup ⟨7⟩ update .bootstrap)).Ends [written, ⟨.rows find, lost⟩] (.error e) ∧
      Acknowledged written ∧ ∀ g, ¬ ShownBy Groups.readGroup [⟨.rows find, lost⟩] g := by
  intro update written lost
  have acknowledged : Acknowledged written := ⟨rfl, by decide⟩
  obtain ⟨⟨command, -, ended⟩, -⟩ :=
    acknowledged_failure_iff_unread (c := .updateGroup ⟨7⟩ update .bootstrap) rfl
  refine ⟨_, _, .step _ (.step _ (.done _)), acknowledged, ?_⟩
  have failed := (ended _ _ (.step (.ok 1) (.step lost (.done _)))).2
  exact (failed ⟨written, List.mem_cons_self, acknowledged⟩).1 ⟨_, rfl⟩

/-- A new group is stored, and the row that is read again lacks a column. -/
theorem answer_fails_after_insert :
    ¬ ∀ (β : Type) (c : Call β), c.writes = true → ∀ asked e, (answer c).Ends asked (.error e) →
      ∀ one ∈ asked, ¬ Acknowledged one := by
  intro never
  let new : NewGroup := { name := "Editors", comment := none }
  let row : Row :=
    [("id", .int4 7), ("name", .text "Editors"), ("create_time", .time { seconds := 0, nanos := 0 }),
      ("creator", .int4 1), ("last_modification_time", .null), ("last_modification_user", .null),
      ("is_active", .bool true), ("inactivation_time", .null), ("comment", .null)]
  let inserted : Asked Query ServerError :=
    ⟨.rows (Groups.insertCommand new .bootstrap), .ok [[("id", .int4 7)]]⟩
  have ends : ∃ find e, (answer (.createGroup new .bootstrap)).Ends
      [inserted, ⟨.rows find, .ok [row]⟩] (.error e) :=
    ⟨_, (Fault.row (.noColumn "inactivation_reason")).inOperation "get_group",
      .step _ (.step _ (.done _))⟩
  obtain ⟨find, e, ends⟩ := ends
  exact never _ _ rfl _ _ ends inserted List.mem_cons_self ⟨rfl, nofun⟩

end AccountDirectory.Database
