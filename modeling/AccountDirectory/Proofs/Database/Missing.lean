import AccountDirectory.Proofs.Database.Query
import AccountDirectory.Proofs.Store.Missing

/-!
Records that are not there. In the database a record is missed just when the statement for it returns
or affects no row. In memory it is missed when it is not stored, except by the update of a group to a
name that another group has.
-/

namespace AccountDirectory.Database

open AccountDirectory.Interaction (Asked Ends ends_bindExcept ends_done ends_step)
open AccountDirectory.Store (Call Tables Target)
open AccountDirectory.Time (Instant)
open Operation

variable {α β : Type}

def relationOf : Target → Relation
  | .user _ => .users
  | .group _ => .groups

def keyOf : Target → Int32
  | .user id => id.value
  | .group id => id.value

/-- The command is for the row of the target, which it finds by the identifier. -/
def Command.IsFor (c : Command) (target : Target) : Prop :=
  match c.statement with
  | .find r _ column => r = relationOf target ∧ column = "id" ∧ c.parameters = [.int4 (keyOf target)]
  | .update r _ place => r = relationOf target ∧ c.parameters[place - 1]? = some (.int4 (keyOf target))
  | .delete r => r = relationOf target ∧ c.parameters = [.int4 (keyOf target)]
  | _ => False

/-- No row is returned or affected. -/
def Unmatched : Asked Query ServerError → Prop
  | ⟨.rows _, .ok rows⟩ => rows = []
  | ⟨.execute _, .ok n⟩ => n = 0
  | _ => False

/-- The operation misses what is named just when a question of it is unmatched. -/
def MissesUnmatched (missing : String) (p : Operation α) : Prop :=
  ∀ asked result, p.run.Ends asked result → ∀ what,
    result = .error (.notFound what) ↔ (∃ one ∈ asked, Unmatched one) ∧ what = missing

section

variable {name missing : String} {c : Command} {decode : Row → Except RowFault α}

theorem inOperation_server_finds (e : ServerError) (what : String) :
    (Fault.server e).inOperation name ≠ .notFound what := by
  cases e with
  | reported code message =>
    simp only [Fault.inOperation]
    split
    · nofun
    · nofun
  | closed | lost => nofun

theorem unmatched_rows {r : Except ServerError (List Row)} : Unmatched ⟨.rows c, r⟩ ↔ r = .ok [] := by
  cases r <;> simp [Unmatched]

theorem unmatched_execute {r : Except ServerError Nat} : Unmatched ⟨.execute c, r⟩ ↔ r = .ok 0 := by
  cases r <;> simp [Unmatched]

theorem read_finds {r : Except RowFault α} {asked : List (Asked Query ServerError)}
    {result : Except StoreError α} (ends : (read name r).run.Ends asked result) :
    asked = [] ∧ ∀ what, result ≠ .error (.notFound what) := by
  cases r with
  | ok a =>
    obtain ⟨rfl, rfl⟩ := ends_done.1 ends
    exact ⟨rfl, nofun⟩
  | error e =>
    obtain ⟨rfl, rfl⟩ := ends_done.1 ends
    exact ⟨rfl, nofun⟩

theorem misses_fetchKeyed : MissesUnmatched missing (fetchKeyed name missing c decode) := by
  intro asked result ends what
  obtain ⟨r, later, rfl, rest⟩ := ends_step.1 ends
  rcases r with e | _ | ⟨row, more⟩
  · obtain ⟨rfl, rfl⟩ := ends_done.1 rest
    simp [unmatched_rows, inOperation_server_finds]
  · obtain ⟨rfl, rfl⟩ := ends_done.1 rest
    simp [unmatched_rows, eq_comm]
  · obtain ⟨rfl, found⟩ := read_finds (r := decode row) rest
    simp [unmatched_rows, found]

theorem misses_writeKeyed : MissesUnmatched missing (writeKeyed name missing c) := by
  intro asked result ends what
  obtain ⟨r, later, rfl, rest⟩ := ends_step.1 ends
  rcases r with e | _ | n
  · obtain ⟨rfl, rfl⟩ := ends_done.1 rest
    simp [unmatched_execute, inOperation_server_finds]
  · obtain ⟨rfl, rfl⟩ := ends_done.1 rest
    simp [unmatched_execute, eq_comm]
  · obtain ⟨rfl, rfl⟩ := ends_done.1 rest
    simp [unmatched_execute]

theorem MissesUnmatched.bind {p : Operation α} {f : α → Operation β} (first : MissesUnmatched missing p)
    (second : ∀ a, MissesUnmatched missing (f a)) : MissesUnmatched missing (p >>= f) := by
  intro asked result ends what
  rcases ends_bindExcept ends with ⟨e, failed, rfl⟩ | ⟨before, after, a, rfl, start, finish⟩
  · rw [← first _ _ failed what]
    simp only [Except.error.injEq]
  · -- the first part went through, so none of its questions was unmatched
    have matched : ¬ ∃ one ∈ before, Unmatched one := fun unmatched =>
      nomatch (first _ _ start missing).2 ⟨unmatched, rfl⟩
    rw [second a _ _ finish what]
    simp only [List.mem_append, or_and_right, exists_or, matched, false_or]

end

theorem misses_answer {c : Call β} {target : Target} (addressed : c.target? = some target) :
    MissesUnmatched target.text (operation c) := by
  cases c with
  | getUser id | loadAuthRecord id | isActive id | isAdmin id | isLocked id | accountState id
  | getGroup id =>
    cases addressed
    exact misses_fetchKeyed
  | updateUser id update actor | updateProfile id update actor | updateGroup id update actor =>
    cases addressed
    exact misses_writeKeyed.bind fun _ => misses_fetchKeyed
  | deleteUser id | deleteGroup id | resetPassword id digest actor =>
    cases addressed
    exact misses_writeKeyed
  | listUsers | userExists | maxUserId | countUsers | createUser | listGroups | countGroups
  | createGroup | findIdByLoginName => cases addressed

theorem asks_for_target {c : Call β} {target : Target} (addressed : c.target? = some target) :
    (answer c).Asks fun q => ∃ command, q.command? = some command ∧ command.IsFor target := by
  have find {α : Type} {name missing : String} {c : Command} {decode : Row → Except RowFault α}
      {target : Target} (fits : c.IsFor target) : (fetchKeyed name missing c decode).run.Asks fun q =>
        ∃ command, q.command? = some command ∧ command.IsFor target :=
    asks_firstRow ⟨c, rfl, fits⟩
  have write {name missing : String} {c : Command} {target : Target} (fits : c.IsFor target) :
      (writeKeyed name missing c).run.Asks fun q =>
        ∃ command, q.command? = some command ∧ command.IsFor target :=
    asks_writeKeyed ⟨c, rfl, fits⟩
  cases c with
  | getUser id | loadAuthRecord id | isActive id | isAdmin id | isLocked id | accountState id
  | getGroup id =>
    cases addressed
    apply find
    exact ⟨rfl, rfl, rfl⟩
  | updateUser id update actor | updateProfile id update actor | updateGroup id update actor =>
    cases addressed
    refine Interaction.Asks.bindExcept (write ?_) fun _ => find ?_
    · exact ⟨rfl, rfl⟩
    · exact ⟨rfl, rfl, rfl⟩
  | deleteUser id | deleteGroup id | resetPassword id digest actor =>
    cases addressed
    apply write
    exact ⟨rfl, rfl⟩
  | listUsers | userExists | maxUserId | countUsers | createUser | listGroups | countGroups
  | createGroup | findIdByLoginName => cases addressed

/-- An operation that is addressed to a record fails with `notFound` just when the record is not
    stored, but the update of a missing group to a name that is taken fails with `conflict`. A call to
    the database that is addressed to a record asks for its row only, and fails with `notFound` just
    when no row is returned or affected, whatever is submitted. -/
theorem notFound_iff_missing (now : Instant) (t : Tables) :
    (∀ (o : Store.Operation) target, o.target? = some target →
      (∀ what, o.result now t = .error (.notFound what) ↔
        ¬ target.Stored t ∧ what = target.text ∧ ∀ name, ¬ o.TakesName t name) ∧
      ∀ name, o.TakesName t name →
        o.result now t = .error (.conflict ("group name '" ++ name ++ "' already exists"))) ∧
    ∀ {β : Type} (c : Call β) target, c.target? = some target → ∀ asked result,
      (answer c).Ends asked result →
        (∀ one ∈ asked, ∃ command, one.question.command? = some command ∧ command.IsFor target) ∧
        ∀ what, result = .error (.notFound what) ↔
          (∃ one ∈ asked, Unmatched one) ∧ what = target.text := by
  refine ⟨fun o target addressed => ⟨fun what =>
    Tables.result_eq_notFound addressed, fun name taken => ?_⟩,
    fun c target addressed asked result ends => ⟨?_, fun what => ?_⟩⟩
  · exact Tables.takesName_conflicts taken
  · exact ends.allowed (asks_for_target addressed)
  · exact misses_answer addressed asked result ends what

/-- A missing user is missed even where the submitted user name is taken, and a missing group where its
    name is free. -/
theorem notFound_iff_missing_taken :
    let start : Instant := { seconds := 0, nanos := 0 }
    let admin : AdminAccount := { username := "admin", email := "a@e.org", password := "p" }
    let t : Tables := Tables.withBootstrapAdmin admin ⟨List.replicate 16 0, by decide⟩ start
    let update : UserUpdate :=
      { id := ⟨7⟩, name := "Ada L.", email := "a@e.org", username := "admin", externalId := none,
        orgUnitId := none, groupIds := [], phone := none, isLocked := false, isAdmin := false,
        isActive := true, inactivationReason := none, comment := none }
    let rename : GroupUpdate :=
      { name := "Staff", isActive := true, inactivationReason := none, comment := none }
    let affected : Asked Query ServerError := ⟨.execute (Groups.updateCommand ⟨7⟩ rename .bootstrap), .ok 0⟩
    t.Initial ∧
      (Store.Operation.call (.updateUser ⟨7⟩ update .bootstrap)).result start t =
        .error (.notFound "user 7") ∧
      (Store.Operation.call (.updateGroup ⟨7⟩ rename .bootstrap)).result start t =
        .error (.notFound "group 7") ∧
      ∃ result, (answer (.updateGroup ⟨7⟩ rename .bootstrap)).Ends [affected] result ∧
        result = .error (.notFound "group 7") := by
  intro start admin t update rename affected
  obtain ⟨inMemory, inDatabase⟩ := notFound_iff_missing start t
  have user := (inMemory (.call (.updateUser ⟨7⟩ update .bootstrap)) (.user ⟨7⟩) rfl).1 "user 7"
  have group := (inMemory (.call (.updateGroup ⟨7⟩ rename .bootstrap)) (.group ⟨7⟩) rfl).1 "group 7"
  have ends : (answer (.updateGroup ⟨7⟩ rename .bootstrap)).Ends [affected]
      (.error (.notFound "group 7")) := .step _ (.done _)
  refine ⟨.bootstrap _ _ _, user.2 ⟨?_, by decide, ?_⟩, group.2 ⟨?_, by decide, ?_⟩, _, ends, ?_⟩
  · rintro ⟨stored, found⟩
    cases found
  · exact fun name taken => taken
  · rintro ⟨stored, found⟩
    cases found
  · rintro name ⟨-, other, member, -⟩
    cases member
  · exact ((inDatabase _ (.group ⟨7⟩) rfl _ _ ends).2 _).2 ⟨⟨affected, List.mem_cons_self, rfl⟩, by decide⟩

/-- The update of a group that is not there is refused for the name of another one. -/
theorem conflict_without_record :
    let start : Instant := { seconds := 0, nanos := 0 }
    let admin : AdminAccount := { username := "admin", email := "a@e.org", password := "p" }
    let origin : Tables := Tables.withBootstrapAdmin admin ⟨List.replicate 16 0, by decide⟩ start
    let t : Tables := origin.play
      [{ clock := start, operation := .call (.createGroup { name := "Staff", comment := none } .bootstrap) }]
    let rename : GroupUpdate :=
      { name := "Staff", isActive := true, inactivationReason := none, comment := none }
    let o : Store.Operation := .call (.updateGroup ⟨7⟩ rename .bootstrap)
    origin.Initial ∧ o.target? = some (.group ⟨7⟩) ∧ ¬ (Target.group ⟨7⟩).Stored t ∧
      ¬ ∃ what, o.result start t = .error (.notFound what) := by
  intro start admin origin t rename o
  have refused : o.result start t = .error (.conflict "group name 'Staff' already exists") := rfl
  refine ⟨.bootstrap _ _ _, rfl, ?_, ?_⟩
  · rintro ⟨stored, found⟩
    cases found
  · rintro ⟨what, missed⟩
    cases refused.symm.trans missed

end AccountDirectory.Database
