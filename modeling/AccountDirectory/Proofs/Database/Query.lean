import AccountDirectory.Database.Store
import AccountDirectory.Proofs.Interaction

/-!
What the operations on the database send to it, and how they end after what it replies.
-/

namespace AccountDirectory.Database

open AccountDirectory.Interaction (Asked ends_done ends_step)
open AccountDirectory.Store (Call)

variable {α β : Type}

/-- Whether a statement inserts a row, changes one or deletes one. -/
def Statement.writes : Statement → Bool
  | insert .. | insertOrUpdate .. | update .. | delete .. => true
  | _ => false

def Query.command? : Query α → Option Command
  | connect _ => none
  | rows c | execute c => some c

/-- The only command that writes, of those that a call sends. -/
def writeCommand? : {β : Type} → Call β → Option Command
  | _, .createUser new creator => some (Accounts.insertCommand new creator)
  | _, .updateUser id update actor => some (Accounts.updateCommand id update actor)
  | _, .updateProfile id update actor => some (Accounts.updateProfileCommand id update actor)
  | _, .deleteUser id => some { statement := .delete .users, parameters := [.int4 id.value] }
  | _, .resetPassword id digest actor => some (Accounts.resetPasswordCommand id digest actor)
  | _, .createGroup new creator => some (Groups.insertCommand new creator)
  | _, .updateGroup id update actor => some (Groups.updateCommand id update actor)
  | _, .deleteGroup id => some { statement := .delete .groups, parameters := [.int4 id.value] }
  | _, _ => none

/-- A command that writes is the expected one. -/
def Query.WritesOnly (expected? : Option Command) (q : Query α) : Prop :=
  ∀ c ∈ q.command?, c.statement.writes = true → expected? = some c

namespace Operation

/-- Reads the first row of a reply. `fetchKeyed` and `fetchOne` are this; without a row each has its
    own failure. -/
def firstRow (absent : StoreError) (name : String) (c : Command)
    (decode : Row → Except RowFault α) : Operation α := do
  match ← ask name (.rows c) with
  | [] => throw absent
  | row :: _ => read name (decode row)

variable {allowed : {γ : Type} → Query γ → Prop} {name missing : String} {absent : StoreError}
  {c : Command} {decode : Row → Except RowFault α}

theorem asks_ask {q : Query α} (fits : allowed q) : (ask name q).run.Asks allowed :=
  ⟨fits, fun r => by cases r <;> trivial⟩

theorem asks_read {r : Except RowFault α} : (read name r).run.Asks allowed := by
  cases r <;> trivial

theorem asks_fetchAll (fits : allowed (.rows c)) : (fetchAll name c decode).run.Asks allowed :=
  (asks_ask fits).bindExcept fun _ => asks_read

theorem asks_firstRow (fits : allowed (.rows c)) :
    (firstRow absent name c decode).run.Asks allowed := by
  refine (asks_ask fits).bindExcept fun rows => ?_
  cases rows with
  | nil => trivial
  | cons row more => exact asks_read

theorem asks_writeKeyed (fits : allowed (.execute c)) :
    (writeKeyed name missing c).run.Asks allowed := by
  refine (asks_ask fits).bindExcept fun n => ?_
  by_cases none : n = 0
  · rw [if_pos none]
    trivial
  · rw [if_neg none]
    trivial

def Shows (decode : Row → Except RowFault α) (r : Except ServerError (List Row)) (a : α) : Prop :=
  ∃ row more, r = .ok (row :: more) ∧ decode row = .ok a

variable {asked : List (Asked Query ServerError)} {result : Except StoreError α}

theorem ends_read {r : Except RowFault α} (ends : (read name r).run.Ends asked result) :
    asked = [] ∧ ∀ a, result = .ok a ↔ r = .ok a := by
  cases r with
  | ok a =>
    obtain ⟨rfl, rfl⟩ := ends_done.1 ends
    exact ⟨rfl, fun b => by simp⟩
  | error e =>
    obtain ⟨rfl, rfl⟩ := ends_done.1 ends
    exact ⟨rfl, fun b => by simp⟩

theorem ends_firstRow (ends : (firstRow absent name c decode).run.Ends asked result) :
    ∃ r, asked = [⟨.rows c, r⟩] ∧ ∀ a, result = .ok a ↔ Shows decode r a := by
  obtain ⟨r, later, rfl, rest⟩ := ends_step.1 ends
  rcases r with e | _ | ⟨row, more⟩
  · obtain ⟨rfl, rfl⟩ := ends_done.1 rest
    exact ⟨_, rfl, fun a => by simp [Shows]⟩
  · obtain ⟨rfl, rfl⟩ := ends_done.1 rest
    exact ⟨_, rfl, fun a => by simp [Shows]⟩
  · obtain ⟨rfl, shown⟩ := ends_read rest
    exact ⟨_, rfl, fun a => by simp [Shows, shown]⟩

theorem ends_writeKeyed {result : Except StoreError Unit}
    (ends : (writeKeyed name missing c).run.Ends asked result) :
    ∃ r, asked = [⟨.execute c, r⟩] ∧ (result = .ok () ↔ ∃ n, r = .ok n ∧ n ≠ 0) := by
  obtain ⟨r, later, rfl, rest⟩ := ends_step.1 ends
  rcases r with e | n
  · obtain ⟨rfl, rfl⟩ := ends_done.1 rest
    exact ⟨_, rfl, by simp⟩
  · have rest : (if n = 0 then throw (.notFound missing) else pure () : Operation Unit).run.Ends
        later result := rest
    by_cases none : n = 0
    · rw [if_pos none] at rest
      obtain ⟨rfl, rfl⟩ := ends_done.1 rest
      exact ⟨_, rfl, by simp [none]⟩
    · rw [if_neg none] at rest
      obtain ⟨rfl, rfl⟩ := ends_done.1 rest
      exact ⟨_, rfl, by simp [none]⟩

end Operation

section

open Operation

variable {expected? : Option Command} {c : Command}

theorem writesOnly_rows (fits : c.statement.writes = true → expected? = some c) :
    (Query.rows c).WritesOnly expected? := by
  rintro _ ⟨⟩
  exact fits

theorem writesOnly_execute (fits : c.statement.writes = true → expected? = some c) :
    (Query.execute c).WritesOnly expected? := by
  rintro _ ⟨⟩
  exact fits

theorem writesOnly_read (reads : c.statement.writes = false) :
    (Query.rows c).WritesOnly expected? :=
  writesOnly_rows fun writes => nomatch reads.symm.trans writes

theorem asks_getUser (id : UserId) : (getUser id).run.Asks (Query.WritesOnly expected?) :=
  asks_firstRow (writesOnly_read rfl)

theorem asks_getGroup (id : GroupId) : (getGroup id).run.Asks (Query.WritesOnly expected?) :=
  asks_firstRow (writesOnly_read rfl)

theorem asks_answer (c : Call β) : (answer c).Asks (Query.WritesOnly (writeCommand? c)) := by
  cases c with
  | createUser new creator =>
    exact (asks_firstRow (writesOnly_rows fun _ => rfl)).bindExcept fun n => asks_getUser ⟨n⟩
  | createGroup new creator =>
    exact (asks_firstRow (writesOnly_rows fun _ => rfl)).bindExcept fun n => asks_getGroup ⟨n⟩
  | updateUser id update actor | updateProfile id update actor =>
    exact (asks_writeKeyed (writesOnly_execute fun _ => rfl)).bindExcept fun _ => asks_getUser id
  | updateGroup id update actor =>
    exact (asks_writeKeyed (writesOnly_execute fun _ => rfl)).bindExcept fun _ => asks_getGroup id
  | deleteUser id | deleteGroup id | resetPassword id digest actor =>
    exact asks_writeKeyed (writesOnly_execute fun _ => rfl)
  | listUsers | listGroups => exact asks_fetchAll (writesOnly_read rfl)
  | getUser | getGroup | loadAuthRecord | isActive | isAdmin | isLocked | accountState =>
    exact asks_firstRow (writesOnly_read rfl)
  | userExists | maxUserId =>
    exact (asks_firstRow (writesOnly_read rfl)).bindExcept fun _ => trivial
  | findIdByLoginName =>
    exact (asks_firstRow (writesOnly_read rfl)).bindExcept fun _ => trivial
  | countUsers | countGroups => exact asks_firstRow (writesOnly_read rfl)

end

end AccountDirectory.Database
