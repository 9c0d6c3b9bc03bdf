import AccountDirectory.Database.Statement
import AccountDirectory.Interaction

/-!
Questions to a database. The first failure ends a call; what was asked before it names the
operation that failed.
-/

namespace AccountDirectory.Database

/-- Why the database does not answer. -/
inductive ServerError where
  /-- The database reports a failure, with a code of five characters unless it has none. -/
  | reported (code : Option String) (message : String)
  | closed
  | lost (detail : String)
deriving DecidableEq, Repr

inductive Query : Type → Type where
  | connect (url : String) : Query Unit
  | rows (c : Command) : Query (List Row)
  /-- Answered with the number of rows that were written. -/
  | execute (c : Command) : Query Nat

/-- Questions to a database, each of which may depend on the answers before it. -/
abbrev Program := Interaction Query ServerError

/-- What goes wrong in an operation. -/
inductive Fault where
  | server (e : ServerError)
  | noRow
  | row (e : RowFault)
  | configuration (reason : String)
deriving DecidableEq, Repr

namespace Fault

/-- The code of a value that is there already and must be unique. -/
def uniqueViolation : String := "23505"

def ofDriver (operation detail : String) : StoreError :=
  .backend ("sqlx error in " ++ operation ++ ": " ++ detail)

def inOperation (operation : String) : Fault → StoreError
  | server (.reported code message) =>
    let what := "database error in " ++ operation ++ ": " ++ message
    if code = some uniqueViolation then .conflict what else .backend what
  | server .closed => .backend ("connection pool closed in " ++ operation)
  | server (.lost detail) =>
    ofDriver operation ("error communicating with database: " ++ detail)
  | noRow => .notFound ("no row in " ++ operation)
  | row e => ofDriver operation e.message
  | configuration reason => ofDriver operation ("error with configuration: " ++ reason)

end Fault

/-- Questions of an operation that end with a value or the failure of a store. -/
abbrev Operation := ExceptT StoreError Program

namespace Operation

variable {α : Type} (name : String)

def fail (f : Fault) : Operation α :=
  throw (f.inOperation name)

def ask (q : Query α) : Operation α := do
  match ← (Interaction.ask q : Program _) with
  | .ok a => return a
  | .error e => fail name (.server e)

/-- What is read from a row. -/
def read (r : Except RowFault α) : Operation α :=
  match r with
  | .ok a => return a
  | .error e => fail name (.row e)

/-- All rows of a reply. -/
def fetchAll (c : Command) (decode : Row → Except RowFault α) : Operation (List α) := do
  let rows ← ask name (.rows c)
  read name (rows.mapM decode)

/-- The first row of a reply; `missing` is what is not found without one. -/
def fetchKeyed (missing : String) (c : Command) (decode : Row → Except RowFault α) :
    Operation α := do
  match ← ask name (.rows c) with
  | [] => throw (.notFound missing)
  | row :: _ => read name (decode row)

/-- The first row of a reply that has one for certain. -/
def fetchOne (c : Command) (decode : Row → Except RowFault α) : Operation α := do
  match ← ask name (.rows c) with
  | [] => fail name .noRow
  | row :: _ => read name (decode row)

/-- Writes; `missing` is what is not found if no row is written. -/
def writeKeyed (missing : String) (c : Command) : Operation Unit := do
  if (← ask name (.execute c)) = 0 then throw (.notFound missing)

end Operation

end AccountDirectory.Database
