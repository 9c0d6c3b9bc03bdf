import AccountDirectory.Database.Cell
import AccountDirectory.Database.Schema

/-!
The statements that are sent to the database, and their text. Parameters are numbered from one.
-/

namespace AccountDirectory.Database

/-- Columns with what they are set to. -/
abbrev Assignments := List (String × Term)

inductive Statement where
  | version
  /-- Creates the relations that do not exist. -/
  | createRelations
  | begin
  | commit
  | rollback
  /-- Lets identifiers that are given by the database follow the greatest one in use. -/
  | alignIdentifiers
  /-- The rows by ascending identifier: as many as the first parameter says, from the position that
      the second one says. -/
  | page (r : Relation) (columns : List String)
  /-- The rows whose key is the first parameter. -/
  | find (r : Relation) (columns : List String) (key : String)
  | countAll (r : Relation)
  | countById (r : Relation)
  | greatestId (r : Relation)
  /-- Inserts a row, and gives its identifier back. -/
  | insert (r : Relation) (values : Assignments)
  /-- Inserts a row with a known identifier, or sets columns of the row that has it. -/
  | insertOrUpdate (r : Relation) (values onConflict : Assignments)
  /-- Sets columns of the row whose identifier is a parameter. -/
  | update (r : Relation) (values : Assignments) (idParam : Nat)
  /-- Deletes the row whose identifier is the first parameter. -/
  | delete (r : Relation)
deriving DecidableEq, Repr

namespace Statement

/-- The columns and the values of a row to insert. -/
def valuesText (values : Assignments) : String :=
  "(" ++ commaSeparated (values.map (·.1)) ++ ") VALUES (" ++
    commaSeparated (values.map fun v => v.2.render) ++ ")"

def assignmentsText (values : Assignments) : String :=
  commaSeparated (values.map fun v => v.1 ++ " = " ++ v.2.render)

def render : Statement → String
  | version => "SELECT version()"
  | createRelations => Relation.users.definition ++ " " ++ Relation.groups.definition
  | begin => "BEGIN"
  | commit => "COMMIT"
  | rollback => "ROLLBACK"
  | alignIdentifiers =>
    "SELECT setval(pg_get_serial_sequence('go_user', 'id'), " ++
      "GREATEST((SELECT MAX(id) FROM go_user), 1))"
  | page r columns =>
    "SELECT " ++ commaSeparated columns ++ " FROM " ++ r.name ++ " ORDER BY id LIMIT $1 OFFSET $2"
  | find r columns key =>
    "SELECT " ++ commaSeparated columns ++ " FROM " ++ r.name ++ " WHERE " ++ key ++ " = $1"
  | countAll r => "SELECT COUNT(*) FROM " ++ r.name
  | countById r => "SELECT COUNT(*) FROM " ++ r.name ++ " WHERE id = $1"
  | greatestId r => "SELECT MAX(id) FROM " ++ r.name
  | insert r values => "INSERT INTO " ++ r.name ++ " " ++ valuesText values ++ " RETURNING id"
  | insertOrUpdate r values onConflict =>
    "INSERT INTO " ++ r.name ++ " " ++ valuesText values ++ " ON CONFLICT (id) DO UPDATE SET " ++
      assignmentsText onConflict
  | update r values idParam =>
    "UPDATE " ++ r.name ++ " SET " ++ assignmentsText values ++ " WHERE id = $" ++
      toString idParam
  | delete r => "DELETE FROM " ++ r.name ++ " WHERE id = $1"

end Statement

/-- A statement with the values of its parameters. -/
structure Command where
  statement : Statement
  parameters : List Cell := []
deriving DecidableEq, Repr

end AccountDirectory.Database
