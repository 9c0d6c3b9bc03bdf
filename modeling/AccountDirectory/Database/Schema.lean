import AccountDirectory.Database.Term

/-!
The relations of the database: their columns with defaults and constraints.
-/

namespace AccountDirectory.Database

inductive ColumnKind where
  /-- Numbers that the database gives. -/
  | serial
  | integer
  | integers
  | text
  | boolean
  | timestamp
deriving DecidableEq, Repr

def ColumnKind.name : ColumnKind → String
  | serial => "serial"
  | integer => "integer"
  | integers => "integer[]"
  | text => "text"
  | boolean => "boolean"
  | timestamp => "timestamptz"

/-- A constraint with its name. -/
inductive ColumnConstraint where
  | primaryKey (name : String)
  | unique (name : String)
  /-- Without the spaces at its ends the text has more characters than this. -/
  | longerThan (name : String) (length : Nat)
deriving DecidableEq, Repr

structure Column where
  name : String
  kind : ColumnKind
  mayBeNull : Bool := true
  constraints : List ColumnConstraint := []
  byDefault : Option Term := none
deriving DecidableEq, Repr

def commaSeparated (l : List String) : String :=
  ", ".intercalate l

namespace Column

def required (name : String) (kind : ColumnKind) : Column where
  name
  kind
  mayBeNull := false

def nullable (name : String) (kind : ColumnKind) : Column where
  name
  kind

def withDefault (c : Column) (t : Term) : Column :=
  { c with byDefault := some t }

def constrained (c : Column) (constraints : List ColumnConstraint) : Column :=
  { c with constraints }

def constraintText (column : String) : ColumnConstraint → String
  | .primaryKey name => " CONSTRAINT " ++ name ++ " PRIMARY KEY"
  | .unique name => " CONSTRAINT " ++ name ++ " UNIQUE"
  | .longerThan name length =>
    " CONSTRAINT " ++ name ++ " CHECK (length(btrim(" ++ column ++ ")) > " ++ toString length ++
      ")"

def render (c : Column) : String :=
  c.name ++ " " ++ c.kind.name ++ (if c.mayBeNull then "" else " NOT NULL") ++
    String.join (c.constraints.map (constraintText c.name)) ++
    (match c.byDefault with
      | some t => " DEFAULT " ++ t.render
      | none => "")

end Column

inductive Relation where
  | users
  | groups
deriving DecidableEq, Repr

namespace Relation

def name : Relation → String
  | users => "go_user"
  | groups => "go_group"

def comment : Relation → String
  | users => "user accounts and their credential state"
  | groups => "named groups users can belong to"

/-- The name that no other row may have. -/
def nameColumn (unique : String) : Column :=
  (Column.required "name" .text).constrained [.unique unique, .longerThan "name_min_length" 2]

/-- What is known of the times and the state of every row. -/
def historyColumns : List Column :=
  [.nullable "last_modification_time" .timestamp, .nullable "last_modification_user" .integer,
    (Column.required "is_active" .boolean).withDefault (.bool true),
    .nullable "inactivation_time" .timestamp, .nullable "inactivation_reason" .text,
    .nullable "comment" .text]

/-- The columns that say how a row came to be. -/
def originColumns : List Column :=
  [(Column.required "create_time" .timestamp).withDefault .now, .required "creator" .integer]

def idColumn (key : String) : Column :=
  (Column.nullable "id" .serial).constrained [.primaryKey key]

def userColumns : List Column :=
  [idColumn "go_user_pk", nameColumn "go_user_unique_name",
    (Column.required "email" .text).constrained
      [.unique "go_user_unique_email", .longerThan "email_min_length" 3],
    (Column.required "username" .text).constrained
      [.unique "go_user_unique_username", .longerThan "username_min_length" 2],
    (Column.required "password_hash" .text).constrained
      [.longerThan "password_hash_min_length" 30],
    .nullable "external_id" .integer, .nullable "orgunit_id" .integer,
    (Column.required "groups_id" .integers).withDefault (.text "\x7b\x7d"),
    .nullable "phone" .text, (Column.required "is_locked" .boolean).withDefault (.bool false),
    (Column.required "is_admin" .boolean).withDefault (.bool false)] ++
  originColumns ++ historyColumns ++
  [(Column.required "bad_password_count" .integer).withDefault (.int 0)]

def groupColumns : List Column :=
  [idColumn "go_group_pk", nameColumn "go_group_unique_name"] ++ originColumns ++ historyColumns

def columns : Relation → List Column
  | users => userColumns
  | groups => groupColumns

/-- What creates the relation unless it exists. -/
def definition (r : Relation) : String :=
  "CREATE TABLE IF NOT EXISTS " ++ r.name ++ " ( " ++
    commaSeparated (r.columns.map Column.render) ++ " ); COMMENT ON TABLE " ++ r.name ++ " IS " ++
    Term.literal r.comment ++ ";"

end Relation

end AccountDirectory.Database
