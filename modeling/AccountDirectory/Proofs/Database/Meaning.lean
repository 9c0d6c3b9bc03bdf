import AccountDirectory.Database.Cell
import AccountDirectory.Database.Statement

/-!
What the statements that write a row mean: the row that each leaves, from its parameters, the time of
the statement and the row that is there. Constraints on the values of several rows or on the lengths
of texts are left out; they refuse a row, but they change none.
-/

namespace AccountDirectory.Database

open AccountDirectory.Time (Instant)

/-- What the terms of a statement refer to. -/
structure Scope where
  parameters : List Cell
  now : Instant
  /-- The row as it is. -/
  current : Row := []
  /-- The row as it was to be inserted. -/
  excluded : Row := []

namespace ColumnKind

/-- A literal text takes the kind of what it is assigned to. -/
def literal? : ColumnKind → String → Option Cell
  | text, s => some (.text s)
  | integers, s => if s = "\x7b\x7d" then some (.int4s []) else none
  | _, _ => none

def admits : ColumnKind → Cell → Bool
  | _, .null => true
  | serial, .int4 _ | integer, .int4 _ | integers, .int4s _ | text, .text _ | boolean, .bool _
  | timestamp, .time _ => true
  | _, _ => false

end ColumnKind

namespace Term

/-- A literal number is an integer if it fits into one. -/
def number (n : Int) : Cell :=
  if (Int32.ofInt n).toInt = n then .int4 (.ofInt n) else .int8 n

def value? (s : Scope) (k : ColumnKind) : Term → Option Cell
  | param 0 => none
  | param (n + 1) => s.parameters[n]?
  | null => some .null
  | bool b => some (.bool b)
  | int n => some (number n)
  | text literal => k.literal? literal
  | now => some (.time s.now)
  | column name => s.current.lookup name
  | excluded name => s.excluded.lookup name
  | coalesce a b => do
    match ← a.value? s k with
    | .null => b.value? s k
    | cell => some cell
  | cond c thenTerm elseTerm => do
    match ← c.value? s .boolean with
    | .bool true => thenTerm.value? s k
    | .bool false | .null => elseTerm.value? s k
    | _ => none

end Term

namespace Column

/-- A column of numbers that the database gives is never null. -/
def isRequired (c : Column) : Bool :=
  !c.mayBeNull || c.kind == .serial

def admits (c : Column) (cell : Cell) : Bool :=
  c.kind.admits cell && !(c.isRequired && cell == .null)

/-- What a new row has where nothing is assigned; `serial` is the number that the database gives. -/
def initial? (c : Column) (s : Scope) (serial : Int32) : Option Cell :=
  match c.byDefault with
  | some t => t.value? s c.kind
  | none => some (if c.kind = .serial then .int4 serial else .null)

def assigned? (c : Column) (values : Assignments) (s : Scope) (otherwise : Option Cell) :
    Option Cell :=
  match values.lookup c.name with
  | some t => t.value? s c.kind
  | none => otherwise

end Column

namespace Relation

/-- The assignments are to columns of the relation, to each at most once. -/
def takes (r : Relation) (values : Assignments) : Bool :=
  values.all (fun v => (r.columns.map Column.name).contains v.1) && (values.map Prod.fst).Nodup

def row? (r : Relation) (value? : Column → Option Cell) : Option Row :=
  r.columns.mapM fun c => do
    let cell ← value? c
    if c.admits cell then some (c.name, cell) else none

def inserted? (r : Relation) (values : Assignments) (s : Scope) (serial : Int32) : Option Row :=
  if r.takes values then r.row? fun c => c.assigned? values s (c.initial? s serial) else none

/-- The terms are evaluated over the row as it is, before any column is set. -/
def updated? (r : Relation) (values : Assignments) (s : Scope) : Option Row :=
  if r.takes values then r.row? fun c => c.assigned? values s (s.current.lookup c.name) else none

def Fits (r : Relation) (row : Row) : Prop :=
  r.row? (fun c => row.lookup c.name) = some row

def rowOf (r : Relation) (cell : String → Cell) : Row :=
  r.columns.map fun c => (c.name, cell c.name)

end Relation

/-- The row that a command leaves where one is or is not; none if it leaves no row there. -/
def Command.row? (c : Command) (now : Instant) (serial : Int32) (current? : Option Row) :
    Option Row :=
  let s : Scope := { parameters := c.parameters, now }
  match c.statement with
  | .insert r values => r.inserted? values s serial
  | .insertOrUpdate r values onConflict => do
    let excluded ← r.inserted? values s serial
    match current? with
    | none => some excluded
    | some current =>
      if current.lookup "id" = excluded.lookup "id" then
        r.updated? onConflict { s with current, excluded }
      else none
  | .update r values idParam => do
    let current ← current?
    if current.lookup "id" = (Term.param idParam).value? s .integer then
      r.updated? values { s with current }
    else none
  | _ => none

def Row.select? (row : Row) (columns : List String) : Option Row :=
  columns.mapM fun name => do return (name, ← row.lookup name)

end AccountDirectory.Database
