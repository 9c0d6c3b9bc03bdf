import AccountDirectory.Failure
import AccountDirectory.Text.Quoted
import AccountDirectory.Time.Instant

/-!
Values in the columns of a relational database, and reading them from the rows of a reply.
-/

namespace AccountDirectory.Database

open AccountDirectory.Time (Instant)

/-- A value in a row, or of a parameter. -/
inductive Cell where
  | null
  | bool (b : Bool)
  | int4 (n : Int32)
  | int8 (n : Int)
  | text (s : String)
  | int4s (l : List Int32)
  | time (t : Instant)
deriving DecidableEq, Repr

namespace Cell

/-- Null for none. -/
def optional {α : Type} (cell : α → Cell) : Option α → Cell
  | none => null
  | some a => cell a

/-- The name of the column type that has the value; null has any. -/
def typeName : Cell → String
  | null => "NULL"
  | bool _ => "BOOL"
  | int4 _ => "INT4"
  | int8 _ => "INT8"
  | text _ => "TEXT"
  | int4s _ => "INT4[]"
  | time _ => "TIMESTAMPTZ"

end Cell

/-- How a column is addressed: by its name, or by its position. -/
inductive Place where
  | named (name : String)
  | position (i : Nat)
deriving DecidableEq, Repr

def Place.render : Place → String
  | named name => Text.quoted name
  | position i => toString i

/-- Why a row does not hold the wanted value. -/
inductive RowFault where
  | noColumn (name : String)
  | beyondColumns (length index : Nat)
  | unexpectedNull (place : Place)
  | wrongType (place : Place) (readAs wanted found : String)
deriving DecidableEq, Repr

namespace RowFault

def decoding (place : Place) : String :=
  "error occurred while decoding column " ++ place.render ++ ": "

def message : RowFault → String
  | noColumn name => "no column found for name: " ++ name
  | beyondColumns length index =>
    s!"column index out of bounds: the len is {length}, but the index is {index}"
  | unexpectedNull place =>
    decoding place ++ "unexpected null; try decoding as an \x60Option\x60"
  | wrongType place readAs wanted found =>
    decoding place ++ "mismatched types; Rust type \x60" ++ readAs ++ "\x60 (as SQL type \x60" ++
      wanted ++ "\x60) is not compatible with SQL type \x60" ++ found ++ "\x60"

end RowFault

/-- A type of columns, and the values that are read from them. -/
structure ColumnType (α : Type) where
  name : String
  /-- What a failure calls the values. -/
  readAs : String
  read? : Cell → Option α

namespace ColumnType

def bool : ColumnType Bool where
  name := "BOOL"
  readAs := "bool"
  read? | .bool b => some b | _ => none

def int4 : ColumnType Int32 where
  name := "INT4"
  readAs := "i32"
  read? | .int4 n => some n | _ => none

def int8 : ColumnType Int where
  name := "INT8"
  readAs := "i64"
  read? | .int8 n => some n | _ => none

def text : ColumnType String where
  name := "TEXT"
  readAs := "alloc::string::String"
  read? | .text s => some s | _ => none

def int4s : ColumnType (List Int32) where
  name := "INT4[]"
  readAs := "alloc::vec::Vec<i32>"
  read? | .int4s l => some l | _ => none

def time : ColumnType Instant where
  name := "TIMESTAMPTZ"
  readAs := "chrono::datetime::DateTime<chrono::offset::utc::Utc>"
  read? | .time t => some t | _ => none

/-- The values of the type, and null. -/
def optional {α : Type} (c : ColumnType α) : ColumnType (Option α) where
  name := c.name
  readAs := "core::option::Option<" ++ c.readAs ++ ">"
  read? | .null => some none | cell => (c.read? cell).map some

def decode {α : Type} (c : ColumnType α) (place : Place) (cell : Cell) : Except RowFault α :=
  match c.read? cell with
  | some a => .ok a
  | none =>
    if cell = .null then .error (.unexpectedNull place)
    else .error (.wrongType place c.readAs c.name cell.typeName)

end ColumnType

/-- A row: the names of its columns with their values. -/
abbrev Row := List (String × Cell)

namespace Row

variable {α : Type}

/-- The value of a column; of several with the name the last one counts. -/
def get (row : Row) (c : ColumnType α) (name : String) : Except RowFault α :=
  match row.reverse.lookup name with
  | none => .error (.noColumn name)
  | some cell => c.decode (.named name) cell

/-- The value of the column at a position. -/
def nth (row : Row) (c : ColumnType α) (i : Nat) : Except RowFault α :=
  match row[i]? with
  | none => .error (.beyondColumns row.length i)
  | some (_, cell) => c.decode (.position i) cell

end Row

end AccountDirectory.Database
