/-!
The expressions that columns are set to, and their text.
-/

namespace AccountDirectory.Database

/-- What a column is set to. -/
inductive Term where
  | param (n : Nat)
  | null
  | bool (b : Bool)
  | int (n : Int)
  | text (s : String)
  /-- The time of the statement. -/
  | now
  /-- The value that the row has. -/
  | column (name : String)
  /-- The value that the row was to be inserted with. -/
  | excluded (name : String)
  /-- The first of two that is not null. -/
  | coalesce (a b : Term)
  | cond (c thenTerm elseTerm : Term)
deriving DecidableEq, Repr

namespace Term

/-- A text between quotes; a quote inside is doubled. -/
def literal (s : String) : String :=
  "'" ++ String.join (s.toList.map fun c => if c = '\'' then "''" else c.toString) ++ "'"

def render : Term → String
  | param n => "$" ++ toString n
  | null => "NULL"
  | bool b => if b then "true" else "false"
  | int n => toString n
  | text s => literal s
  | now => "now()"
  | column name => name
  | excluded name => "EXCLUDED." ++ name
  | coalesce a b => "COALESCE(" ++ a.render ++ ", " ++ b.render ++ ")"
  | cond c thenTerm elseTerm =>
    "CASE WHEN " ++ c.render ++ " THEN " ++ thenTerm.render ++ " ELSE " ++ elseTerm.render ++
      " END"

end Term

end AccountDirectory.Database
