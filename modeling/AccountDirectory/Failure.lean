/-!
Failures of the directory: of its rules about records, and of the stores that keep them.
-/

namespace AccountDirectory

/-- A record or an identifier that the rules refuse. -/
inductive DomainError where
  | validation (reason : String)
  | invariant (reason : String)
  | invalidId (reason : String)
deriving DecidableEq, Repr

namespace DomainError

def message : DomainError → String
  | validation reason => "validation failed: " ++ reason
  | invariant reason => "invariant violated: " ++ reason
  | invalidId reason => "invalid identifier: " ++ reason

end DomainError

/-- A failure of a store. -/
inductive StoreError where
  /-- The addressed record is not stored. -/
  | notFound (what : String)
  /-- Another record has a value that must be unique. -/
  | conflict (what : String)
  /-- The store itself failed. -/
  | backend (what : String)
deriving DecidableEq, Repr

namespace StoreError

def message : StoreError → String
  | notFound what => "not found: " ++ what
  | conflict what => "conflict: " ++ what
  | backend what => "storage backend error: " ++ what

def isNotFound : StoreError → Bool
  | notFound _ => true
  | _ => false

end StoreError

end AccountDirectory
