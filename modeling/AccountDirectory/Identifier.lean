import AccountDirectory.Failure
import AccountDirectory.Text.Numeral

/-!
Identifiers of users and groups. An identifier that is read from a text is positive.
-/

namespace AccountDirectory

structure UserId where
  value : Int32
deriving DecidableEq, Repr

structure GroupId where
  value : Int32
deriving DecidableEq, Repr

/-- Reads a positive identifier; `name` is what the failure calls it. -/
def positiveId (name s : String) : Except DomainError Int32 :=
  match Numeral.int32 s with
  | .error e => .error (.invalidId (name ++ ": " ++ e.message))
  | .ok n =>
    if n < 1 then .error (.invalidId (name ++ ": must be positive, got " ++ toString n.toInt))
    else .ok n

namespace UserId

def parse (s : String) : Except DomainError UserId :=
  (positiveId "UserId" s).map .mk

def render (id : UserId) : String :=
  toString id.value.toInt

/-- The administrator that every directory starts with. -/
def bootstrap : UserId :=
  ⟨1⟩

end UserId

namespace GroupId

def parse (s : String) : Except DomainError GroupId :=
  (positiveId "GroupId" s).map .mk

def render (id : GroupId) : String :=
  toString id.value.toInt

end GroupId

end AccountDirectory
