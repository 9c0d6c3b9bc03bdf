import AccountDirectory.Text.Blank
import AccountDirectory.Text.Bytes

/-!
Requests as they arrive.
-/

namespace AccountDirectory.Http

inductive Method where
  | get
  | head
  | post
  | put
  | delete
  | other
deriving DecidableEq, Repr

def Method.ofName : String → Method
  | "GET" => get
  | "HEAD" => head
  | "POST" => post
  | "PUT" => put
  | "DELETE" => delete
  | _ => other

structure Request where
  method : Method
  path : String
  /-- What stands after the question mark; empty without one. -/
  query : String
  /-- Names in lower case, and values. -/
  headers : List (String × String)
  body : List UInt8
deriving DecidableEq, Repr

namespace Request

/-- The path and the query of a target. A fragment is no part of them. -/
def splitTarget (target : String) : String × String :=
  let l := target.toList.takeWhile (· != '#')
  (String.ofList (l.takeWhile (· != '?')), String.ofList ((l.dropWhile (· != '?')).drop 1))

def ofTarget (method : Method) (target : String) (headers : List (String × String))
    (body : List UInt8) : Request where
  method
  path := (splitTarget target).1
  query := (splitTarget target).2
  headers
  body

/-- Whether a character may stand in the value of a header that is read as text. -/
def isVisible (c : Char) : Bool :=
  (32 ≤ c.toNat && c.toNat < 127) || c == '\t'

/-- The value of the first header of this name, if it is readable text. -/
def header? (r : Request) (name : String) : Option String :=
  ((r.headers.find? (·.1 == name)).map (·.2)).filter fun v => v.toList.all isVisible

/-- The token that the request bears. -/
def bearerToken? (r : Request) : Option String := do
  let value ← r.header? "authorization"
  let token := Text.trim (String.ofList (← "Bearer ".toList.isPrefixOf? value.toList))
  if token.isEmpty then none else some token

end Request

end AccountDirectory.Http
