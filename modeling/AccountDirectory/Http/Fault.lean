import AccountDirectory.Http.Response
import AccountDirectory.Permission

/-!
Failures of actions, and the responses that report them.
-/

namespace AccountDirectory.Http

/-- A failed action. -/
inductive Fault where
  | validation (message : String)
  | unauthorized
  | forbidden (message : String)
  | notFound (message : String)
  | conflict (message : String)
  | notImplemented (feature : String)
  /-- The detail is not shown to the client. -/
  | internal (detail : String)
deriving DecidableEq, Repr

namespace Fault

def status : Fault → Nat
  | validation _ => 400
  | unauthorized => 401
  | forbidden _ => 403
  | notFound _ => 404
  | conflict _ => 409
  | notImplemented _ => 501
  | internal _ => 500

def code : Fault → String
  | validation _ => "validation_error"
  | unauthorized => "unauthorized"
  | forbidden _ => "forbidden"
  | notFound _ => "not_found"
  | conflict _ => "conflict"
  | notImplemented _ => "not_implemented"
  | internal _ => "internal_error"

def message : Fault → String
  | validation message | forbidden message | notFound message | conflict message => message
  | unauthorized => "invalid credentials"
  | notImplemented feature => feature ++ " is not implemented"
  | internal _ => "internal error"

def ofStore : StoreError → Fault
  | .notFound what => notFound what
  | .conflict what => conflict what
  | .backend what => internal what

def ofDomain (e : DomainError) : Fault :=
  validation e.message

def ofForbidden (f : Forbidden) : Fault :=
  forbidden f.reason

def response (f : Fault) : Response :=
  .json f.status (.object [("error", .string f.code), ("message", .string f.message)])

end Fault

end AccountDirectory.Http
