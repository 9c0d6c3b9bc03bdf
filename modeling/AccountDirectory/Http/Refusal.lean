import AccountDirectory.Http.Fault
import AccountDirectory.Http.Query
import AccountDirectory.Json.Failure
import AccountDirectory.Login

/-!
Why a request is not answered as it asks, and what it is answered instead.
-/

namespace AccountDirectory.Http

inductive Refusal where
  | fault (f : Fault)
  | unknownPath
  | methodNotAllowed
  /-- No session can be opened. -/
  | unauthenticated
  /-- Whether there is a session cannot be found out. -/
  | sessionUnknown
  /-- A part of the path is no text. -/
  | pathPart (name : String)
  | query (e : QueryError)
  | contentType
  | bodyTooLarge
  | body (e : Json.Failure)
  /-- A time leaves the range of time. -/
  | outOfTime
deriving DecidableEq, Repr

namespace Refusal

/-- The status of a body that is no JSON, or no value of the wanted kind. -/
def bodyStatus (e : Json.Failure) : Nat :=
  match e.cause.category with
  | .data => 422
  | .eof | .syntactic => 400

def bodyMessage (e : Json.Failure) : String :=
  match e.cause.category with
  | .data => "Failed to deserialize the JSON body into the target type: " ++ e.located
  | .eof | .syntactic => "Failed to parse the request body as JSON: " ++ e.located

/-- Why a login was denied is not told. -/
def ofLogin : LoginError → Refusal
  | .internalFailure detail => fault (.internal detail)
  | .outOfTime => outOfTime
  | _ => fault .unauthorized

/-- The response, if there is one. -/
def response? : Refusal → Option Response
  | fault f => some f.response
  | unknownPath => some (.empty 404)
  | methodNotAllowed => some (.empty 405)
  | unauthenticated => some (.empty 401)
  | sessionUnknown => some (.empty 500)
  | pathPart name => some (.text 400 ("Invalid URL: Invalid UTF-8 in \x60" ++ name ++ "\x60"))
  | query e => some (.text 400 ("Failed to deserialize query string: " ++ e.message))
  | contentType => some (.text 415 "Expected request with \x60Content-Type: application/json\x60")
  | bodyTooLarge => some (.text 413 "Failed to buffer the request body: length limit exceeded")
  | body e => some (.text (bodyStatus e) (bodyMessage e))
  | outOfTime => none

end Refusal

end AccountDirectory.Http
