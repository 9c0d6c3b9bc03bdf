import AccountDirectory.Json.Value

/-!
Responses.
-/

namespace AccountDirectory.Http

inductive Body where
  | text (s : String)
  | json (v : Json.Value)

/-- A response without its header fields. The media type and the length follow from the body (for a
    request for the head only, from the body of the whole), and the methods allowed, which go with
    status 405, from the path. -/
structure Response where
  status : Nat
  body : Body

namespace Response

def empty (status : Nat) : Response where
  status
  body := .text ""

def text (status : Nat) (s : String) : Response where
  status
  body := .text s

def json (status : Nat) (v : Json.Value) : Response where
  status
  body := .json v

/-- The response to a request for the head only. -/
def withoutBody (r : Response) : Response :=
  { r with body := .text "" }

end Response

end AccountDirectory.Http
