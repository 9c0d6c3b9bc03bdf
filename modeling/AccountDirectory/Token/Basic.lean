import AccountDirectory.Claims
import AccountDirectory.Crypto.Sha2
import AccountDirectory.Text.Radix64
import AccountDirectory.Token.Header
import AccountDirectory.Token.Registered

/-!
Signed tokens: header, payload and signature, each in base 64, with dots between them. The
signature is the keyed SHA-512 digest of the text before it.
-/

namespace AccountDirectory

open AccountDirectory.Time (Instant)

namespace Token

/-- The secret that tokens are signed with; it is not empty. -/
structure SigningKey where
  bytes : List UInt8
  ne_nil : bytes ≠ []

def SigningKey.ofBytes? (bytes : List UInt8) : Option SigningKey :=
  if h : bytes = [] then none else some ⟨bytes, h⟩

/-- The report of a key without bytes. -/
def emptyKeyMessage : String := "signing key must not be empty"

/-- What is wrong with a token that is no signed claim set of this format. -/
inductive Malformation where
  | segments
  | encoding (e : Text.Radix64Error)
  | payload (e : Json.Cause)
  | algorithm
  | window (e : WindowError)
deriving DecidableEq, Repr

namespace Malformation

def message : Malformation → String
  | segments => "expected three non-empty segments"
  | encoding e => "encoding: " ++ e.message
  | payload e => "payload: " ++ e.message
  | algorithm => "unexpected algorithm"
  | window e => e.message

end Malformation

/-- Why a token is not accepted. -/
inductive TokenError where
  | badSignature
  | malformed (why : Malformation)
  | expired
  /-- The window cannot be checked within the range of time. -/
  | outOfTime
deriving DecidableEq, Repr

namespace TokenError

def message : TokenError → String
  | badSignature => "token signature does not match"
  | malformed why => "token is malformed: " ++ why.message
  | expired => "token has expired"
  | outOfTime => Instant.outOfTimeMessage

/-- A window that has not begun, or never could, makes the token malformed. -/
def ofWindow : WindowError → TokenError
  | .expired => expired
  | .outOfTime => outOfTime
  | e => malformed (.window e)

end TokenError

/-- A segment that holds the bytes of a text. -/
def segment (s : String) : String :=
  Text.ofAscii (Text.Radix64.encode .url (Text.utf8 s))

/-- The signature segment for the text of the other two. -/
def signature (key : SigningKey) (signed : String) : String :=
  Text.ofAscii (Text.Radix64.encode .url (Crypto.hmacSha512 key.bytes (Text.utf8 signed)))

/-- The header of every token that is issued. -/
def issuedHeader : String :=
  (Json.Value.object [("typ", .string "JWT"), ("alg", .string Algorithm.hs512.name)]).render

/-- A signed token with the claims. -/
def mint (key : SigningKey) (claims : ClaimSet) : String :=
  let signed := segment issuedHeader ++ "." ++ segment claims.toJson.render
  signed ++ "." ++ signature key signed

/-- The parts of a text between its dots. -/
def dotted (s : String) : List String :=
  (s.toList.splitOnP (· == '.')).map String.ofList

/-- The value in a segment. -/
def read {α : Type} (r : Json.Reader α) (segment : String) : Except TokenError α := do
  let bytes ← (Text.Radix64.decode .url (Text.utf8 segment)).mapError fun e => .malformed (.encoding e)
  (Json.decode r bytes).mapError fun e => .malformed (.payload e.cause)

/-- The claims of a token, as of an instant. The structure is checked first, then the header, the
    signature, the payload and the window. -/
def verifyAt (key : SigningKey) (token : String) (now : Instant) : Except TokenError ClaimSet := do
  let [h, p, s] := dotted token | throw (.malformed .segments)
  if h.isEmpty ∨ p.isEmpty ∨ s.isEmpty then throw (.malformed .segments)
  if (← read header h) ≠ .hs512 then throw (.malformed .algorithm)
  if signature key (h ++ "." ++ p) ≠ s then throw .badSignature
  let claims ← read ClaimSet.reader p
  read registered p
  (claims.validateWindow now).mapError .ofWindow
  return claims

end Token

end AccountDirectory
