import AccountDirectory.Token.PublicKey

/-!
The header of a token. Only the algorithm matters; the other members are checked and dropped.
-/

namespace AccountDirectory.Token

open AccountDirectory.Json

/-- The algorithms that a header may name. -/
inductive Algorithm where
  | hs256 | hs384 | hs512
  | es256 | es384
  | rs256 | rs384 | rs512
  | ps256 | ps384 | ps512
  | edDsa
deriving DecidableEq, Repr

namespace Algorithm

def all : List Algorithm :=
  [hs256, hs384, hs512, es256, es384, rs256, rs384, rs512, ps256, ps384, ps512, edDsa]

def name : Algorithm → String
  | hs256 => "HS256"
  | hs384 => "HS384"
  | hs512 => "HS512"
  | es256 => "ES256"
  | es384 => "ES384"
  | rs256 => "RS256"
  | rs384 => "RS384"
  | rs512 => "RS512"
  | ps256 => "PS256"
  | ps384 => "PS384"
  | ps512 => "PS512"
  | edDsa => "EdDSA"

def ofName (s : String) : Reader Algorithm :=
  match all.find? fun a => a.name == s with
  | some a => return a
  | none => Reader.fail (.unknownVariant s (all.map name))

/-- The name of an algorithm, or an object with the name as its only key and null as the value. -/
def reader : Reader Algorithm := do
  let b ← Reader.startOfValue
  if b = byte '"' then ofName (← Reader.string)
  else if b = byte '\x7b' then
    Reader.advance
    let a ← ofName (← Reader.stringAs "variant identifier")
    Reader.colon
    let b ← Reader.startOfValue
    if b = byte 'n' then Reader.restOfWord "null" else Reader.wrongType "unit" b
    match ← Reader.token? with
    | none => Reader.fail .endInObject
    | some b =>
      if b = byte '\x7d' then
        Reader.advance
        return a
      else Reader.fail .expectedValue
  else Reader.fail .expectedValue

end Algorithm

/-- A header, as its algorithm. -/
def header : Reader Algorithm := do
  let (_, algorithm, _) ←
    record "Header" [Option String, Algorithm, Option String, Option String, Option Unit,
        Option String, Option String, Option (List String), Option String, Option String]
      (.nullable "typ" .text, .required "alg" Algorithm.reader, .nullable "cty" .text,
        .nullable "jku" .text, .nullable "jwk" PublicKey.reader, .nullable "kid" .text,
        .nullable "x5u" .text, .nullable "x5c" (.list .text), .nullable "x5t" .text,
        .nullable "x5t#S256" .text, ())
  return algorithm

end AccountDirectory.Token
