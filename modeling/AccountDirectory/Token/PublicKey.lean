import AccountDirectory.Json.Record
import AccountDirectory.Json.Tree

/-!
Public keys inside the header of a token. They are checked and dropped: first the members that
every key may have, then that the other members make up a key of some family.
-/

namespace AccountDirectory.Token.PublicKey

open AccountDirectory.Json

/-- What a member that every key may have must hold, unless it is null. -/
inductive Kind where
  | text
  | texts
  /-- Any name of an algorithm. -/
  | algorithm
deriving DecidableEq, Repr

def checkText : Tree → Except Cause Unit
  | .string _ => .ok ()
  | t => .error (.wrongType t.found "a string")

/-- A name is a string, or the only key of an object, with nothing under it. -/
def checkName : Tree → Except Cause Unit
  | .string _ | .object [(_, .null)] | .object [(_, .object [])] => .ok ()
  | .object [(_, t)] => .error (.wrongType t.found "unit")
  | .object _ => .error (.wrongValue .object "map with a single key")
  | t => .error (.wrongType t.found "string or map")

def Kind.check : Kind → Tree → Except Cause Unit
  | _, .null => .ok ()
  | text, t => checkText t
  | texts, .list items => items.forM checkText
  | texts, t => .error (.wrongType t.found "a sequence")
  | algorithm, t => checkName t

/-- The members that every key may have. -/
def common : List (String × Kind) :=
  [("use", .text), ("key_ops", .texts), ("alg", .algorithm), ("kid", .text), ("x5u", .text),
    ("x5c", .texts), ("x5t", .text), ("x5t#S256", .text)]

/-- Checks the common members in the order of the text; none may be there twice. -/
def checkCommon (seen : List String) : List (String × Tree) → Except Cause Unit
  | [] => .ok ()
  | (key, t) :: rest =>
    match common.lookup key with
    | none => checkCommon seen rest
    | some kind => do
      if seen.contains key then throw (.duplicateField key)
      kind.check t
      checkCommon (key :: seen) rest

def isText : Tree → Bool
  | .string _ => true
  | _ => false

/-- Whether a value names one of these; the value under a name that is a key must be null. -/
def isOneOf (names : List String) : Tree → Bool
  | .string s => names.contains s
  | .object [(key, .null)] => names.contains key
  | _ => false

/-- The names of curves. -/
def curves : List String :=
  ["P-256", "P-384", "P-521", "Ed25519"]

/-- The members that make up a key, by family. -/
def families : List (List (String × (Tree → Bool))) :=
  [[("kty", isOneOf ["EC"]), ("crv", isOneOf curves), ("x", isText), ("y", isText)],
    [("kty", isOneOf ["RSA"]), ("n", isText), ("e", isText)],
    [("kty", isOneOf ["oct"]), ("k", isText)],
    [("kty", isOneOf ["OKP"]), ("crv", isOneOf curves), ("x", isText)]]

/-- Whether each of the wanted members is there once and as it should be. -/
def fits (members : List (String × Tree)) (wanted : List (String × (Tree → Bool))) : Bool :=
  wanted.all fun (name, ok) =>
    match members.filter (·.1 == name) with
    | [(_, t)] => ok t
    | _ => false

def check (members : List (String × Tree)) : Except Cause Unit := do
  checkCommon [] members
  if !families.any (fits members) then
    throw (.refused "data did not match any variant of untagged enum AlgorithmParameters")

/-- The levels of brackets that are left inside the header's own. -/
def room : Nat := 126

def reader : Reader Unit := do
  let b ← Reader.startOfValue
  if b = byte '\x7b' then
    match ← Reader.tree room with
    | .object members =>
      match check members with
      | .ok _ => return
      | .error cause => Reader.fail cause
    | t => Reader.fail (.wrongType t.found "struct Jwk")
  else Reader.wrongType "struct Jwk" b

end AccountDirectory.Token.PublicKey
