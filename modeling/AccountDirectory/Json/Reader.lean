import AccountDirectory.Json.Failure
import AccountDirectory.Text.Bytes

/-!
Reading JSON from the front of a list of bytes. A failure leaves the bytes where the reader stood,
so that reading can go on after a value that was given up.
-/

namespace AccountDirectory.Json

/-- Reads from the bytes left. The environment is a bound on the rounds of any loop: each round
    takes a byte, so the length of the whole text is enough. -/
abbrev Reader := ReaderT Nat (EStateM Failure (List UInt8))

/-- The code of an ASCII character. -/
def byte (c : Char) : UInt8 :=
  UInt8.ofNat c.toNat

/-- The white space between tokens. -/
def isSpace (b : UInt8) : Bool :=
  b == 0x20 || b == 0x0a || b == 0x09 || b == 0x0d

def isDigit (b : UInt8) : Bool :=
  0x30 ≤ b && b ≤ 0x39

namespace Reader

variable {α β : Type}

def fail (c : Cause) : Reader α :=
  throw { cause := c }

/-- The next byte, left in place. -/
def peek? : Reader (Option UInt8) :=
  return (← get).head?

def advance : Reader Unit :=
  modify List.tail

/-- The next byte, taken. -/
def next? : Reader (Option UInt8) := do
  match ← get with
  | [] => return none
  | b :: rest => set rest; return some b

/-- The byte after white space, left in place. -/
def token? : Reader (Option UInt8) := do
  modify (·.dropWhile isSpace)
  peek?

/-- The first byte of a value. -/
def startOfValue : Reader UInt8 := do
  match ← token? with
  | some b => return b
  | none => fail .endInValue

/-- Puts a step before the path of any failure. -/
def inside (step : PathStep) (r : Reader α) : Reader α := fun bound s =>
  match r bound s with
  | .ok a s => .ok a s
  | .error e s => .error { e with path := step :: e.path } s

/-- Runs the reader of a closing bracket after the reader of what it closes, whether that failed
    or not; the earlier failure counts. -/
def closedBy (body : Reader α) (close : Reader Unit) : Reader α := fun bound s =>
  match body bound s with
  | .ok a s =>
    match close bound s with
    | .ok _ s => .ok a s
    | .error e s => .error e s
  | .error e s =>
    match close bound s with
    | .ok _ s => .error e s
    | .error _ s => .error e s

/-- The given bytes, one by one. -/
def word : List UInt8 → Reader Unit
  | [] => return
  | w :: ws => do
    match ← next? with
    | none => fail .endInValue
    | some b => if b = w then word ws else fail .expectedWord

/-- A word whose first letter has been seen. -/
def restOfWord (s : String) : Reader Unit := do
  advance
  word (Text.ascii s).tail

/-- Whether a list has another item. -/
def hasItem (isFirst : Bool) : Reader Bool := do
  match ← token? with
  | none => fail .endInList
  | some b =>
    if b = byte ']' then return false
    else if isFirst then return true
    else if b = byte ',' then
      advance
      match ← token? with
      | none => fail .endInValue
      | some b => if b = byte ']' then fail .trailingComma else return true
    else fail .expectedCommaOrBracket

/-- Whether an object has another member; a member starts with a quote. -/
def hasMember (isFirst : Bool) : Reader Bool := do
  match ← token? with
  | none => fail .endInObject
  | some b =>
    if b = byte '\x7d' then return false
    else if isFirst then
      if b = byte '"' then return true else fail .keyNotString
    else if b = byte ',' then
      advance
      match ← token? with
      | none => fail .endInValue
      | some b =>
        if b = byte '"' then return true
        else if b = byte '\x7d' then fail .trailingComma
        else fail .keyNotString
    else fail .expectedCommaOrBrace

def endOfList : Reader Unit := do
  match ← token? with
  | none => fail .endInList
  | some b =>
    if b = byte ']' then advance
    else if b = byte ',' then
      advance
      if (← token?) = some (byte ']') then fail .trailingComma else fail .trailingCharacters
    else fail .trailingCharacters

def endOfObject : Reader Unit := do
  match ← token? with
  | none => fail .endInObject
  | some b =>
    if b = byte '\x7d' then advance
    else if b = byte ',' then fail .trailingComma
    else fail .trailingCharacters

/-- The colon between a key and its value. -/
def colon : Reader Unit := do
  match ← token? with
  | none => fail .endInObject
  | some b => if b = byte ':' then advance else fail .expectedColon

/-- The items of a list up to its bracket, which is left in place. -/
def items (read : Reader α) : Nat → Nat → List α → Reader (List α)
  | 0, _, _ => fail .endInList
  | bound + 1, i, done => do
    let item ← inside (.index i) do
      if ← hasItem (i == 0) then return some (← read) else return none
    match item with
    | some a => items read bound (i + 1) (a :: done)
    | none => return done.reverse

end Reader

end AccountDirectory.Json
