import AccountDirectory.Json.Scalar
import AccountDirectory.Json.Skip

/-!
Records: objects with known members, or lists of the members in their order. Members are checked in
the order of the text; members that are not known are passed over.
-/

namespace AccountDirectory.Json

/-- A member of a record. -/
structure Field (α : Type) where
  name : String
  /-- Other names for the same member. -/
  aliases : List String := []
  read : Reader α
  /-- What stands for the member in an object without it. -/
  ifMissing : Option α := none
  /-- What stands for the member in a list that ends before it. -/
  ifCutShort : Option α := none

namespace Field

variable {α : Type}

def required (name : String) (read : Reader α) : Field α where
  name
  read

/-- A member that may be null or missing, and that a list may not leave off. -/
def nullable (name : String) (read : Reader α) : Field (Option α) where
  name
  read := read.optional
  ifMissing := some none

/-- A member with a value of its own for when it is left out. -/
def withDefault (name : String) (default : α) (read : Reader α) : Field α where
  name
  read
  ifMissing := some default
  ifCutShort := some default

/-- A member that may be null or left out. -/
def optional (name : String) (read : Reader α) : Field (Option α) :=
  withDefault name none read.optional

def orNamed (f : Field α) (other : String) : Field α :=
  { f with aliases := other :: f.aliases }

def answersTo (f : Field α) (key : String) : Bool :=
  key == f.name || f.aliases.contains key

end Field

/-- Fields of the given types, in their order. -/
def Fields : List Type → Type
  | [] => Unit
  | α :: αs => Field α × Fields αs

/-- The values met so far. -/
def Slots : List Type → Type
  | [] => Unit
  | α :: αs => Option α × Slots αs

/-- A value for each field. -/
def Tuple : List Type → Type
  | [] => Unit
  | α :: αs => α × Tuple αs

def Slots.empty : (αs : List Type) → Slots αs
  | [] => ()
  | _ :: αs => (none, empty αs)

namespace Fields

/-- Reads the value after a key into its slot, if a field answers to the key. -/
def assign : (αs : List Type) → Fields αs → Slots αs → String → Option (Reader (Slots αs))
  | [], _, _, _ => none
  | _ :: αs, (f, fs), (slot, slots), key =>
    if f.answersTo key then
      some do
        if slot.isSome then Reader.fail (.duplicateField f.name)
        let v ← Reader.inside (.key key) do
          Reader.colon
          f.read
        return (some v, slots)
    else (assign αs fs slots key).map fun r => return (slot, ← r)

/-- The members of an object up to the closing brace. -/
def members (αs : List Type) (fs : Fields αs) :
    Nat → Bool → Slots αs → Reader (Slots αs)
  | 0, _, _ => Reader.fail .endInObject
  | bound + 1, isFirst, slots => do
    if ← Reader.hasMember isFirst then
      let key ← Reader.string
      match assign αs fs slots key with
      | some r => members αs fs bound false (← r)
      | none =>
        Reader.inside (.key key) do
          Reader.colon
          Reader.skip
        members αs fs bound false slots
    else return slots

/-- Puts the values for missing members into the empty slots. -/
def complete : (αs : List Type) → Fields αs → Slots αs → Reader (Tuple αs)
  | [], _, _ => return ()
  | _ :: αs, (f, fs), (slot, slots) => do
    match slot.or f.ifMissing with
    | some v => return (v, ← complete αs fs slots)
    | none => Reader.fail (.missingField f.name)

/-- The fields one after another, as items of a list. -/
def listed (expected : String) : (αs : List Type) → Fields αs → Nat → Reader (Tuple αs)
  | [], _, _ => return ()
  | _ :: αs, (f, fs), i => do
    let item ← Reader.inside (.index i) do
      if ← Reader.hasItem (i == 0) then return some (← f.read) else return none
    match item.or f.ifCutShort with
    | some v => return (v, ← listed expected αs fs (i + 1))
    | none => Reader.fail (.wrongLength i expected)

end Fields

/-- A record under the name that failures show. -/
def record (title : String) (αs : List Type) (fs : Fields αs) : Reader (Tuple αs) := do
  let b ← Reader.startOfValue
  if b = byte '\x7b' then
    Reader.advance
    Reader.closedBy (do
      let slots ← Fields.members αs fs (← read) true (Slots.empty αs)
      Fields.complete αs fs slots) Reader.endOfObject
  else if b = byte '[' then
    Reader.advance
    let expected := "struct " ++ title ++ " with " ++ toString αs.length ++ " elements"
    Reader.closedBy (Fields.listed expected αs fs 0) Reader.endOfList
  else Reader.wrongType ("struct " ++ title) b

/-- Reads a value from the front of a text; the rest does not matter. -/
def decodeFront {α : Type} (r : Reader α) (text : List UInt8) : Except Failure α :=
  match r (text.length + 1) text with
  | .ok a _ => .ok a
  | .error e _ => .error e

/-- Reads a text that is one value. -/
def decode {α : Type} (r : Reader α) (text : List UInt8) : Except Failure α :=
  decodeFront (do
    let a ← r
    if (← Reader.token?).isSome then Reader.fail .trailingCharacters
    return a) text

/-- Reads the bytes of a text that is one value. -/
def decodeText {α : Type} (r : Reader α) (text : String) : Except Failure α :=
  decode r (Text.utf8 text)

end AccountDirectory.Json
