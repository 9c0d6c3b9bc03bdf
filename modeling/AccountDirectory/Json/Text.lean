import AccountDirectory.Json.Reader
import AccountDirectory.Text.Base16

/-!
Strings in a JSON text, read one byte at a time. In a checked string every escaped surrogate has
its partner; in a string that is passed over only the digits of escapes are checked.
-/

namespace AccountDirectory.Json

/-- Where the reader of a string stands. -/
inductive StringMode where
  | plain
  | escaped
  /-- In the four digits of an escape, after an escaped leading surrogate if there is one. No value
      is left once something else than a digit was met. -/
  | digits (lead : Option Nat) (left : Nat) (value : Option Nat)
  /-- After a leading surrogate, before the backslash or the letter u of its partner. -/
  | pairing (code : Nat) (sawBackslash : Bool)
deriving DecidableEq, Repr

/-- What one byte of a string does: it closes the string, or adds bytes to it. -/
inductive StringStep where
  | close
  | add (bytes : List UInt8) (mode : StringMode)
deriving DecidableEq, Repr

/-- What a one-letter escape stands for. -/
def shortEscape? (b : UInt8) : Option UInt8 :=
  if b = byte '"' ∨ b = byte '\\' ∨ b = byte '/' then some b
  else if b = byte 'b' then some 0x08
  else if b = byte 'f' then some 0x0c
  else if b = byte 'n' then some 0x0a
  else if b = byte 'r' then some 0x0d
  else if b = byte 't' then some 0x09
  else none

/-- The bytes of a code point that is no surrogate. -/
def codePointBytes (n : Nat) : List UInt8 :=
  String.utf8EncodeChar (Char.ofNat n)

def isLeadSurrogate (n : Nat) : Bool :=
  0xD800 ≤ n && n ≤ 0xDBFF

def isTrailSurrogate (n : Nat) : Bool :=
  0xDC00 ≤ n && n ≤ 0xDFFF

/-- What four digits add in a checked string. -/
def escapedCode (lead : Option Nat) (n : Nat) : Except Cause StringStep :=
  match lead with
  | some high =>
    if isTrailSurrogate n then
      .ok (.add (codePointBytes (0x10000 + (high - 0xD800) * 0x400 + (n - 0xDC00))) .plain)
    else .error .loneSurrogate
  | none =>
    if isTrailSurrogate n then .error .loneSurrogate
    else if isLeadSurrogate n then .ok (.add [] (.pairing n false))
    else .ok (.add (codePointBytes n) .plain)

def StringMode.step (checked : Bool) (b : UInt8) : StringMode → Except Cause StringStep
  | .plain =>
    if b = byte '"' then .ok .close
    else if b = byte '\\' then .ok (.add [] .escaped)
    else if b < 0x20 then .error .controlCharacter
    else .ok (.add [b] .plain)
  | .escaped =>
    match shortEscape? b with
    | some c => .ok (.add [c] .plain)
    | none => if b = byte 'u' then .ok (.add [] (.digits none 4 (some 0))) else .error .invalidEscape
  | .digits lead left value =>
    let value := do return (← value) * 16 + (← Text.Base16.value? b)
    if 1 < left then .ok (.add [] (.digits lead (left - 1) value))
    else
      match value with
      | none => .error .invalidEscape
      | some n => if checked then escapedCode lead n else .ok (.add [] .plain)
  | .pairing code false =>
    if b = byte '\\' then .ok (.add [] (.pairing code true)) else .error .unfinishedPair
  | .pairing code true =>
    if b = byte 'u' then .ok (.add [] (.digits (some code) 4 (some 0))) else .error .unfinishedPair

/-- Reads a string up to its closing quote. `done` holds the bytes so far, the last one first. -/
def stringBytes (checked : Bool) (mode : StringMode) (done : List UInt8) :
    List UInt8 → EStateM.Result Failure (List UInt8) (List UInt8)
  | [] => .error { cause := .endInString } []
  | b :: rest =>
    match mode.step checked b with
    | .error c => .error { cause := c } rest
    | .ok .close => .ok done.reverse rest
    | .ok (.add bytes mode) => stringBytes checked mode (bytes.reverse ++ done) rest

namespace Reader

/-- A string whose opening quote is next. -/
def string : Reader String := do
  advance
  let bytes ← (fun _ rest => stringBytes true .plain [] rest : Reader (List UInt8))
  match String.fromUTF8? ⟨bytes.toArray⟩ with
  | some s => return s
  | none => fail .invalidCodePoint

/-- Passes over a string whose opening quote is next. -/
def skipString : Reader Unit := do
  advance
  let _ ← (fun _ rest => stringBytes false .plain [] rest : Reader (List UInt8))

end Reader

end AccountDirectory.Json
