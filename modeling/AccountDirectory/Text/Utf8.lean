/-!
Reading UTF-8: where bytes stop being text, and the text in which such places are marked.
-/

namespace AccountDirectory.Text.Utf8

/-- The ranges of the bytes after a first byte; none if no character starts with it. -/
def following? (b : UInt8) : Option (List (UInt8 × UInt8)) :=
  let any : UInt8 × UInt8 := (0x80, 0xBF)
  if b < 0x80 then some []
  else if b < 0xC2 then none
  else if b < 0xE0 then some [any]
  else if b = 0xE0 then some [(0xA0, 0xBF), any]
  else if b = 0xED then some [(0x80, 0x9F), any]
  else if b < 0xF0 then some [any, any]
  else if b = 0xF0 then some [(0x90, 0xBF), any, any]
  else if b < 0xF4 then some [any, any, any]
  else if b = 0xF4 then some [(0x80, 0x8F), any, any]
  else none

/-- How many bytes at the front lie in the ranges. -/
def fitting : List (UInt8 × UInt8) → List UInt8 → Nat
  | (low, high) :: ranges, b :: rest =>
    if low ≤ b && b ≤ high then fitting ranges rest + 1 else 0
  | _, _ => 0

/-- A place where bytes are no text. -/
inductive Fault where
  | invalid (index length : Nat)
  | incomplete (index : Nat)
deriving DecidableEq, Repr

def Fault.message : Fault → String
  | invalid index length => s!"invalid utf-8 sequence of {length} bytes from index {index}"
  | incomplete index => s!"incomplete utf-8 byte sequence from index {index}"

/-- The first fault after some bytes that are passed over. -/
def faultFrom (index skip : Nat) : List UInt8 → Option Fault
  | [] => none
  | b :: rest =>
    match skip with
    | skip + 1 => faultFrom (index + 1) skip rest
    | 0 =>
      match following? b with
      | none => some (.invalid index 1)
      | some ranges =>
        let n := fitting ranges rest
        if n = ranges.length then faultFrom (index + 1) n rest
        else if n = rest.length then some (.incomplete index)
        else some (.invalid index (n + 1))

/-- The first fault of some bytes; none if they are a text. -/
def fault? (bytes : List UInt8) : Option Fault :=
  faultFrom 0 0 bytes

/-- What stands for bytes that are no text. -/
def replacement : String := "\uFFFD"

/-- The characters after some bytes that are passed over. -/
def charactersFrom (skip : Nat) : List UInt8 → List String
  | [] => []
  | b :: rest =>
    match skip with
    | skip + 1 => charactersFrom skip rest
    | 0 =>
      let n := ((following? b).map fun ranges => fitting ranges rest).getD 0
      (String.fromUTF8? ⟨(b :: rest.take n).toArray⟩).getD replacement :: charactersFrom n rest

/-- The text of bytes. The bytes up to one that does not fit are replaced together. -/
def lossy (bytes : List UInt8) : String :=
  String.join (charactersFrom 0 bytes)

end AccountDirectory.Text.Utf8
