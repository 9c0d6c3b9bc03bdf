import AccountDirectory.Crypto.Blowfish
import AccountDirectory.Text.Numeral
import AccountDirectory.Text.Radix64

/-!
Salted digests of passwords, with a cost that doubles the work, and their text.
-/

namespace AccountDirectory.Crypto

/-- Random bytes that make two digests of one secret differ. -/
structure Salt where
  bytes : List UInt8
  length_bytes : bytes.length = 16
deriving DecidableEq, Repr

namespace Bcrypt

/-- The 24 bytes that the schedule of a secret enciphers. -/
def plainText : List UInt8 :=
  Text.ascii "OrpheanBeholderScryDoubt"

/-- What counts of a secret: the bytes of its text and a zero byte, up to 72 of them. -/
def key (secret : String) : List UInt8 :=
  (Text.utf8 secret ++ [0]).take 72

/-- The four bytes of a word, the highest first. -/
def wordBytes (x : UInt32) : List UInt8 :=
  [(x >>> 24).toUInt8, (x >>> 16).toUInt8, (x >>> 8).toUInt8, x.toUInt8]

/-- The digest of a secret: 23 bytes of the text, enciphered 64 times. -/
def hash (cost : Nat) (salt : Salt) (secret : String) : List UInt8 :=
  let s := Blowfish.costlySchedule cost (key secret).toArray salt.bytes.toArray
  let text := plainText.toArray
  let block (i : Nat) : List UInt8 :=
    let (left, right) := Blowfish.encipherTimes s 64
      (Blowfish.cyclicWord text (2 * i), Blowfish.cyclicWord text (2 * i + 1))
    wordBytes left ++ wordBytes right
  (block 0 ++ block 1 ++ block 2).take 23

/-- The parts of a digest's text. -/
structure Stored where
  cost : Nat
  salt : Salt
  hash : List UInt8

/-- Cuts a text at each dollar sign and drops the empty parts. -/
def parts (stored : String) : List (List Char) :=
  (stored.toList.splitOnP (· == '$')).filter fun part => !part.isEmpty

/-- The bytes that a part of a digest's text stands for. -/
def decode? (symbols : List UInt8) : Option (List UInt8) :=
  (Text.Radix64.decode .digest symbols).toOption

/-- Reads the text of a digest: a version, the cost, and 22 symbols of salt before 31 of hash. -/
def Stored.parse? (stored : String) : Option Stored := do
  let [version, cost, rest] := parts stored | none
  guard ([['2', 'a'], ['2', 'b'], ['2', 'x'], ['2', 'y']].contains version)
  let cost ← (Numeral.natural 0xffffffff (String.ofList cost)).toOption
  guard (4 ≤ cost ∧ cost ≤ 31)
  let symbols := Text.utf8 (String.ofList rest)
  guard (symbols.length = 53)
  let salt ← decode? (symbols.take 22)
  let hash ← decode? (symbols.drop 22)
  if h : salt.length = 16 then return { cost, salt := ⟨salt, h⟩, hash } else none

/-- The text of the digest of a secret. -/
def digest (cost : Nat) (salt : Salt) (secret : String) : String :=
  let symbols := Text.Radix64.encode .digest salt.bytes ++
    Text.Radix64.encode .digest (hash cost salt secret)
  "$2b$" ++ (if cost < 10 then "0" else "") ++ toString cost ++ "$" ++
    String.ofList (symbols.map fun b => Char.ofNat b.toNat)

/-- Whether a secret has the stored digest; no secret has one whose text cannot be read. -/
def verify (stored secret : String) : Bool :=
  match Stored.parse? stored with
  | some s => hash s.cost s.salt secret == s.hash
  | none => false

end Bcrypt

end AccountDirectory.Crypto
