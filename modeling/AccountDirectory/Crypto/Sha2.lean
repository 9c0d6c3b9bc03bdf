/-!
The SHA-2 family over words of `w` bits: SHA-256 for 32 and SHA-512 for 64.
-/

namespace AccountDirectory.Crypto

/-- The integer part of the `k`-th root of `n`, bit by bit from `bit - 1` down, above `low`. -/
def rootAbove (k n low : Nat) : Nat → Nat
  | 0 => low
  | bit + 1 =>
    let higher := low + Nat.pow 2 bit
    if higher.pow k ≤ n then rootAbove k n higher bit else rootAbove k n low bit

/-- The first `w` bits of the fraction of the `k`-th root of `n`. -/
def rootFraction (k n w : Nat) : BitVec w :=
  BitVec.ofNat w (rootAbove k (n * Nat.pow 2 (k * w)) 0 (w + n.log2 + 1))

def isPrime (n : Nat) : Bool :=
  2 ≤ n && (List.range n).all fun d => d < 2 || n % d != 0

/-- The primes below 410, of which there are 80. -/
def primes : List Nat :=
  (List.range 410).filter isPrime

namespace Sha2

/-- The eight words that a message is folded into. -/
structure State (w : Nat) where
  a : BitVec w
  b : BitVec w
  c : BitVec w
  d : BitVec w
  e : BitVec w
  f : BitVec w
  g : BitVec w
  h : BitVec w

/-- What tells the members of the family apart: the number of rounds, and the rotations and shifts
    of the four mixing functions. -/
structure Variant (w : Nat) where
  constants : List (BitVec w)
  initial : State w
  bigA : Nat × Nat × Nat
  bigE : Nat × Nat × Nat
  small0 : Nat × Nat × Nat
  small1 : Nat × Nat × Nat

/-- The square roots of the first eight primes. -/
def initialState (w : Nat) : State w where
  a := rootFraction 2 2 w
  b := rootFraction 2 3 w
  c := rootFraction 2 5 w
  d := rootFraction 2 7 w
  e := rootFraction 2 11 w
  f := rootFraction 2 13 w
  g := rootFraction 2 17 w
  h := rootFraction 2 19 w

/-- The cube roots of the first primes, one for each round. -/
def roundConstants (w rounds : Nat) : List (BitVec w) :=
  (primes.take rounds).map fun p => rootFraction 3 p w

def sha256 : Variant 32 where
  constants := roundConstants 32 64
  initial := initialState 32
  bigA := (2, 13, 22)
  bigE := (6, 11, 25)
  small0 := (7, 18, 3)
  small1 := (17, 19, 10)

def sha512 : Variant 64 where
  constants := roundConstants 64 80
  initial := initialState 64
  bigA := (28, 34, 39)
  bigE := (14, 18, 41)
  small0 := (1, 8, 7)
  small1 := (19, 61, 6)

variable {w : Nat}

def big (r : Nat × Nat × Nat) (x : BitVec w) : BitVec w :=
  x.rotateRight r.1 ^^^ x.rotateRight r.2.1 ^^^ x.rotateRight r.2.2

def small (r : Nat × Nat × Nat) (x : BitVec w) : BitVec w :=
  x.rotateRight r.1 ^^^ x.rotateRight r.2.1 ^^^ x >>> r.2.2

/-- The words of `n` rounds, from the sixteen words before the first of them. -/
def schedule (v : Variant w) : Nat → List (BitVec w) → List (BitVec w)
  | 0, _ => []
  | n + 1, window =>
    let word := small v.small1 (window.getD 14 0) + window.getD 9 0 +
      small v.small0 (window.getD 1 0) + window.headD 0
    window.headD 0 :: schedule v n (window.tail ++ [word])

def round (v : Variant w) (s : State w) (input : BitVec w × BitVec w) : State w :=
  let choice := (s.e &&& s.f) ^^^ (~~~s.e &&& s.g)
  let majority := (s.a &&& s.b) ^^^ (s.a &&& s.c) ^^^ (s.b &&& s.c)
  let t₁ := s.h + big v.bigE s.e + choice + input.1 + input.2
  let t₂ := big v.bigA s.a + majority
  { a := t₁ + t₂, b := s.a, c := s.b, d := s.c, e := s.d + t₁, f := s.e, g := s.f, h := s.g }

def State.add (s t : State w) : State w where
  a := s.a + t.a
  b := s.b + t.b
  c := s.c + t.c
  d := s.d + t.d
  e := s.e + t.e
  f := s.f + t.f
  g := s.g + t.g
  h := s.h + t.h

/-- Folds a block of sixteen words into the state. -/
def compress (v : Variant w) (s : State w) (block : List (BitVec w)) : State w :=
  let words := schedule v v.constants.length block
  s.add ((v.constants.zip words).foldl (round v) s)

/-- A big-endian number. -/
def wordOfBytes (bytes : List UInt8) : BitVec w :=
  BitVec.ofNat w (bytes.foldl (fun n b => n * 256 + b.toNat) 0)

/-- A number as `n` bytes, big-endian. -/
def bytesOfNat (n value : Nat) : List UInt8 :=
  (List.range n).reverse.map fun i => UInt8.ofNat (value / Nat.pow 256 i)

/-- The list in pieces of `n`, for at most `count` pieces. -/
def pieces {α : Type} (n : Nat) : Nat → List α → List (List α)
  | 0, _ => []
  | count + 1, l => l.take n :: pieces n count (l.drop n)

/-- A message with a one bit, zeros and its length in bits, which fill whole blocks. -/
def padded (wordSize : Nat) (message : List UInt8) : List UInt8 :=
  let block := 16 * wordSize
  let used := (message.length + 1 + 2 * wordSize) % block
  message ++ 0x80 :: List.replicate ((block - used) % block) 0 ++
    bytesOfNat (2 * wordSize) (8 * message.length)

def State.words (s : State w) : List (BitVec w) :=
  [s.a, s.b, s.c, s.d, s.e, s.f, s.g, s.h]

/-- The digest of a message. -/
def hash (v : Variant w) (message : List UInt8) : List UInt8 :=
  let wordSize := w / 8
  let bytes := padded wordSize message
  let blocks := (pieces (16 * wordSize) (bytes.length / (16 * wordSize)) bytes).map fun block =>
    (pieces wordSize 16 block).map wordOfBytes
  (blocks.foldl (compress v) v.initial).words.flatMap fun x => bytesOfNat wordSize x.toNat

end Sha2

def sha256 (message : List UInt8) : List UInt8 :=
  Sha2.hash Sha2.sha256 message

def sha512 (message : List UInt8) : List UInt8 :=
  Sha2.hash Sha2.sha512 message

/-- The number of bytes that SHA-512 takes at a time. -/
def sha512Block : Nat := 128

/-- The keyed digest of a message with SHA-512. -/
def hmacSha512 (key message : List UInt8) : List UInt8 :=
  let short := if sha512Block < key.length then sha512 key else key
  let full := short ++ List.replicate (sha512Block - short.length) 0
  sha512 (full.map (· ^^^ 0x5c) ++ sha512 (full.map (· ^^^ 0x36) ++ message))

end AccountDirectory.Crypto
