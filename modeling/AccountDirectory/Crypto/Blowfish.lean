/-!
The Blowfish cipher with its salted key schedule.
-/

namespace AccountDirectory.Crypto.Blowfish

/-- The arc tangent of `1 / n` times `unit`, from `terms` terms of its series. `power` is the
    next power of `1 / n`, and `k` half of its exponent, rounded down. -/
def arctan (n : Nat) : (terms k : Nat) → (power : Nat) → Int
  | 0, _, _ => 0
  | terms + 1, k, power =>
    let term : Int := power / (2 * k + 1)
    (if k % 2 = 0 then term else -term) + arctan n terms (k + 1) (power / (n * n))

/-- The number of words of a key schedule: 18 round keys and four tables of 256. -/
def scheduleSize : Nat := 18 + 4 * 256

/-- The fraction of the circle constant, in bits that fill a key schedule. -/
def circleFraction : Nat :=
  let bits := 32 * scheduleSize
  let guard := 64
  let unit := Nat.pow 2 (bits + guard)
  let terms := (bits + guard) / 4 + 1
  let value := 16 * arctan 5 terms 0 (unit / 5) - 4 * arctan 239 terms 0 (unit / 239)
  value.toNat / Nat.pow 2 guard % Nat.pow 2 bits

/-- The round keys, followed by the tables. -/
abbrev Schedule := Array UInt32

/-- The schedule before any key: the fraction of the circle constant, word by word. -/
def initial : Schedule :=
  Array.ofFn fun i : Fin scheduleSize =>
    UInt32.ofNat (circleFraction / Nat.pow 2 (32 * (scheduleSize - 1 - i.val)))

/-- The sum and the differences of four table entries, one for each byte of `x`. -/
def mix (s : Schedule) (x : UInt32) : UInt32 :=
  let a := s.getD (18 + (x >>> 24).toNat) 0
  let b := s.getD (274 + ((x >>> 16) &&& 0xff).toNat) 0
  let c := s.getD (530 + ((x >>> 8) &&& 0xff).toNat) 0
  let d := s.getD (786 + (x &&& 0xff).toNat) 0
  ((a + b) ^^^ c) + d

/-- `n` rounds from round `i` on. -/
def rounds (s : Schedule) : (n i : Nat) → UInt32 → UInt32 → UInt32 × UInt32
  | 0, _, left, right => (left, right)
  | n + 1, i, left, right =>
    let left := left ^^^ s.getD i 0
    rounds s n (i + 1) (right ^^^ mix s left) left

/-- Enciphers a block of two words. -/
def encipher (s : Schedule) (left right : UInt32) : UInt32 × UInt32 :=
  let (left, right) := rounds s 16 0 left right
  (right ^^^ s.getD 17 0, left ^^^ s.getD 16 0)

/-- The word at `4 * i` of the bytes repeated without end. -/
def cyclicWord (bytes : Array UInt8) (i : Nat) : UInt32 :=
  (List.range 4).foldl
    (fun x j => (x <<< 8) ||| (bytes.getD ((4 * i + j) % bytes.size) 0).toUInt32) 0

/-- Adds a key to the round keys. -/
def addKey (key : Array UInt8) (s : Schedule) : Schedule :=
  (List.range 18).foldl (fun s i => s.setIfInBounds i (s.getD i 0 ^^^ cyclicWord key i)) s

/-- Replaces `n` pairs of words from pair `i` on, each by the block before it, with salt added and
    enciphered under the words so far. -/
def refill (salt : Array UInt32) : (n i : Nat) → UInt32 → UInt32 → Schedule → Schedule
  | 0, _, _, _, s => s
  | n + 1, i, left, right, s =>
    let block := encipher s (left ^^^ salt.getD (2 * i % 4) 0) (right ^^^ salt.getD (2 * i % 4 + 1) 0)
    refill salt n (i + 1) block.1 block.2
      ((s.setIfInBounds (2 * i) block.1).setIfInBounds (2 * i + 1) block.2)

/-- Mixes a key and a salt of four words into a schedule. -/
def expand (salt : Array UInt32) (key : Array UInt8) (s : Schedule) : Schedule :=
  refill salt (scheduleSize / 2) 0 0 0 (addKey key s)

/-- Repeats the key schedule `n` times, with the key and the salt in turn as keys. -/
def stretch (key salt : Array UInt8) : Nat → Schedule → Schedule
  | 0, s => s
  | n + 1, s => stretch key salt n (expand #[] salt (expand #[] key s))

/-- The schedule of a key and a salt after two to the `cost` repetitions. -/
def costlySchedule (cost : Nat) (key salt : Array UInt8) : Schedule :=
  let saltWords := (Array.range 4).map (cyclicWord salt)
  stretch key salt (Nat.pow 2 cost) (expand saltWords key initial)

/-- Enciphers a block `n` times over. -/
def encipherTimes (s : Schedule) : Nat → UInt32 × UInt32 → UInt32 × UInt32
  | 0, block => block
  | n + 1, block => encipherTimes s n (encipher s block.1 block.2)

end AccountDirectory.Crypto.Blowfish
