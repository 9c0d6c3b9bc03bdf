import AccountDirectory.Crypto.Blowfish
import Mathlib.Data.List.Basic

/-!
What a key schedule takes of its key: the first 72 bytes of the key repeated without end, which are 18
words.
-/

namespace AccountDirectory.Crypto.Blowfish

/-- The byte at a place of a key that is repeated without end. -/
def cyclicByte (key : Array UInt8) (i : Nat) : UInt8 :=
  key.getD (i % key.size) 0

def SameStart (key other : Array UInt8) : Prop :=
  ∀ i < 72, cyclicByte key i = cyclicByte other i

namespace SameStart

variable {key other : Array UInt8}

theorem cyclicWord_eq (same : SameStart key other) {i : Nat} (early : i < 18) :
    cyclicWord key i = cyclicWord other i := by
  unfold cyclicWord
  refine List.foldl_ext _ _ _ fun x j member => ?_
  have small : j < 4 := List.mem_range.1 member
  have byte : key.getD ((4 * i + j) % key.size) 0 = other.getD ((4 * i + j) % other.size) 0 :=
    same (4 * i + j) (by omega)
  rw [byte]

theorem addKey_eq (same : SameStart key other) (s : Schedule) : addKey key s = addKey other s := by
  unfold addKey
  refine List.foldl_ext _ _ _ fun s i member => ?_
  rw [same.cyclicWord_eq (List.mem_range.1 member)]

theorem expand_eq (same : SameStart key other) (salt : Array UInt32) (s : Schedule) :
    expand salt key s = expand salt other s := by
  unfold expand
  rw [same.addKey_eq]

theorem stretch_eq (same : SameStart key other) (salt : Array UInt8) (n : Nat) (s : Schedule) :
    stretch key salt n s = stretch other salt n s := by
  induction n generalizing s with
  | zero => rfl
  | succ n ih =>
    unfold stretch
    rw [same.expand_eq, ih]

theorem costlySchedule_eq (same : SameStart key other) (cost : Nat) (salt : Array UInt8) :
    costlySchedule cost key salt = costlySchedule cost other salt := by
  simp only [costlySchedule, same.expand_eq, same.stretch_eq]

end SameStart

end AccountDirectory.Crypto.Blowfish
