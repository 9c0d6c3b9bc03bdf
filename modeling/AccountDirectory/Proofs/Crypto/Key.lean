import AccountDirectory.Proofs.Crypto.Blowfish
import AccountDirectory.Proofs.Crypto.Bcrypt

/-!
What counts of a secret: 72 bytes, and no hash tells secrets apart that have these in common.
-/

namespace AccountDirectory

open AccountDirectory.Text (utf8)

namespace Crypto.Bcrypt

variable {a b secret : String}

/-- The bytes of a secret with a zero byte after them. -/
def terminated (secret : String) : List UInt8 :=
  utf8 secret ++ [0]

/-- The bytes that count: 72 of the secret and its zero byte, which are repeated as often as it takes. -/
def counted (secret : String) : List UInt8 :=
  (List.range 72).map fun i => (terminated secret).getD (i % (terminated secret).length) 0

theorem length_counted (secret : String) : (counted secret).length = 72 := by
  simp [counted]

theorem length_terminated (secret : String) :
    (terminated secret).length = (utf8 secret).length + 1 := by
  simp [terminated]

theorem key_eq (secret : String) :
    key secret = (utf8 secret).take 72 ++ [0].take (72 - (utf8 secret).length) :=
  List.take_append

theorem counted_eq_key (secret : String) :
    counted secret = (List.range 72).map fun i => (key secret).getD (i % (key secret).length) 0 := by
  refine List.map_congr_left fun i member => ?_
  have early : i < 72 := List.mem_range.1 member
  have start : key secret = (terminated secret).take 72 := rfl
  rw [start]
  by_cases short : (terminated secret).length ≤ 72
  · rw [List.take_of_length_le short]
  · have long : ((terminated secret).take 72).length = 72 := by
      rw [List.length_take]
      omega
    rw [long, Nat.mod_eq_of_lt early, Nat.mod_eq_of_lt (by omega), List.getD_eq_getElem?_getD,
      List.getD_eq_getElem?_getD, List.getElem?_take_of_lt early]

theorem sameStart_of_counted (same : counted a = counted b) :
    Blowfish.SameStart (key a).toArray (key b).toArray := by
  intro i early
  rw [counted_eq_key, counted_eq_key] at same
  have byte := List.map_inj_left.1 same i (List.mem_range.2 early)
  simpa [Blowfish.cyclicByte] using byte

theorem hash_congr (same : counted a = counted b) (cost : Nat) (salt : Salt) :
    hash cost salt a = hash cost salt b := by
  unfold hash
  rw [(sameStart_of_counted same).costlySchedule_eq]

theorem verify_congr (same : counted a = counted b) (stored : String) :
    verify stored a = verify stored b := by
  rw [Bool.eq_iff_iff, verify_iff, verify_iff]
  simp only [hash_congr same]

theorem exists_counted (secret : String) : ∃ rest, counted secret = key secret ++ rest := by
  have short : (key secret).length ≤ 72 := List.length_take_le 72 _
  have start : (counted secret).take (key secret).length = key secret := by
    rw [counted_eq_key, ← List.map_take, List.take_range, Nat.min_eq_left short]
    refine List.ext_getElem (by simp) fun i left right => ?_
    simp [Nat.mod_eq_of_lt right, List.getElem?_eq_getElem right]
  refine ⟨(counted secret).drop (key secret).length, ?_⟩
  rw [← List.take_append_drop (key secret).length (counted secret), start]
  simp

theorem counted_of_long (long : 72 ≤ (utf8 secret).length) :
    counted secret = (utf8 secret).take 72 := by
  obtain ⟨rest, whole⟩ := exists_counted secret
  have all : key secret = (utf8 secret).take 72 := by
    rw [key_eq, Nat.sub_eq_zero_of_le long, List.take_zero, List.append_nil]
  have nothing : rest = [] := by
    have length := congrArg List.length whole
    rw [length_counted, all, List.length_append, List.length_take, Nat.min_eq_left long] at length
    exact List.eq_nil_of_length_eq_zero (by omega)
  rw [whole, all, nothing, List.append_nil]

/-- A text without a zero character is counted up to its end, or up to its 72nd byte. -/
theorem takeWhile_counted (clean : '\x00' ∉ secret.toList) :
    (counted secret).takeWhile (· != 0) = (utf8 secret).take 72 := by
  have plain : ∀ byte ∈ (utf8 secret).take 72, (byte != 0) = true := fun byte member =>
    bne_iff_ne.2 fun zero => clean (Text.zero_mem_utf8.1 (zero ▸ List.mem_of_mem_take member))
  by_cases long : 72 ≤ (utf8 secret).length
  · rw [counted_of_long long, ← List.append_nil ((utf8 secret).take 72),
      List.takeWhile_append_of_pos plain]
    rfl
  · obtain ⟨rest, whole⟩ := exists_counted secret
    have zero : [0].take (72 - (utf8 secret).length) = [(0 : UInt8)] :=
      List.take_of_length_le (by rw [List.length_singleton]; omega)
    rw [whole, key_eq, zero, List.append_assoc, List.takeWhile_append_of_pos plain]
    exact List.append_nil _

/-- Texts without a zero character have their first 72 bytes counted, and nothing else. -/
theorem counted_eq_iff (cleanA : '\x00' ∉ a.toList) (cleanB : '\x00' ∉ b.toList) :
    counted a = counted b ↔ (utf8 a).take 72 = (utf8 b).take 72 := by
  constructor
  · intro same
    rw [← takeWhile_counted cleanA, same, takeWhile_counted cleanB]
  · intro same
    have left : 72 - (utf8 a).length = 72 - (utf8 b).length := by
      have length := congrArg List.length same
      rw [List.length_take, List.length_take] at length
      omega
    have keys : key a = key b := by
      rw [key_eq, key_eq, same, left]
    rw [counted_eq_key, counted_eq_key, keys]

theorem terminated_twin (secret : String) :
    terminated (secret ++ "\x00" ++ secret) = terminated secret ++ terminated secret := by
  have zero : utf8 "\x00" = [0] := by decide
  simp only [terminated, Text.utf8_append, zero, List.append_assoc]

/-- A list that is repeated goes through the same bytes as the list twice over. -/
theorem getD_twice (bytes : List UInt8) (i : Nat) (filled : 0 < bytes.length) :
    (bytes ++ bytes).getD (i % (bytes.length + bytes.length)) 0 =
      bytes.getD (i % bytes.length) 0 := by
  have bound : i % (bytes.length + bytes.length) < bytes.length + bytes.length :=
    Nat.mod_lt i (by omega)
  have place : i % (bytes.length + bytes.length) % bytes.length = i % bytes.length :=
    Nat.mod_mod_of_dvd i (Nat.dvd_add (Nat.dvd_refl _) (Nat.dvd_refl _))
  rw [← place]
  generalize i % (bytes.length + bytes.length) = n at bound
  rw [List.getD_eq_getElem?_getD, List.getD_eq_getElem?_getD]
  by_cases first : n < bytes.length
  · rw [List.getElem?_append_left first, Nat.mod_eq_of_lt first]
  · have second : bytes.length ≤ n := Nat.le_of_not_lt first
    rw [List.getElem?_append_right second, Nat.mod_eq_sub_mod second, Nat.mod_eq_of_lt (by omega)]

/-- A secret with itself after a zero byte counts as the secret alone. -/
theorem counted_twin (secret : String) :
    counted (secret ++ "\x00" ++ secret) = counted secret := by
  have filled : 0 < (terminated secret).length := by
    rw [length_terminated]
    exact Nat.succ_pos _
  refine List.map_congr_left fun i _ => ?_
  rw [terminated_twin, List.length_append, getD_twice _ i filled]

end Crypto.Bcrypt

end AccountDirectory
