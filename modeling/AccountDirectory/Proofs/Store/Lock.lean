import AccountDirectory.Proofs.Store.Operation

/-!
Locks of accounts: which operations set one, and which take it away.
-/

namespace AccountDirectory.Store

open AccountDirectory.Time (Instant)

def Operation.Locks (id : UserId) : Operation → Prop
  | call (.updateUser target update _) => target = id ∧ update.isLocked = true
  | setLocked target locked => target = id ∧ locked = true
  | _ => False

/-- The operation takes the lock of the account away. A new account may take the place of one when
    the counter of identifiers has come round to it. -/
def Operation.Unlocks (t : Tables) (id : UserId) : Operation → Prop
  | call (.updateUser target update _) => target = id ∧ update.isLocked = false
  | call (.resetPassword target _ _) => target = id
  | call (.createUser _ _) => t.lastUserId + 1 = id.value
  | ensureAdmin _ _ => id = .bootstrap
  | setLocked target locked => target = id ∧ locked = false
  | _ => False

namespace Tables

def Locked (t : Tables) (id : UserId) : Prop :=
  ∃ stored, t.users.find? id.value = some stored ∧ stored.user.isLocked = true

def Unlocked (t : Tables) (id : UserId) : Prop :=
  ∃ stored, t.users.find? id.value = some stored ∧ stored.user.isLocked = false

variable {now : Instant} {t : Tables} {o : Operation} {id : UserId}

theorem Unlocked.not_locked (unlocked : t.Unlocked id) : ¬ t.Locked id := by
  rintro ⟨stored, found, locked⟩
  obtain ⟨other, again, free⟩ := unlocked
  obtain rfl := Option.some.inj (found.symm.trans again)
  rw [locked] at free
  cases free

theorem locks_of_locked (free : ¬ t.Locked id) (locked : (o.perform now t).Locked id) :
    o.Locks id := by
  obtain ⟨stored, found, isLocked⟩ := locked
  rcases find?_perform now t o id with kept | ⟨-, gone⟩ | ⟨written, last, writes, own, put⟩
  · exact absurd ⟨stored, kept.symm.trans found, isLocked⟩ free
  · cases gone.symm.trans found
  obtain rfl := Option.some.inj (put.symm.trans found)
  cases writes with
  | created | reset | seeded | restored => cases isLocked
  | updated present | locked present => exact ⟨(id_of_find? present).symm.trans own, isLocked⟩
  | profiled present | counted present =>
    obtain rfl := (id_of_find? present).symm.trans own
    exact absurd ⟨_, present, isLocked⟩ free

theorem unlocks_of_unlocked (locked : t.Locked id) (unlocked : (o.perform now t).Unlocked id) :
    o.Unlocks t id := by
  obtain ⟨stored, found, isFree⟩ := unlocked
  have stays {before : StoredUser} (present : t.users.find? id.value = some before)
      (free : before.user.isLocked = false) : False :=
    Unlocked.not_locked ⟨before, present, free⟩ locked
  rcases find?_perform now t o id with kept | ⟨-, gone⟩ | ⟨written, last, writes, own, put⟩
  · exact (stays (kept.symm.trans found) isFree).elim
  · cases gone.symm.trans found
  obtain rfl := Option.some.inj (put.symm.trans found)
  cases writes with
  | created => exact congrArg UserId.value own
  | seeded => exact own.symm
  | restored present => exact ((id_of_find? present).symm.trans own).symm
  | reset present => exact (id_of_find? present).symm.trans own
  | updated present | locked present => exact ⟨(id_of_find? present).symm.trans own, isFree⟩
  | profiled present | counted present =>
    obtain rfl := (id_of_find? present).symm.trans own
    exact (stays present isFree).elim

end Tables

end AccountDirectory.Store
