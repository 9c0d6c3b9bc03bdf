import AccountDirectory.Group.Basic
import AccountDirectory.Proofs.Outcome
import AccountDirectory.Proofs.Text.Blank

/-!
When the identity of an account and the name of a group pass the rules.
-/

namespace AccountDirectory

variable {field value name email username : String} {minimum : Nat}

/-- The rules for an identity. White space at the ends of a text does not count. -/
structure ValidIdentity (name email username : String) : Prop where
  named : minNameLength ≤ Text.trimmedLength name
  called : minUsernameLength ≤ Text.trimmedLength username
  reached : minEmailLength ≤ Text.trimmedLength email
  atSign : '@' ∈ email.toList

theorem checkLength_ok (positive : 0 < minimum) :
    checkLength field value minimum = .ok () ↔ minimum ≤ Text.trimmedLength value := by
  unfold checkLength
  by_cases none : Text.trimmedLength value = 0
  · simp [none]
    omega
  · by_cases short : Text.trimmedLength value < minimum
    · simp [none, short]
    · simp [none, short]
      omega

theorem checkIdentity_ok :
    checkIdentity name email username = .ok () ↔ ValidIdentity name email username := by
  unfold checkIdentity
  constructor
  · intro passed
    obtain ⟨_, named, passed⟩ := bind_eq_ok.1 passed
    obtain ⟨_, called, passed⟩ := bind_eq_ok.1 passed
    obtain ⟨_, reached, passed⟩ := bind_eq_ok.1 passed
    have atSign : '@' ∈ email.toList := by
      by_cases present : '@' ∈ email.toList
      · exact present
      · rw [if_pos present] at passed
        cases passed
    exact ⟨(checkLength_ok (by decide)).1 named, (checkLength_ok (by decide)).1 called,
      (checkLength_ok (by decide)).1 reached, atSign⟩
  · intro valid
    have named : checkLength "name" name minNameLength = .ok () :=
      (checkLength_ok (by decide)).2 valid.named
    have called : checkLength "username" username minUsernameLength = .ok () :=
      (checkLength_ok (by decide)).2 valid.called
    have reached : checkLength "email" email minEmailLength = .ok () :=
      (checkLength_ok (by decide)).2 valid.reached
    rw [named, called, reached]
    exact if_neg (not_not_intro valid.atSign)

theorem NewUser.validate_ok {new : NewUser} :
    new.validate = .ok () ↔ ValidIdentity new.name new.email new.username :=
  mapError_eq_ok.trans checkIdentity_ok

theorem UserUpdate.validateFor_ok {update : UserUpdate} {target : UserId} :
    update.validateFor target = .ok () ↔
      update.id = target ∧ ValidIdentity update.name update.email update.username := by
  unfold validateFor
  by_cases same : update.id = target
  · rw [if_neg (not_not_intro same), mapError_eq_ok, checkIdentity_ok]
    exact (and_iff_right same).symm
  · rw [if_pos same]
    constructor
    · intro passed
      cases passed
    · rintro ⟨own, -⟩
      exact absurd own same

theorem checkGroupName_ok : checkGroupName name = .ok () ↔ minGroupNameLength ≤ Text.trimmedLength name :=
  mapError_eq_ok.trans (checkLength_ok (by decide))

theorem NewGroup.validate_ok {new : NewGroup} :
    new.validate = .ok () ↔ minGroupNameLength ≤ Text.trimmedLength new.name :=
  checkGroupName_ok

theorem GroupUpdate.validate_ok {update : GroupUpdate} :
    update.validate = .ok () ↔ minGroupNameLength ≤ Text.trimmedLength update.name :=
  checkGroupName_ok

end AccountDirectory
