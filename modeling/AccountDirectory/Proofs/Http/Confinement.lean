import AccountDirectory.Proofs.Http.Bearer

/-!
Users who are no administrators: of all the tables hold, a request of theirs may change their own
record, and of that the profile or the credential, or it may remove the record.
-/

namespace AccountDirectory.Http

open AccountDirectory.Store
open AccountDirectory.Time (Instant)

/-- Two states of a record that differ in the profile, the credential count and the last change at
    most. -/
structure SameStanding (u w : User) : Prop where
  id : w.id = u.id
  isAdmin : w.isAdmin = u.isAdmin
  isLocked : w.isLocked = u.isLocked
  isActive : w.isActive = u.isActive
  groupIds : w.groupIds = u.groupIds
  orgUnitId : w.orgUnitId = u.orgUnitId
  externalId : w.externalId = u.externalId
  creator : w.creator = u.creator
  createTime : w.createTime = u.createTime
  inactivationTime : w.inactivationTime = u.inactivationTime
  inactivationReason : w.inactivationReason = u.inactivationReason

theorem SameStanding.refl (u : User) : SameStanding u u := by
  constructor <;> rfl

/-- The tables differ in the record of one user at most, and not in its standing. -/
structure ConfinedTo (own : UserId) (t after : Tables) : Prop where
  others : ∀ id : UserId, id ≠ own → after.users.find? id.value = t.users.find? id.value
  groups : after.groups = t.groups
  lastUserId : after.lastUserId = t.lastUserId
  lastGroupId : after.lastGroupId = t.lastGroupId
  standing : ∀ (id : UserId) (before now : StoredUser), t.users.find? id.value = some before →
    after.users.find? id.value = some now → SameStanding before.user now.user

/-- What users may do to their own record, by the request that does it. -/
inductive OwnChange (x : Exchange) (clock : Instant) (t : Tables) (own : UserId)
    (stored : StoredUser) : SessionAction → Tables → Prop where
  | profile {part raw : String} {update : UserUpdate}
      (path : decodedPart "id" part = .ok raw) (parsed : UserId.parse raw = .ok own)
      (body : x.request.value UserUpdate.reader = .ok update) :
      OwnChange x clock t own stored (.updateUser part) (t.putUser
        { stored with
          user := { stored.user with
            name := update.name
            email := update.email
            username := update.username
            phone := update.phone
            comment := update.comment
            lastModificationTime := some clock
            lastModificationUser := some own } })
  | credential {part raw old : String} {form : PasswordForm}
      (path : decodedPart "id" part = .ok raw) (parsed : UserId.parse raw = .ok own)
      (body : x.request.value PasswordForm.reader = .ok form)
      (presented : form.old = some old)
      (verified : Credential.verify stored.credentialDigest old = true) :
      OwnChange x clock t own stored (.changePassword part) (t.putUser
        { user := { stored.user with
            badPasswordCount := 0
            lastModificationTime := some clock
            lastModificationUser := some own }
          credentialDigest := Credential.digest x.salt form.new })
  | removal {part raw : String}
      (path : decodedPart "id" part = .ok raw) (parsed : UserId.parse raw = .ok own)
      (spared : own ≠ .bootstrap) :
      OwnChange x clock t own stored (.deleteUser part)
        { t with users := t.users.erase own.value }

theorem ConfinedTo.refl (own : UserId) (t : Tables) : ConfinedTo own t t where
  others _ _ := rfl
  groups := rfl
  lastUserId := rfl
  lastGroupId := rfl
  standing id before now found again := by
    rw [found] at again
    cases again
    exact SameStanding.refl _

theorem confinedTo_putUser {t : Tables} {own : UserId} {stored next : StoredUser}
    (found : t.users.find? own.value = some stored)
    (same : SameStanding stored.user next.user) : ConfinedTo own t (t.putUser next) := by
  have key : next.user.id = own := same.id.trans (Tables.id_of_find? found)
  refine ⟨fun id other => ?_, rfl, rfl, rfl, fun id before now first second => ?_⟩
  · exact Tables.find?_putUser_other fun h => other (h.symm.trans key)
  · by_cases own : next.user.id = id
    · have put := Tables.find?_putUser_self t next
      rw [← key.symm.trans own, found] at first
      rw [own, second] at put
      cases first
      cases put
      exact same
    · rw [Tables.find?_putUser_other own, first] at second
      cases second
      exact SameStanding.refl _

theorem confinedTo_erase (own : UserId) (t : Tables) :
    ConfinedTo own t { t with users := t.users.erase own.value } where
  others id other :=
    Table.find?_erase_other _ fun same => other (congrArg UserId.mk same.symm)
  groups := rfl
  lastUserId := rfl
  lastGroupId := rfl
  standing id before now first second := by
    by_cases same : id = own
    · subst same
      rw [Table.find?_erase_self] at second
      cases second
    · rw [Table.find?_erase_other _ fun h => same (congrArg UserId.mk h.symm), first] at second
      cases second
      exact SameStanding.refl _

variable {x : Exchange} {clock : Instant} {t after : Tables} {own : UserId} {stored : StoredUser}
  {action : SessionAction}

theorem OwnChange.confined (found : t.users.find? own.value = some stored)
    (change : OwnChange x clock t own stored action after) : ConfinedTo own t after := by
  cases change with
  | profile => exact confinedTo_putUser found (by constructor <;> rfl)
  | credential => exact confinedTo_putUser found (by constructor <;> rfl)
  | removal => exact confinedTo_erase _ t

/-- The effects that are open to users who are no administrators. A new password also unlocks, but
    whoever has a session is not locked. -/
theorem Effect.ownChange {claims : ClaimSet} (common : claims.isAdmin = false)
    (found : t.users.find? claims.subjectId.value = some stored)
    (unlocked : stored.user.isLocked = false) (effect : Effect x claims clock t action after) :
    after = t ∨ OwnChange x clock t claims.subjectId stored action after := by
  have notAdmin : ¬ claims.isAdmin = true := by simp [common]
  cases effect with
  | nothing => exact .inl rfl
  | createUser _ admin | updateUser _ _ _ _ admin | createGroup _ admin | updateGroup _ _ _ admin
  | deleteGroup _ _ admin => exact absurd admin notAdmin
  | updateProfile path parsed body _ _ own _ _ done =>
    subst own
    obtain ⟨current, again, _, _, rfl⟩ := Tables.changeUser_ok done
    rw [found] at again
    cases again
    exact .inr (.profile path parsed body)
  | deleteUser path parsed spared permitted done =>
    obtain rfl := permitted.resolve_left notAdmin
    obtain rfl := Tables.deleteUser_ok done
    exact .inr (.removal path parsed spared)
  | changePassword path parsed body permitted _ proven done =>
    obtain rfl := permitted.resolve_left notAdmin
    obtain ⟨current, again, rfl⟩ := Tables.resetPassword_ok done
    rw [found] at again
    cases again
    obtain ⟨old, verified, presented, again, verifies⟩ := proven.resolve_left notAdmin
    rw [Tables.user_ok, found] at again
    cases again
    rw [Tables.resetRecord_of_unlocked unlocked]
    exact .inr (.credential path parsed body presented verifies)

namespace Service

variable {s : Service}

theorem visit_ownChange {v : Visit} {claims : ClaimSet} (accepted : s.Accepts v.exchange t claims)
    (common : claims.isAdmin = false) :
    ∃ stored, t.users.find? claims.subjectId.value = some stored ∧
      ((s.visit v t).2 = t ∨ ∃ action,
        Route.of? v.exchange.request.method v.exchange.request.path =
          some (.session (some action)) ∧
        OwnChange v.exchange v.clock t claims.subjectId stored action (s.visit v t).2) := by
  obtain ⟨stored, found, active, unlocked⟩ := accepted.usable
  refine ⟨stored, found, ?_⟩
  rcases visit_effect v t with kept | ⟨action, other, routed, again, effect⟩
  · exact .inl kept
  · have same := accepted.unique again
    subst same
    rcases effect.ownChange common found unlocked with kept | change
    · exact .inl kept
    · exact .inr ⟨action, routed, change⟩

theorem visit_confined {v : Visit} {claims : ClaimSet} (accepted : s.Accepts v.exchange t claims)
    (common : claims.isAdmin = false) : ConfinedTo claims.subjectId t (s.visit v t).2 := by
  obtain ⟨stored, found, kept | ⟨action, _, change⟩⟩ := visit_ownChange accepted common
  · rw [kept]
    exact ConfinedTo.refl _ t
  · exact change.confined found

/-- Whatever users who are no administrators send, only their own record changes, and of it only
    the profile, or the credential after the old one was presented, or the record is removed. -/
theorem common_user_confined (s : Service) (v : Visit) (t : Tables) (claims : ClaimSet)
    (accepted : s.Accepts v.exchange t claims) (common : claims.isAdmin = false) :
    ConfinedTo claims.subjectId t (s.visit v t).2 ∧
      ∃ stored, t.users.find? claims.subjectId.value = some stored ∧
        ((s.visit v t).2 = t ∨ ∃ action,
          Route.of? v.exchange.request.method v.exchange.request.path =
            some (.session (some action)) ∧
          OwnChange v.exchange v.clock t claims.subjectId stored action (s.visit v t).2) :=
  ⟨visit_confined accepted common, visit_ownChange accepted common⟩

/-- A user who asks for the removal of the own account. -/
theorem common_user_confined_leaver :
    let s : Service := { key := ⟨[7], by decide⟩, tokenSeconds := 3600 }
    let user : User := Tables.newRecord
      { name := "Leaver", email := "l@e.org", username := "leaver", credentialDigest := "",
        externalId := none, orgUnitId := none, groupIds := [], phone := none, isAdmin := false,
        comment := none } ⟨2⟩ .bootstrap { seconds := 0, nanos := 0 }
    let t : Tables := Tables.putUser {} { user, credentialDigest := "" }
    let claims : ClaimSet :=
      { subjectId := ⟨2⟩, loginName := "leaver", displayName := "Leaver", email := "l@e.org",
        isAdmin := false, issuedAt := { seconds := 0, nanos := 0 },
        expiresAt := { seconds := 3600, nanos := 0 } }
    let request : Request :=
      { method := .delete, path := "/api/users/2", query := "",
        headers := [("authorization", "Bearer " ++ Token.mint s.key claims)], body := [] }
    let v : Visit :=
      { exchange := { request, now := { seconds := 60, nanos := 0 },
                      salt := ⟨List.replicate 16 0, by decide⟩ },
        clock := { seconds := 60, nanos := 1 } }
    s.Accepts v.exchange t claims ∧ ConfinedTo ⟨2⟩ t (s.visit v t).2 := by
  intro s user t claims request v
  have routed : Route.of? .delete "/api/users/2" = some (.session (some (.deleteUser "2"))) := by
    decide
  have usable : t.Usable claims.subjectId := ⟨_, rfl, rfl, rfl⟩
  have accepted : s.Accepts v.exchange t claims := accepts_mint ⟨_, routed⟩ rfl rfl usable
  exact ⟨accepted, (common_user_confined s v t claims accepted rfl).1⟩

end Service

end AccountDirectory.Http
