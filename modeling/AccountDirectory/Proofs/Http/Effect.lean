import AccountDirectory.Proofs.Http.Handler
import AccountDirectory.Proofs.Store.Memory

/-!
What an action does to the tables. An action that succeeds has one of the listed effects, each with
all that was checked before it; an action that fails has none.
-/

namespace AccountDirectory.Http

open AccountDirectory.Store
open AccountDirectory.Time (Instant)

/-- Whether an action may change the tables. -/
def SessionAction.writes : SessionAction → Bool
  | createUser | updateUser _ | deleteUser _ | changePassword _ | createGroup | updateGroup _
  | deleteGroup _ => true
  | _ => false

theorem reads_of_ofUsers {segments : List String} {action : SessionAction}
    (routed : Route.ofUsers .get segments = some (.session (some action))) :
    action.writes = false := by
  unfold Route.ofUsers at routed
  split at routed
  · cases routed
    rfl
  · cases routed
    rfl
  · split at routed
    · cases routed
    · cases routed
      rfl
  · cases routed
  · cases routed

theorem reads_of_ofGroups {segments : List String} {action : SessionAction}
    (routed : Route.ofGroups .get segments = some (.session (some action))) :
    action.writes = false := by
  unfold Route.ofGroups at routed
  split at routed
  · cases routed
    rfl
  · split at routed
    · cases routed
    · cases routed
      rfl
  · cases routed

/-- What is asked for by a `GET` or a `HEAD` changes nothing. -/
theorem reads_of_asked {m : Method} {path : String} {action : SessionAction} (asked : m.asked = .get)
    (routed : Route.of? m path = some (.session (some action))) : action.writes = false := by
  unfold Route.of? at routed
  rw [asked] at routed
  split at routed
  · unfold Route.ofSegments at routed
    split at routed
    · cases routed
    · cases routed
    · cases routed
    · split at routed
      · cases routed
      · cases routed
    · cases routed
      rfl
    · exact reads_of_ofUsers routed
    · exact reads_of_ofGroups routed
    · cases routed
  · cases routed

/-- What remains of the tables after an action that succeeds. -/
inductive Effect (x : Exchange) (claims : ClaimSet) (clock : Instant) (t : Tables) :
    SessionAction → Tables → Prop where
  | nothing {action : SessionAction} (reads : action.writes = false) : Effect x claims clock t action t
  | createUser {new : NewUser} {user : User} {after : Tables}
      (body : x.request.value NewUser.reader = .ok new)
      (admin : claims.isAdmin = true)
      (valid : new.validate = .ok ())
      (digest : Credential.looksLikeDigest new.credentialDigest = true)
      (stored : t.createUser
        { new with credentialDigest := Credential.digest x.salt new.credentialDigest }
        claims.subjectId clock = .ok (user, after)) :
      Effect x claims clock t .createUser after
  | updateUser {part raw : String} {id : UserId} {update : UserUpdate} {user : User}
      {after : Tables}
      (path : decodedPart "id" part = .ok raw) (parsed : UserId.parse raw = .ok id)
      (body : x.request.value UserUpdate.reader = .ok update)
      (valid : update.validateFor id = .ok ())
      (admin : claims.isAdmin = true)
      (stored : t.updateUser id update claims.subjectId clock = .ok (user, after)) :
      Effect x claims clock t (.updateUser part) after
  | updateProfile {part raw : String} {id : UserId} {update : UserUpdate} {current : StoredUser}
      {user : User} {after : Tables}
      (path : decodedPart "id" part = .ok raw) (parsed : UserId.parse raw = .ok id)
      (body : x.request.value UserUpdate.reader = .ok update)
      (valid : update.validateFor id = .ok ())
      (common : claims.isAdmin = false) (own : claims.subjectId = id)
      (found : t.user id = .ok current)
      (same : update.administrativeChanges current.user = [])
      (stored : t.updateProfile id update claims.subjectId clock = .ok (user, after)) :
      Effect x claims clock t (.updateUser part) after
  | deleteUser {part raw : String} {id : UserId} {after : Tables}
      (path : decodedPart "id" part = .ok raw) (parsed : UserId.parse raw = .ok id)
      (spared : id ≠ .bootstrap)
      (permitted : claims.isAdmin = true ∨ claims.subjectId = id)
      (stored : t.deleteUser id = .ok ((), after)) :
      Effect x claims clock t (.deleteUser part) after
  | changePassword {part raw : String} {id : UserId} {form : PasswordForm} {after : Tables}
      (path : decodedPart "id" part = .ok raw) (parsed : UserId.parse raw = .ok id)
      (body : x.request.value PasswordForm.reader = .ok form)
      (permitted : claims.isAdmin = true ∨ claims.subjectId = id)
      (digest : Credential.looksLikeDigest form.new = true)
      (proven : claims.isAdmin = true ∨ ∃ old current, form.old = some old ∧
        t.user id = .ok current ∧ Credential.verify current.credentialDigest old = true)
      (stored : t.resetPassword id (Credential.digest x.salt form.new) claims.subjectId clock =
        .ok ((), after)) :
      Effect x claims clock t (.changePassword part) after
  | createGroup {new : NewGroup} {group : Group} {after : Tables}
      (body : x.request.value NewGroup.reader = .ok new)
      (admin : claims.isAdmin = true)
      (valid : new.validate = .ok ())
      (stored : t.createGroup new claims.subjectId clock = .ok (group, after)) :
      Effect x claims clock t .createGroup after
  | updateGroup {part raw : String} {id : GroupId} {update : GroupUpdate} {group : Group}
      {after : Tables}
      (path : decodedPart "id" part = .ok raw) (parsed : GroupId.parse raw = .ok id)
      (body : x.request.value GroupUpdate.reader = .ok update)
      (admin : claims.isAdmin = true)
      (valid : update.validate = .ok ())
      (stored : t.updateGroup id update claims.subjectId clock = .ok (group, after)) :
      Effect x claims clock t (.updateGroup part) after
  | deleteGroup {part raw : String} {id : GroupId} {after : Tables}
      (path : decodedPart "id" part = .ok raw) (parsed : GroupId.parse raw = .ok id)
      (admin : claims.isAdmin = true)
      (stored : t.deleteGroup id = .ok ((), after)) :
      Effect x claims clock t (.deleteGroup part) after

namespace SessionAction

open Handler

variable {x : Exchange} {claims : ClaimSet} {clock : Instant} {t after : Tables}
  {response : Response}

theorem createUser_ok
    (done : runOn clock (runCreateUser x claims) t = (.ok response, after)) :
    ∃ new user, x.request.value NewUser.reader = .ok new ∧ claims.isAdmin = true ∧
      new.validate = .ok () ∧ Credential.looksLikeDigest new.credentialDigest = true ∧
      t.createUser { new with credentialDigest := Credential.digest x.salt new.credentialDigest }
        claims.subjectId clock = .ok (user, after) ∧
      response = .json 201 user.toJson := by
  simp only [runCreateUser, runOn_bind_ok, runOn_lift_ok, runOn_permitted_ok, runOn_checked_ok,
    runOn_checkDigest_ok, runOn_call_ok, runOn_pure] at done
  obtain ⟨new, _, ⟨body, rfl⟩, _, _, ⟨admin, rfl⟩, _, _, ⟨valid, rfl⟩, _, _, ⟨digest, rfl⟩, user, _,
    stored, same⟩ := done
  cases same
  exact ⟨new, user, body, ClaimSet.requireAdmin_ok.1 admin, valid, digest, stored, rfl⟩

theorem createUser_effect
    (done : runOn clock (runCreateUser x claims) t = (.ok response, after)) :
    Effect x claims clock t .createUser after := by
  obtain ⟨new, user, body, admin, valid, digest, stored, -⟩ := createUser_ok done
  exact .createUser body admin valid digest stored

theorem deleteUser_effect {part : String}
    (done : runOn clock (runDeleteUser claims part) t = (.ok response, after)) :
    Effect x claims clock t (.deleteUser part) after := by
  simp only [runDeleteUser, runOn_bind_ok, runOn_lift_ok, runOn_permitted_ok, runOn_checked_ok,
    runOn_call_ok, runOn_pure] at done
  obtain ⟨raw, _, ⟨path, rfl⟩, id, _, ⟨parsed, rfl⟩, _, _, ⟨permitted, rfl⟩, _, _, stored, same⟩ := done
  cases same
  obtain ⟨spared, permitted⟩ := ClaimSet.authorizeDeletion_ok.1 permitted
  exact .deleteUser path parsed spared permitted stored

theorem updateProfile_ok {id : UserId} {update : UserUpdate} {user : User}
    (done : runOn clock (updateProfile claims id update) t = (.ok user, after)) :
    ∃ current, t.user id = .ok current ∧ update.administrativeChanges current.user = [] ∧
      t.updateProfile id update claims.subjectId clock = .ok (user, after) := by
  simp only [updateProfile, runOn_bind_ok, runOn_call_ok] at done
  obtain ⟨current, between, found, done⟩ := done
  obtain ⟨stored, present, same⟩ := Tables.user_map_ok.1 found
  cases same
  split at done
  · rename_i empty
    exact ⟨stored, Tables.user_ok.2 present, List.isEmpty_iff.1 empty, runOn_call_ok.1 done⟩
  · exact absurd done runOn_refuse_ok

theorem updateUser_effect {part : String}
    (done : runOn clock (runUpdateUser x claims part) t = (.ok response, after)) :
    Effect x claims clock t (.updateUser part) after := by
  simp only [runUpdateUser, runOn_bind_ok, runOn_lift_ok, runOn_permitted_ok,
    runOn_checked_ok] at done
  obtain ⟨raw, _, ⟨path, rfl⟩, update, _, ⟨body, rfl⟩, id, _, ⟨parsed, rfl⟩, _, _, ⟨permitted, rfl⟩, _, _,
    ⟨valid, rfl⟩, done⟩ := done
  split at done
  · rename_i admin
    simp only [runOn_bind_ok, runOn_call_ok, runOn_pure] at done
    obtain ⟨user, _, stored, same⟩ := done
    cases same
    exact .updateUser path parsed body valid admin stored
  · rename_i common
    simp only [runOn_bind_ok, runOn_pure] at done
    obtain ⟨user, _, stored, same⟩ := done
    cases same
    obtain ⟨current, found, unchanged, stored⟩ := updateProfile_ok stored
    have own := (ClaimSet.requireSelfOrAdmin_ok.1 permitted).resolve_left common
    exact .updateProfile path parsed body valid (by simpa using common) own found unchanged stored

theorem checkOldDigest_ok {id : UserId} {old? : Option String} {u : Unit}
    (done : runOn clock (checkOldDigest id old?) t = (.ok u, after)) :
    after = t ∧ ∃ old current, old? = some old ∧ t.user id = .ok current ∧
      Credential.verify current.credentialDigest old = true := by
  unfold checkOldDigest at done
  split at done
  · rename_i old
    simp only [runOn_bind_ok, runOn_call_ok] at done
    obtain ⟨record, between, loaded, done⟩ := done
    obtain ⟨stored, present, same⟩ := Tables.user_map_ok.1 loaded
    cases same
    split at done
    · exact absurd done runOn_refuse_ok
    · rename_i matching
      cases done
      exact ⟨rfl, old, stored, rfl, Tables.user_ok.2 present,
        by simpa [StoredUser.authRecord] using matching⟩
  · exact absurd done runOn_refuse_ok

theorem changePassword_ok {part : String}
    (done : runOn clock (runChangePassword x claims part) t = (.ok response, after)) :
    response = .empty 204 ∧ Effect x claims clock t (.changePassword part) after := by
  simp only [runChangePassword, runOn_bind_ok, runOn_lift_ok, runOn_permitted_ok,
    runOn_checked_ok, runOn_checkDigest_ok] at done
  obtain ⟨raw, _, ⟨path, rfl⟩, form, _, ⟨body, rfl⟩, id, _, ⟨parsed, rfl⟩, _, _, ⟨permitted, rfl⟩, _, _,
    ⟨digest, rfl⟩, done⟩ := done
  have permitted := ClaimSet.requireSelfOrAdmin_ok.1 permitted
  split at done
  · simp only [runOn_bind_ok, runOn_call_ok, runOn_pure] at done
    obtain ⟨_, _, proven, _, _, stored, same⟩ := done
    cases same
    obtain ⟨rfl, proven⟩ := checkOldDigest_ok proven
    exact ⟨rfl, .changePassword path parsed body permitted digest (.inr proven) stored⟩
  · rename_i admin
    simp only [runOn_bind_ok, runOn_call_ok, runOn_pure] at done
    obtain ⟨_, _, stored, same⟩ := done
    cases same
    have proven : claims.isAdmin = true := by simpa using admin
    exact ⟨rfl, .changePassword path parsed body permitted digest (.inl proven) stored⟩

theorem createGroup_effect
    (done : runOn clock (runCreateGroup x claims) t = (.ok response, after)) :
    Effect x claims clock t .createGroup after := by
  simp only [runCreateGroup, runOn_bind_ok, runOn_lift_ok, runOn_permitted_ok, runOn_checked_ok,
    runOn_call_ok, runOn_pure] at done
  obtain ⟨new, _, ⟨body, rfl⟩, _, _, ⟨admin, rfl⟩, _, _, ⟨valid, rfl⟩, group, _, stored, same⟩ := done
  cases same
  exact .createGroup body (ClaimSet.requireAdmin_ok.1 admin) valid stored

theorem updateGroup_effect {part : String}
    (done : runOn clock (runUpdateGroup x claims part) t = (.ok response, after)) :
    Effect x claims clock t (.updateGroup part) after := by
  simp only [runUpdateGroup, runOn_bind_ok, runOn_lift_ok, runOn_permitted_ok, runOn_checked_ok,
    runOn_call_ok, runOn_pure] at done
  obtain ⟨raw, _, ⟨path, rfl⟩, update, _, ⟨body, rfl⟩, _, _, ⟨admin, rfl⟩, id, _, ⟨parsed, rfl⟩, _, _,
    ⟨valid, rfl⟩, group, _, stored, same⟩ := done
  cases same
  exact .updateGroup path parsed body (ClaimSet.requireAdmin_ok.1 admin) valid stored

theorem deleteGroup_effect {part : String}
    (done : runOn clock (runDeleteGroup claims part) t = (.ok response, after)) :
    Effect x claims clock t (.deleteGroup part) after := by
  simp only [runDeleteGroup, runOn_bind_ok, runOn_lift_ok, runOn_permitted_ok, runOn_checked_ok,
    runOn_call_ok, runOn_pure] at done
  obtain ⟨raw, _, ⟨path, rfl⟩, _, _, ⟨admin, rfl⟩, id, _, ⟨parsed, rfl⟩, _, _, stored, same⟩ := done
  cases same
  exact .deleteGroup path parsed (ClaimSet.requireAdmin_ok.1 admin) stored

theorem run_reads {action : SessionAction} (reads : action.writes = false) :
    Reads (run x claims action) := by
  cases action with
  | status => exact Reads.pure _
  | listUsers =>
    exact (Reads.lift _).bind fun q => (page_reads q).bind fun _ =>
      (call_reads rfl).bind fun _ => Reads.pure _
  | maxUserId => exact (call_reads rfl).bind fun _ => Reads.pure _
  | getUser part =>
    exact (Reads.lift _).bind fun _ => (checked_reads _).bind fun _ =>
      (permitted_reads _).bind fun _ => (call_reads rfl).bind fun _ => Reads.pure _
  | listGroups =>
    exact (Reads.lift _).bind fun q => (page_reads q).bind fun _ =>
      (call_reads rfl).bind fun _ => Reads.pure _
  | getGroup part =>
    exact (Reads.lift _).bind fun _ => (permitted_reads _).bind fun _ =>
      (checked_reads _).bind fun _ => (call_reads rfl).bind fun _ => Reads.pure _
  | createUser | updateUser | deleteUser | changePassword | createGroup | updateGroup
  | deleteGroup => cases reads

theorem run_effect {action : SessionAction}
    (done : runOn clock (run x claims action) t = (.ok response, after)) :
    Effect x claims clock t action after := by
  cases action with
  | createUser => exact createUser_effect done
  | updateUser part => exact updateUser_effect done
  | deleteUser part => exact deleteUser_effect done
  | changePassword part => exact (changePassword_ok done).2
  | createGroup => exact createGroup_effect done
  | updateGroup part => exact updateGroup_effect done
  | deleteGroup part => exact deleteGroup_effect done
  | status | listUsers | maxUserId | getUser | listGroups | getGroup =>
    have kept := (run_reads rfl).result done
    subst kept
    exact .nothing rfl

theorem checkOldDigest_reads (id : UserId) (old? : Option String) :
    Reads (checkOldDigest id old?) := by
  unfold checkOldDigest
  split
  · refine (call_reads rfl).bind fun record => ?_
    split
    · exact refuse_reads _
    · exact Reads.pure _
  · exact refuse_reads _

theorem updateProfile_failsClean (id : UserId) (update : UserUpdate) :
    FailsClean (updateProfile claims id update) := by
  refine FailsClean.bind (call_reads rfl) fun current => ?_
  simp only
  split
  · exact call_failsClean _
  · exact (refuse_reads _).failsClean

theorem updateUser_failsClean (part : String) : FailsClean (runUpdateUser x claims part) := by
  refine FailsClean.bind (Reads.lift _) fun _ => .bind (Reads.lift _) fun update =>
    .bind (checked_reads _) fun id => .bind (permitted_reads _) fun _ =>
    .bind (checked_reads _) fun _ => ?_
  simp only
  split
  · exact (call_failsClean _).andReturn _
  · exact (updateProfile_failsClean id update).andReturn _

theorem changePassword_failsClean (part : String) :
    FailsClean (runChangePassword x claims part) := by
  refine FailsClean.bind (Reads.lift _) fun _ => .bind (Reads.lift _) fun _ =>
    .bind (checked_reads _) fun _ => .bind (permitted_reads _) fun _ =>
    .bind (checkDigest_reads _ _) fun _ => ?_
  simp only
  split
  · exact .bind (checkOldDigest_reads _ _) fun _ => (call_failsClean _).andReturn _
  · exact (call_failsClean _).andReturn _

/-- Every action writes by its last call, if it writes at all. -/
theorem run_failsClean (action : SessionAction) : FailsClean (run x claims action) := by
  cases action with
  | createUser =>
    exact .bind (Reads.lift _) fun _ => .bind (permitted_reads _) fun _ =>
      .bind (checked_reads _) fun _ => .bind (checkDigest_reads _ _) fun _ =>
      (call_failsClean _).andReturn _
  | updateUser part => exact updateUser_failsClean part
  | deleteUser part =>
    exact .bind (Reads.lift _) fun _ => .bind (checked_reads _) fun _ =>
      .bind (permitted_reads _) fun _ => (call_failsClean _).andReturn _
  | changePassword part => exact changePassword_failsClean part
  | createGroup =>
    exact .bind (Reads.lift _) fun _ => .bind (permitted_reads _) fun _ =>
      .bind (checked_reads _) fun _ => (call_failsClean _).andReturn _
  | updateGroup part =>
    exact .bind (Reads.lift _) fun _ => .bind (Reads.lift _) fun _ =>
      .bind (permitted_reads _) fun _ => .bind (checked_reads _) fun _ =>
      .bind (checked_reads _) fun _ => (call_failsClean _).andReturn _
  | deleteGroup part =>
    exact .bind (Reads.lift _) fun _ => .bind (permitted_reads _) fun _ =>
      .bind (checked_reads _) fun _ => (call_failsClean _).andReturn _
  | status | listUsers | maxUserId | getUser | listGroups | getGroup =>
    exact (run_reads rfl).failsClean

end SessionAction

end AccountDirectory.Http
