import AccountDirectory.Proofs.Crypto.Bcrypt
import AccountDirectory.Proofs.Http.Asked
import AccountDirectory.Proofs.Http.Bearer
import AccountDirectory.Proofs.Store.Interleaving
import AccountDirectory.Proofs.Store.Lock

/-!
Requests that are carried out at the same time. An account is looked at once, when a request is let
in; a lock that is set after that look may be lost to a new password.
-/

namespace AccountDirectory.Http.Service

open AccountDirectory.Store
open AccountDirectory.Time (Instant)

section

variable (s : Service) {ι β : Type} [DecidableEq ι]

/-- The requests arrive at the same time; none has made a call yet. -/
def concurrently (requests : ι → Exchange) (t : Tables) : Concurrent ι (Option Response) where
  tables := t
  rest i := s.answer (requests i)

/-- The request was let in at a point of the run: its account was looked at, and could be used. -/
structure LetIn (requests : ι → Exchange) (t : Tables) (i : ι) (id : UserId) (before : List (Turn ι))
    (look : Turn ι) : Prop where
  mine : look.program = i
  asked : ((s.concurrently requests t).play before).Makes look (.accountState id)
  usable : ((s.concurrently requests t).play before).tables.Usable id

/-- How far a request of a session has come. -/
inductive Stage (requests : ι → Exchange) (t : Tables) (i : ι) (id : UserId) (run : List (Turn ι)) :
    Prop where
  | begins (pending : ((s.concurrently requests t).play run).rest i = s.answer (requests i))
  | reads (asks : (((s.concurrently requests t).play run).rest i).Asks fun c => c.writes = false)
  | letIn {before : List (Turn ι)} {look : Turn ι} {later : List (Turn ι)}
      (order : run = before ++ look :: later) (letIn : s.LetIn requests t i id before look)

variable {s} {requests : ι → Exchange} {t : Tables} {i : ι} {claims : ClaimSet}

theorem asks_concurrently (run : List (Turn ι)) (i : ι) :
    (((s.concurrently requests t).play run).rest i).Asks (s.MayCall (requests i)) :=
  Concurrent.asks_play (c := s.concurrently requests t) (guarded_answer s (requests i)).asks run

theorem usable_of_state {clock : Instant} {id : UserId}
    (state : (t.answer clock (.accountState id)).1 = .ok { isActive := true, isLocked := false }) :
    t.Usable id := by
  rw [accountState_on] at state
  cases found : t.users.find? id.value with
  | none =>
    rw [found] at state
    cases state
  | some stored =>
    rw [found] at state
    injection state with same
    injection same with active unlocked
    exact ⟨stored, found, active, unlocked⟩

theorem stage_turn {before : List (Turn ι)} (w : Turn ι)
    (presents : s.Presents (requests i) claims)
    (stage : s.Stage requests t i claims.subjectId before) :
    s.Stage requests t i claims.subjectId (before ++ [w]) := by
  have turned : (s.concurrently requests t).play (before ++ [w]) =
      ((s.concurrently requests t).play before).turn w := by
    rw [Concurrent.play_append]
    rfl
  cases stage with
  | reads asks =>
    refine .reads ?_
    rw [turned]
    exact Concurrent.asks_turn asks w
  | letIn order letIn => exact .letIn (by rw [order, List.append_assoc, List.cons_append]) letIn
  | begins pending =>
    by_cases mine : w.program = i
    · subst mine
      rcases guarded_answer s (requests w.program) with reads | ⟨found, again, next, looks, rest⟩
      · refine .reads ?_
        rw [turned]
        exact Concurrent.asks_turn (pending ▸ reads) w
      · obtain rfl := presents.unique again
        have asked := pending.trans looks
        rcases rest _ with reads | ⟨state, -⟩
        · refine .reads ?_
          rw [turned, Concurrent.rest_turn_self asked]
          exact reads
        · exact .letIn rfl ⟨rfl, ⟨next, asked⟩, usable_of_state state⟩
    · refine .begins ?_
      rw [turned, Concurrent.rest_turn_other (Ne.symm mine)]
      exact pending

theorem stage_play (presents : s.Presents (requests i) claims) (run : List (Turn ι)) :
    s.Stage requests t i claims.subjectId run :=
  Run.along (.begins rfl) (fun _ w _ _ stage => stage_turn w presents stage) run List.prefix_rfl

theorem letIn_of_makes {run : List (Turn ι)} {w : Turn ι} {q : Call β}
    (presents : s.Presents (requests w.program) claims)
    (makes : ((s.concurrently requests t).play run).Makes w q) (writes : q.writes = true) :
    ∃ before look later, run = before ++ look :: later ∧
      s.LetIn requests t w.program claims.subjectId before look := by
  have notReads : ¬ q.writes = false := by simp [writes]
  cases stage_play presents run with
  | letIn order letIn => exact ⟨_, _, _, order, letIn⟩
  | reads asks => exact absurd (makes.asked asks) notReads
  | begins begins =>
    obtain ⟨next, pending⟩ := makes
    rw [begins] at pending
    rcases guarded_answer s (requests w.program) with reads | ⟨found, again, rest, looks, -⟩
    · rw [pending] at reads
      exact absurd reads.1 notReads
    · rw [looks] at pending
      cases pending
      cases writes

theorem unlocks_own {clock : Instant} {own id : UserId} {q : Call β} (call : OwnCall own q)
    (locked : t.Locked id) (unlocked : ((Operation.call q).perform clock t).Unlocked id) :
    id = own ∧ ∃ digest, Operation.call q = .call (.resetPassword own digest own) := by
  have unlocks := Tables.unlocks_of_unlocked locked unlocked
  cases q with
  | resetPassword target digest actor =>
    obtain ⟨rfl, rfl⟩ := call
    exact ⟨unlocks.symm, digest, rfl⟩
  | updateProfile | deleteUser => exact unlocks.elim
  | listUsers | getUser | userExists | maxUserId | countUsers | createUser | updateUser | listGroups
  | getGroup | countGroups | createGroup | updateGroup | deleteGroup | findIdByLoginName
  | loadAuthRecord | isActive | isAdmin | isLocked | accountState => exact call.elim

theorem locked_by_admin {c : Concurrent ι (Option Response)} {w : Turn ι} {id : UserId}
    (asks : ∀ i, (c.rest i).Asks (s.MayCall (requests i))) (free : ¬ c.tables.Locked id)
    (locked : (c.turn w).tables.Locked id) :
    ∃ admin update actor, s.Presents (requests w.program) admin ∧ admin.isAdmin = true ∧
      c.Makes w (.updateUser id update actor) ∧ update.isLocked = true := by
  rcases c.kept_or_makes w with kept | ⟨γ, q, makes, turned⟩
  · rw [kept] at locked
    exact absurd locked free
  · rw [turned] at locked
    have locks := Tables.locks_of_locked free locked
    cases q with
    | updateUser target update actor =>
      obtain ⟨rfl, sets⟩ := locks
      rcases makes.asked (asks w.program) with reads | ⟨admin, presents, reads | isAdmin | own⟩
      · cases reads
      · cases reads
      · exact ⟨admin, update, actor, presents, isAdmin, makes, sets⟩
      · exact own.elim
    | listUsers | getUser | userExists | maxUserId | countUsers | createUser | updateProfile
    | deleteUser | listGroups | getGroup | countGroups | createGroup | updateGroup | deleteGroup
    | findIdByLoginName | loadAuthRecord | isActive | isAdmin | isLocked | accountState
    | resetPassword => exact locks.elim

theorem reset_of_unlocked {c : Concurrent ι (Option Response)} {w : Turn ι} {id : UserId}
    (asks : (c.rest w.program).Asks (s.MayCall (requests w.program)))
    (presents : s.Presents (requests w.program) claims) (common : claims.isAdmin = false)
    (locked : c.tables.Locked id) (unlocked : (c.turn w).tables.Unlocked id) :
    id = claims.subjectId ∧ ∃ digest, c.Makes w (.resetPassword id digest id) := by
  rcases c.kept_or_makes w with kept | ⟨γ, q, makes, turned⟩
  · rw [kept] at unlocked
    exact absurd locked unlocked.not_locked
  rw [turned] at unlocked
  have changes : ¬ q.writes = false := by
    intro reads
    rw [Tables.perform_reads reads] at unlocked
    exact unlocked.not_locked locked
  have own : OwnCall claims.subjectId q := by
    rcases makes.asked asks with reads | ⟨found, again, reads | admin | own⟩
    · exact absurd reads changes
    · exact absurd reads changes
    · obtain rfl := presents.unique again
      rw [common] at admin
      cases admin
    · obtain rfl := presents.unique again
      exact own
  obtain ⟨rfl, digest, resets⟩ := unlocks_own own locked unlocked
  cases resets
  exact ⟨rfl, digest, makes⟩

theorem locked_since {before later : List (Turn ι)} {look : Turn ι} {id : UserId}
    (letIn : s.LetIn requests t i id before look)
    (locked : ((s.concurrently requests t).play (before ++ look :: later)).tables.Locked id) :
    ∃ between lock rest, later = between ++ lock :: rest ∧
      ¬ ((s.concurrently requests t).play (before ++ look :: between)).tables.Locked id ∧
      ∀ part, part <+: rest → ((s.concurrently requests t).play
        (before ++ look :: (between ++ lock :: part))).tables.Locked id := by
  have joined : ∀ part, ((s.concurrently requests t).play (before ++ [look])).play part =
      (s.concurrently requests t).play (before ++ look :: part) := by
    intro part
    rw [← Concurrent.play_append, List.append_assoc, List.singleton_append]
  -- The look only reads, so the account is as little locked after it as before.
  have looked : ((s.concurrently requests t).play (before ++ [look])).tables =
      ((s.concurrently requests t).play before).tables := by
    rw [Concurrent.play_append, Concurrent.play_cons, Concurrent.play_nil, letIn.asked.tables_turn,
      Tables.perform_reads rfl]
  have free : ¬ ((s.concurrently requests t).play (before ++ [look])).tables.Locked id := by
    obtain ⟨stored, found, -, unlocked⟩ := letIn.usable
    rw [looked]
    exact Tables.Unlocked.not_locked ⟨stored, found, unlocked⟩
  rw [← joined later] at locked
  obtain ⟨between, lock, rest, rfl, still, begun⟩ :=
    Concurrent.begins (P := fun c => c.tables.Locked id) free locked
  simp only [joined] at still begun
  exact ⟨between, lock, rest, rfl, still, begun⟩

/-- A request of a session that is no administrator's takes the lock of no account but its own, by
    giving it a new password; and of that only if the account could be used when the request was let
    in, and an administrator locked it in between, before the password was given. -/
theorem unlocks_only_when_overtaken (s : Service) (requests : ι → Exchange) (t : Tables)
    (run : List (Turn ι)) (w : Turn ι) (claims : ClaimSet) (id : UserId)
    (presents : s.Presents (requests w.program) claims) (common : claims.isAdmin = false)
    (locked : ((s.concurrently requests t).play run).tables.Locked id)
    (unlocked : ((s.concurrently requests t).play (run ++ [w])).tables.Unlocked id) :
    id = claims.subjectId ∧
      (∃ digest, ((s.concurrently requests t).play run).Makes w (.resetPassword id digest id)) ∧
      ∃ before look between lock later admin update actor,
        run = before ++ look :: (between ++ lock :: later) ∧
        s.LetIn requests t w.program id before look ∧
        lock.program ≠ w.program ∧ s.Presents (requests lock.program) admin ∧
        admin.isAdmin = true ∧
        ((s.concurrently requests t).play (before ++ look :: between)).Makes lock
          (.updateUser id update actor) ∧ update.isLocked = true ∧
        ∀ part, part <+: later → ((s.concurrently requests t).play
          (before ++ look :: (between ++ lock :: part))).tables.Locked id := by
  rw [Concurrent.play_append, Concurrent.play_cons, Concurrent.play_nil] at unlocked
  obtain ⟨rfl, digest, makes⟩ :=
    reset_of_unlocked (asks_concurrently run w.program) presents common locked unlocked
  obtain ⟨before, look, later, rfl, letIn⟩ := letIn_of_makes presents makes rfl
  obtain ⟨between, lock, rest, rfl, free, held⟩ := locked_since letIn locked
  have locks := held [] List.nil_prefix
  rw [← List.cons_append, ← List.append_assoc, Concurrent.play_append] at locks
  obtain ⟨admin, update, actor, again, isAdmin, updates, sets⟩ :=
    locked_by_admin (asks_concurrently _) free locks
  refine ⟨rfl, ⟨digest, makes⟩, before, look, between, lock, rest, admin, update, actor, rfl, letIn, ?_,
    again, isAdmin, updates, sets, held⟩
  intro same
  rw [same] at again
  obtain rfl := presents.unique again
  rw [common] at isAdmin
  cases isAdmin

theorem answer_admitted {x : Exchange} {action : SessionAction}
    (routed : Route.of? x.request.method x.request.path = some (.session (some action)))
    (presents : s.Presents x claims) :
    ∃ next, s.answer x = .step (.accountState claims.subjectId) next ∧
      next (.ok { isActive := true, isLocked := false }) =
        (action.run x claims).run >>= fun result => pure (shown x.request.method result) := by
  unfold answer
  rw [carryOut_presented routed presents]
  exact ⟨_, rfl, rfl⟩

variable (s)

/-- A user gives the own account a new password, with a request that is refused only if the old one
    is wrong. -/
structure ChangesOwn (x : Exchange) (claims : ClaimSet) (old new : String) : Prop where
  presents : s.Presents x claims
  common : claims.isAdmin = false
  routed : ∃ part raw, Route.of? x.request.method x.request.path =
      some (.session (some (.changePassword part))) ∧
    decodedPart "id" part = .ok raw ∧ UserId.parse raw = .ok claims.subjectId
  body : x.request.value PasswordForm.reader = .ok { new, old := some old }
  digest : Credential.looksLikeDigest new = true

/-- An administrator locks an account, with a request that only the store may refuse. -/
structure LocksOther (x : Exchange) (admin : ClaimSet) (id : UserId) (update : UserUpdate) : Prop where
  presents : s.Presents x admin
  isAdmin : admin.isAdmin = true
  routed : ∃ part raw, Route.of? x.request.method x.request.path =
      some (.session (some (.updateUser part))) ∧
    decodedPart "id" part = .ok raw ∧ UserId.parse raw = .ok id
  body : x.request.value UserUpdate.reader = .ok update
  valid : update.validateFor id = .ok ()
  locks : update.isLocked = true

variable {s}

theorem checkOldDigest_steps (id : UserId) (old : String) :
    ∃ next, (SessionAction.checkOldDigest id (some old)).run = .step (.loadAuthRecord id) next ∧
      ∀ record, Credential.verify record.credentialDigest old = true →
        next (.ok record) = .done (.ok ()) := by
  refine ⟨_, rfl, fun record verified => ?_⟩
  show (if !Credential.verify record.credentialDigest old then Handler.refuse .unauthorized
    else pure () : Handler Unit).run = _
  rw [verified]
  rfl

theorem ChangesOwn.steps {x : Exchange} {old new : String} (changes : s.ChangesOwn x claims old new) :
    ∃ load reset, s.answer x = .step (.accountState claims.subjectId) load ∧
      load (.ok { isActive := true, isLocked := false }) =
        .step (.loadAuthRecord claims.subjectId) reset ∧
      ∀ record, Credential.verify record.credentialDigest old = true →
        ∃ last, reset (.ok record) = .step (.resetPassword claims.subjectId
          (Credential.digest x.salt new) claims.subjectId) last := by
  obtain ⟨presents, common, ⟨part, raw, routed, path, parsed⟩, body, digest⟩ := changes
  have permitted : claims.requireSelfOrAdmin claims.subjectId = .ok () :=
    ClaimSet.requireSelfOrAdmin_ok.2 (.inr rfl)
  obtain ⟨load, looks, loads⟩ := answer_admitted routed presents
  have ran : ∃ reset, (SessionAction.runChangePassword x claims part).run =
      .step (.loadAuthRecord claims.subjectId) reset ∧
      ∀ record, Credential.verify record.credentialDigest old = true →
        ∃ last, reset (.ok record) = .step (.resetPassword claims.subjectId
          (Credential.digest x.salt new) claims.subjectId) last := by
    simp only [SessionAction.runChangePassword, path, body, Handler.lift_ok_bind, parsed,
      Handler.checked, permitted, Handler.permitted, checkDigest, digest, common, if_true, pure_bind]
    obtain ⟨next, asked, passes⟩ := checkOldDigest_steps claims.subjectId old
    refine ⟨fun r => (next r).bind (ExceptT.bindCont fun _ => do
      Handler.call (.resetPassword claims.subjectId (Credential.digest x.salt new) claims.subjectId)
      return .empty 204), ?_, fun record verified => ?_⟩
    · show (SessionAction.checkOldDigest claims.subjectId (some old)).run.bind _ = _
      rw [asked]
      rfl
    · dsimp only
      rw [passes record verified]
      exact ⟨_, rfl⟩
  obtain ⟨reset, asked, resets⟩ := ran
  refine ⟨load, fun r => reset r >>= fun result => pure (shown x.request.method result), looks, ?_,
    fun record verified => ?_⟩
  · rw [loads]
    show (SessionAction.runChangePassword x claims part).run >>= _ = _
    rw [asked]
    rfl
  · obtain ⟨last, asked⟩ := resets record verified
    refine ⟨fun r => last r >>= fun result => pure (shown x.request.method result), ?_⟩
    show reset (.ok record) >>= _ = _
    rw [asked]
    rfl

theorem LocksOther.steps {x : Exchange} {admin : ClaimSet} {id : UserId} {update : UserUpdate}
    (locks : s.LocksOther x admin id update) :
    ∃ write last, s.answer x = .step (.accountState admin.subjectId) write ∧
      write (.ok { isActive := true, isLocked := false }) =
        .step (.updateUser id update admin.subjectId) last := by
  obtain ⟨presents, isAdmin, ⟨part, raw, routed, path, parsed⟩, body, valid, -⟩ := locks
  have permitted : admin.requireSelfOrAdmin id = .ok () :=
    ClaimSet.requireSelfOrAdmin_ok.2 (.inl isAdmin)
  obtain ⟨write, looks, writes⟩ := answer_admitted routed presents
  have ran : ∃ last, (SessionAction.runUpdateUser x admin part).run =
      .step (.updateUser id update admin.subjectId) last := by
    simp only [SessionAction.runUpdateUser, path, body, Handler.lift_ok_bind, parsed, Handler.checked,
      permitted, Handler.permitted, valid, isAdmin, if_true, pure_bind]
    exact ⟨_, rfl⟩
  obtain ⟨last, asked⟩ := ran
  refine ⟨write, fun r => last r >>= fun result => pure (shown x.request.method result), looks, ?_⟩
  rw [writes]
  show (SessionAction.runUpdateUser x admin part).run >>= _ = _
  rw [asked]
  rfl

theorem state_of_usable {clock : Instant} {id : UserId} (usable : t.Usable id) :
    t.answer clock (.accountState id) = (.ok { isActive := true, isLocked := false }, t) := by
  obtain ⟨stored, found, active, unlocked⟩ := usable
  rw [accountState_on, found]
  simp only [active, unlocked]

section

variable {clock : Instant} {id actor : UserId} {stored : StoredUser}
  (found : t.users.find? id.value = some stored)

include found

theorem answer_updateUser {update : UserUpdate}
    (unique : t.checkUserUnique (some id) update.name update.email update.username = .ok ()) :
    t.answer clock (.updateUser id update actor) =
      (.ok (Tables.updatedRecord stored.user update actor clock),
        t.putUser { stored with user := Tables.updatedRecord stored.user update actor clock }) := by
  simp only [Tables.answer, Tables.apply, Tables.updateUser, Tables.changeUser, Tables.user, found]
  rw [unique]
  rfl

theorem answer_loadAuthRecord :
    t.answer clock (.loadAuthRecord id) = (.ok stored.authRecord, t) := by
  simp only [Tables.answer, Tables.apply, Tables.user, found]
  rfl

theorem answer_resetPassword (digest : String) :
    t.answer clock (.resetPassword id digest actor) =
      (.ok (), t.putUser
        { user := Tables.resetRecord stored.user actor clock, credentialDigest := digest }) := by
  simp only [Tables.answer, Tables.apply, Tables.resetPassword, Tables.user, found]
  rfl

end

/-- The look at the own account, all of the administrator's request, and the load of the record. -/
def overtaking (own admin : ι) (clock : Instant) : List (Turn ι) :=
  [⟨own, clock⟩, ⟨admin, clock⟩, ⟨admin, clock⟩, ⟨own, clock⟩]

/-- Whenever an administrator's lock and the user's own new password would both be accepted, there is
    an order in which the new password takes the lock away. -/
theorem overtaking_loses_lock {own other : ι} {admin : ClaimSet} {old new : String}
    {update : UserUpdate} {stored : StoredUser} (clock : Instant)
    (changes : s.ChangesOwn (requests own) claims old new)
    (locks : s.LocksOther (requests other) admin claims.subjectId update)
    (usable : t.Usable claims.subjectId) (adminUsable : t.Usable admin.subjectId)
    (found : t.users.find? claims.subjectId.value = some stored)
    (verified : Credential.verify stored.credentialDigest old = true)
    (unique : t.checkUserUnique (some claims.subjectId) update.name update.email update.username =
      .ok ()) :
    ((s.concurrently requests t).play (overtaking own other clock)).tables.Locked claims.subjectId ∧
      ((s.concurrently requests t).play (overtaking own other clock ++ [⟨own, clock⟩])).tables.Unlocked
        claims.subjectId := by
  obtain ⟨load, reset, looks, loads, resets⟩ := changes.steps
  obtain ⟨write, last, looksToo, writes⟩ := locks.steps
  have apart : own ≠ other := by
    rintro rfl
    obtain rfl := changes.presents.unique locks.presents
    have isAdmin := locks.isAdmin
    rw [changes.common] at isAdmin
    cases isAdmin
  let updated : StoredUser :=
    { stored with user := Tables.updatedRecord stored.user update admin.subjectId clock }
  have target : stored.user.id = claims.subjectId := Tables.id_of_find? found
  have foundUpdated : (t.putUser updated).users.find? claims.subjectId.value = some updated :=
    Tables.find?_putUser_of_id target
  obtain ⟨third, resetAsked⟩ := resets updated.authRecord verified
  -- One turn after the other: who asks what, and the tables after it.
  rw [Concurrent.play_append]
  simp only [overtaking, Concurrent.play_cons, Concurrent.play_nil]
  obtain ⟨tables, ownRest, others⟩ := Concurrent.turn_of_answer (w := ⟨own, clock⟩)
    (c := s.concurrently requests t) looks rfl (state_of_usable usable)
  have otherRest := (others other apart.symm).trans looksToo
  generalize (s.concurrently requests t).turn ⟨own, clock⟩ = c at *
  obtain ⟨tables, otherRest, others⟩ := Concurrent.turn_of_answer (w := ⟨other, clock⟩) otherRest
    tables (state_of_usable adminUsable)
  have ownRest := (others own apart).trans (ownRest.trans loads)
  rw [writes] at otherRest
  generalize c.turn ⟨other, clock⟩ = c at *
  obtain ⟨tables, -, others⟩ := Concurrent.turn_of_answer (w := ⟨other, clock⟩) otherRest
    tables (answer_updateUser found unique)
  have ownRest := (others own apart).trans ownRest
  generalize c.turn ⟨other, clock⟩ = c at *
  obtain ⟨tables, ownRest, -⟩ := Concurrent.turn_of_answer (w := ⟨own, clock⟩) ownRest
    tables (answer_loadAuthRecord foundUpdated)
  rw [resetAsked] at ownRest
  generalize c.turn ⟨own, clock⟩ = c at *
  refine ⟨⟨updated, ?_, locks.locks⟩, ?_⟩
  · rw [tables]
    exact foundUpdated
  · obtain ⟨tables, -, -⟩ := Concurrent.turn_of_answer (w := ⟨own, clock⟩) ownRest
      tables (answer_resetPassword foundUpdated _)
    exact ⟨_, by rw [tables]; exact Tables.find?_putUser_of_id target, rfl⟩

end

/-! User 2 gives a new password while user 1, an administrator, locks the account. -/

namespace Rivals

def service : Service where
  key := ⟨[7], by decide⟩
  tokenSeconds := 3600

/-- The instant a number of seconds from the start of 1970. -/
def second (n : Int) : Instant :=
  (Instant.ofSeconds? n 0).getD default

def start : Instant := second 0

def salt : Crypto.Salt := ⟨List.replicate 16 0, by decide⟩

def old : String := "0123456789abcdef0123456789abcdef"

def new : String := "fedcba9876543210fedcba9876543210"

def user : StoredUser where
  user := Tables.newRecord
    { name := "Bobby B.", email := "b@e.org", username := "bobby", credentialDigest := "",
      externalId := none, orgUnitId := none, groupIds := [], phone := none, isAdmin := false,
      comment := none } ⟨2⟩ .bootstrap start
  credentialDigest := Credential.digest salt old

def tables : Tables :=
  (Tables.withBootstrapAdmin { username := "admin", email := "a@e.org", password := "p" } salt
    start).putUser user

def own : ClaimSet where
  subjectId := ⟨2⟩
  loginName := "bobby"
  displayName := "Bobby B."
  email := "b@e.org"
  isAdmin := false
  issuedAt := start
  expiresAt := second 3600

def admin : ClaimSet :=
  { own with subjectId := .bootstrap, loginName := "admin", isAdmin := true }

def lock : UserUpdate where
  id := ⟨2⟩
  name := "Bobby B."
  email := "b@e.org"
  username := "bobby"
  externalId := none
  orgUnitId := none
  groupIds := []
  phone := none
  isLocked := true
  isAdmin := false
  isActive := true
  inactivationReason := none
  comment := none

def exchange (claims : ClaimSet) (path body : String) : Exchange where
  request :=
    { method := .put, path, query := "",
      headers := [("authorization", "Bearer " ++ Token.mint service.key claims),
        ("content-type", "application/json")],
      body := Text.utf8 body }
  now := second 60
  salt

/-- The administrator's request, and the user's. -/
def requests : Bool → Exchange
  | true => exchange admin "/api/users/2"
    ("\x7b\"id\":2,\"name\":\"Bobby B.\",\"email\":\"b@e.org\",\"username\":\"bobby\"," ++
      "\"external_id\":null,\"orgunit_id\":null,\"groups_id\":[],\"phone\":null," ++
      "\"is_locked\":true,\"is_admin\":false,\"is_active\":true," ++
      "\"inactivation_reason\":null,\"comment\":null\x7d")
  | false => exchange own "/api/users/2/changepassword"
    ("\x7b\"oldCredentialDigest\":\"0123456789abcdef0123456789abcdef\"," ++
      "\"newCredentialDigest\":\"fedcba9876543210fedcba9876543210\"\x7d")

theorem presents (claims : ClaimSet) (path body : String) (whole : claims.floored = claims)
    (valid : claims.validateWindow (second 60) = .ok ()) :
    service.Presents (exchange claims path body) claims := by
  refine ⟨_, Request.bearerToken?_mint service.key claims rfl, ?_⟩
  show Token.verifyAt service.key (Token.mint service.key claims) (second 60) = _
  rw [Token.verifyAt_mint, whole, valid]

set_option maxRecDepth 4000 in
theorem changesOwn : service.ChangesOwn (requests false) own old new where
  presents := presents own _ _ rfl rfl
  common := rfl
  routed := ⟨"2", "2", by decide, rfl, rfl⟩
  body := rfl
  digest := by decide

set_option maxRecDepth 4000 in
theorem locksOther : service.LocksOther (requests true) admin ⟨2⟩ lock where
  presents := presents admin _ _ rfl rfl
  isAdmin := rfl
  routed := ⟨"2", "2", by decide, rfl, rfl⟩
  body := rfl
  valid := rfl
  locks := rfl

theorem overtaken :
    ((service.concurrently requests tables).play (overtaking false true start)).tables.Locked ⟨2⟩ ∧
      ((service.concurrently requests tables).play
        (overtaking false true start ++ [⟨false, start⟩])).tables.Unlocked ⟨2⟩ := by
  have found : tables.users.find? own.subjectId.value = some user := rfl
  have unique : tables.checkUserUnique (some own.subjectId) lock.name lock.email lock.username =
      .ok () := rfl
  have ownUsable : tables.Usable own.subjectId := ⟨user, found, rfl, rfl⟩
  have adminUsable : tables.Usable admin.subjectId := ⟨_, rfl, rfl, rfl⟩
  have verified : Credential.verify user.credentialDigest old = true :=
    Crypto.Bcrypt.verify_digest (by decide) (by decide) salt old
  have lost := overtaking_loses_lock (t := tables) start changesOwn locksOther ownUsable adminUsable
    found verified unique
  exact lost

end Rivals

/-- The user's new password takes the lock away that the administrator has set in between. -/
theorem unlocks_only_when_overtaken_rivals :
    let c := Rivals.service.concurrently Rivals.requests Rivals.tables
    let run := overtaking false true Rivals.start
    Rivals.service.Presents (Rivals.requests false) Rivals.own ∧ Rivals.own.isAdmin = false ∧
      (c.play run).tables.Locked ⟨2⟩ ∧
      (c.play (run ++ [⟨false, Rivals.start⟩])).tables.Unlocked ⟨2⟩ ∧
      ∃ before look between lock later, run = before ++ look :: (between ++ lock :: later) ∧
        Rivals.service.LetIn Rivals.requests Rivals.tables false ⟨2⟩ before look ∧
        lock.program = true := by
  intro c run
  obtain ⟨locked, unlocked⟩ := Rivals.overtaken
  have presents := Rivals.changesOwn.presents
  obtain ⟨-, -, before, look, between, lock, later, -, -, -, order, letIn, other, -⟩ :=
    unlocks_only_when_overtaken Rivals.service Rivals.requests Rivals.tables run ⟨false, Rivals.start⟩
      Rivals.own ⟨2⟩ presents rfl locked unlocked
  have administrator : lock.program = true := by simpa using other
  exact ⟨presents, rfl, locked, unlocked, before, look, between, lock, later, order, letIn,
    administrator⟩

/-- A session that is no administrator's may take an account from locked to unlocked. -/
theorem lock_lost_to_own_password :
    ¬ ∀ (s : Service) (requests : Bool → Exchange) (t : Tables) (run : List (Turn Bool))
      (w : Turn Bool) (claims : ClaimSet) (id : UserId), s.Presents (requests w.program) claims →
      claims.isAdmin = false → ((s.concurrently requests t).play run).tables.Locked id →
        ¬ ((s.concurrently requests t).play (run ++ [w])).tables.Unlocked id := by
  intro never
  obtain ⟨locked, unlocked⟩ := Rivals.overtaken
  exact never Rivals.service Rivals.requests Rivals.tables _ ⟨false, Rivals.start⟩ Rivals.own ⟨2⟩
    Rivals.changesOwn.presents rfl locked unlocked

end AccountDirectory.Http.Service
