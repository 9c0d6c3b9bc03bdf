import AccountDirectory.Proofs.Database.Course
import AccountDirectory.Proofs.Session

/-!
The statements of every call to the store in the database, with what each needs of its reply. A call
fails as the first reply that fails, so neither a login nor a session takes a failure of the database for
a missing account.
-/

namespace AccountDirectory.Database

open AccountDirectory.Crypto (Salt)
open AccountDirectory.Interaction (Asked Ends)
open AccountDirectory.Store (Call)
open AccountDirectory.Time (Instant)

variable {α β : Type}

def accountStep : Step where
  statement := .find .users Accounts.columns "id"
  need := .firstRow accountValues

def groupStep : Step where
  statement := .find .groups Groups.columns "id"
  need := .firstRow (Relation.groups.byName Groups.columns)

def singleValue (type : String) (mayBeNull : Bool) : Need :=
  .firstRow [{ place := .position 0, type, mayBeNull }]

def flagStep (name : String) : Step where
  statement := .find .users [name] "id"
  need := singleValue "BOOL" false

/-- What a call sends, with what each statement needs. -/
def steps : {β : Type} → Call β → List Step
  | _, .listUsers .. =>
    [⟨.page .users Accounts.summaryColumns, .everyRow (Relation.users.byName Accounts.summaryColumns)⟩]
  | _, .getUser _ => [accountStep]
  | _, .userExists _ => [⟨.countById .users, singleValue "INT8" false⟩]
  | _, .maxUserId => [⟨.greatestId .users, singleValue "INT4" true⟩]
  | _, .countUsers => [⟨.countAll .users, singleValue "INT8" false⟩]
  | _, .createUser new creator =>
    [⟨(Accounts.insertCommand new creator).statement, singleValue "INT4" false⟩, accountStep]
  | _, .updateUser id update actor =>
    [⟨(Accounts.updateCommand id update actor).statement, .affected⟩, accountStep]
  | _, .updateProfile id update actor =>
    [⟨(Accounts.updateProfileCommand id update actor).statement, .affected⟩, accountStep]
  | _, .deleteUser _ => [⟨.delete .users, .affected⟩]
  | _, .listGroups .. =>
    [⟨.page .groups Groups.columns, .everyRow (Relation.groups.byName Groups.columns)⟩]
  | _, .getGroup _ => [groupStep]
  | _, .countGroups => [⟨.countAll .groups, singleValue "INT8" false⟩]
  | _, .createGroup new creator =>
    [⟨(Groups.insertCommand new creator).statement, singleValue "INT4" false⟩, groupStep]
  | _, .updateGroup id update actor =>
    [⟨(Groups.updateCommand id update actor).statement, .affected⟩, groupStep]
  | _, .deleteGroup _ => [⟨.delete .groups, .affected⟩]
  | _, .findIdByLoginName _ => [⟨.find .users ["id"] "username", singleValue "INT4" false⟩]
  | _, .loadAuthRecord _ =>
    [⟨.find .users Accounts.authColumns "id", .firstRow (Relation.users.byName Accounts.authColumns)⟩]
  | _, .isActive _ => [flagStep "is_active"]
  | _, .isAdmin _ => [flagStep "is_admin"]
  | _, .isLocked _ => [flagStep "is_locked"]
  | _, .accountState _ =>
    [⟨.find .users ["is_active", "is_locked"] "id",
      .firstRow (Relation.users.inOrder ["is_active", "is_locked"])⟩]
  | _, .resetPassword id digest actor =>
    [⟨(Accounts.resetPasswordCommand id digest actor).statement, .affected⟩]

theorem follows_getUser (id : UserId) : Follows [accountStep] (getUser id) :=
  follows_fetchKeyed wants_readUser

theorem follows_getGroup (id : GroupId) : Follows [groupStep] (getGroup id) :=
  follows_fetchKeyed wants_readGroup

theorem follows_answer (c : Call β) : Follows (steps c) (operation c) := by
  cases c with
  | listUsers => exact follows_fetchAll wants_readSummary
  | listGroups => exact follows_fetchAll wants_readGroup
  | getUser id => exact follows_getUser id
  | getGroup id => exact follows_getGroup id
  | createUser new creator =>
    exact (follows_fetchOne (wants_single ColumnType.accepts_int4)).bind fun n => follows_getUser ⟨n⟩
  | createGroup new creator =>
    exact (follows_fetchOne (wants_single ColumnType.accepts_int4)).bind fun n => follows_getGroup ⟨n⟩
  | updateUser id update actor | updateProfile id update actor =>
    exact follows_writeKeyed.bind fun _ => follows_getUser id
  | updateGroup id update actor => exact follows_writeKeyed.bind fun _ => follows_getGroup id
  | deleteUser | deleteGroup | resetPassword => exact follows_writeKeyed
  | countUsers | countGroups => exact follows_fetchOne (wants_single ColumnType.accepts_int8)
  | userExists => exact (follows_fetchOne (wants_single ColumnType.accepts_int8)).andReturn _
  | maxUserId => exact (follows_fetchOne (wants_single ColumnType.accepts_int4.optional)).andReturn _
  | findIdByLoginName => exact (follows_fetchKeyed (wants_single ColumnType.accepts_int4)).andReturn _
  | loadAuthRecord => exact follows_fetchKeyed wants_readAuthRecord
  | isActive | isAdmin | isLocked => exact follows_fetchKeyed (wants_single ColumnType.accepts_bool)
  | accountState => exact follows_fetchKeyed wants_readState

/-- What sets the administrator up, before it is committed. -/
def adminSteps (admin : AdminAccount) (salt : Salt) : List Step :=
  [⟨.begin, .success⟩,
    ⟨(Accounts.ensureAdminCommand admin (admin.credentialDigest salt)).statement, .success⟩,
    ⟨.alignIdentifiers, .success⟩]

def commitStep : Step where
  statement := .commit
  need := .success

theorem follows_ensureAdmin {admin : AdminAccount} {salt : Salt} {asked : List (Asked Query ServerError)}
    {result : Except StoreError Unit} (ends : (ensureAdmin admin salt).run.Ends asked result) :
    ∃ sent, Course (adminSteps admin salt ++ [commitStep]) sent (failure? result) ∧
      TakenBack sent asked result :=
  ends_transaction ((follows_execute _ _).bind fun _ => follows_execute _ _) ends

/-- Nothing is committed unless all that comes before was answered successfully. -/
theorem committed_of_sent {admin : AdminAccount} {salt : Salt} {asked : List (Asked Query ServerError)}
    {result : Except StoreError Unit} (ends : (ensureAdmin admin salt).run.Ends asked result)
    {one : Asked Query ServerError} (member : one ∈ asked) (commits : commitStep.SentBy one) :
    ∃ first later, asked = first ++ later ∧ Course (adminSteps admin salt) first none := by
  obtain ⟨sent, course, back⟩ := follows_ensureAdmin ends
  obtain ⟨undo, rfl, apart⟩ : ∃ undo, asked = sent ++ undo ∧ one ∉ undo := by
    by_cases whole : result = .ok () ∨ sent.length = 1
    · exact ⟨[], by rw [back.whole whole, List.append_nil], nofun⟩
    · obtain ⟨failed, begun⟩ := not_or.1 whole
      obtain ⟨r, rfl⟩ := back.undone failed begun
      refine ⟨_, rfl, fun undoes => ?_⟩
      rw [List.mem_singleton.1 undoes] at commits
      cases commits
  rcases course.split with ⟨kind, failed⟩ | ⟨first, later, rfl, start, -⟩
  · have inside := (List.mem_append.1 member).resolve_right apart
    obtain ⟨s, step, sends⟩ := failed.sent one inside
    have same : some s.statement = some Statement.commit := sends.symm.trans commits
    have never : ∀ s ∈ adminSteps admin salt, s.statement ≠ .commit := by
      simp [adminSteps, Accounts.ensureAdminCommand]
    exact absurd (Option.some.inj same) (never s step)
  · exact ⟨first, later ++ undo, List.append_assoc _ _ _, start⟩

section

variable {key : Token.SigningKey} {validity : Int} {name candidate token : String}
  {now : Instant} {asked : List (Asked Query ServerError)} {calls : List (Asked Call StoreError)}

def loginProgram (key : Token.SigningKey) (validity : Int) (name candidate : String)
    (now : Instant) : Program (Except LoginError IssuedToken) :=
  (login key validity name candidate now).run.run answer

def sessionProgram (key : Token.SigningKey) (token : String) (now : Instant) :
    Program (Except SessionError ClaimSet) :=
  (openSession key token now).run.run answer

theorem carried_single {c : Call α} {r : Except StoreError α}
    (carried : Interaction.Carried @answer [⟨c, r⟩] asked) : (answer c).Ends asked r := by
  cases carried with
  | cons answered rest =>
    cases rest
    rw [List.append_nil]
    exact answered

theorem carried_pair {c : Call α} {d : Call β} {r : Except StoreError α} {r' : Except StoreError β}
    (carried : Interaction.Carried @answer [⟨c, r⟩, ⟨d, r'⟩] asked) :
    ∃ first later, asked = first ++ later ∧ (answer c).Ends first r ∧ (answer d).Ends later r' := by
  cases carried with
  | cons answered rest => exact ⟨_, _, rfl, answered, carried_single rest⟩

/-- A login finds no account exactly if the search for the name has no row. Every other reply that fails
    is a failure of the service. -/
theorem ends_loginProgram {result : Except LoginError IssuedToken}
    (ends : (loginProgram key validity name candidate now).Ends asked result) (id : UserId) :
    (result = .error .usernameNotFound ↔ Course (steps (.findIdByLoginName name)) asked (some .notFound)) ∧
      ((∃ detail, result = .error (.internalFailure detail)) ↔
        ¬ Course (steps (.findIdByLoginName name)) asked (some .notFound) ∧
          ∃ kind, Course (steps (.findIdByLoginName name) ++ steps (.loadAuthRecord id)) asked
            (some kind)) := by
  obtain ⟨calls, carried, course⟩ := Interaction.ends_run.1 ends
  cases ends_login.1 course with
  | unknown what =>
    have here : Course (steps (.findIdByLoginName name)) asked (some .notFound) :=
      follows_answer _ _ _ (carried_single carried)
    exact ⟨iff_of_true rfl here, iff_of_false nofun fun failed => failed.1 here⟩
  | @unsearched e failed =>
    have here : Course (steps (.findIdByLoginName name)) asked (some e.kind) :=
      follows_answer _ _ _ (carried_single carried)
    have apart : ¬ Course (steps (.findIdByLoginName name)) asked (some .notFound) := by
      intro missing
      cases e with
      | notFound => cases failed
      | conflict | backend => cases here.unique missing
    exact ⟨iff_of_false nofun apart, iff_of_true ⟨_, rfl⟩ ⟨apart, e.kind, here.stop _⟩⟩
  | unloaded other e =>
    obtain ⟨first, later, rfl, found, loaded⟩ := carried_pair carried
    have start : Course (steps (.findIdByLoginName name)) first none := follows_answer _ _ _ found
    have finish : Course (steps (.loadAuthRecord id)) later (some e.kind) :=
      follows_answer (.loadAuthRecord other) _ _ loaded
    have apart : ¬ Course (steps (.findIdByLoginName name)) (first ++ later) (some .notFound) :=
      fun missing => nomatch (start.ends missing).2
    exact ⟨iff_of_false nofun apart, iff_of_true ⟨_, rfl⟩ ⟨apart, e.kind, start.append finish⟩⟩
  | judged other record =>
    obtain ⟨first, later, rfl, found, loaded⟩ := carried_pair carried
    have start : Course (steps (.findIdByLoginName name)) first none := follows_answer _ _ _ found
    have finish : Course (steps (.loadAuthRecord id)) later none :=
      follows_answer (.loadAuthRecord other) _ _ loaded
    constructor
    · refine iff_of_false (fun denied => ?_) fun missing => nomatch (start.ends missing).2
      rcases grant_error denied with same | same | same | ⟨same, -⟩ <;> cases same
    · refine iff_of_false ?_ fun failed => ?_
      · rintro ⟨detail, denied⟩
        rcases grant_error denied with same | same | same | ⟨same, -⟩ <;> cases same
      · obtain ⟨-, kind, failed⟩ := failed
        cases (start.append finish).unique failed

theorem standing_eq_accountGone {claims : ClaimSet} {r : Except StoreError AccountState} :
    standing claims r = .error .accountGone ↔ failure? r = some .notFound := by
  rcases r with (what | what | what) | ⟨active, locked⟩
  case ok => cases active <;> cases locked <;> simp [standing, failure?]
  all_goals simp [standing, SessionError.ofStore, failure?, StoreError.kind]

theorem standing_eq_internal {claims : ClaimSet} {r : Except StoreError AccountState} :
    (∃ detail, standing claims r = .error (.internal detail)) ↔
      ∃ kind, kind ≠ .notFound ∧ failure? r = some kind := by
  rcases r with (what | what | what) | ⟨active, locked⟩
  case ok => cases active <;> cases locked <;> simp [standing, failure?]
  all_goals simp [standing, SessionError.ofStore, failure?, StoreError.kind]

/-- The account of a session is gone exactly if the query for its state has no row. Every other reply
    that fails is a failure of the service. -/
theorem ends_sessionProgram {result : Except SessionError ClaimSet}
    (ends : (sessionProgram key token now).Ends asked result) (id : UserId) :
    (result = .error .accountGone ↔ Course (steps (.accountState id)) asked (some .notFound)) ∧
      ((∃ detail, result = .error (.internal detail)) ↔
        ∃ kind, kind ≠ .notFound ∧ Course (steps (.accountState id)) asked (some kind)) := by
  obtain ⟨calls, carried, opens⟩ := Interaction.ends_run.1 ends
  cases verified : Token.verifyAt key token now with
  | error e =>
    obtain ⟨rfl, rfl⟩ := (ends_openSession_rejected verified).1 opens
    cases carried
    have unasked : ∀ kind, ¬ Course (steps (.accountState id)) [] (some kind) :=
      fun kind course => course.ne_nil rfl
    simp [unasked]
  | ok claims =>
    obtain ⟨r, rfl, rfl⟩ := (ends_openSession_verified verified).1 opens
    have course : Course (steps (.accountState id)) asked (failure? r) :=
      follows_answer (.accountState claims.subjectId) _ _ (carried_single carried)
    simp only [course.decides]
    exact ⟨standing_eq_accountGone, standing_eq_internal⟩

end

/-- Whatever a database replies, what is asked of it comes to an end. A call sends its statements one
    after another until a reply fails, and the kind of its failure is that of this reply: `conflict` for
    code 23505, `notFound` where a row is needed and none comes or is affected, and `backend` for any
    other. The administrator is set up in the same way, in a transaction that is committed only after
    all else and is taken back when it fails. So a login finds no account, and a session finds its
    account gone, exactly if the query for it has no row; a database that fails or sends what cannot be
    read is a failure of the service. -/
theorem first_failing_reply_decides :
    (∀ {α σ : Type} (p : Program α) (database : {γ : Type} → Query γ → StateM σ (Except ServerError γ))
      (state : σ), ∃ asked, p.Ends asked ((p.run database).run state).1) ∧
    (∀ {β : Type} (c : Call β) asked result, (answer c).Ends asked result →
      Classified (steps c) asked result) ∧
    (∀ admin salt asked result, (ensureAdmin admin salt).run.Ends asked result →
      (∃ sent, Classified (adminSteps admin salt ++ [commitStep]) sent result ∧
        TakenBack sent asked result) ∧
      ∀ one ∈ asked, commitStep.SentBy one →
        ∃ first later, asked = first ++ later ∧ Course (adminSteps admin salt) first none) ∧
    (∀ key validity name candidate now asked result,
      (loginProgram key validity name candidate now).Ends asked result → ∀ id,
        (result = .error .usernameNotFound ↔
          Course (steps (.findIdByLoginName name)) asked (some .notFound)) ∧
        ((∃ detail, result = .error (.internalFailure detail)) ↔
          ¬ Course (steps (.findIdByLoginName name)) asked (some .notFound) ∧
            ∃ kind, Course (steps (.findIdByLoginName name) ++ steps (.loadAuthRecord id)) asked
              (some kind))) ∧
    ∀ key token now asked result, (sessionProgram key token now).Ends asked result → ∀ id,
      (result = .error .accountGone ↔ Course (steps (.accountState id)) asked (some .notFound)) ∧
      ((∃ detail, result = .error (.internal detail)) ↔
        ∃ kind, kind ≠ .notFound ∧ Course (steps (.accountState id)) asked (some kind)) := by
  refine ⟨Interaction.exists_ends_run, ?_, ?_, ?_, ?_⟩
  · intro β c asked result ends
    exact (follows_answer c asked result ends).classified
  · intro admin salt asked result ends
    obtain ⟨sent, course, back⟩ := follows_ensureAdmin ends
    exact ⟨⟨sent, course.classified, back⟩, fun one => committed_of_sent ends⟩
  · intro key validity name candidate now asked result ends id
    exact ends_loginProgram ends id
  · intro key token now asked result ends id
    exact ends_sessionProgram ends id

/-- The connection is lost when a group is read again, the user name of the administrator is taken, a
    login finds a row that cannot be read, and the state of an account cannot be asked for. -/
theorem first_failing_reply_decides_lost :
    let rename : GroupUpdate :=
      { name := "Editors", isActive := true, inactivationReason := none, comment := none }
    let admin : AdminAccount := { username := "admin", email := "a@e.org", password := "p" }
    let salt : Salt := ⟨List.replicate 16 0, by decide⟩
    let key : Token.SigningKey := ⟨[7], by decide⟩
    let now : Instant := { seconds := 60, nanos := 0 }
    let claims : ClaimSet :=
      { subjectId := ⟨2⟩, loginName := "ada", displayName := "Ada", email := "a@e.org", isAdmin := false,
        issuedAt := { seconds := 0, nanos := 0 }, expiresAt := { seconds := 3600, nanos := 0 } }
    let lost : Except ServerError (List Row) := .error (.lost "connection reset by peer")
    let taken : Except ServerError Nat := .error (.reported (some "23505") "duplicate key value")
    let executed (c : Command) (r : Except ServerError Nat) : Asked Query ServerError := ⟨.execute c, r⟩
    let group : Command := { statement := .find .groups Groups.columns "id", parameters := [.int4 7] }
    let search : Command := { statement := .find .users ["id"] "username", parameters := [.text "ada"] }
    let insert : Command := Accounts.ensureAdminCommand admin (admin.credentialDigest salt)
    let renamed : List (Asked Query ServerError) :=
      [executed (Groups.updateCommand ⟨7⟩ rename .bootstrap) (.ok 1), ⟨.rows group, lost⟩]
    let seeding : List (Asked Query ServerError) :=
      [executed { statement := .begin } (.ok 0), executed insert taken,
        executed { statement := .rollback } (.ok 0)]
    (∃ result, (answer (.updateGroup ⟨7⟩ rename .bootstrap)).Ends renamed result ∧
      ∃ what, result = .error (.backend what)) ∧
    (∃ what sent, (ensureAdmin admin salt).run.Ends seeding (.error (.conflict what)) ∧
      Course (adminSteps admin salt ++ [commitStep]) sent (some .conflict) ∧
      TakenBack sent seeding (.error (.conflict what))) ∧
    (∃ result, (loginProgram key 3600 "ada" "d" now).Ends [⟨.rows search, .ok [[("id", .null)]]⟩] result ∧
      ∃ detail, result = .error (.internalFailure detail)) ∧
    ∃ result, (sessionProgram key (Token.mint key claims) now).Ends
        [⟨.rows (findUser ["is_active", "is_locked"] ⟨2⟩), lost⟩] result ∧
      ∃ detail, result = .error (.internal detail) := by
  intro rename admin salt key now claims lost taken executed group search insert renamed seeding
  obtain ⟨-, called, seeded, loggedIn, opened⟩ := first_failing_reply_decides
  refine ⟨?_, ?_, ?_, ?_⟩
  · have ended : ∃ result, (answer (.updateGroup ⟨7⟩ rename .bootstrap)).Ends renamed result :=
      ⟨_, .step (.ok 1) (.step lost (.done _))⟩
    obtain ⟨result, ends⟩ := ended
    have course : Course (steps (.updateGroup ⟨7⟩ rename .bootstrap)) renamed (some .backend) :=
      .passed rfl rfl (.failed rfl rfl)
    exact ⟨result, ends, (called _ _ _ ends).backend.2 course⟩
  · have ended : ∃ what, (ensureAdmin admin salt).run.Ends seeding (.error (.conflict what)) :=
      ⟨_, .step (.ok 0) (.step taken (.step (.ok 0) (.done _)))⟩
    obtain ⟨what, ends⟩ := ended
    obtain ⟨⟨sent, classified, back⟩, -⟩ := seeded _ _ _ _ ends
    exact ⟨what, sent, ends, classified.conflict.1 ⟨what, rfl⟩, back⟩
  · have answered : ∃ what, (answer (.findIdByLoginName "ada")).Ends
        [⟨.rows search, .ok [[("id", .null)]]⟩] (.error (.backend what)) :=
      ⟨_, .step _ (.done _)⟩
    obtain ⟨what, answered⟩ := answered
    have ends : (loginProgram key 3600 "ada" "d" now).Ends [⟨.rows search, .ok [[("id", .null)]]⟩]
        (.error (.ofStore (.backend what))) :=
      Interaction.ends_run.2 ⟨_, .cons answered .nil, ends_login.2 (.unsearched rfl)⟩
    have course : Course (steps (.findIdByLoginName "ada")) [⟨.rows search, .ok [[("id", .null)]]⟩]
        (some .backend) := .failed rfl rfl
    obtain ⟨-, failed⟩ := loggedIn _ _ _ _ _ _ _ ends .bootstrap
    refine ⟨_, ends, failed.2 ⟨fun missing => ?_, .backend, course.stop _⟩⟩
    cases course.unique missing
  · have answered : ∃ what, (answer (.accountState ⟨2⟩)).Ends
        [⟨.rows (findUser ["is_active", "is_locked"] ⟨2⟩), lost⟩] (.error (.backend what)) :=
      ⟨_, .step _ (.done _)⟩
    obtain ⟨what, answered⟩ := answered
    have verified : Token.verifyAt key (Token.mint key claims) now = .ok claims.floored := by
      rw [Token.verifyAt_mint]
      rfl
    have ends : (sessionProgram key (Token.mint key claims) now).Ends
        [⟨.rows (findUser ["is_active", "is_locked"] ⟨2⟩), lost⟩] (.error (.internal _)) :=
      Interaction.ends_run.2
        ⟨_, .cons answered .nil, (ends_openSession_verified verified).2 ⟨_, rfl, rfl⟩⟩
    have course : Course (steps (.accountState ⟨2⟩))
        [⟨.rows (findUser ["is_active", "is_locked"] ⟨2⟩), lost⟩] (some .backend) := .failed rfl rfl
    obtain ⟨-, failed⟩ := opened _ _ _ _ _ ends ⟨2⟩
    exact ⟨_, ends, failed.2 ⟨.backend, by decide, course⟩⟩

end AccountDirectory.Database
