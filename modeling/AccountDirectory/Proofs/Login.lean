import AccountDirectory.Login
import AccountDirectory.Proofs.Interaction
import AccountDirectory.Proofs.Store.Run

/-!
How a login goes, whatever the store answers: it asks whose the login name is, then for this account,
and what the account grants is decided without the store.
-/

namespace AccountDirectory

open AccountDirectory.Store (Call Program)
open AccountDirectory.Interaction (Asked ends_done ends_step)
open AccountDirectory.Time (Instant)

/-- The claims of a token for the account as the record has it. -/
def AuthRecord.claims (record : AuthRecord) (issuedAt expiresAt : Instant) : ClaimSet where
  subjectId := record.id
  loginName := record.loginName
  displayName := record.displayName
  email := record.email
  isAdmin := record.isAdmin
  issuedAt := issuedAt
  expiresAt := expiresAt

theorem AuthRecord.issue?_eq_some_iff {record : AuthRecord} {now : Instant} {validity : Int}
    {claims : ClaimSet} :
    ClaimSet.issue? record now validity = some claims ↔
      ∃ deadline, now.floor.addSeconds? validity = some deadline ∧
        claims = record.claims now.floor deadline := by
  unfold ClaimSet.issue?
  cases now.floor.addSeconds? validity with
  | none => simp
  | some deadline => simp [AuthRecord.claims, eq_comm]

variable {key : Token.SigningKey} {validity : Int} {name candidate : String} {now deadline : Instant}
  {issued : IssuedToken} {record : AuthRecord} {asked : List (Asked Call StoreError)}
  {result : Except LoginError IssuedToken}

theorem grant_ok :
    grant key validity record candidate now = .ok issued ↔
      record.isActive = true ∧ record.isLocked = false ∧
        Credential.verify record.credentialDigest candidate = true ∧
        ClaimSet.issue? record now validity = some issued.claims ∧
        issued.token = Token.mint key issued.claims := by
  obtain ⟨token, claims⟩ := issued
  unfold grant
  cases record.isActive with
  | false => simp
  | true =>
    cases record.isLocked with
    | true => simp
    | false =>
      cases Credential.verify record.credentialDigest candidate with
      | false => simp
      | true =>
        cases ClaimSet.issue? record now validity with
        | none => simp
        | some made =>
          simp only [Bool.not_true, Bool.false_eq_true, if_false, Except.ok.injEq,
            IssuedToken.mk.injEq, Option.some.injEq, true_and]
          constructor
          · rintro ⟨rfl, rfl⟩
            exact ⟨rfl, rfl⟩
          · rintro ⟨rfl, rfl⟩
            exact ⟨rfl, rfl⟩

theorem grant_error {record : AuthRecord} {e : LoginError}
    (denied : grant key validity record candidate now = .error e) :
    e = .accountInactive ∨ e = .accountLocked ∨ e = .wrongCredential ∨
      e = .outOfTime ∧ now.floor.addSeconds? validity = none := by
  unfold grant at denied
  split at denied
  · cases denied
    exact .inl rfl
  · split at denied
    · cases denied
      exact .inr (.inl rfl)
    · split at denied
      · cases denied
        exact .inr (.inr (.inl rfl))
      · split at denied
        · cases denied
        · rename_i made
          cases denied
          refine .inr (.inr (.inr ⟨rfl, ?_⟩))
          cases ends : now.floor.addSeconds? validity with
          | none => rfl
          | some deadline => cases made.symm.trans (AuthRecord.issue?_eq_some_iff.2 ⟨deadline, ends, rfl⟩)

/-- The calls of a login with their answers, and what it ends with. -/
inductive LoginCourse (key : Token.SigningKey) (validity : Int) (name candidate : String)
    (now : Instant) : List (Asked Call StoreError) → Except LoginError IssuedToken → Prop where
  | unknown (what : String) :
      LoginCourse key validity name candidate now
        [⟨.findIdByLoginName name, .error (.notFound what)⟩] (.error .usernameNotFound)
  | unsearched {e : StoreError} (failed : e.isNotFound = false) :
      LoginCourse key validity name candidate now [⟨.findIdByLoginName name, .error e⟩]
        (.error (.ofStore e))
  | unloaded (id : UserId) (e : StoreError) :
      LoginCourse key validity name candidate now
        [⟨.findIdByLoginName name, .ok id⟩, ⟨.loadAuthRecord id, .error e⟩] (.error (.ofStore e))
  | judged (id : UserId) (record : AuthRecord) :
      LoginCourse key validity name candidate now
        [⟨.findIdByLoginName name, .ok id⟩, ⟨.loadAuthRecord id, .ok record⟩]
        (grant key validity record candidate now)

theorem ends_call_bind {ε α β : Type} {c : Call α} {f : Except StoreError α → ExceptT ε Program β}
    {result : Except ε β} :
    ((liftM (Program.call c) : ExceptT ε Program _) >>= f).run.Ends asked result ↔
      ∃ r later, asked = ⟨c, r⟩ :: later ∧ (f r).run.Ends later result :=
  ends_step

theorem ends_login :
    (login key validity name candidate now).run.Ends asked result ↔
      LoginCourse key validity name candidate now asked result := by
  unfold login
  rw [ends_call_bind]
  constructor
  · rintro ⟨found, later, rfl, rest⟩
    cases found with
    | error e =>
      cases e with
      | notFound what =>
        obtain ⟨rfl, rfl⟩ := ends_done.1 rest
        exact .unknown what
      | conflict what | backend what =>
        obtain ⟨rfl, rfl⟩ := ends_done.1 rest
        exact .unsearched rfl
    | ok id =>
      obtain ⟨loaded, last, rfl, finish⟩ := ends_call_bind.1 rest
      cases loaded with
      | error e =>
        obtain ⟨rfl, rfl⟩ := ends_done.1 finish
        exact .unloaded id e
      | ok record =>
        obtain ⟨rfl, rfl⟩ := ends_done.1 finish
        exact .judged id record
  · intro course
    cases course with
    | unknown what => exact ⟨_, _, rfl, .done _⟩
    | @unsearched e failed =>
      cases e with
      | notFound what => cases failed
      | conflict what | backend what => exact ⟨_, _, rfl, .done _⟩
    | unloaded id e => exact ⟨_, _, rfl, ends_call_bind.2 ⟨_, _, rfl, .done _⟩⟩
    | judged id record => exact ⟨_, _, rfl, ends_call_bind.2 ⟨_, _, rfl, .done _⟩⟩

namespace LoginCourse

theorem asked_eq (course : LoginCourse key validity name candidate now asked result) :
    (∃ e, asked = [⟨.findIdByLoginName name, .error e⟩]) ∨
      ∃ id loaded, asked = [⟨.findIdByLoginName name, .ok id⟩, ⟨.loadAuthRecord id, loaded⟩] := by
  cases course with
  | unknown what => exact .inl ⟨_, rfl⟩
  | unsearched => exact .inl ⟨_, rfl⟩
  | unloaded id e => exact .inr ⟨id, .error e, rfl⟩
  | judged id record => exact .inr ⟨id, .ok record, rfl⟩

theorem reads (course : LoginCourse key validity name candidate now asked result) :
    ∀ one ∈ asked, one.question.writes = false := by
  rcases course.asked_eq with ⟨e, rfl⟩ | ⟨id, loaded, rfl⟩
  · intro one member
    obtain rfl := List.mem_singleton.1 member
    rfl
  · intro one member
    rcases List.mem_cons.1 member with rfl | later
    · rfl
    · obtain rfl := List.mem_singleton.1 later
      rfl

/-- A login ends well just when the store finds an account that may be used and has the candidate for
    its credential. -/
theorem ok_iff (ends : now.floor.addSeconds? validity = some deadline) :
    LoginCourse key validity name candidate now asked (.ok issued) ↔
      ∃ id record,
        asked = [⟨.findIdByLoginName name, .ok id⟩, ⟨.loadAuthRecord id, .ok record⟩] ∧
        record.isActive = true ∧ record.isLocked = false ∧
        Credential.verify record.credentialDigest candidate = true ∧
        issued.claims = record.claims now.floor deadline ∧
        issued.token = Token.mint key issued.claims := by
  constructor
  · generalize outcome : (Except.ok issued : Except LoginError IssuedToken) = result
    intro course
    cases course with
    | unknown | unsearched | unloaded => cases outcome
    | judged id record =>
      obtain ⟨active, unlocked, verified, made, minted⟩ := grant_ok.1 outcome.symm
      obtain ⟨again, same, claims⟩ := AuthRecord.issue?_eq_some_iff.1 made
      obtain rfl := Option.some.inj (ends.symm.trans same)
      exact ⟨id, record, rfl, active, unlocked, verified, claims, minted⟩
  · rintro ⟨id, record, rfl, active, unlocked, verified, claims, minted⟩
    have made := AuthRecord.issue?_eq_some_iff.2 ⟨deadline, ends, claims⟩
    have granted : grant key validity record candidate now = .ok issued :=
      grant_ok.2 ⟨active, unlocked, verified, made, minted⟩
    rw [← granted]
    exact .judged id record

end LoginCourse

end AccountDirectory
