import AccountDirectory.Proofs.Crypto.Bcrypt
import AccountDirectory.Proofs.Login
import AccountDirectory.Proofs.Settings
import AccountDirectory.Proofs.Token.RoundTrip
import AccountDirectory.Session

/-!
How long a login lasts: with accepted settings, its token opens a session from half a minute before
the second of the login to the end of its validity, as long as the account may be used.
-/

namespace AccountDirectory

open AccountDirectory.Crypto (Salt)
open AccountDirectory.Interaction (Asked ends_done ends_step)
open AccountDirectory.Store (Call Program)
open AccountDirectory.Time (Instant)
open AccountDirectory.Token (SigningKey)

variable {key : SigningKey} {token name candidate : String} {now t latest deadline : Instant}
  {claims : ClaimSet} {asked : List (Asked Call StoreError)} {outcome : Except SessionError ClaimSet}

/-- What a verified token opens, by what the store says of its account. -/
def standing (claims : ClaimSet) : Except StoreError AccountState → Except SessionError ClaimSet
  | .error e => .error (.ofStore e)
  | .ok state =>
    if !state.isActive then .error .accountDeactivated
    else if state.isLocked then .error .accountLocked
    else .ok claims

theorem standing_usable : standing claims (.ok { isActive := true, isLocked := false }) = .ok claims := rfl

theorem ends_openSession_rejected {e : Token.TokenError} (rejected : Token.verifyAt key token t = .error e) :
    (openSession key token t).run.Ends asked outcome ↔ asked = [] ∧ outcome = .error (.token e) := by
  unfold openSession
  rw [rejected]
  exact ends_done

theorem ends_openSession_verified (verified : Token.verifyAt key token t = .ok claims) :
    (openSession key token t).run.Ends asked outcome ↔
      ∃ r, asked = [⟨.accountState claims.subjectId, r⟩] ∧ outcome = standing claims r := by
  unfold openSession
  rw [verified]
  constructor
  · intro ends
    obtain ⟨r, later, rfl, finish⟩ := ends_call_bind.1 ends
    refine ⟨r, ?_⟩
    cases r with
    | error e =>
      obtain ⟨rfl, rfl⟩ := ends_done.1 finish
      exact ⟨rfl, rfl⟩
    | ok state =>
      obtain ⟨active, locked⟩ := state
      cases active <;> cases locked <;>
        · obtain ⟨rfl, rfl⟩ := ends_done.1 finish
          exact ⟨rfl, rfl⟩
  · rintro ⟨r, rfl, rfl⟩
    refine ends_call_bind.2 ⟨r, [], rfl, ?_⟩
    cases r with
    | error e => exact .done _
    | ok state =>
      obtain ⟨active, locked⟩ := state
      cases active <;> cases locked <;> exact .done _

theorem eq_of_standing {r : Except StoreError AccountState} {found : ClaimSet}
    (opened : standing claims r = .ok found) : found = claims := by
  cases r with
  | error e => cases opened
  | ok state =>
    obtain ⟨active, locked⟩ := state
    cases active <;> cases locked <;> cases opened
    rfl

/-- The session of a token that has just been minted has its claims as they are written. -/
theorem eq_floored_of_openSession {found : ClaimSet}
    (ends : (openSession key (Token.mint key claims) t).run.Ends asked (.ok found)) :
    found = claims.floored := by
  cases verified : Token.verifyAt key (Token.mint key claims) t with
  | error e =>
    obtain ⟨-, refused⟩ := (ends_openSession_rejected verified).1 ends
    cases refused
  | ok written =>
    obtain ⟨rfl, -⟩ := Token.eq_of_verifyAt_mint verified
    obtain ⟨r, -, opened⟩ := (ends_openSession_verified verified).1 ends
    exact eq_of_standing opened.symm

/-- The claims as a login issues them, with accepted settings. -/
structure Issued (settings : Settings) (now deadline : Instant) (claims : ClaimSet) : Prop where
  ends : now.floor.addSeconds? settings.tokenSeconds = some deadline
  issuedAt : claims.issuedAt = now.floor
  expiresAt : claims.expiresAt = deadline

theorem Settings.Accepted.tokenSeconds_pos {settings : Settings} (accepted : settings.Accepted) :
    0 < settings.tokenSeconds := by
  have length : settings.tokenSeconds = 60 * settings.tokenMinutes := rfl
  have lasting := accepted.minutes.1
  omega

namespace Issued

variable {settings : Settings}

theorem second (made : Issued settings now deadline claims) :
    claims.floored.issuedAt.seconds = now.seconds := by
  have written : claims.floored.issuedAt.seconds = claims.issuedAt.seconds := rfl
  rw [written, made.issuedAt]
  rfl

theorem deadline_whole (made : Issued settings now deadline claims) (accepted : settings.Accepted) :
    deadline.wholeSecond = deadline :=
  Instant.wholeSecond_of_addSeconds?_floor accepted.tokenSeconds_pos made.ends

theorem finish (made : Issued settings now deadline claims) (accepted : settings.Accepted) :
    claims.floored.expiresAt = deadline := by
  have written : claims.floored.expiresAt = claims.expiresAt.wholeSecond := rfl
  rw [written, made.expiresAt]
  exact made.deadline_whole accepted

/-- A token gives back the claims that were issued, except for the mark of a leap second. -/
theorem floored_eq_iff (made : Issued settings now deadline claims) (accepted : settings.Accepted) :
    claims.floored = claims ↔ now.nanos < 1000000000 := by
  rw [← Instant.wholeSecond_floor_eq_iff, ← made.issuedAt]
  constructor
  · exact congrArg ClaimSet.issuedAt
  · intro start
    have finish : claims.expiresAt.wholeSecond = claims.expiresAt := by
      rw [made.expiresAt]
      exact made.deadline_whole accepted
    unfold ClaimSet.floored
    rw [start, finish]

theorem seconds_lt (made : Issued settings now deadline claims) (accepted : settings.Accepted) :
    now.seconds < deadline.seconds := by
  have sum : deadline.seconds = now.floor.seconds + settings.tokenSeconds :=
    Instant.seconds_of_addSeconds? accepted.tokenSeconds_pos made.ends
  have start : now.floor.seconds = now.seconds := rfl
  have positive := accepted.tokenSeconds_pos
  omega

theorem proper (made : Issued settings now deadline claims) (accepted : settings.Accepted) :
    claims.floored.issuedAt < claims.floored.expiresAt := by
  rw [made.finish accepted, Instant.lt_iff, made.second]
  exact .inl (made.seconds_lt accepted)

theorem begun_iff (made : Issued settings now deadline claims)
    (fits : t.addSeconds? ClaimSet.leeway = some latest) :
    claims.floored.issuedAt ≤ latest ↔ now.seconds - ClaimSet.leeway ≤ t.seconds := by
  rw [ClaimSet.begun_iff claims fits, made.second]

theorem verifyAt_ok_iff (key : SigningKey) (made : Issued settings now deadline claims)
    (accepted : settings.Accepted) (fits : t.addSeconds? ClaimSet.leeway = some latest) :
    Token.verifyAt key (Token.mint key claims) t = .ok claims.floored ↔
      now.seconds - ClaimSet.leeway ≤ t.seconds ∧ t < deadline := by
  rw [Token.verifyAt_mint_ok key claims fits, made.begun_iff fits, made.finish accepted]
  have proper := made.proper accepted
  rw [made.finish accepted] at proper
  exact and_iff_right proper

/-- From the end of its validity on the token is expired, since it has begun by then. -/
theorem verifyAt_expired (key : SigningKey) (made : Issued settings now deadline claims)
    (accepted : settings.Accepted) (fits : t.addSeconds? ClaimSet.leeway = some latest) (late : deadline ≤ t) :
    Token.verifyAt key (Token.mint key claims) t = .error .expired := by
  have order : now.seconds - ClaimSet.leeway ≤ t.seconds := by
    have later := made.seconds_lt accepted
    have positive : ClaimSet.leeway = 30 := rfl
    rw [Instant.le_iff] at late
    omega
  refine (Token.verifyAt_mint_expired key claims fits).2 ⟨made.proper accepted, ?_, ?_⟩
  · exact (made.begun_iff fits).2 order
  · rw [made.finish accepted]
    exact late

theorem now_within (made : Issued settings now deadline claims) (accepted : settings.Accepted) :
    now.seconds - ClaimSet.leeway ≤ now.seconds ∧ now < deadline := by
  have later := made.seconds_lt accepted
  have positive : ClaimSet.leeway = 30 := rfl
  refine ⟨by omega, ?_⟩
  rw [Instant.lt_iff]
  exact .inl later

/-- A session opens with the claims that are written just within their window, if the store reports the
    account as one that may be used. -/
theorem openSession_ok_iff (made : Issued settings now deadline claims) (accepted : settings.Accepted)
    (fits : t.addSeconds? ClaimSet.leeway = some latest)
    (ends : (openSession key (Token.mint key claims) t).run.Ends asked outcome)
    (usable : ∀ r, ⟨.accountState claims.subjectId, r⟩ ∈ asked →
      r = .ok { isActive := true, isLocked := false }) :
    outcome = .ok claims.floored ↔ now.seconds - ClaimSet.leeway ≤ t.seconds ∧ t < deadline := by
  rw [← made.verifyAt_ok_iff key accepted fits]
  cases verified : Token.verifyAt key (Token.mint key claims) t with
  | error e =>
    obtain ⟨-, rfl⟩ := (ends_openSession_rejected verified).1 ends
    exact ⟨fun done => (nomatch done), fun done => (nomatch done)⟩
  | ok found =>
    obtain ⟨rfl, -⟩ := Token.eq_of_verifyAt_mint verified
    obtain ⟨r, rfl, rfl⟩ := (ends_openSession_verified verified).1 ends
    obtain rfl := usable r (List.mem_singleton.2 rfl)
    exact iff_of_true standing_usable rfl

/-- These are the claims that were issued, unless the login fell into a leap second. -/
theorem openSession_same_iff (made : Issued settings now deadline claims)
    (accepted : settings.Accepted) (fits : t.addSeconds? ClaimSet.leeway = some latest)
    (ends : (openSession key (Token.mint key claims) t).run.Ends asked outcome)
    (usable : ∀ r, ⟨.accountState claims.subjectId, r⟩ ∈ asked →
      r = .ok { isActive := true, isLocked := false }) :
    outcome = .ok claims ↔
      now.nanos < 1000000000 ∧ now.seconds - ClaimSet.leeway ≤ t.seconds ∧ t < deadline := by
  rw [← made.openSession_ok_iff accepted fits ends usable, ← made.floored_eq_iff accepted]
  constructor
  · rintro rfl
    have same := eq_floored_of_openSession ends
    exact ⟨same.symm, congrArg Except.ok same⟩
  · rintro ⟨same, opened⟩
    rw [opened, same]

end Issued

/-- With accepted settings there is a key, and a login only reads: it asks whose the name is, and for
    the account only if that is answered. It ends with a token just when the account may be used and
    has the candidate for its credential. This token opens a session exactly from half a minute before
    the second of the login to the end of its validity, so also at once, and is expired from then on.
    The session has the claims of the login as they are written in whole seconds: they are the same
    claims unless the login fell into a leap second. -/
theorem login_opens_session {lookup : String → Option String} {settings : Settings}
    (accepted : Settings.fromLookup lookup = .ok settings) :
    ∃ key, SigningKey.ofBytes? settings.tokenSecret = some key ∧
      ∀ (now deadline : Instant) (name candidate : String),
        now.floor.addSeconds? settings.tokenSeconds = some deadline →
        (∀ asked result,
          (login key settings.tokenSeconds name candidate now).run.Ends asked result →
            (∀ one ∈ asked, one.question.writes = false) ∧
            ((∃ e, asked = [⟨.findIdByLoginName name, .error e⟩]) ∨
              ∃ id loaded,
                asked = [⟨.findIdByLoginName name, .ok id⟩, ⟨.loadAuthRecord id, loaded⟩])) ∧
        ∀ asked issued,
          ((login key settings.tokenSeconds name candidate now).run.Ends asked (.ok issued) ↔
            ∃ id record,
              asked = [⟨.findIdByLoginName name, .ok id⟩, ⟨.loadAuthRecord id, .ok record⟩] ∧
              record.isActive = true ∧ record.isLocked = false ∧
              Credential.verify record.credentialDigest candidate = true ∧
              issued.claims = record.claims now.floor deadline ∧
              issued.token = Token.mint key issued.claims) ∧
          ((login key settings.tokenSeconds name candidate now).run.Ends asked (.ok issued) →
            (issued.claims.floored = issued.claims ↔ now.nanos < 1000000000) ∧
            (now.seconds - ClaimSet.leeway ≤ now.seconds ∧ now < deadline) ∧
            ∀ t, (t.addSeconds? ClaimSet.leeway).isSome →
              (∀ asked outcome, (openSession key issued.token t).run.Ends asked outcome →
                (∀ r, ⟨.accountState issued.claims.subjectId, r⟩ ∈ asked →
                  r = .ok { isActive := true, isLocked := false }) →
                (outcome = .ok issued.claims.floored ↔
                  now.seconds - ClaimSet.leeway ≤ t.seconds ∧ t < deadline) ∧
                (outcome = .ok issued.claims ↔ now.nanos < 1000000000 ∧
                  now.seconds - ClaimSet.leeway ≤ t.seconds ∧ t < deadline)) ∧
              (now.seconds - ClaimSet.leeway ≤ t.seconds ∧ t < deadline →
                (openSession key issued.token t).run.Ends
                  [⟨.accountState issued.claims.subjectId,
                    .ok { isActive := true, isLocked := false }⟩] (.ok issued.claims.floored)) ∧
              (deadline ≤ t → ∀ asked outcome,
                (openSession key issued.token t).run.Ends asked outcome ↔
                  asked = [] ∧ outcome = .error (.token .expired))) := by
  have sound := Settings.accepted_of_fromLookup accepted
  let key : SigningKey := ⟨settings.tokenSecret, sound.secret⟩
  refine ⟨key, dif_neg sound.secret, ?_⟩
  intro now deadline name candidate ends
  refine ⟨fun asked result course => ?_, fun asked issued => ⟨?_, fun course => ?_⟩⟩
  · have course := ends_login.1 course
    exact ⟨course.reads, course.asked_eq⟩
  · rw [ends_login]
    exact LoginCourse.ok_iff ends
  · obtain ⟨id, record, -, -, -, -, claims, minted⟩ := (LoginCourse.ok_iff ends).1 (ends_login.1 course)
    have made : Issued settings now deadline issued.claims := by
      rw [claims]
      exact ⟨ends, rfl, rfl⟩
    rw [minted]
    refine ⟨made.floored_eq_iff sound, made.now_within sound, fun t inTime => ?_⟩
    obtain ⟨latest, fits⟩ := Option.isSome_iff_exists.1 inTime
    refine ⟨fun asked outcome course usable => ⟨?_, ?_⟩, fun within => ?_, fun late asked outcome => ?_⟩
    · exact made.openSession_ok_iff sound fits course usable
    · exact made.openSession_same_iff sound fits course usable
    · have verified := (made.verifyAt_ok_iff key sound fits).2 within
      exact (ends_openSession_verified verified).2 ⟨_, rfl, rfl⟩
    · exact ends_openSession_rejected (made.verifyAt_expired key sound fits late)

/-- Values for what has no default. -/
def leastValues (name : String) : Option String :=
  [("DATABASE_URL", "db"), ("JWT_SECRET", "k"), ("ADMIN_PASSWORD", "p")].lookup name

def leastSettings : Settings where
  listenIp := Settings.defaultListenIp
  port := Settings.defaultPort
  databaseUrl := "db"
  maxConnections := none
  tokenSecret := Text.utf8 "k"
  tokenMinutes := Settings.defaultTokenMinutes
  admin := { username := "goadmin", email := "goadmin@yourdomain.org", password := "p" }

theorem fromLookup_leastValues : Settings.fromLookup leastValues = .ok leastSettings := by rfl

/-- An account that may be used, with a digest of this credential. -/
def usableRecord (salt : Salt) (credential : String) : AuthRecord where
  id := ⟨7⟩
  loginName := "bob"
  displayName := "Bobby"
  email := "bob@e.org"
  credentialDigest := Credential.digest salt credential
  isAdmin := false
  isLocked := false
  isActive := true
  badCredentialCount := 3

theorem verify_usableRecord (salt : Salt) (credential : String) :
    Credential.verify (usableRecord salt credential).credentialDigest credential = true :=
  Crypto.Bcrypt.verify_digest (by decide) (by decide) salt credential

/-- With the default length of validity, an account logs in and opens a session in the same second. -/
theorem login_opens_session_default :
    let salt : Salt := ⟨List.replicate 16 0, by decide⟩
    let record := usableRecord salt "0123456789abcdef0123456789abcdef"
    let now : Instant := { seconds := 1000, nanos := 5 }
    let claims : ClaimSet := record.claims now.floor { seconds := 4600, nanos := 0 }
    Settings.fromLookup leastValues = .ok leastSettings ∧
      ∃ key, SigningKey.ofBytes? leastSettings.tokenSecret = some key ∧
        (login key leastSettings.tokenSeconds "bob" "0123456789abcdef0123456789abcdef" now).run.Ends
          [⟨.findIdByLoginName "bob", .ok ⟨7⟩⟩, ⟨.loadAuthRecord ⟨7⟩, .ok record⟩]
          (.ok { token := Token.mint key claims, claims }) ∧
        (openSession key (Token.mint key claims) now).run.Ends
          [⟨.accountState ⟨7⟩, .ok { isActive := true, isLocked := false }⟩] (.ok claims) := by
  intro salt record now claims
  obtain ⟨key, found, logins⟩ := login_opens_session fromLookup_leastValues
  obtain ⟨-, course⟩ :=
    logins now { seconds := 4600, nanos := 0 } "bob" "0123456789abcdef0123456789abcdef" rfl
  obtain ⟨issues, lasts⟩ := course _ { token := Token.mint key claims, claims }
  have entered := issues.2 ⟨⟨7⟩, record, rfl, rfl, rfl, verify_usableRecord salt _, rfl, rfl⟩
  obtain ⟨same, within, opens⟩ := lasts entered
  have unchanged : claims.floored = claims := same.2 (by decide)
  have opened : (openSession key (Token.mint key claims) now).run.Ends
      [⟨.accountState ⟨7⟩, .ok { isActive := true, isLocked := false }⟩] (.ok claims.floored) :=
    (opens now rfl).2.1 within
  rw [unchanged] at opened
  exact ⟨fromLookup_leastValues, key, found, entered, opened⟩

/-- At 2016-12-31T23:59:60.5Z a login issues claims that its own session does not give back. -/
theorem leap_second_lost_in_session :
    let salt : Salt := ⟨List.replicate 16 0, by decide⟩
    let record := usableRecord salt "0123456789abcdef0123456789abcdef"
    let now : Instant := { seconds := 1483228799, nanos := 1500000000 }
    let deadline : Instant := { seconds := 1483232399, nanos := 0 }
    let issued := record.claims { seconds := 1483228799, nanos := 1000000000 } deadline
    let opened := record.claims { seconds := 1483228799, nanos := 0 } deadline
    Settings.fromLookup leastValues = .ok leastSettings ∧ opened ≠ issued ∧
      ∃ key, SigningKey.ofBytes? leastSettings.tokenSecret = some key ∧
        (login key leastSettings.tokenSeconds "bob" "0123456789abcdef0123456789abcdef" now).run.Ends
          [⟨.findIdByLoginName "bob", .ok ⟨7⟩⟩, ⟨.loadAuthRecord ⟨7⟩, .ok record⟩]
          (.ok { token := Token.mint key issued, claims := issued }) ∧
        (openSession key (Token.mint key issued) now).run.Ends
          [⟨.accountState ⟨7⟩, .ok { isActive := true, isLocked := false }⟩] (.ok opened) := by
  intro salt record now deadline issued opened
  have sound := Settings.accepted_of_fromLookup fromLookup_leastValues
  let key : SigningKey := ⟨leastSettings.tokenSecret, sound.secret⟩
  have apart : opened ≠ issued := by
    intro same
    have nanos := congrArg (fun claims : ClaimSet => claims.issuedAt.nanos) same
    cases nanos
  have ends : (Instant.floor { seconds := 1483228799, nanos := 1500000000 }).addSeconds? 3600 =
      some { seconds := 1483232399, nanos := 0 } := by decide
  have fits : Instant.addSeconds? { seconds := 1483228799, nanos := 1500000000 } ClaimSet.leeway =
      some { seconds := 1483228829, nanos := 500000000 } := by decide
  have entered : LoginCourse key leastSettings.tokenSeconds "bob" "0123456789abcdef0123456789abcdef" now
      [⟨.findIdByLoginName "bob", .ok ⟨7⟩⟩, ⟨.loadAuthRecord ⟨7⟩, .ok record⟩]
      (.ok { token := Token.mint key issued, claims := issued }) :=
    (LoginCourse.ok_iff ends).2 ⟨⟨7⟩, record, rfl, rfl, rfl, verify_usableRecord salt _, rfl, rfl⟩
  have made : Issued leastSettings now deadline issued := ⟨ends, rfl, rfl⟩
  have verified := (made.verifyAt_ok_iff key sound fits).2 (made.now_within sound)
  exact ⟨fromLookup_leastValues, apart, key, dif_neg sound.secret, ends_login.2 entered,
    (ends_openSession_verified verified).2 ⟨_, rfl, rfl⟩⟩

end AccountDirectory
