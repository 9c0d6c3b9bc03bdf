import AccountDirectory.Proofs.Http.Run
import AccountDirectory.Proofs.Login
import AccountDirectory.Proofs.Store.Uniqueness
import AccountDirectory.Proofs.Token.RoundTrip

/-!
Where tokens come from: a login is answered with a token just when it presents the credential of an
account that may be used, and the token shows what the account was then.
-/

namespace AccountDirectory

open AccountDirectory.Store
open AccountDirectory.Time (Instant)

/-- The claims of a token for the account as it is now. -/
def User.claims (u : User) (issuedAt expiresAt : Instant) : ClaimSet where
  subjectId := u.id
  loginName := u.username
  displayName := u.name
  email := u.email
  isAdmin := u.isAdmin
  issuedAt := issuedAt
  expiresAt := expiresAt

theorem issue?_eq_some_iff {stored : StoredUser} {now : Instant} {validity : Int} {claims : ClaimSet} :
    ClaimSet.issue? stored.authRecord now validity = some claims ↔
      ∃ deadline, now.floor.addSeconds? validity = some deadline ∧
        claims = stored.user.claims now.floor deadline :=
  AuthRecord.issue?_eq_some_iff

variable {key : Token.SigningKey} {validity : Int} {now clock : Instant} {t : Tables}
  {issued : IssuedToken} {name candidate : String}

theorem loginOutcome_ok :
    loginOutcome key validity name candidate now t = .ok issued ↔
      ∃ id stored, t.findIdByLoginName name = .ok id ∧ t.users.find? id.value = some stored ∧
        grant key validity stored.authRecord candidate now = .ok issued := by
  unfold loginOutcome
  constructor
  · intro done
    split at done
    · cases done
    · cases done
    · rename_i id found
      split at done
      · cases done
      · rename_i stored loaded
        exact ⟨id, stored, found, Tables.user_ok.1 loaded, done⟩
  · rintro ⟨id, stored, found, loaded, granted⟩
    simp only [found, Tables.user_ok.2 loaded, granted]

namespace Http

/-- The request is a login with this form. -/
structure IsLogin (v : Visit) (form : LoginForm) : Prop where
  method : v.exchange.request.method = .post
  path : v.exchange.request.path = "/login"
  body : v.exchange.request.value LoginForm.reader = .ok form

theorem IsLogin.routed {v : Visit} {form : LoginForm} (login : IsLogin v form) :
    Route.of? v.exchange.request.method v.exchange.request.path = some (.openAccess (some .login)) := by
  rw [login.method, login.path]
  decide

theorem IsLogin.whole {v : Visit} {form : LoginForm} (login : IsLogin v form) :
    v.exchange.request.method ≠ .head := by
  rw [login.method]
  decide

/-- A login opens the account: it names the account and presents its credential, and the account may
    be used. -/
structure Admits (form : LoginForm) (t : Tables) (stored : StoredUser) : Prop where
  found : t.users.find? stored.user.id.value = some stored
  named : stored.user.username = form.loginName
  active : stored.user.isActive = true
  unlocked : stored.user.isLocked = false
  verified : Credential.verify stored.credentialDigest form.credentialDigest = true

namespace Service

variable (s : Service)

/-- The request is a login, and the token is what it is answered with. -/
def Issues (v : Visit) (t : Tables) (token : String) : Prop :=
  Route.of? v.exchange.request.method v.exchange.request.path = some (.openAccess (some .login)) ∧
    (s.visit v t).1 = some (.json 200 (.object [("token", .string token)]))

variable {s} {v : Visit}

theorem runLogin_on (x : Exchange) (t : Tables) :
    runOn clock (s.runLogin x) t =
      (match x.request.value LoginForm.reader with
        | .error e => .error e
        | .ok form =>
          match loginOutcome s.key s.tokenSeconds form.loginName form.credentialDigest x.now t with
          | .error e => .error (.ofLogin e)
          | .ok issued => .ok (.json 200 (.object [("token", .string issued.token)])), t) := by
  unfold runLogin
  rw [runOn_bind, runOn_lift]
  cases x.request.value LoginForm.reader with
  | error e => rfl
  | ok form =>
    simp only [runOn_bind, runOn_attempt, login_on]
    cases loginOutcome s.key s.tokenSeconds form.loginName form.credentialDigest x.now t <;> rfl

theorem carryOut_login {x : Exchange}
    (routed : Route.of? x.request.method x.request.path = some (.openAccess (some .login))) :
    s.carryOut x = s.runLogin x := by
  unfold carryOut
  rw [routed]
  rfl

theorem visit_login {form : LoginForm}
    (routed : Route.of? v.exchange.request.method v.exchange.request.path =
      some (.openAccess (some .login)))
    (whole : v.exchange.request.method ≠ .head)
    (body : v.exchange.request.value LoginForm.reader = .ok form)
    (outcome : loginOutcome s.key s.tokenSeconds form.loginName form.credentialDigest v.exchange.now t =
      .ok issued) :
    s.visit v t = (some (.json 200 (.object [("token", .string issued.token)])), t) := by
  rw [visit_eq, carryOut_login routed, runLogin_on, body]
  simp only [outcome, shown, whole, if_false]

theorem shown_token {m : Method} {result : Except Refusal Response} {token : String}
    (answered : shown m result = some (.json 200 (.object [("token", .string token)]))) :
    result = .ok (.json 200 (.object [("token", .string token)])) := by
  obtain ⟨response, ended, same⟩ := shown_ok answered (by simp [Response.json])
  split at same
  · have bodies := congrArg Response.body same
    cases bodies
  · rw [ended, same]

/-- A login that is answered with a token: whose account that is, what it was then, and what the
    token says of it. -/
theorem Issues.account {token : String} (issues : s.Issues v t token) :
    ∃ claims stored, token = Token.mint s.key claims ∧
      t.users.find? claims.subjectId.value = some stored ∧ stored.user.isActive = true ∧
      stored.user.isLocked = false ∧ claims.isAdmin = stored.user.isAdmin ∧
      claims.issuedAt = v.exchange.now.floor ∧
      v.exchange.now.floor.addSeconds? s.tokenSeconds = some claims.expiresAt := by
  obtain ⟨routed, answered⟩ := issues
  rw [visit_eq, carryOut_login routed] at answered
  have done := shown_token answered
  rw [runLogin_on] at done
  simp only at done
  split at done
  · cases done
  · split at done
    · cases done
    · rename_i form read issued outcome
      obtain ⟨id, stored, -, found, granted⟩ := loginOutcome_ok.1 outcome
      obtain ⟨active, unlocked, -, made, minted⟩ := grant_ok.1 granted
      obtain ⟨deadline, ends, same⟩ := issue?_eq_some_iff.1 made
      have own : issued.claims.subjectId = id := by
        rw [same]
        exact Tables.id_of_find? found
      have written : token = issued.token := by
        simpa [Response.json] using done.symm
      refine ⟨issued.claims, stored, written.trans minted, own ▸ found, active, unlocked, ?_⟩
      rw [same]
      exact ⟨rfl, rfl, ends⟩

variable {form : LoginForm} {stored : StoredUser}

theorem loginOutcome_ok_iff_admits (distinct : t.users.Distinct (·.user.username)) :
    loginOutcome key validity form.loginName form.credentialDigest now t = .ok issued ↔
      ∃ stored deadline, Admits form t stored ∧ now.floor.addSeconds? validity = some deadline ∧
        issued.claims = stored.user.claims now.floor deadline ∧
        issued.token = Token.mint key issued.claims := by
  rw [loginOutcome_ok]
  constructor
  · rintro ⟨id, stored, named, found, granted⟩
    obtain ⟨other, again, same⟩ := (Tables.findIdByLoginName_ok_iff distinct).1 named
    obtain rfl := Option.some.inj (found.symm.trans again)
    obtain ⟨active, unlocked, verified, made, minted⟩ := grant_ok.1 granted
    obtain ⟨deadline, ends, claims⟩ := issue?_eq_some_iff.1 made
    have own : stored.user.id = id := Tables.id_of_find? found
    exact ⟨stored, deadline, ⟨own ▸ found, same, active, unlocked, verified⟩, ends, claims, minted⟩
  · rintro ⟨stored, deadline, admits, ends, claims, minted⟩
    have named := (Tables.findIdByLoginName_ok_iff distinct).2 ⟨stored, admits.found, admits.named⟩
    have made := issue?_eq_some_iff.2 ⟨deadline, ends, claims⟩
    exact ⟨_, stored, named, admits.found,
      grant_ok.2 ⟨admits.active, admits.unlocked, admits.verified, made, minted⟩⟩

theorem loginOutcome_outOfTime (distinct : t.users.Distinct (·.user.username))
    (admits : Admits form t stored) (ends : now.floor.addSeconds? validity = none) :
    loginOutcome key validity form.loginName form.credentialDigest now t = .error .outOfTime := by
  have named := (Tables.findIdByLoginName_ok_iff distinct).2 ⟨stored, admits.found, admits.named⟩
  have active : stored.authRecord.isActive = true := admits.active
  have unlocked : stored.authRecord.isLocked = false := admits.unlocked
  have verified : Credential.verify stored.authRecord.credentialDigest form.credentialDigest = true :=
    admits.verified
  unfold loginOutcome
  simp only [named, Tables.user_ok.2 admits.found]
  simp [grant, active, unlocked, verified, ClaimSet.issue?, ends]

/-- A login is answered with status 200 just when it opens an account for as long as can be told, and
    then with a token for this account. -/
theorem visit_login_iff (login : IsLogin v form) (distinct : t.users.Distinct (·.user.username))
    {r : Response} :
    (s.visit v t).1 = some r ∧ r.status = 200 ↔
      ∃ stored deadline, Admits form t stored ∧
        v.exchange.now.floor.addSeconds? s.tokenSeconds = some deadline ∧
        r = .json 200 (.object [("token", .string (Token.mint s.key
          (stored.user.claims v.exchange.now.floor deadline)))]) := by
  constructor
  · rintro ⟨answered, success⟩
    rw [visit_eq] at answered
    obtain ⟨response, ended, same⟩ := shown_ok answered (by omega)
    rw [if_neg login.whole] at same
    subst same
    rw [carryOut_login login.routed, runLogin_on, login.body] at ended
    simp only at ended
    split at ended
    · cases ended
    · rename_i issued outcome
      obtain ⟨stored, deadline, admits, ends, claims, minted⟩ :=
        (loginOutcome_ok_iff_admits distinct).1 outcome
      refine ⟨stored, deadline, admits, ends, ?_⟩
      rw [← Except.ok.inj ended, minted, claims]
  · rintro ⟨stored, deadline, admits, ends, rfl⟩
    let claims := stored.user.claims v.exchange.now.floor deadline
    have outcome : loginOutcome s.key s.tokenSeconds form.loginName form.credentialDigest
        v.exchange.now t = .ok { token := Token.mint s.key claims, claims } :=
      (loginOutcome_ok_iff_admits distinct).2 ⟨stored, deadline, admits, ends, rfl, rfl⟩
    rw [visit_login login.routed login.whole login.body outcome]
    exact ⟨rfl, rfl⟩

/-- A login that opens an account is not answered if the token would end outside the range of time. -/
theorem visit_login_outOfTime (login : IsLogin v form)
    (distinct : t.users.Distinct (·.user.username)) (admits : Admits form t stored)
    (ends : v.exchange.now.floor.addSeconds? s.tokenSeconds = none) : (s.visit v t).1 = none := by
  rw [visit_eq, carryOut_login login.routed, runLogin_on, login.body]
  simp only [loginOutcome_outOfTime distinct admits ends, shown, login.whole, if_false]
  rfl

end Service

end Http

end AccountDirectory
