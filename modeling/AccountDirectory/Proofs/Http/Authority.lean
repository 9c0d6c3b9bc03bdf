import AccountDirectory.Proofs.Crypto.Bcrypt
import AccountDirectory.Proofs.Http.Confinement
import AccountDirectory.Proofs.Http.Issue

/-!
Where authority comes from: while tokens cannot be forged, a request that goes beyond its own user's
affairs owes it to a login of an administrator that is no older than the validity of tokens.
-/

namespace AccountDirectory

open AccountDirectory.Store
open AccountDirectory.Time (Instant)

/-- What only administrators may decide about an account. -/
def User.administration (u : User) :
    Bool × Bool × Bool × List GroupId × Option Int32 × Option Int32 :=
  (u.isAdmin, u.isLocked, u.isActive, u.groupIds, u.orgUnitId, u.externalId)

/-- The account is stored as that of an administrator. -/
def Store.Tables.StoresAdmin (t : Tables) (id : UserId) : Prop :=
  ∃ stored, t.users.find? id.value = some stored ∧ stored.user.isAdmin = true

namespace Http

theorem SameStanding.administration {u w : User} (same : SameStanding u w) :
    w.administration = u.administration := by
  simp only [User.administration, same.isAdmin, same.isLocked, same.isActive, same.groupIds,
    same.orgUnitId, same.externalId]

namespace Service

variable (s : Service)

/-- Every token in the run that verifies where it is presented was the answer of an earlier login. -/
def Unforged (t : Tables) (run : List Visit) : Prop :=
  ∀ before v rest token claims, run = before ++ v :: rest →
    v.exchange.request.bearerToken? = some token →
    Token.verifyAt s.key token v.exchange.now = .ok claims →
      ∃ earlier login later, before = earlier ++ login :: later ∧
        s.Issues login (s.after t earlier) token

/-- The request does what is not its own user's affair: it changes the groups, creates a user,
    changes or removes the record of somebody else, or changes the administration of anybody. -/
inductive Oversteps (v : Visit) (t : Tables) : Prop where
  | groups (changed : (s.visit v t).2.groups ≠ t.groups)
  | creation {id : UserId} {now : StoredUser} (absent : t.users.find? id.value = none)
      (present : (s.visit v t).2.users.find? id.value = some now)
  | other {id : UserId} (foreign : ∀ claims, s.Accepts v.exchange t claims → claims.subjectId ≠ id)
      (changed : (s.visit v t).2.users.find? id.value ≠ t.users.find? id.value)
  | administration {id : UserId} {before now : StoredUser}
      (stored : t.users.find? id.value = some before)
      (again : (s.visit v t).2.users.find? id.value = some now)
      (changed : now.user.administration ≠ before.user.administration)

/-- The request was accepted for an administrator who logged in before it, as an administrator whose
    account could be used, and within the validity of tokens. -/
structure Backed (t : Tables) (before : List Visit) (v : Visit) (claims : ClaimSet)
    (earlier : List Visit) (login : Visit) (later : List Visit) : Prop where
  accepted : s.Accepts v.exchange (s.after t before) claims
  admin : claims.isAdmin = true
  order : before = earlier ++ login :: later
  issued : ∃ token, v.exchange.request.bearerToken? = some token ∧
    s.Issues login (s.after t earlier) token
  account : ∃ stored, (s.after t earlier).users.find? claims.subjectId.value = some stored ∧
    stored.user.isAdmin = true ∧ stored.user.isActive = true ∧ stored.user.isLocked = false
  begun : login.exchange.now.floor.seconds - ClaimSet.leeway ≤ v.exchange.now.seconds
  inTime : ∃ deadline, login.exchange.now.floor.addSeconds? s.tokenSeconds = some deadline ∧
    v.exchange.now < deadline

variable {s} {t : Tables} {v : Visit}

theorem not_oversteps_of_kept (kept : (s.visit v t).2 = t) : ¬ s.Oversteps v t := by
  intro oversteps
  cases oversteps with
  | groups changed => exact changed (by rw [kept])
  | creation absent present =>
    rw [kept, absent] at present
    cases present
  | other _ changed => exact changed (by rw [kept])
  | administration stored again changed =>
    rw [kept, stored] at again
    cases again
    exact changed rfl

theorem not_oversteps_of_common {claims : ClaimSet} (accepted : s.Accepts v.exchange t claims)
    (common : claims.isAdmin = false) : ¬ s.Oversteps v t := by
  have confined := visit_confined accepted common
  intro oversteps
  cases oversteps with
  | groups changed => exact changed confined.groups
  | @creation id now absent present =>
    by_cases own : id = claims.subjectId
    · obtain ⟨stored, found, -, -⟩ := accepted.usable
      rw [own, found] at absent
      cases absent
    · rw [confined.others id own, absent] at present
      cases present
  | @other id foreign changed =>
    exact changed (confined.others id fun own => foreign claims accepted own.symm)
  | administration stored again changed =>
    exact changed (confined.standing _ _ _ stored again).administration

theorem Oversteps.admin (oversteps : s.Oversteps v t) :
    ∃ claims, s.Accepts v.exchange t claims ∧ claims.isAdmin = true := by
  rcases visit_effect v t with kept | ⟨_, claims, _, accepted, _⟩
  · exact absurd oversteps (not_oversteps_of_kept kept)
  · cases admin : claims.isAdmin with
    | true => exact ⟨claims, accepted, admin⟩
    | false => exact absurd oversteps (not_oversteps_of_common accepted admin)

theorem backed_of_accepts {run before rest : List Visit} {claims : ClaimSet}
    (unforged : s.Unforged t run) (place : run = before ++ v :: rest)
    (accepted : s.Accepts v.exchange (s.after t before) claims) (admin : claims.isAdmin = true) :
    ∃ earlier login later, s.Backed t before v claims earlier login later := by
  obtain ⟨token, borne, verified⟩ := accepted.verified
  obtain ⟨earlier, login, later, order, issues⟩ :=
    unforged before v rest token claims place borne verified
  obtain ⟨written, stored, minted, found, active, unlocked, isAdmin, start, deadline⟩ := issues.account
  rw [minted] at verified
  obtain ⟨rfl, window⟩ := Token.eq_of_verifyAt_mint verified
  obtain ⟨latest, fits, begun, within⟩ := ClaimSet.validateWindow_ok window
  have second : written.issuedAt.seconds - ClaimSet.leeway ≤ v.exchange.now.seconds :=
    (ClaimSet.begun_iff written fits).1 begun
  rw [start] at second
  exact ⟨earlier, login, later,
    { accepted, admin, order, issued := ⟨token, borne, issues⟩,
      account := ⟨stored, found, isAdmin.symm.trans admin, active, unlocked⟩, begun := second,
      inTime := ⟨written.expiresAt, deadline, Instant.lt_of_lt_wholeSecond within⟩ }⟩

/-- Becoming an administrator after having been none is the work of a request that oversteps. -/
theorem oversteps_of_becomes_admin {id : UserId} (common : ¬ t.StoresAdmin id)
    (admin : (s.visit v t).2.StoresAdmin id) : s.Oversteps v t := by
  obtain ⟨now, present, isAdmin⟩ := admin
  cases stored : t.users.find? id.value with
  | none => exact .creation stored present
  | some before =>
    refine .administration stored present fun same => common ⟨before, stored, ?_⟩
    exact (congrArg Prod.fst same).symm.trans isAdmin

/-- Over a directory that starts with its bootstrap administrator, whatever oversteps is backed by a
    login of an administrator, and every other administrator was made by a request that is. -/
theorem authority_has_recent_origin (s : Service) (admin : AdminAccount) (salt : Crypto.Salt)
    (start : Instant) (run : List Visit)
    (unforged : s.Unforged (Tables.withBootstrapAdmin admin salt start) run) :
    (∀ before v rest, run = before ++ v :: rest →
      s.Oversteps v (s.after (Tables.withBootstrapAdmin admin salt start) before) →
        ∃ claims earlier login later,
          s.Backed (Tables.withBootstrapAdmin admin salt start) before v claims earlier login later) ∧
    ∀ id, id ≠ .bootstrap →
      (s.after (Tables.withBootstrapAdmin admin salt start) run).StoresAdmin id →
        ∃ before v rest claims earlier login later, run = before ++ v :: rest ∧
          ¬ (s.after (Tables.withBootstrapAdmin admin salt start) before).StoresAdmin id ∧
          (∀ part, part <+: rest →
            (s.after (Tables.withBootstrapAdmin admin salt start) (before ++ v :: part)).StoresAdmin id) ∧
          s.Backed (Tables.withBootstrapAdmin admin salt start) before v claims earlier login later := by
  constructor
  · intro before v rest place oversteps
    obtain ⟨claims, accepted, isAdmin⟩ := oversteps.admin
    exact ⟨claims, backed_of_accepts unforged place accepted isAdmin⟩
  · intro id other finish
    have none : ¬ (Tables.withBootstrapAdmin admin salt start).StoresAdmin id := by
      rintro ⟨stored, found, -⟩
      rw [Tables.withBootstrapAdmin_find? admin salt start other] at found
      cases found
    obtain ⟨before, v, rest, place, common, begun⟩ :=
      begins (P := fun t => t.StoresAdmin id) none finish
    have given := begun [] List.nil_prefix
    rw [after_append, after_cons, after_nil] at given
    obtain ⟨claims, accepted, isAdmin⟩ := (oversteps_of_becomes_admin common given).admin
    obtain ⟨earlier, login, later, backed⟩ := backed_of_accepts unforged place accepted isAdmin
    exact ⟨before, v, rest, claims, earlier, login, later, place, common, begun, backed⟩

set_option maxRecDepth 2000 in
/-- The first administrator logs in and creates a second one with the token. -/
theorem authority_has_recent_origin_second_admin :
    let s : Service := { key := ⟨[7], by decide⟩, tokenSeconds := 3600 }
    let admin : AdminAccount := { username := "admin", email := "a@e.org", password := "p" }
    let salt : Crypto.Salt := ⟨List.replicate 16 0, by decide⟩
    let claims : ClaimSet :=
      { subjectId := .bootstrap, loginName := "admin", displayName := "Administrative Account",
        email := "a@e.org", isAdmin := true, issuedAt := { seconds := 0, nanos := 0 },
        expiresAt := { seconds := 3600, nanos := 0 } }
    let sending (now : Instant) (request : Request) : Visit :=
      { exchange := { request, now, salt }, clock := now }
    let login : Visit := sending { seconds := 0, nanos := 5 }
      { method := .post, path := "/login", query := "",
        headers := [("content-type", "application/json")],
        body := Text.utf8 ("\x7b\"loginName\":\"admin\",\"credentialDigest\":" ++
          "\"148de9c5a7a44d19e56cd9ae1a554bf67847afb0c58f6e12fa29ac7ddfca9940\"\x7d") }
    let create : Visit := sending { seconds := 60, nanos := 0 }
      { method := .post, path := "/api/users", query := "",
        headers := [("authorization", "Bearer " ++ Token.mint s.key claims),
          ("content-type", "application/json")],
        body := Text.utf8 ("\x7b\"name\":\"Second\",\"email\":\"b@e.org\",\"username\":\"second\"," ++
          "\"password_hash\":\"0123456789abcdef0123456789abcdef\",\"is_admin\":true\x7d") }
    let origin : Tables := Tables.withBootstrapAdmin admin salt { seconds := 0, nanos := 0 }
    s.Unforged origin [login, create] ∧
      ∃ before v rest claims earlier first later, [login, create] = before ++ v :: rest ∧
        ¬ (s.after origin before).StoresAdmin ⟨2⟩ ∧
        s.Backed origin before v claims earlier first later := by
  intro s admin salt claims sending login create origin
  let stored : StoredUser :=
    { user := Tables.bootstrapRecord admin { seconds := 0, nanos := 0 },
      credentialDigest := admin.credentialDigest salt }
  have loginRouted : Route.of? .post "/login" = some (.openAccess (some .login)) := by decide
  have createRouted : Route.of? .post "/api/users" = some (.session (some .createUser)) := by decide
  let form : LoginForm :=
    { loginName := "admin",
      credentialDigest := "148de9c5a7a44d19e56cd9ae1a554bf67847afb0c58f6e12fa29ac7ddfca9940" }
  have digest : Credential.fastDigest admin.password = form.credentialDigest := by decide +kernel
  have verifies : Credential.verify stored.credentialDigest form.credentialDigest = true := by
    rw [← digest]
    exact Crypto.Bcrypt.verify_digest (by decide) (by decide) salt _
  have outcome : loginOutcome s.key s.tokenSeconds form.loginName form.credentialDigest
      login.exchange.now origin = .ok { token := Token.mint s.key claims, claims } :=
    loginOutcome_ok.2 ⟨.bootstrap, stored, rfl, rfl, grant_ok.2 ⟨rfl, rfl, verifies, rfl, rfl⟩⟩
  have visited := visit_login loginRouted (by decide) rfl outcome
  have bare : login.exchange.request.bearerToken? = none := rfl
  have borne := Request.bearerToken?_mint (r := create.exchange.request) s.key claims rfl
  have unforged : s.Unforged origin [login, create] := by
    intro before v rest token found place presented verified
    match before with
    | [] =>
      have same : login = v := (List.cons.inj place).1
      rw [← same, bare] at presented
      cases presented
    | [first] =>
      obtain ⟨atFirst, place⟩ := List.cons.inj place
      have same : create = v := (List.cons.inj place).1
      rw [← same, borne] at presented
      rw [← Option.some.inj presented, ← atFirst]
      exact ⟨[], login, [], rfl, loginRouted, congrArg Prod.fst visited⟩
    | first :: second :: before => simp at place
  have finish : (s.after origin [login, create]).StoresAdmin ⟨2⟩ := by
    have accepted : s.Accepts create.exchange origin claims.floored :=
      accepts_mint ⟨_, createRouted⟩ rfl rfl ⟨stored, rfl, rfl, rfl⟩
    rw [after_cons, visited, after_cons, after_nil, visit_eq, carryOut_accepted createRouted accepted]
    exact ⟨_, rfl, rfl⟩
  obtain ⟨before, v, rest, found, earlier, first, later, place, common, -, backed⟩ :=
    (authority_has_recent_origin s admin salt { seconds := 0, nanos := 0 } [login, create] unforged).2
      ⟨2⟩ (by decide) finish
  exact ⟨unforged, before, v, rest, found, earlier, first, later, place, common, backed⟩

end Service

end Http

end AccountDirectory
