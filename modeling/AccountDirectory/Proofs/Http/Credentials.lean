import AccountDirectory.Proofs.Crypto.Bcrypt
import AccountDirectory.Proofs.Http.Bearer
import AccountDirectory.Proofs.Http.Issue
import AccountDirectory.Proofs.Store.Uniqueness

/-!
Which credential an account has: the one that the last request gave it, whatever was asked for in
between. A login is answered with a token just when it presents that credential for an account that
may be used.
-/

namespace AccountDirectory

open AccountDirectory.Crypto (Salt)
open AccountDirectory.Store
open AccountDirectory.Time (Instant)

namespace Store.Tables

/-- The salted digest of a submitted one is stored for the account. -/
def HasDigest (t : Tables) (id : UserId) (digest : String) : Prop :=
  ∃ stored salt, t.users.find? id.value = some stored ∧
    stored.credentialDigest = Credential.digest salt digest

/-- If the account is stored afterwards, it was stored before with the same salted digest. -/
def KeepsDigest (t after : Tables) (id : UserId) : Prop :=
  ∀ stored, after.users.find? id.value = some stored →
    ∃ before, t.users.find? id.value = some before ∧
      stored.credentialDigest = before.credentialDigest

variable {t : Tables} {id target : UserId}

theorem keepsDigest_of_users {after : Tables} (same : after.users = t.users) :
    t.KeepsDigest after id :=
  fun stored found => ⟨stored, same ▸ found, rfl⟩

theorem keepsDigest_putUser {current next : StoredUser}
    (present : t.users.find? target.value = some current) (own : next.user.id = current.user.id)
    (same : next.credentialDigest = current.credentialDigest) :
    t.KeepsDigest (t.putUser next) id := by
  intro stored found
  rcases find?_putUser_some found with ⟨here, rfl⟩ | kept
  · have place : id = target := here.symm.trans (own.trans (id_of_find? present))
    exact ⟨current, place ▸ present, same⟩
  · exact ⟨stored, kept, rfl⟩

theorem keepsDigest_erase : t.KeepsDigest { t with users := t.users.erase target.value } id := by
  intro stored found
  by_cases own : target = id
  · subst own
    cases (Table.find?_erase_self _ _).symm.trans found
  · rw [Table.find?_erase_other _ fun same => own (congrArg UserId.mk same)] at found
    exact ⟨stored, found, rfl⟩

end Store.Tables

namespace Http.Service

variable (s : Service)

/-- The request gives an account the digest that it carries: it is answered that the account was
    created with it, or that it was changed to it. -/
inductive Gives (v : Visit) (t : Tables) : UserId → String → Prop where
  | creation {new : NewUser} {user : User}
      (routed : Route.of? v.exchange.request.method v.exchange.request.path =
        some (.session (some .createUser)))
      (body : v.exchange.request.value NewUser.reader = .ok new)
      (answered : (s.visit v t).1 = some (.json 201 user.toJson)) :
      Gives v t user.id new.credentialDigest
  | change {part raw : String} {id : UserId} {form : PasswordForm}
      (routed : Route.of? v.exchange.request.method v.exchange.request.path =
        some (.session (some (.changePassword part))))
      (path : decodedPart "id" part = .ok raw) (parsed : UserId.parse raw = .ok id)
      (body : v.exchange.request.value PasswordForm.reader = .ok form)
      (answered : (s.visit v t).1 = some (.empty 204)) :
      Gives v t id form.new

/-- The digest that an account was given last, at the end of a run. At first the administrator has
    that of the configured password. -/
inductive Credited (origin : Tables) (admin : AdminAccount) : List Visit → UserId → String → Prop where
  | initial : Credited origin admin [] .bootstrap (Credential.fastDigest admin.password)
  | given {run : List Visit} {v : Visit} {id : UserId} {digest : String}
      (gives : s.Gives v (s.after origin run) id digest) :
      Credited origin admin (run ++ [v]) id digest
  | kept {run : List Visit} {v : Visit} {id : UserId} {digest : String}
      (earlier : Credited origin admin run id digest)
      (quiet : ∀ other, ¬ s.Gives v (s.after origin run) id other) :
      Credited origin admin (run ++ [v]) id digest

/-- No request of the run gives the account a digest. -/
def Untouched (origin : Tables) (run : List Visit) (id : UserId) : Prop :=
  ∀ before v rest digest, run = before ++ v :: rest →
    ¬ s.Gives v (s.after origin before) id digest

variable {s} {v : Visit} {t : Tables} {id : UserId} {digest : String} {stored : StoredUser}

theorem toJson_id {u w : User} (same : u.toJson = w.toJson) : u.id = w.id := by
  simp only [User.toJson, Json.Value.object.injEq, List.cons.injEq, Prod.mk.injEq] at same
  have number : Json.Value.userId u.id = Json.Value.userId w.id := same.1.2
  simp only [Json.Value.userId, Json.Value.int32, Json.Value.number.injEq] at number
  exact congrArg UserId.mk (Int32.toInt_inj.1 number)

/-- A request that gives an account a digest leaves it with the salted one. -/
theorem Gives.hasDigest (gives : s.Gives v t id digest) :
    Credential.looksLikeDigest digest = true ∧ (s.visit v t).2.HasDigest id digest := by
  cases gives with
  | @creation new user routed body answered =>
    obtain ⟨claims, response, -, ran, shown⟩ := visit_ok routed answered (by simp [Response.json])
    obtain ⟨read, made, again, -, -, fit, done, rfl⟩ := SessionAction.createUser_ok ran
    obtain rfl := Except.ok.inj (body.symm.trans again)
    have same : user.toJson = made.toJson := by
      split at shown
      · have bodies := congrArg Response.body shown
        cases bodies
      · simpa [Response.json] using shown
    obtain ⟨-, rfl, after⟩ := Tables.createUser_ok done
    rw [toJson_id same, after]
    exact ⟨fit, _, v.exchange.salt, Tables.find?_putUser_self _ _, rfl⟩
  | @change part raw _ form routed path parsed body answered =>
    obtain ⟨claims, response, -, ran, -⟩ := visit_ok routed answered (by simp [Response.empty])
    obtain ⟨-, effect⟩ := SessionAction.changePassword_ok ran
    generalize (s.visit v t).2 = after at effect
    cases effect with
    | nothing reads => cases reads
    | changePassword again parsedAgain bodyAgain _ fit _ done =>
      obtain rfl := Except.ok.inj (path.symm.trans again)
      obtain rfl := Except.ok.inj (parsed.symm.trans parsedAgain)
      obtain rfl := Except.ok.inj (body.symm.trans bodyAgain)
      obtain ⟨stored, found, rfl⟩ := Tables.resetPassword_ok done
      have own : stored.user.id = id := Tables.id_of_find? found
      exact ⟨fit, _, v.exchange.salt, Tables.find?_putUser_of_id own, rfl⟩

/-- An account that a request gives no digest was there before, with the digest that it has. -/
theorem visit_keepsDigest (quiet : ∀ digest, ¬ s.Gives v t id digest) :
    t.KeepsDigest (s.visit v t).2 id := by
  rcases visit_ran v t with kept | ⟨action, claims, response, routed, ran, answered⟩
  · exact Tables.keepsDigest_of_users (by rw [kept])
  have shown : action.writes = true → (s.visit v t).1 = some response := fun writes =>
    answered.trans (shown_of_writes routed writes response)
  have effect := SessionAction.run_effect ran
  generalize (s.visit v t).2 = after at effect ran
  cases effect with
  | nothing => exact Tables.keepsDigest_of_users rfl
  | createUser =>
    obtain ⟨new, user, body, -, -, -, done, rfl⟩ := SessionAction.createUser_ok ran
    obtain ⟨-, rfl, rfl⟩ := Tables.createUser_ok done
    intro stored found
    rcases Tables.find?_putUser_some found with ⟨own, -⟩ | kept
    · have gives := Gives.creation routed body (shown rfl)
      exact absurd (own ▸ gives) (quiet _)
    · exact ⟨stored, kept, rfl⟩
  | changePassword path parsed body _ _ _ done =>
    obtain ⟨rfl, -⟩ := SessionAction.changePassword_ok ran
    obtain ⟨current, present, rfl⟩ := Tables.resetPassword_ok done
    intro stored found
    rcases Tables.find?_putUser_some found with ⟨own, -⟩ | kept
    · have target : current.user.id = _ := Tables.id_of_find? present
      have same := own.symm.trans target
      have gives := Gives.change routed path parsed body (shown rfl)
      exact absurd (same ▸ gives) (quiet _)
    · exact ⟨stored, kept, rfl⟩
  | updateUser _ _ _ _ _ done | updateProfile _ _ _ _ _ _ _ _ done =>
    obtain ⟨current, present, -, -, rfl⟩ := Tables.changeUser_ok done
    exact Tables.keepsDigest_putUser present rfl rfl
  | deleteUser _ _ _ _ done =>
    obtain rfl := Tables.deleteUser_ok done
    exact Tables.keepsDigest_erase
  | createGroup _ _ _ done =>
    obtain ⟨-, -, rfl⟩ := Tables.createGroup_ok done
    exact Tables.keepsDigest_of_users rfl
  | updateGroup _ _ _ _ _ done =>
    obtain ⟨-, -, -, -, rfl⟩ := Tables.updateGroup_ok done
    exact Tables.keepsDigest_of_users rfl
  | deleteGroup _ _ _ done =>
    obtain rfl := Tables.deleteGroup_ok done
    exact Tables.keepsDigest_of_users rfl

variable {origin : Tables} {admin : AdminAccount} {run : List Visit}

theorem Untouched.snoc (earlier : s.Untouched origin run id)
    (quiet : ∀ digest, ¬ s.Gives v (s.after origin run) id digest) :
    s.Untouched origin (run ++ [v]) id := by
  intro before w rest digest place
  rcases List.eq_nil_or_concat rest with rfl | ⟨shorter, last, rfl⟩
  · obtain ⟨rfl, same⟩ := List.append_inj' place rfl
    obtain rfl := List.singleton_inj.1 same
    exact quiet digest
  · have whole : run ++ [v] = (before ++ w :: shorter) ++ [last] := by
      rw [place, List.concat_eq_append, List.append_assoc, List.cons_append]
    obtain ⟨rfl, -⟩ := List.append_inj' whole rfl
    exact earlier before w shorter digest rfl

/-- The digest that an account was given last is the one whose salted digest is stored. -/
theorem Credited.digest_stored {salt : Salt} {start : Instant}
    (credited : s.Credited (Tables.withBootstrapAdmin admin salt start) admin run id digest)
    (found : (s.after (Tables.withBootstrapAdmin admin salt start) run).users.find? id.value =
      some stored) :
    (∃ salt, stored.credentialDigest = Credential.digest salt digest) ∧
      (Credential.looksLikeDigest digest = true ∨
        id = .bootstrap ∧ s.Untouched (Tables.withBootstrapAdmin admin salt start) run id) := by
  induction credited generalizing stored with
  | initial =>
    have first : (Tables.withBootstrapAdmin admin salt start).users.find? UserId.bootstrap.value =
        some { user := Tables.bootstrapRecord admin start
               credentialDigest := admin.credentialDigest salt } := rfl
    obtain rfl := Option.some.inj (first.symm.trans found)
    refine ⟨⟨salt, rfl⟩, .inr ⟨rfl, fun before v rest digest place => ?_⟩⟩
    simp at place
  | @given run v id digest gives =>
    obtain ⟨fit, kept, salted, present, same⟩ := gives.hasDigest
    rw [after_append, after_cons, after_nil, present] at found
    cases found
    exact ⟨⟨salted, same⟩, .inl fit⟩
  | @kept run v id digest earlier quiet ih =>
    rw [after_append, after_cons, after_nil] at found
    obtain ⟨before, present, same⟩ := visit_keepsDigest quiet stored found
    obtain ⟨⟨salted, written⟩, fit⟩ := ih present
    refine ⟨⟨salted, same.trans written⟩, fit.imp_right ?_⟩
    exact fun ⟨own, untouched⟩ => ⟨own, untouched.snoc quiet⟩

/-- Every account that is stored was given a digest. -/
theorem exists_credited (admin : AdminAccount) (salt : Salt) (start : Instant) :
    ∀ part, part <+: run → ∀ id stored,
      (s.after (Tables.withBootstrapAdmin admin salt start) part).users.find? id.value = some stored →
        ∃ digest, s.Credited (Tables.withBootstrapAdmin admin salt start) admin part id digest := by
  refine Run.along ?_ ?_
  · intro id stored found
    by_cases own : id = .bootstrap
    · subst own
      exact ⟨_, .initial⟩
    · cases (Tables.withBootstrapAdmin_find? admin salt start own).symm.trans found
  · intro before v rest _ earlier id stored found
    by_cases gives : ∃ digest, s.Gives v (s.after (Tables.withBootstrapAdmin admin salt start) before)
        id digest
    · obtain ⟨digest, gives⟩ := gives
      exact ⟨digest, .given gives⟩
    · have quiet := not_exists.1 gives
      rw [after_append, after_cons, after_nil] at found
      obtain ⟨stored, present, -⟩ := visit_keepsDigest quiet stored found
      obtain ⟨digest, credited⟩ := earlier id stored present
      exact ⟨digest, .kept credited quiet⟩

theorem after_distinct (distinct : t.Distinct) (run : List Visit) : (s.after t run).Distinct :=
  after_keeps distinct
    (fun _ now _ c here => (Tables.distinct_perform now (.call c) here).2 trivial) run

/-- Over a directory that starts with its bootstrap administrator, every account has the digest that
    the last request gave it, or the configured password. A login is answered with status 200 just
    when it presents that digest for an account that may be used, within the range of time, and
    nothing but giving an account another digest changes which one it has. -/
theorem credential_is_last_given (s : Service) (admin : AdminAccount) (salt : Salt) (start : Instant)
    (run : List Visit) :
    let origin := Tables.withBootstrapAdmin admin salt start
    let t := s.after origin run
    (∀ id stored, t.users.find? id.value = some stored →
      (∃ digest, s.Credited origin admin run id digest) ∧
      ∀ digest, s.Credited origin admin run id digest →
        (∃ salt, stored.credentialDigest = Credential.digest salt digest) ∧
        (Credential.looksLikeDigest digest = true ∨ id = .bootstrap ∧ s.Untouched origin run id) ∧
        Credential.verify stored.credentialDigest digest = true) ∧
    (∀ v form, IsLogin v form →
      (∀ r, (s.visit v t).1 = some r ∧ r.status = 200 ↔
        ∃ stored deadline, Admits form t stored ∧
          v.exchange.now.floor.addSeconds? s.tokenSeconds = some deadline ∧
          r = .json 200 (.object [("token", .string (Token.mint s.key
            (stored.user.claims v.exchange.now.floor deadline)))])) ∧
      ∀ one other, Admits form t one → Admits form t other → one = other) ∧
    (∀ v id, (∀ digest, ¬ s.Gives v t id digest) → t.KeepsDigest (s.visit v t).2 id) ∧
    ∀ target locked after, t.setLocked target locked = .ok after →
      ∀ id, t.KeepsDigest after id := by
  intro origin t
  have distinct : t.Distinct :=
    after_distinct (Tables.Initial.bootstrap admin salt start).distinct run
  refine ⟨fun id stored found => ⟨?_, fun digest credited => ?_⟩, fun v form login => ⟨fun r => ?_, ?_⟩,
    fun v id quiet => visit_keepsDigest quiet, fun target locked after done id => ?_⟩
  · exact exists_credited admin salt start run List.prefix_rfl id stored found
  · obtain ⟨⟨salted, same⟩, fit⟩ := credited.digest_stored found
    refine ⟨⟨salted, same⟩, fit, ?_⟩
    rw [same]
    exact Crypto.Bcrypt.verify_digest (by decide) (by decide) salted digest
  · exact visit_login_iff login distinct.usernames
  · intro one other first second
    exact distinct.usernames one (Table.mem_of_find? first.found) other
      (Table.mem_of_find? second.found) (first.named.trans second.named.symm)
  · obtain ⟨current, present, rfl⟩ := Tables.setLocked_ok done
    exact Tables.keepsDigest_putUser present rfl rfl

set_option maxRecDepth 2000 in
/-- The administrator changes the own password and logs in with it. -/
theorem credential_is_last_given_changed :
    let s : Service := { key := ⟨[7], by decide⟩, tokenSeconds := 3600 }
    let admin : AdminAccount := { username := "admin", email := "a@e.org", password := "p" }
    let salt : Salt := ⟨List.replicate 16 0, by decide⟩
    let start : Instant := { seconds := 0, nanos := 0 }
    let origin : Tables := Tables.withBootstrapAdmin admin salt start
    let claims : ClaimSet :=
      { subjectId := .bootstrap, loginName := "admin", displayName := "Administrative Account",
        email := "a@e.org", isAdmin := true, issuedAt := start,
        expiresAt := { seconds := 3600, nanos := 0 } }
    let sending (request : Request) : Visit :=
      { exchange := { request, now := { seconds := 60, nanos := 0 }, salt },
        clock := { seconds := 60, nanos := 1 } }
    let change : Visit := sending
      { method := .put, path := "/api/users/1/changepassword", query := "",
        headers := [("authorization", "Bearer " ++ Token.mint s.key claims),
          ("content-type", "application/json")],
        body := Text.utf8 "\x7b\"newCredentialDigest\":\"0123456789abcdef0123456789abcdef\"\x7d" }
    let login : Visit := sending
      { method := .post, path := "/login", query := "",
        headers := [("content-type", "application/json")],
        body := Text.utf8 ("\x7b\"loginName\":\"admin\"," ++
          "\"credentialDigest\":\"0123456789abcdef0123456789abcdef\"\x7d") }
    let form : LoginForm :=
      { loginName := "admin", credentialDigest := "0123456789abcdef0123456789abcdef" }
    s.Credited origin admin [change] .bootstrap form.credentialDigest ∧ IsLogin login form ∧
      ∃ r, (s.visit login (s.after origin [change])).1 = some r ∧ r.status = 200 := by
  intro s admin salt start origin claims sending change login form
  have routed : Route.of? .put "/api/users/1/changepassword" =
      some (.session (some (.changePassword "1"))) := by decide
  have accepted : s.Accepts change.exchange origin claims.floored :=
    accepts_mint ⟨_, routed⟩ rfl rfl ⟨_, rfl, rfl, rfl⟩
  have visited : s.visit change origin = (some (.empty 204), origin.putUser
      { user := Tables.resetRecord (Tables.bootstrapRecord admin start) .bootstrap change.clock
        credentialDigest := Credential.digest salt form.credentialDigest }) := by
    rw [visit_eq, carryOut_accepted routed accepted]
    rfl
  have gives : s.Gives change origin .bootstrap form.credentialDigest :=
    .change routed rfl rfl rfl (congrArg Prod.fst visited)
  have credited : s.Credited origin admin ([] ++ [change]) .bootstrap form.credentialDigest :=
    .given gives
  have isLogin : IsLogin login form := ⟨rfl, rfl, rfl⟩
  obtain ⟨history, logins, -⟩ := credential_is_last_given s admin salt start [change]
  have found : (s.after origin [change]).users.find? UserId.bootstrap.value = some
      { user := Tables.resetRecord (Tables.bootstrapRecord admin start) .bootstrap change.clock
        credentialDigest := Credential.digest salt form.credentialDigest } := by
    rw [after_cons, visited]
    rfl
  have verified := ((history _ _ found).2 _ credited).2.2
  have answered := ((logins login form isLogin).1 _).2 ⟨_, { seconds := 3660, nanos := 0 },
    ⟨found, rfl, rfl, rfl, verified⟩, rfl, rfl⟩
  exact ⟨credited, isLogin, _, answered⟩

/-- The right credential is not answered with a token that would end outside the range of time. -/
theorem login_unanswered_outOfTime :
    let s : Service := { key := ⟨[7], by decide⟩, tokenSeconds := 60000000000000 }
    let admin : AdminAccount := { username := "admin", email := "a@e.org", password := "p" }
    let salt : Salt := ⟨List.replicate 16 0, by decide⟩
    let start : Instant := { seconds := 0, nanos := 0 }
    let origin : Tables := Tables.withBootstrapAdmin admin salt start
    let login : Visit :=
      { exchange :=
          { request :=
              { method := .post, path := "/login", query := "",
                headers := [("content-type", "application/json")],
                body := Text.utf8 ("\x7b\"loginName\":\"admin\",\"credentialDigest\":" ++
                  "\"148de9c5a7a44d19e56cd9ae1a554bf67847afb0c58f6e12fa29ac7ddfca9940\"\x7d") },
            now := start, salt },
        clock := start }
    let form : LoginForm :=
      { loginName := "admin",
        credentialDigest := "148de9c5a7a44d19e56cd9ae1a554bf67847afb0c58f6e12fa29ac7ddfca9940" }
    IsLogin login form ∧ form.credentialDigest = Credential.fastDigest admin.password ∧
      (∃ stored, Admits form origin stored) ∧ (s.visit login origin).1 = none := by
  intro s admin salt start origin login form
  let stored : StoredUser :=
    { user := Tables.bootstrapRecord admin start, credentialDigest := admin.credentialDigest salt }
  have isLogin : IsLogin login form := ⟨rfl, rfl, rfl⟩
  have digest : form.credentialDigest = Credential.fastDigest admin.password := by decide +kernel
  have verified : Credential.verify stored.credentialDigest form.credentialDigest = true := by
    rw [digest]
    exact Crypto.Bcrypt.verify_digest (by decide) (by decide) salt _
  have admits : Admits form origin stored := ⟨rfl, rfl, rfl, rfl, verified⟩
  have distinct := (Tables.Initial.bootstrap admin salt start).distinct
  exact ⟨isLogin, digest, ⟨stored, admits⟩,
    visit_login_outOfTime isLogin distinct.usernames admits (by decide)⟩

end Http.Service

end AccountDirectory
