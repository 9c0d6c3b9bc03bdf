import AccountDirectory.Proofs.Http.Asked
import AccountDirectory.Proofs.Http.Issue

/-!
What a denial tells: every login that is denied gets one response, every request that is barred from
its session gets another, and a login that fails inside gets a third, whatever was wrong.
-/

namespace AccountDirectory

open AccountDirectory.Interaction (Asked ends_done)
open AccountDirectory.Store
open AccountDirectory.Time (Instant)

variable {key : Token.SigningKey} {validity : Int} {name candidate : String} {now : Instant}
  {t : Tables}

/-- Tables never fail a login; what is left are the reasons to deny it, and the end of time. -/
theorem loginOutcome_error {e : LoginError}
    (denied : loginOutcome key validity name candidate now t = .error e) :
    Http.Refusal.ofLogin e = .fault .unauthorized ∨
      e = .outOfTime ∧ now.floor.addSeconds? validity = none := by
  unfold loginOutcome at denied
  split at denied
  · cases denied
    exact .inl rfl
  · rename_i failure other missed
    obtain ⟨what, rfl⟩ := Tables.findIdByLoginName_error missed
    exact absurd rfl (other what)
  · rename_i id found
    obtain ⟨stored, present⟩ := Tables.user_of_findIdByLoginName found
    rw [present] at denied
    rcases grant_error denied with rfl | rfl | rfl | late
    · exact .inl rfl
    · exact .inl rfl
    · exact .inl rfl
    · exact .inr late

namespace Http

/-- What a login is answered, by how it ends. -/
def loginResponse : Except LoginError IssuedToken → Option Response
  | .ok issued => some (.json 200 (.object [("token", .string issued.token)]))
  | .error e => (Refusal.ofLogin e).response?

namespace Service

variable {s : Service} {v : Visit} {form : LoginForm}

theorem visit_login_eq (login : IsLogin v form) :
    (s.visit v t).1 = loginResponse
      (loginOutcome s.key s.tokenSeconds form.loginName form.credentialDigest v.exchange.now t) := by
  rw [visit_eq, carryOut_login login.routed, runLogin_on, login.body]
  simp only [shown, login.whole, if_false]
  cases loginOutcome s.key s.tokenSeconds form.loginName form.credentialDigest v.exchange.now t <;> rfl

theorem answer_login (isLogin : IsLogin v form) :
    s.answer v.exchange =
      (login s.key s.tokenSeconds form.loginName form.credentialDigest v.exchange.now).run >>=
        fun result => pure (loginResponse result) := by
  unfold answer
  rw [carryOut_login isLogin.routed]
  unfold runLogin
  rw [isLogin.body, Handler.lift_ok_bind]
  simp only [isLogin.whole, if_false, ExceptT.run_bind_lift, bind_assoc]
  congr 1
  funext result
  cases result with
  | ok issued => rfl
  | error e => rfl

/-- A login over tables is answered with a token, with the one denial there is, or not at all if the
    token would end outside the range of time. -/
theorem visit_login_cases (isLogin : IsLogin v form) :
    (∃ r, (s.visit v t).1 = some r ∧ r.status = 200) ∨
      (s.visit v t).1 = some Fault.unauthorized.response ∨
      (s.visit v t).1 = none ∧ v.exchange.now.floor.addSeconds? s.tokenSeconds = none := by
  rw [visit_login_eq isLogin]
  cases outcome : loginOutcome s.key s.tokenSeconds form.loginName form.credentialDigest
      v.exchange.now t with
  | ok issued => exact .inl ⟨_, rfl, rfl⟩
  | error e =>
    rcases loginOutcome_error outcome with denied | ⟨rfl, late⟩
    · right
      left
      simp only [loginResponse, denied, Refusal.response?]
    · exact .inr (.inr ⟨rfl, late⟩)

theorem ends_answer_login {asked : List (Asked Call StoreError)} {response : Option Response}
    (isLogin : IsLogin v form) :
    (s.answer v.exchange).Ends asked response ↔
      ∃ result, (login s.key s.tokenSeconds form.loginName form.credentialDigest
        v.exchange.now).run.Ends asked result ∧ response = loginResponse result := by
  rw [answer_login isLogin]
  constructor
  · intro answered
    obtain ⟨first, later, result, rfl, course, finish⟩ := Interaction.ends_bind answered
    obtain ⟨rfl, rfl⟩ := ends_done.1 finish
    rw [List.append_nil]
    exact ⟨result, course, rfl⟩
  · rintro ⟨result, course, rfl⟩
    rw [← List.append_nil asked]
    exact course.bind (.done _)

theorem visit_untimely {action? : Option SessionAction} {token : String}
    (guarded : Route.of? v.exchange.request.method v.exchange.request.path =
      some (.session action?))
    (borne : v.exchange.request.bearerToken? = some token)
    (untimely : Token.verifyAt s.key token v.exchange.now = .error .outOfTime) :
    (s.visit v t).1 = none := by
  have session : runOn v.clock (s.session v.exchange) t = (.error .outOfTime, t) := by
    unfold session
    rw [borne]
    simp only [runOn_bind, runOn_attempt, openSession_rejects untimely]
    rfl
  rw [visit_eq]
  unfold carryOut
  rw [guarded]
  simp only [runOn_bind, session, shown, Refusal.response?, Option.map_none, ite_self]

/-- A request for what needs a session has one, or is barred from it, or its check leaves the range of
    time and is not answered. -/
theorem session_cases {action? : Option SessionAction}
    (guarded : Route.of? v.exchange.request.method v.exchange.request.path =
      some (.session action?)) :
    (∃ claims, s.Accepts v.exchange t claims) ∨ s.Bars v.exchange t ∨
      (s.visit v t).1 = none ∧ ∃ token, v.exchange.request.bearerToken? = some token ∧
        Token.verifyAt s.key token v.exchange.now = .error .outOfTime := by
  cases borne : v.exchange.request.bearerToken? with
  | none => exact .inr (.inl (.inl borne))
  | some token =>
    cases verified : Token.verifyAt s.key token v.exchange.now with
    | error e =>
      by_cases untimely : e = .outOfTime
      · subst untimely
        exact .inr (.inr ⟨visit_untimely guarded borne verified, token, rfl, verified⟩)
      · exact .inr (.inl (.inr ⟨token, borne, .inl ⟨e, verified, untimely⟩⟩))
    | ok claims =>
      by_cases usable : t.Usable claims.subjectId
      · exact .inl ⟨claims, ⟨_, guarded⟩, ⟨token, borne, verified⟩, usable⟩
      · exact .inr (.inl (.inr ⟨token, borne, .inr ⟨claims, verified, usable⟩⟩))

/-- Denials do not tell their reasons. Two logins that are not answered with status 200, over any
    tables, are answered alike, if at all; two requests that are barred from their sessions are answered
    alike; and two logins that fail inside, over any store, are answered alike. -/
theorem denials_alike (s s' : Service) (v v' : Visit) (t t' : Tables) :
    (∀ form form' r r', IsLogin v form → IsLogin v' form' →
      (s.visit v t).1 = some r → r.status ≠ 200 → (s'.visit v' t').1 = some r' → r'.status ≠ 200 →
        r = r' ∧ r.status = 401) ∧
    (∀ form, IsLogin v form → (s.visit v t).1 = none →
      v.exchange.now.floor.addSeconds? s.tokenSeconds = none) ∧
    (∀ action? action?',
      Route.of? v.exchange.request.method v.exchange.request.path = some (.session action?) →
      Route.of? v'.exchange.request.method v'.exchange.request.path = some (.session action?') →
      s.Bars v.exchange t → s'.Bars v'.exchange t' →
        (s.visit v t).1 = (s'.visit v' t').1 ∧ ∃ r, (s.visit v t).1 = some r ∧ r.status = 401) ∧
    (∀ action?,
      Route.of? v.exchange.request.method v.exchange.request.path = some (.session action?) →
      (∃ claims, s.Accepts v.exchange t claims) ∨ s.Bars v.exchange t ∨
        (s.visit v t).1 = none ∧ ∃ token, v.exchange.request.bearerToken? = some token ∧
          Token.verifyAt s.key token v.exchange.now = .error .outOfTime) ∧
    ∀ form form' asked asked' detail detail' response response',
      IsLogin v form → IsLogin v' form' →
      (login s.key s.tokenSeconds form.loginName form.credentialDigest
        v.exchange.now).run.Ends asked (.error (.internalFailure detail)) →
      (login s'.key s'.tokenSeconds form'.loginName form'.credentialDigest
        v'.exchange.now).run.Ends asked' (.error (.internalFailure detail')) →
      (s.answer v.exchange).Ends asked response → (s'.answer v'.exchange).Ends asked' response' →
        response = response' ∧ ∃ r, response = some r ∧ r.status = 500 := by
  refine ⟨?_, ?_, ?_, fun action? guarded => session_cases guarded, ?_⟩
  · intro form form' r r' isLogin isLogin' answered denied answered' denied'
    have only {s : Service} {v : Visit} {t : Tables} {form : LoginForm} {r : Response}
        (isLogin : IsLogin v form) (answered : (s.visit v t).1 = some r) (denied : r.status ≠ 200) :
        r = Fault.unauthorized.response := by
      rcases visit_login_cases (s := s) (t := t) isLogin with ⟨granted, again, success⟩ | told | ⟨silent, -⟩
      · obtain rfl := Option.some.inj (answered.symm.trans again)
        exact absurd success denied
      · exact Option.some.inj (answered.symm.trans told)
      · cases answered.symm.trans silent
    rw [only isLogin answered denied, only isLogin' answered' denied']
    exact ⟨rfl, rfl⟩
  · intro form isLogin silent
    rcases visit_login_cases (s := s) (t := t) isLogin with ⟨r, granted, -⟩ | told | ⟨-, late⟩
    · cases silent.symm.trans granted
    · cases silent.symm.trans told
    · exact late
  · intro action? action?' guarded guarded' barred barred'
    rw [visit_barred guarded barred, visit_barred guarded' barred']
    exact ⟨rfl, _, rfl, rfl⟩
  · intro form form' asked asked' detail detail' response response' isLogin isLogin' ends ends'
      answered answered'
    obtain ⟨result, course, rfl⟩ := (ends_answer_login isLogin).1 answered
    obtain ⟨result', course', rfl⟩ := (ends_answer_login isLogin').1 answered'
    rw [course.unique ends, course'.unique ends']
    exact ⟨rfl, _, rfl, rfl⟩

/-- An unknown name is answered like a locked account, a missing token like a forged one, and a store
    that is away like one that loses the account. -/
theorem denials_alike_unknown_or_locked :
    let s : Service := { key := ⟨[7], by decide⟩, tokenSeconds := 3600 }
    let admin : AdminAccount := { username := "admin", email := "a@e.org", password := "p" }
    let salt : Crypto.Salt := ⟨List.replicate 16 0, by decide⟩
    let start : Instant := { seconds := 0, nanos := 0 }
    let origin : Tables := Tables.withBootstrapAdmin admin salt start
    let locked : Tables := origin.putUser
      { user := { Tables.bootstrapRecord admin start with isLocked := true }, credentialDigest := "" }
    let sending (request : Request) : Visit := { exchange := { request, now := start, salt }, clock := start }
    let login (body : String) : Visit := sending
      { method := .post, path := "/login", query := "",
        headers := [("content-type", "application/json")], body := Text.utf8 body }
    let unknown : Visit := login "\x7b\"loginName\":\"nobody\",\"credentialDigest\":\"x\"\x7d"
    let known : Visit := login "\x7b\"loginName\":\"admin\",\"credentialDigest\":\"x\"\x7d"
    let bare : Visit := sending
      { method := .get, path := "/api/status", query := "", headers := [], body := [] }
    let forged : Visit := sending
      { method := .delete, path := "/api/users/1", query := "",
        headers := [("authorization", "Bearer x")], body := [] }
    (s.visit unknown origin).1 = (s.visit known locked).1 ∧
      (s.visit bare origin).1 = (s.visit forged locked).1 ∧
      ∃ asked asked' response,
        asked = [⟨.findIdByLoginName "nobody", .error (.backend "away")⟩] ∧
        asked' = [⟨.findIdByLoginName "admin", .ok ⟨1⟩⟩,
          ⟨.loadAuthRecord ⟨1⟩, .error (.notFound "user 1")⟩] ∧
        (s.answer unknown.exchange).Ends asked (some response) ∧
        (s.answer known.exchange).Ends asked' (some response) ∧ response.status = 500 := by
  intro s admin salt start origin locked sending login unknown known bare forged
  have isLogin : IsLogin unknown { loginName := "nobody", credentialDigest := "x" } := ⟨rfl, rfl, rfl⟩
  have isLogin' : IsLogin known { loginName := "admin", credentialDigest := "x" } := ⟨rfl, rfl, rfl⟩
  obtain ⟨logins, -, -, -, failures⟩ := denials_alike s s unknown known origin locked
  obtain ⟨-, -, barred, -, -⟩ := denials_alike s s bare forged origin locked
  have denied : (s.visit unknown origin).1 = some Fault.unauthorized.response :=
    (visit_login_eq isLogin).trans rfl
  have denied' : (s.visit known locked).1 = some Fault.unauthorized.response :=
    (visit_login_eq isLogin').trans rfl
  have same := (logins _ _ _ _ isLogin isLogin' denied (by decide) denied' (by decide)).1
  have away : LoginCourse s.key s.tokenSeconds "nobody" "x" start
      [⟨.findIdByLoginName "nobody", .error (.backend "away")⟩] _ := .unsearched rfl
  have lost : LoginCourse s.key s.tokenSeconds "admin" "x" start
      [⟨.findIdByLoginName "admin", .ok ⟨1⟩⟩, ⟨.loadAuthRecord ⟨1⟩, .error (.notFound "user 1")⟩] _ :=
    .unloaded ⟨1⟩ _
  have answered := (ends_answer_login (s := s) isLogin).2 ⟨_, ends_login.2 away, rfl⟩
  have answered' := (ends_answer_login (s := s) isLogin').2 ⟨_, ends_login.2 lost, rfl⟩
  obtain ⟨alike, response, told, internal⟩ := failures _ _ _ _ _ _ _ _ isLogin isLogin'
    (ends_login.2 away) (ends_login.2 lost) answered answered'
  refine ⟨denied.trans ((congrArg some same).trans denied'.symm), ?_, _, _, response, rfl, rfl, ?_, ?_, internal⟩
  · refine (barred (some .status) (some (.deleteUser "1")) (by decide) (by decide) (.inl rfl) ?_).1
    exact .inr ⟨"x", rfl, .inl ⟨.malformed .segments, rfl, by decide⟩⟩
  · rw [← told]
    exact answered
  · rw [← told, alike]
    exact answered'

end Service
end Http
end AccountDirectory
