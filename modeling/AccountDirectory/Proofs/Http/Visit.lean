import AccountDirectory.Proofs.Http.Effect

/-!
One request answered over tables: when its session is accepted, and what it does to the tables.
-/

namespace AccountDirectory

open AccountDirectory.Store
open AccountDirectory.Time (Instant)

namespace Store.Tables

/-- The account is stored, active and not locked. -/
def Usable (t : Tables) (id : UserId) : Prop :=
  ∃ stored, t.users.find? id.value = some stored ∧ stored.user.isActive = true ∧
    stored.user.isLocked = false

/-- The account is stored, but inactive or locked. -/
def Disabled (t : Tables) (id : UserId) : Prop :=
  ∃ stored, t.users.find? id.value = some stored ∧
    (stored.user.isActive = false ∨ stored.user.isLocked = true)

theorem Disabled.not_usable {t : Tables} {id : UserId} (disabled : t.Disabled id) :
    ¬ t.Usable id := by
  rintro ⟨stored, found, active, unlocked⟩
  obtain ⟨other, same, closed⟩ := disabled
  rw [found] at same
  cases same
  rcases closed with inactive | locked
  · exact absurd active (by simp [inactive])
  · exact absurd unlocked (by simp [locked])

end Store.Tables

variable {key : Token.SigningKey} {token : String} {now clock : Instant} {t : Tables}

theorem accountState_on (id : UserId) :
    Tables.answer clock (.accountState id) t =
      (match t.users.find? id.value with
      | some s => .ok { isActive := s.user.isActive, isLocked := s.user.isLocked }
      | none => .error (.notFound ("user " ++ id.render)), t) := by
  simp only [Tables.answer, Tables.apply, Tables.user]
  cases t.users.find? id.value with
  | none => rfl
  | some s => rfl

theorem openSession_rejects {e : Token.TokenError}
    (rejected : Token.verifyAt key token now = .error e) :
    runOn clock (openSession key token now) t = (.error (.token e), t) := by
  unfold openSession
  rw [rejected]
  rfl

theorem openSession_accepts {claims : ClaimSet}
    (verified : Token.verifyAt key token now = .ok claims) (usable : t.Usable claims.subjectId) :
    runOn clock (openSession key token now) t = (.ok claims, t) := by
  obtain ⟨stored, found, active, unlocked⟩ := usable
  unfold openSession
  rw [verified]
  simp only [pure_bind, runOn_bind, runOn_ask, accountState_on, found, active, unlocked]
  rfl

/-- An account that may not be used is never a failure of the service. -/
theorem openSession_refuses (clock : Instant) {claims : ClaimSet}
    (verified : Token.verifyAt key token now = .ok claims) (closed : ¬ t.Usable claims.subjectId) :
    ∃ e, runOn clock (openSession key token now) t = (.error e, t) ∧ e.isInternal = false ∧
      ∀ cause, e ≠ .token cause := by
  unfold openSession
  rw [verified]
  simp only [pure_bind, runOn_bind, runOn_ask, accountState_on]
  cases found : t.users.find? claims.subjectId.value with
  | none => exact ⟨.accountGone, rfl, rfl, by simp⟩
  | some stored =>
    cases active : stored.user.isActive with
    | false => exact ⟨.accountDeactivated, by simp [active], rfl, by simp⟩
    | true =>
      cases unlocked : stored.user.isLocked with
      | true => exact ⟨.accountLocked, by simp [active, unlocked], rfl, by simp⟩
      | false => exact absurd ⟨stored, found, active, unlocked⟩ closed

/-- What a login ends with over tables. -/
def loginOutcome (key : Token.SigningKey) (validity : Int) (name candidate : String) (now : Instant)
    (t : Tables) : Except LoginError IssuedToken :=
  match t.findIdByLoginName name with
  | .error (.notFound _) => .error .usernameNotFound
  | .error e => .error (.ofStore e)
  | .ok id =>
    match t.user id with
    | .error e => .error (.ofStore e)
    | .ok stored => grant key validity stored.authRecord candidate now

theorem login_on (validity : Int) (name candidate : String) :
    runOn clock (login key validity name candidate now) t =
      (loginOutcome key validity name candidate now t, t) := by
  have asked : Tables.answer clock (.findIdByLoginName name) t = (t.findIdByLoginName name, t) := by
    simp only [Tables.answer, Tables.apply]
    cases t.findIdByLoginName name <;> rfl
  have loaded : ∀ id, Tables.answer clock (.loadAuthRecord id) t =
      ((t.user id).map StoredUser.authRecord, t) := by
    intro id
    simp only [Tables.answer, Tables.apply]
    cases t.user id <;> rfl
  unfold login loginOutcome
  rw [runOn_bind, runOn_ask, asked]
  simp only
  cases found : t.findIdByLoginName name with
  | ok id =>
    simp only [runOn_bind, runOn_ask, runOn_pure, loaded]
    cases t.user id with
    | ok stored => rfl
    | error e => rfl
  | error e => cases e <;> rfl

namespace Http

/-- A request, with the reading of the clock that the store takes for it. -/
structure Visit where
  exchange : Exchange
  clock : Instant

namespace Service

variable (s : Service)

/-- The request belongs to a session: its token verifies, and its account may be used. -/
structure Accepts (x : Exchange) (t : Tables) (claims : ClaimSet) : Prop where
  guarded : ∃ action, Route.of? x.request.method x.request.path = some (.session action)
  verified : ∃ token, x.request.bearerToken? = some token ∧
    Token.verifyAt s.key token x.now = .ok claims
  usable : t.Usable claims.subjectId

/-- What bars a request from a session: no token, a token that is rejected, or an account that is
    absent or may not be used. A check that leaves the range of time rejects nothing. -/
def Bars (x : Exchange) (t : Tables) : Prop :=
  x.request.bearerToken? = none ∨
    ∃ token, x.request.bearerToken? = some token ∧
      ((∃ e, Token.verifyAt s.key token x.now = .error e ∧ e ≠ .outOfTime) ∨
        ∃ claims, Token.verifyAt s.key token x.now = .ok claims ∧
          ¬ t.Usable claims.subjectId)

/-- The response that a client sees, if there is one. -/
def shown (m : Method) (result : Except Refusal Response) : Option Response :=
  let response? := match result with
    | .ok r => some r
    | .error e => e.response?
  if m = .head then response?.map Response.withoutBody else response?

/-- Carries a request out with any handlers behind the session. -/
def carryOutBy (handle : SessionAction → ClaimSet → Handler Response) (x : Exchange) :
    Handler Response := do
  match Route.of? x.request.method x.request.path with
  | none => throw .unknownPath
  | some (.openAccess action) =>
    match action with
    | some action => s.runOpen x action
    | none => throw .methodNotAllowed
  | some (.session action) =>
    let claims ← s.session x
    match action with
    | some action => handle action claims
    | none => throw .methodNotAllowed

/-- Answers one request over tables: the response, and the tables after it. -/
def visit (v : Visit) (t : Tables) : Option Response × Tables :=
  Interaction.run (Tables.answer v.clock) (s.answer v.exchange) t

variable {s} {x : Exchange}

theorem response?_status {e : Refusal} {r : Response} (answered : e.response? = some r) :
    400 ≤ r.status := by
  cases e with
  | outOfTime => cases answered
  | fault f =>
    cases answered
    cases f <;> simp [Fault.response, Response.json, Fault.status]
  | body e =>
    cases answered
    simp only [Response.text, Refusal.bodyStatus]
    split <;> decide
  | unknownPath | methodNotAllowed | unauthenticated | sessionUnknown | pathPart | query
  | contentType | bodyTooLarge =>
    cases answered
    simp [Response.text, Response.empty]

/-- What is shown with a status of success is the response of a request that was carried out. -/
theorem shown_ok {m : Method} {result : Except Refusal Response} {r : Response}
    (answered : shown m result = some r) (success : r.status < 400) :
    ∃ response, result = .ok response ∧
      r = if m = .head then response.withoutBody else response := by
  cases result with
  | error e =>
    have refused : ∃ refusal, e.response? = some refusal ∧ refusal.status = r.status := by
      unfold shown at answered
      simp only at answered
      split at answered
      · obtain ⟨refusal, found, rfl⟩ := Option.map_eq_some_iff.1 answered
        exact ⟨refusal, found, rfl⟩
      · exact ⟨r, answered, rfl⟩
    obtain ⟨refusal, found, same⟩ := refused
    have failure := response?_status found
    omega
  | ok response =>
    refine ⟨response, rfl, ?_⟩
    unfold shown at answered
    by_cases head : m = .head
    · simp only [head, if_true, Option.map_some, Option.some.injEq] at answered
      rw [if_pos head, answered]
    · simp only [head, if_false, Option.some.injEq] at answered
      rw [if_neg head, answered]

theorem shown_of_writes {m : Method} {path : String} {action : SessionAction}
    (routed : Route.of? m path = some (.session (some action))) (writes : action.writes = true)
    (response : Response) : shown m (.ok response) = some response := by
  have whole : m ≠ .head := by
    rintro rfl
    rw [reads_of_asked rfl routed] at writes
    cases writes
  simp only [shown, whole, if_false]

theorem carryOut_eq :
    s.carryOut x = s.carryOutBy (fun action claims => action.run x claims) x := rfl

theorem visit_eq (v : Visit) :
    s.visit v t =
      (shown v.exchange.request.method (runOn v.clock (s.carryOut v.exchange) t).1,
        (runOn v.clock (s.carryOut v.exchange) t).2) := by
  unfold visit answer
  rw [run_bind_interaction]
  rfl

theorem Accepts.unique {claims other : ClaimSet} (one : s.Accepts x t claims)
    (two : s.Accepts x t other) : claims = other := by
  obtain ⟨token, borne, verified⟩ := one.verified
  obtain ⟨_, same, again⟩ := two.verified
  rw [borne] at same
  cases same
  rw [verified] at again
  cases again
  rfl

theorem session_barred (barred : s.Bars x t) :
    runOn clock (s.session x) t = (.error .unauthenticated, t) := by
  unfold session
  rcases barred with missing | ⟨token, borne, ⟨e, rejected, inTime⟩ | ⟨claims, verified, closed⟩⟩
  · rw [missing]
    rfl
  · rw [borne]
    simp only [runOn_bind, runOn_attempt, openSession_rejects rejected]
    cases e with
    | outOfTime => exact absurd rfl inTime
    | badSignature | malformed | expired => rfl
  · obtain ⟨e, refused, notInternal, notToken⟩ := openSession_refuses clock verified closed
    rw [borne]
    simp only [runOn_bind, runOn_attempt, refused]
    cases e with
    | token cause => exact absurd rfl (notToken cause)
    | internal => cases notInternal
    | accountDeactivated | accountLocked | accountGone => rfl

theorem session_ok {claims : ClaimSet} {after : Tables} :
    runOn clock (s.session x) t = (.ok claims, after) ↔
      after = t ∧ (∃ token, x.request.bearerToken? = some token ∧
        Token.verifyAt s.key token x.now = .ok claims) ∧ t.Usable claims.subjectId := by
  constructor
  · intro done
    cases borne : x.request.bearerToken? with
    | none =>
      rw [session_barred (.inl borne)] at done
      cases done
    | some token =>
      cases verified : Token.verifyAt s.key token x.now with
      | error e =>
        unfold session at done
        rw [borne] at done
        simp only [runOn_bind, runOn_attempt, openSession_rejects verified] at done
        cases e <;> cases done
      | ok found =>
        by_cases usable : t.Usable found.subjectId
        · unfold session at done
          rw [borne] at done
          simp only [runOn_bind, runOn_attempt, openSession_accepts verified usable] at done
          cases done
          exact ⟨rfl, ⟨token, rfl, verified⟩, usable⟩
        · rw [session_barred (.inr ⟨token, borne, .inr ⟨found, verified, usable⟩⟩)] at done
          cases done
  · rintro ⟨rfl, ⟨token, borne, verified⟩, usable⟩
    unfold session
    rw [borne]
    simp only [runOn_bind, runOn_attempt, openSession_accepts verified usable]
    rfl

/-- Behind an open session, a request is carried out by the action of its route. -/
theorem carryOut_accepted {claims : ClaimSet} {action : SessionAction}
    (routed : Route.of? x.request.method x.request.path = some (.session (some action)))
    (accepted : s.Accepts x t claims) :
    runOn clock (s.carryOut x) t = runOn clock (action.run x claims) t := by
  have opened : runOn clock (s.session x) t = (.ok claims, t) :=
    session_ok.2 ⟨rfl, accepted.verified, accepted.usable⟩
  unfold carryOut
  rw [routed]
  simp only [runOn_bind, opened]

/-- An action that is answered was carried out for the bearer of a session. -/
theorem carryOut_ok {action : SessionAction} {response : Response} {after : Tables}
    (routed : Route.of? x.request.method x.request.path = some (.session (some action)))
    (done : runOn clock (s.carryOut x) t = (.ok response, after)) :
    ∃ claims, s.Accepts x t claims ∧
      runOn clock (action.run x claims) t = (.ok response, after) := by
  have opened := done
  unfold carryOut at opened
  rw [routed] at opened
  obtain ⟨claims, between, session, -⟩ := runOn_bind_ok.1 opened
  obtain ⟨-, verified, usable⟩ := session_ok.1 session
  have accepted : s.Accepts x t claims := ⟨⟨_, routed⟩, verified, usable⟩
  rw [carryOut_accepted routed accepted] at done
  exact ⟨claims, accepted, done⟩

theorem openSession_reads (key : Token.SigningKey) (token : String) (now : Instant) :
    Reads (openSession key token now) := by
  intro clock t
  cases verified : Token.verifyAt key token now with
  | error e => rw [openSession_rejects verified]
  | ok claims =>
    by_cases usable : t.Usable claims.subjectId
    · rw [openSession_accepts verified usable]
    · obtain ⟨e, refused, _⟩ := openSession_refuses clock verified usable
      rw [refused]

theorem session_reads (x : Exchange) : Reads (s.session x) := by
  unfold session
  split
  · refine (openSession_reads _ _ _).attempt.bind fun r => ?_
    split
    · exact Reads.pure _
    · exact Reads.throw _
    · exact Reads.throw _
  · exact Reads.throw _

theorem login_reads (key : Token.SigningKey) (validity : Int) (name candidate : String)
    (now : Instant) : Reads (login key validity name candidate now) := by
  intro clock t
  rw [login_on]

theorem runOpen_reads (x : Exchange) (action : OpenAction) : Reads (s.runOpen x action) := by
  cases action with
  | login =>
    refine (Reads.lift _).bind fun form => (login_reads _ _ _ _ _).attempt.bind fun issued => ?_
    split
    · exact Reads.pure _
    · exact Reads.throw _
  | health | loginHint => exact Reads.pure _
  | resetPassword => exact Handler.refuse_reads _
  | resetPasswordBy token => exact (Reads.lift _).bind fun _ => Handler.refuse_reads _

/-- What carrying a request out leaves is the tables as they were, or an effect of its action. -/
theorem carryOut_effect {x : Exchange} {clock : Instant} {result : Except Refusal Response}
    {t after : Tables} (done : runOn clock (s.carryOut x) t = (result, after)) :
    after = t ∨ ∃ action claims response,
      Route.of? x.request.method x.request.path = some (.session (some action)) ∧
      s.Accepts x t claims ∧ result = .ok response ∧ Effect x claims clock t action after := by
  unfold carryOut at done
  split at done
  · cases done
    exact .inl rfl
  · split at done
    · exact .inl ((runOpen_reads x _).result done)
    · cases done
      exact .inl rfl
  · rename_i action? routed
    rw [runOn_bind] at done
    rcases opened : runOn clock (s.session x) t with ⟨e | claims, between⟩
    · rw [opened] at done
      cases done
      exact .inl ((session_reads x).result opened)
    · rw [opened] at done
      simp only at done
      obtain ⟨rfl, verified, usable⟩ := session_ok.1 opened
      cases action? with
      | none =>
        cases done
        exact .inl rfl
      | some action =>
        cases result with
        | error e =>
          have kept := SessionAction.run_failsClean action clock between ⟨e, by rw [done]⟩
          rw [done] at kept
          exact .inl kept
        | ok response =>
          exact .inr ⟨action, claims, response, routed, ⟨⟨_, routed⟩, verified, usable⟩, rfl,
            SessionAction.run_effect done⟩

theorem visit_effect (v : Visit) (t : Tables) :
    (s.visit v t).2 = t ∨ ∃ action claims,
      Route.of? v.exchange.request.method v.exchange.request.path = some (.session (some action)) ∧
      s.Accepts v.exchange t claims ∧
      Effect v.exchange claims v.clock t action (s.visit v t).2 := by
  rw [visit_eq]
  rcases done : runOn v.clock (s.carryOut v.exchange) t with ⟨result, after⟩
  rcases carryOut_effect done with kept | ⟨action, claims, _, routed, accepted, _, effect⟩
  · exact .inl kept
  · exact .inr ⟨action, claims, routed, accepted, effect⟩

/-- A request either leaves the tables, or its action was carried out in a session and is answered
    by the response that it ended with. -/
theorem visit_ran (v : Visit) (t : Tables) :
    (s.visit v t).2 = t ∨ ∃ action claims response,
      Route.of? v.exchange.request.method v.exchange.request.path = some (.session (some action)) ∧
      runOn v.clock (action.run v.exchange claims) t = (.ok response, (s.visit v t).2) ∧
      (s.visit v t).1 = shown v.exchange.request.method (.ok response) := by
  rw [visit_eq]
  rcases done : runOn v.clock (s.carryOut v.exchange) t with ⟨result, after⟩
  rcases carryOut_effect done with kept | ⟨action, claims, response, routed, accepted, rfl, -⟩
  · exact .inl kept
  · rw [carryOut_accepted routed accepted] at done
    exact .inr ⟨action, claims, response, routed, done, rfl⟩

/-- A request for an action that is answered with success was carried out in a session. -/
theorem visit_ok {v : Visit} {action : SessionAction} {r : Response}
    (routed : Route.of? v.exchange.request.method v.exchange.request.path =
      some (.session (some action)))
    (answered : (s.visit v t).1 = some r) (success : r.status < 400) :
    ∃ claims response, s.Accepts v.exchange t claims ∧
      runOn v.clock (action.run v.exchange claims) t = (.ok response, (s.visit v t).2) ∧
      r = if v.exchange.request.method = .head then response.withoutBody else response := by
  rw [visit_eq] at answered ⊢
  obtain ⟨response, ended, same⟩ := shown_ok answered success
  have done : runOn v.clock (s.carryOut v.exchange) t =
      (.ok response, (runOn v.clock (s.carryOut v.exchange) t).2) := Prod.ext ended rfl
  obtain ⟨claims, accepted, ran⟩ := carryOut_ok routed done
  exact ⟨claims, response, accepted, ran, same⟩

/-- A request that is barred from its session is answered without any handler. -/
theorem carryOutBy_barred (handle : SessionAction → ClaimSet → Handler Response)
    {action? : Option SessionAction}
    (guarded : Route.of? x.request.method x.request.path = some (.session action?))
    (barred : s.Bars x t) :
    runOn clock (s.carryOutBy handle x) t = (.error .unauthenticated, t) := by
  unfold carryOutBy
  rw [guarded]
  simp only [runOn_bind, session_barred barred]

theorem visit_barred {v : Visit} {action? : Option SessionAction}
    (guarded : Route.of? v.exchange.request.method v.exchange.request.path =
      some (.session action?))
    (barred : s.Bars v.exchange t) : s.visit v t = (some (.empty 401), t) := by
  rw [visit_eq, carryOut_eq, carryOutBy_barred _ guarded barred]
  simp only [shown, Refusal.response?]
  split
  · rfl
  · rfl

end Service

end Http

end AccountDirectory
