import AccountDirectory.Proofs.Http.Visit
import AccountDirectory.Proofs.Interaction

/-!
What a request may ask of the store, whatever it is answered: to read, and what its session is
permitted, with values that have been validated. Before anything else of a session it asks for the
state of the account.
-/

namespace AccountDirectory

open AccountDirectory.Store
open AccountDirectory.Time (Instant)

namespace Store

/-- Users who are no administrators change their own record only, and not its administration, except
    that a new password unlocks. -/
def OwnCall (own : UserId) {β : Type} : Call β → Prop
  | .updateProfile target _ actor => target = own ∧ actor = own
  | .deleteUser target => target = own
  | .resetPassword target _ actor => target = own ∧ actor = own
  | _ => False

/-- What the values of a call have passed before it is made. -/
def Validated {β : Type} : Call β → Prop
  | .createUser new _ =>
    ∃ (sent : NewUser) (salt : Crypto.Salt), sent.validate = .ok () ∧
      Credential.looksLikeDigest sent.credentialDigest = true ∧
      new = { sent with credentialDigest := Credential.digest salt sent.credentialDigest }
  | .updateUser id update _ | .updateProfile id update _ => update.validateFor id = .ok ()
  | .resetPassword _ digest _ =>
    ∃ salt secret, Credential.looksLikeDigest secret = true ∧ digest = Credential.digest salt secret
  | .createGroup new _ => new.validate = .ok ()
  | .updateGroup _ update _ => update.validate = .ok ()
  | _ => True

theorem validated_of_reads {β : Type} {c : Call β} (reads : c.writes = false) : Validated c := by
  cases c with
  | createUser | updateUser | updateProfile | resetPassword | createGroup | updateGroup => cases reads
  | _ => trivial

end Store

/-- What the bearer of claims may have the store do. -/
def ClaimSet.MayCall (claims : ClaimSet) {β : Type} (c : Call β) : Prop :=
  c.writes = false ∨ claims.isAdmin = true ∨ OwnCall claims.subjectId c

namespace Http

open Interaction (Asks)

variable {α β : Type} {allowed : {γ : Type} → Call γ → Prop}

namespace Handler

theorem asks_call {c : Call α} (may : allowed c) : (call c).run.Asks allowed := by
  refine ⟨may, fun r => ?_⟩
  cases r with
  | ok a => trivial
  | error e => trivial

theorem asks_call_bind {c : Call α} {f : α → Handler β} (may : allowed c)
    (rest : ∀ a, (f a).run.Asks allowed) : (call c >>= f).run.Asks allowed :=
  (asks_call may).bindExcept rest

theorem lift_ok_bind (a : α) (f : α → Handler β) :
    ((liftM (Except.ok a : Except Refusal α) : Handler α) >>= f) = f a := rfl

theorem asks_lift_bind (r : Except Refusal α) {f : α → Handler β}
    (rest : ∀ a, r = .ok a → (f a).run.Asks allowed) : ((liftM r : Handler α) >>= f).run.Asks allowed := by
  cases r with
  | ok a => exact rest a rfl
  | error e => trivial

theorem asks_checked_bind (r : Except DomainError α) {f : α → Handler β}
    (rest : ∀ a, r = .ok a → (f a).run.Asks allowed) : (checked r >>= f).run.Asks allowed := by
  cases r with
  | ok a => exact rest a rfl
  | error e => trivial

theorem asks_permitted_bind (r : Except Forbidden Unit) {f : Unit → Handler β}
    (rest : r = .ok () → (f ()).run.Asks allowed) : (permitted r >>= f).run.Asks allowed := by
  cases r with
  | ok u => exact rest rfl
  | error e => trivial

theorem asks_page (q : PageQuery) : q.page.run.Asks allowed := by
  unfold PageQuery.page
  split
  · trivial
  · trivial

theorem asks_checkDigest (name digest : String) : (checkDigest name digest).run.Asks allowed := by
  unfold checkDigest
  split
  · trivial
  · trivial

theorem asks_checkDigest_bind {name digest : String} {f : Unit → Handler α}
    (rest : Credential.looksLikeDigest digest = true → (f ()).run.Asks allowed) :
    (checkDigest name digest >>= f).run.Asks allowed := by
  unfold checkDigest
  split
  · rename_i accepted
    exact rest accepted
  · trivial

end Handler

open Handler

namespace SessionAction

variable {x : Exchange} {claims : ClaimSet}

theorem asks_checkOldDigest (id : UserId) (old? : Option String) :
    (checkOldDigest id old?).run.Asks fun c => c.writes = false := by
  unfold checkOldDigest
  split
  · refine asks_call_bind rfl fun record => ?_
    split
    · trivial
    · trivial
  · trivial

variable (claims) in
/-- What a handler asks on behalf of the bearer of claims. -/
def Allows {β : Type} (c : Call β) : Prop :=
  claims.MayCall c ∧ Validated c

theorem allows_of_reads {c : Call β} (reads : c.writes = false) : Allows claims c :=
  ⟨.inl reads, validated_of_reads reads⟩

theorem allows_of_admin {c : Call β} (permitted : claims.requireAdmin = .ok ())
    (validated : Validated c) : Allows claims c :=
  ⟨.inr (.inl (ClaimSet.requireAdmin_ok.1 permitted)), validated⟩

theorem allows_of_selfOrAdmin {c : Call β} {id : UserId}
    (permitted : claims.isAdmin = true ∨ claims.subjectId = id)
    (own : claims.subjectId = id → OwnCall claims.subjectId c) (validated : Validated c) :
    Allows claims c :=
  ⟨.inr (permitted.imp_right own), validated⟩

theorem asks_updateProfile (own : UserId) (update : UserUpdate) (same : claims.subjectId = own)
    (valid : update.validateFor own = .ok ()) :
    (updateProfile claims own update).run.Asks (Allows claims) := by
  subst same
  refine asks_call_bind (allows_of_reads rfl) fun current => ?_
  simp only
  split
  · exact asks_call ⟨.inr (.inr ⟨rfl, rfl⟩), valid⟩
  · trivial

theorem asks_run (action : SessionAction) : (run x claims action).run.Asks (Allows claims) := by
  cases action with
  | status => trivial
  | listUsers | listGroups =>
    exact asks_lift_bind _ fun q _ => (asks_page q).bindExcept fun _ =>
      asks_call_bind (allows_of_reads rfl) fun _ => trivial
  | maxUserId => exact asks_call_bind (allows_of_reads rfl) fun _ => trivial
  | createUser =>
    exact asks_lift_bind _ fun new _ => asks_permitted_bind _ fun permitted =>
      asks_checked_bind _ fun _ valid => asks_checkDigest_bind fun digest =>
      asks_call_bind (allows_of_admin permitted ⟨_, _, valid, digest, rfl⟩) fun _ => trivial
  | getUser part =>
    exact asks_lift_bind _ fun _ _ => asks_checked_bind _ fun _ _ => asks_permitted_bind _ fun _ =>
      asks_call_bind (allows_of_reads rfl) fun _ => trivial
  | updateUser part =>
    refine asks_lift_bind _ fun _ _ => asks_lift_bind _ fun update _ => asks_checked_bind _ fun id _ =>
      asks_permitted_bind _ fun permitted => asks_checked_bind _ fun _ valid => ?_
    simp only
    split
    · rename_i isAdmin
      exact asks_call_bind ⟨.inr (.inl isAdmin), valid⟩ fun _ => trivial
    · rename_i common
      have same := (ClaimSet.requireSelfOrAdmin_ok.1 permitted).resolve_left common
      exact (asks_updateProfile id update same valid).bindExcept fun _ => trivial
  | deleteUser part =>
    refine asks_lift_bind _ fun _ _ => asks_checked_bind _ fun id _ =>
      asks_permitted_bind _ fun permitted => ?_
    have selfOrAdmin := (ClaimSet.authorizeDeletion_ok.1 permitted).2
    exact asks_call_bind (allows_of_selfOrAdmin selfOrAdmin Eq.symm trivial) fun _ => trivial
  | changePassword part =>
    refine asks_lift_bind _ fun _ _ => asks_lift_bind _ fun form _ => asks_checked_bind _ fun id _ =>
      asks_permitted_bind _ fun permitted => asks_checkDigest_bind fun digest => ?_
    have reset : Allows claims
        (.resetPassword id (Credential.digest x.salt form.new) claims.subjectId) :=
      allows_of_selfOrAdmin (ClaimSet.requireSelfOrAdmin_ok.1 permitted)
        (fun same => ⟨same.symm, rfl⟩) ⟨_, _, digest, rfl⟩
    simp only
    split
    · refine Asks.bindExcept ?_ fun _ => asks_call_bind reset fun _ => trivial
      exact (asks_checkOldDigest id form.old).mono fun _ reads => allows_of_reads reads
    · exact asks_call_bind reset fun _ => trivial
  | createGroup =>
    exact asks_lift_bind _ fun _ _ => asks_permitted_bind _ fun permitted =>
      asks_checked_bind _ fun _ valid =>
      asks_call_bind (allows_of_admin permitted valid) fun _ => trivial
  | getGroup part =>
    exact asks_lift_bind _ fun _ _ => asks_permitted_bind _ fun _ => asks_checked_bind _ fun _ _ =>
      asks_call_bind (allows_of_reads rfl) fun _ => trivial
  | updateGroup part =>
    exact asks_lift_bind _ fun _ _ => asks_lift_bind _ fun _ _ => asks_permitted_bind _ fun permitted =>
      asks_checked_bind _ fun _ _ => asks_checked_bind _ fun _ valid =>
      asks_call_bind (allows_of_admin permitted valid) fun _ => trivial
  | deleteGroup part =>
    exact asks_lift_bind _ fun _ _ => asks_permitted_bind _ fun permitted =>
      asks_checked_bind _ fun _ _ =>
      asks_call_bind (allows_of_admin permitted trivial) fun _ => trivial

end SessionAction

namespace Service

variable (s : Service)

/-- The request bears a token that verifies to the claims. -/
def Presents (x : Exchange) (claims : ClaimSet) : Prop :=
  ∃ token, x.request.bearerToken? = some token ∧ Token.verifyAt s.key token x.now = .ok claims

/-- What a request may have the store do: read, and what the session that it presents may. -/
def MayCall (x : Exchange) {β : Type} (c : Call β) : Prop :=
  c.writes = false ∨ ∃ claims, s.Presents x claims ∧ claims.MayCall c

variable {s} {x : Exchange} {claims : ClaimSet}

theorem Presents.unique {other : ClaimSet} (one : s.Presents x claims) (two : s.Presents x other) :
    claims = other := by
  obtain ⟨token, borne, verified⟩ := one
  obtain ⟨_, same, again⟩ := two
  obtain rfl := Option.some.inj (borne.symm.trans same)
  exact Except.ok.inj (verified.symm.trans again)

theorem asks_login (validity : Int) (name candidate : String) (now : Instant) :
    (login s.key validity name candidate now).run.Asks fun c => c.writes = false := by
  have asked {γ : Type} {c : Call γ} (reads : c.writes = false) :
      (liftM (Program.call c) : ExceptT LoginError Program _).run.Asks fun c => c.writes = false :=
    ⟨reads, fun _ => trivial⟩
  refine (asked rfl).bindExcept fun found => ?_
  cases found with
  | error e => cases e <;> trivial
  | ok id =>
    refine Asks.bindExcept trivial fun id => (asked rfl).bindExcept fun loaded => ?_
    cases loaded with
    | error e => trivial
    | ok record => trivial

theorem asks_runOpen (action : OpenAction) :
    (s.runOpen x action).run.Asks fun c => c.writes = false := by
  cases action with
  | login =>
    refine asks_lift_bind _ fun form _ => (asks_login _ _ _ _).attempt.bindExcept fun issued => ?_
    split
    · trivial
    · trivial
  | health | loginHint | resetPassword => trivial
  | resetPasswordBy token => exact asks_lift_bind _ fun _ _ => trivial

def admitted (claims : ClaimSet) : Except StoreError AccountState → Except Refusal ClaimSet
  | .ok state => if state.isActive && !state.isLocked then .ok claims else .error .unauthenticated
  | .error e => .error (if e.isNotFound then .unauthenticated else .sessionUnknown)

theorem session_presented (presents : s.Presents x claims) :
    (s.session x).run =
      .step (.accountState claims.subjectId) fun r => .done (admitted claims r) := by
  obtain ⟨token, borne, verified⟩ := presents
  unfold session openSession
  rw [borne]
  simp only
  rw [verified]
  show Interaction.step _ _ = _
  congr 1
  funext r
  cases r with
  | error e => cases e <;> rfl
  | ok state =>
    obtain ⟨active, locked⟩ := state
    cases active <;> cases locked <;> rfl

theorem session_unpresented (absent : ∀ claims, ¬ s.Presents x claims) :
    ∃ e, (s.session x).run = .done (.error e) := by
  unfold session openSession
  cases borne : x.request.bearerToken? with
  | none => exact ⟨_, rfl⟩
  | some token =>
    cases verified : Token.verifyAt s.key token x.now with
    | ok claims => exact absurd ⟨token, borne, verified⟩ (absent claims)
    | error e =>
      simp only
      cases e <;> exact ⟨_, by rw [verified]; rfl⟩

/-- What stands behind a session. -/
def behind (x : Exchange) (action? : Option SessionAction) (claims : ClaimSet) : Handler Response :=
  match action? with
  | some action => action.run x claims
  | none => throw .methodNotAllowed

/-- A request of a session first asks for the state of its account, and nothing more unless that
    may be used. -/
theorem carryOut_presented {action? : Option SessionAction}
    (routed : Route.of? x.request.method x.request.path = some (.session action?))
    (presents : s.Presents x claims) :
    (s.carryOut x).run = .step (.accountState claims.subjectId) fun r =>
      match admitted claims r with
      | .ok claims => (behind x action? claims).run
      | .error e => .done (.error e) := by
  unfold carryOut
  rw [routed]
  simp only [ExceptT.run_bind, session_presented presents]
  show Interaction.step _ _ = _
  congr 1
  funext r
  dsimp only
  cases admitted claims r with
  | ok claims => cases action? <;> rfl
  | error e => rfl

theorem carryOut_unpresented {action? : Option SessionAction}
    (routed : Route.of? x.request.method x.request.path = some (.session action?))
    (absent : ∀ claims, ¬ s.Presents x claims) : ∃ e, (s.carryOut x).run = .done (.error e) := by
  obtain ⟨e, ended⟩ := session_unpresented absent
  refine ⟨e, ?_⟩
  unfold carryOut
  rw [routed]
  simp only [ExceptT.run_bind, ended]
  rfl

theorem admitted_ok {found : ClaimSet} {r : Except StoreError AccountState} :
    admitted claims r = .ok found ↔
      found = claims ∧ r = .ok { isActive := true, isLocked := false } := by
  cases r with
  | error e => simp [admitted]
  | ok state =>
    obtain ⟨active, locked⟩ := state
    cases active <;> cases locked <;> simp [admitted, eq_comm]

/-- The program only reads, or it begins with a look at the account of the session that the request
    presents, and only reads unless that may be used. -/
def Guarded (s : Service) (x : Exchange) {α : Type} (p : Program α) : Prop :=
  (p.Asks fun c => c.writes = false) ∨
    ∃ claims, s.Presents x claims ∧ ∃ next, p = .step (.accountState claims.subjectId) next ∧
      ∀ r, ((next r).Asks fun c => c.writes = false) ∨
        r = .ok { isActive := true, isLocked := false } ∧ (next r).Asks claims.MayCall

theorem Guarded.map {p : Program α} (guarded : Guarded s x p) (f : α → β) :
    Guarded s x (p >>= fun a => pure (f a)) := by
  rcases guarded with reads | ⟨claims, presents, next, rfl, rest⟩
  · exact .inl (reads.bind fun _ => trivial)
  · refine .inr ⟨claims, presents, fun r => next r >>= fun a => pure (f a), rfl, fun r => ?_⟩
    rcases rest r with reads | ⟨usable, may⟩
    · exact .inl (reads.bind fun _ => trivial)
    · exact .inr ⟨usable, may.bind fun _ => trivial⟩

theorem Guarded.asks {p : Program α} (guarded : Guarded s x p) : p.Asks (s.MayCall x) := by
  rcases guarded with reads | ⟨claims, presents, next, rfl, rest⟩
  · exact reads.mono fun c reads => Or.inl reads
  · refine ⟨.inl rfl, fun r => ?_⟩
    rcases rest r with reads | ⟨-, may⟩
    · exact reads.mono fun c reads => Or.inl reads
    · exact may.mono fun c may => Or.inr ⟨claims, presents, may⟩

/-- A request ends before it asks anything, is open to all, or presents a session. -/
theorem carryOut_cases {P : Program (Except Refusal Response) → Prop}
    (ended : ∀ e, P (.done (.error e))) (opened : ∀ action, P (s.runOpen x action).run)
    (presented : ∀ claims action?, s.Presents x claims →
      P (.step (.accountState claims.subjectId) fun r =>
        match admitted claims r with
        | .ok claims => (behind x action? claims).run
        | .error e => .done (.error e))) : P (s.carryOut x).run := by
  cases routed : Route.of? x.request.method x.request.path with
  | none =>
    unfold carryOut
    rw [routed]
    exact ended _
  | some route =>
    cases route with
    | openAccess action? =>
      unfold carryOut
      rw [routed]
      cases action? with
      | none => exact ended _
      | some action => exact opened action
    | session action? =>
      by_cases presents : ∃ claims, s.Presents x claims
      · obtain ⟨claims, presents⟩ := presents
        rw [carryOut_presented routed presents]
        exact presented claims action? presents
      · obtain ⟨e, refused⟩ := carryOut_unpresented routed (not_exists.1 presents)
        rw [refused]
        exact ended e

theorem guarded_carryOut (s : Service) (x : Exchange) : Guarded s x (s.carryOut x).run := by
  refine carryOut_cases (fun e => .inl trivial) (fun action => .inl (asks_runOpen action)) ?_
  intro claims action? presents
  refine .inr ⟨claims, presents, _, rfl, fun r => ?_⟩
  cases judged : admitted claims r with
  | error e => exact .inl trivial
  | ok found =>
    obtain ⟨rfl, usable⟩ := admitted_ok.1 judged
    refine .inr ⟨usable, ?_⟩
    cases action? with
    | none => trivial
    | some action => exact (SessionAction.asks_run action).mono fun _ allows => allows.1

theorem guarded_answer (s : Service) (x : Exchange) : Guarded s x (s.answer x) :=
  (guarded_carryOut s x).map (shown x.request.method)

/-- Nothing is written that has not been validated. -/
theorem asks_validated (s : Service) (x : Exchange) : (s.answer x).Asks Validated := by
  have carried : (s.carryOut x).run.Asks Validated := by
    refine carryOut_cases (fun e => trivial) (fun action => ?_) fun claims action? _ => ?_
    · exact (asks_runOpen action).mono fun _ reads => validated_of_reads reads
    · refine ⟨trivial, fun r => ?_⟩
      simp only
      cases admitted claims r with
      | error e => trivial
      | ok found =>
        cases action? with
        | none => trivial
        | some action => exact (SessionAction.asks_run action).mono fun _ allows => allows.2
  exact carried.bind fun _ => trivial

end Service

end Http

end AccountDirectory
