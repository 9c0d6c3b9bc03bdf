import AccountDirectory.Proofs.Crypto.Bcrypt
import AccountDirectory.Proofs.Http.Asked
import AccountDirectory.Proofs.Http.Checked
import AccountDirectory.Proofs.Http.Issue
import AccountDirectory.Proofs.Http.Run
import AccountDirectory.Proofs.Store.Alike

/-!
Stored digests stay secret. Over tables that agree in all else, a request goes the same way until a
check of a credential comes out differently, so that all a client may learn of a digest is what passes.
-/

namespace AccountDirectory

open AccountDirectory.Store
open AccountDirectory.Time (Instant)

def Check.outcome (c : Check) : String × Bool :=
  (c.presented, c.passes)

/-- The same is presented up to a check that comes out differently. -/
def Apart (notes other : List Check) : Prop :=
  ∃ common presented verdict rest more,
    notes.map Check.outcome = common ++ (presented, verdict) :: rest ∧
      other.map Check.outcome = common ++ (presented, !verdict) :: more

variable {ε δ α β γ : Type} {R : α → β → Prop}

theorem Apart.append {first second : List Check} (apart : Apart first second) (later more : List Check) :
    Apart (first ++ later) (second ++ more) := by
  obtain ⟨common, presented, verdict, rest, other, here, there⟩ := apart
  refine ⟨common, presented, verdict, rest ++ later.map Check.outcome,
    other ++ more.map Check.outcome, ?_, ?_⟩
  · rw [List.map_append, here, List.append_assoc, List.cons_append]
  · rw [List.map_append, there, List.append_assoc, List.cons_append]

theorem Apart.after {first second : List Check}
    (same : first.map Check.outcome = second.map Check.outcome) {later more : List Check}
    (apart : Apart later more) : Apart (first ++ later) (second ++ more) := by
  obtain ⟨common, presented, verdict, rest, other, here, there⟩ := apart
  refine ⟨second.map Check.outcome ++ common, presented, verdict, rest, other, ?_, ?_⟩
  · rw [List.map_append, here, same, List.append_assoc]
  · rw [List.map_append, there, List.append_assoc]

/-- Wherever both have a verdict, it is the same. -/
def Agree (l r : List Bool) : Prop :=
  ∀ (i : Nat) (a b : Bool), l[i]? = some a → r[i]? = some b → a = b

theorem Apart.not_agree {notes other : List Check} (apart : Apart notes other) :
    ¬ Agree (notes.map Check.passes) (other.map Check.passes) := by
  obtain ⟨common, presented, verdict, rest, more, here, there⟩ := apart
  have passes (l : List Check) : l.map Check.passes = (l.map Check.outcome).map Prod.snd := by
    rw [List.map_map]
    rfl
  intro agree
  have same : verdict = !verdict := by
    refine agree common.length _ _ ?_ ?_
    · rw [passes, here]
      simp
    · rw [passes, there]
      simp
  cases verdict <;> cases same

/-- Two outcomes agree, but for what `R` lets differ in a value, or their checks went apart. -/
inductive Goes (R : α → β → Prop) : (one : (Except ε α × List Check) × Tables) →
    (other : (Except ε β × List Check) × Tables) → Prop where
  | ok {a : α} {b : β} {notes other : List Check} {t w : Tables} (values : R a b)
      (same : notes.map Check.outcome = other.map Check.outcome) (alike : Alike t w) :
      Goes R ((.ok a, notes), t) ((.ok b, other), w)
  | error (e : ε) {notes other : List Check} {t w : Tables}
      (same : notes.map Check.outcome = other.map Check.outcome) (alike : Alike t w) :
      Goes R ((.error e, notes), t) ((.error e, other), w)
  | apart {one : (Except ε α × List Check) × Tables} {other : (Except ε β × List Check) × Tables}
      (apart : Apart one.1.2 other.1.2) : Goes R one other

/-- Over tables that are alike, the programs go the same way until a check comes out differently. -/
def Alongside (R : α → β → Prop) (p : Noted ε α) (q : Noted ε β) : Prop :=
  ∀ clock t w, Alike t w → Goes R (p.on clock t) (q.on clock w)

def Steady (p : Noted ε α) : Prop :=
  Alongside (fun a b => a = b) p p

open Noted

namespace Alongside

theorem bind {φ : Type} {S : γ → φ → Prop} {p : Noted ε α} {q : Noted ε β} {f : α → Noted ε γ}
    {g : β → Noted ε φ} (first : Alongside R p q) (second : ∀ a b, R a b → Alongside S (f a) (g b)) :
    Alongside S (p >>= f) (q >>= g) := by
  intro clock t w alike
  have start := first clock t w alike
  rw [on_bind, on_bind]
  generalize p.on clock t = one at start ⊢
  generalize q.on clock w = other at start ⊢
  cases start with
  | @ok a b notes noted t w values same alike =>
    have later := second a b values clock t w alike
    simp only
    generalize (f a).on clock t = one at later ⊢
    generalize (g b).on clock w = other at later ⊢
    have joined {later more : List Check} (again : later.map Check.outcome = more.map Check.outcome) :
        (notes ++ later).map Check.outcome = (noted ++ more).map Check.outcome := by
      rw [List.map_append, List.map_append, same, again]
    cases later with
    | ok values again alike => exact .ok values (joined again) alike
    | error e again alike => exact .error e (joined again) alike
    | apart apart => exact .apart (apart.after same)
  | error e same alike => exact .error e same alike
  | apart apart =>
    -- whatever either program goes on with, its notes come after the check that differed
    obtain ⟨⟨r, notes⟩, t⟩ := one
    obtain ⟨⟨l, noted⟩, w⟩ := other
    refine .apart ?_
    cases r with
    | ok a =>
      cases l with
      | ok b => exact apart.append _ _
      | error e => simpa using apart.append ((f a).on clock t).1.2 []
    | error e =>
      cases l with
      | ok b => simpa using apart.append [] ((g b).on clock w).1.2
      | error e => exact apart

theorem pure {a : α} {b : β} (related : R a b) :
    Alongside R (Pure.pure a : Noted ε α) (Pure.pure b) :=
  fun _ _ _ alike => .ok related rfl alike

/-- A check of what is presented against another digest either comes out the same or goes apart. -/
theorem verify (digest other presented : String) :
    Alongside (fun a b => a = b) (Noted.verify digest presented : Noted ε Bool)
      (Noted.verify other presented) := by
  intro clock t w alike
  by_cases same : Credential.verify digest presented = Credential.verify other presented
  · refine Goes.ok same ?_ alike
    exact congrArg (fun verdict => [(presented, verdict)]) same
  · refine Goes.apart ⟨[], presented, Credential.verify digest presented, [], [], rfl, ?_⟩
    have opposite : Credential.verify other presented = !Credential.verify digest presented :=
      Bool.eq_not_of_ne fun equal => same equal.symm
    exact congrArg (fun verdict => [(presented, verdict)]) opposite

theorem throw (e : ε) :
    Alongside R (MonadExcept.throw e : Noted ε α) (MonadExcept.throw e : Noted ε β) :=
  fun _ _ _ alike => .error e rfl alike

theorem load (id : UserId) :
    Alongside (fun r l => (∃ record other, r = .ok record ∧ l = .ok other ∧ SameRecord record other) ∨
        ∃ e, r = .error e ∧ l = .error e)
      (Noted.ask (.loadAuthRecord id) : Noted ε _) (Noted.ask (.loadAuthRecord id)) := by
  intro clock t w alike
  rw [Noted.ask, on_quiet, on_quiet, runOn_ask, runOn_ask]
  rcases alike.answer_loadAuthRecord clock id with
    ⟨record, other, here, there, same⟩ | ⟨e, here, there⟩
  · rw [here, there]
    exact .ok (.inl ⟨record, other, rfl, rfl, same⟩) rfl alike
  · rw [here, there]
    exact .ok (.inr ⟨e, rfl, rfl⟩) rfl alike

theorem loaded (id : UserId) :
    Alongside SameRecord (Noted.quiet (Http.Handler.call (.loadAuthRecord id)))
      (Noted.quiet (Http.Handler.call (.loadAuthRecord id))) := by
  intro clock t w alike
  rw [on_quiet, on_quiet]
  unfold Http.Handler.call
  simp only [runOn_bind, runOn_ask]
  rcases alike.answer_loadAuthRecord clock id with
    ⟨record, other, here, there, same⟩ | ⟨e, here, there⟩
  · rw [here, there]
    exact .ok same rfl alike
  · rw [here, there]
    exact .error _ rfl alike

theorem grant (key : Token.SigningKey) (validity : Int) {record other : AuthRecord}
    (same : SameRecord record other) (candidate : String) (now : Instant) :
    Alongside (fun a b => a = b) (grantNoted key validity record candidate now)
      (grantNoted key validity other candidate now) := by
  obtain ⟨digest, rfl⟩ := same
  unfold grantNoted
  split
  · exact throw _
  · split
    · exact throw _
    · refine bind (verify _ _ candidate) fun verdict _ same => ?_
      subst same
      -- what goes into a token is read off the rest of the record
      have issued : ClaimSet.issue? { record with credentialDigest := digest } now validity =
          ClaimSet.issue? record now validity := rfl
      rw [issued]
      split
      · exact throw _
      · cases ClaimSet.issue? record now validity with
        | some claims => exact pure rfl
        | none => exact throw _

end Alongside

namespace Steady

theorem pure (a : α) : Steady (Pure.pure a : Noted ε α) :=
  Alongside.pure rfl

theorem throw (e : ε) : Steady (MonadExcept.throw e : Noted ε α) :=
  Alongside.throw e

theorem lift (r : Except ε α) : Steady (liftM r : Noted ε α) := by
  cases r with
  | ok a => exact pure a
  | error e => exact throw e

theorem bind {p : Noted ε α} {f : α → Noted ε β} (first : Steady p) (second : ∀ a, Steady (f a)) :
    Steady (p >>= f) :=
  Alongside.bind first fun a _ same => same ▸ second a

theorem throw_bind (e : ε) (f : α → Noted ε β) :
    Steady ((MonadExcept.throw e : Noted ε α) >>= f) :=
  Alongside.bind (R := fun _ _ => False) (Alongside.throw e) fun _ _ never => never.elim

theorem quiet {p : ExceptT ε Program α} (plain : p.run.Asks fun c => c.loads = false) :
    Steady (Noted.quiet p) := by
  intro clock t w alike
  obtain ⟨same, after⟩ : (runOn clock p t).1 = (runOn clock p w).1 ∧
      Alike (runOn clock p t).2 (runOn clock p w).2 := alike.run plain
  rw [on_quiet, on_quiet, same]
  cases (runOn clock p w).1 with
  | ok a => exact .ok rfl rfl after
  | error e => exact .error e rfl after

theorem attempt {p : Noted δ α} (steady : Steady p) :
    Steady (ExceptT.lift p.run : Noted ε (Except δ α)) := by
  intro clock t w alike
  have goes := steady clock t w alike
  rw [on_attempt, on_attempt]
  generalize p.on clock t = one at goes ⊢
  generalize p.on clock w = other at goes ⊢
  cases goes with
  | ok values same alike => exact .ok (congrArg Except.ok values) same alike
  | error e same alike => exact .ok rfl same alike
  | apart apart => exact .apart apart

end Steady

theorem steady_loginNoted (key : Token.SigningKey) (validity : Int) (name candidate : String)
    (now : Instant) : Steady (loginNoted key validity name candidate now) := by
  have asked : Steady (Noted.ask (.findIdByLoginName name) : Noted LoginError _) :=
    .quiet ⟨rfl, fun _ => trivial⟩
  refine asked.bind fun found => ?_
  cases found with
  | error e => cases e <;> exact Steady.throw_bind _ _
  | ok id =>
    refine (Steady.pure id).bind fun id => Alongside.bind (Alongside.load id) fun r l loaded => ?_
    rcases loaded with ⟨record, other, rfl, rfl, same⟩ | ⟨e, rfl, rfl⟩
    · refine Alongside.bind (Alongside.pure same) fun record other same => ?_
      exact Alongside.grant key validity same candidate now
    · exact Steady.throw_bind _ _

namespace Http

open Handler Interaction

namespace SessionAction

variable {x : Exchange} {claims : ClaimSet}

theorem steady_checkOldDigestNoted (id : UserId) (old? : Option String) :
    Steady (checkOldDigestNoted id old?) := by
  cases old? with
  | none => exact .quiet trivial
  | some old =>
    refine Alongside.bind (Alongside.loaded id) fun record other same => ?_
    refine Alongside.bind (Alongside.verify _ _ old) fun verdict _ same => ?_
    subst same
    split
    · exact Steady.quiet trivial
    · exact Steady.pure _

theorem asks_plain (action : SessionAction) (other : ∀ part, action ≠ .changePassword part) :
    (run x claims action).run.Asks fun c => c.loads = false := by
  have asked {γ : Type} {c : Call γ} (plain : c.loads = false) :
      (call c).run.Asks fun c => c.loads = false := asks_call plain
  cases action with
  | status => trivial
  | maxUserId => exact (asked rfl).bindExcept fun _ => trivial
  | listUsers | listGroups =>
    exact asks_lift_bind _ fun q _ => (asks_page q).bindExcept fun _ =>
      (asked rfl).bindExcept fun _ => trivial
  | createUser =>
    exact asks_lift_bind _ fun new _ => asks_permitted_bind _ fun _ => asks_checked_bind _ fun _ _ =>
      (asks_checkDigest _ _).bindExcept fun _ => (asked rfl).bindExcept fun _ => trivial
  | getUser part | deleteUser part =>
    exact asks_lift_bind _ fun _ _ => asks_checked_bind _ fun _ _ => asks_permitted_bind _ fun _ =>
      (asked rfl).bindExcept fun _ => trivial
  | updateUser part =>
    refine asks_lift_bind _ fun _ _ => asks_lift_bind _ fun update _ => asks_checked_bind _ fun id _ =>
      asks_permitted_bind _ fun _ => asks_checked_bind _ fun _ _ => ?_
    simp only
    split
    · exact (asked rfl).bindExcept fun _ => trivial
    · refine Asks.bindExcept ((asked rfl).bindExcept fun current => ?_) fun _ => trivial
      simp only
      split
      · exact asked rfl
      · trivial
  | changePassword part => exact absurd rfl (other part)
  | createGroup =>
    exact asks_lift_bind _ fun _ _ => asks_permitted_bind _ fun _ => asks_checked_bind _ fun _ _ =>
      (asked rfl).bindExcept fun _ => trivial
  | getGroup part | deleteGroup part =>
    exact asks_lift_bind _ fun _ _ => asks_permitted_bind _ fun _ => asks_checked_bind _ fun _ _ =>
      (asked rfl).bindExcept fun _ => trivial
  | updateGroup part =>
    exact asks_lift_bind _ fun _ _ => asks_lift_bind _ fun _ _ => asks_permitted_bind _ fun _ =>
      asks_checked_bind _ fun _ _ => asks_checked_bind _ fun _ _ =>
      (asked rfl).bindExcept fun _ => trivial

theorem steady_changePasswordNoted (part : String) :
    Steady (changePasswordNoted x claims part) := by
  refine (Steady.lift _).bind fun raw => (Steady.lift _).bind fun form => ?_
  refine (Steady.quiet ?_).bind fun id => (Steady.quiet ?_).bind fun _ => (Steady.quiet ?_).bind fun _ => ?_
  · cases UserId.parse raw <;> trivial
  · cases claims.requireSelfOrAdmin id <;> trivial
  · exact asks_checkDigest _ _
  have reset : Steady (Noted.quiet
      (call (.resetPassword id (Credential.digest x.salt form.new) claims.subjectId))) :=
    .quiet (asks_call rfl)
  simp only
  split
  · exact (steady_checkOldDigestNoted id form.old).bind fun _ => reset.bind fun _ => .pure _
  · exact reset.bind fun _ => .pure _

theorem steady_runNoted (action : SessionAction) : Steady (runNoted x claims action) := by
  cases action with
  | changePassword part => exact steady_changePasswordNoted part
  | status | listUsers | createUser | maxUserId | getUser | updateUser | deleteUser | listGroups
  | createGroup | getGroup | updateGroup | deleteGroup =>
    exact .quiet (asks_plain _ fun part same => (nomatch same))

end SessionAction

namespace Service

variable {s : Service} {x : Exchange}

theorem asks_session : (s.session x).run.Asks fun c => c.loads = false := by
  by_cases presented : ∃ claims, s.Presents x claims
  · obtain ⟨claims, presents⟩ := presented
    rw [session_presented presents]
    exact ⟨rfl, fun _ => trivial⟩
  · obtain ⟨e, ended⟩ := session_unpresented (not_exists.1 presented)
    rw [ended]
    trivial

theorem steady_runOpenNoted (action : OpenAction) : Steady (s.runOpenNoted x action) := by
  cases action with
  | login =>
    refine (Steady.lift _).bind fun form => (steady_loginNoted _ _ _ _ _).attempt.bind fun issued => ?_
    cases issued with
    | ok issued => exact .pure _
    | error e => exact .throw _
  | health | loginHint | resetPassword => exact .quiet trivial
  | resetPasswordBy token => exact .quiet (asks_lift_bind _ fun _ _ => trivial)

theorem steady_carryOutNoted (s : Service) (x : Exchange) : Steady (s.carryOutNoted x) := by
  unfold carryOutNoted
  cases Route.of? x.request.method x.request.path with
  | none => exact .throw _
  | some route =>
    cases route with
    | openAccess action =>
      cases action with
      | none => exact .throw _
      | some action => exact steady_runOpenNoted action
    | session action =>
      refine (Steady.quiet asks_session).bind fun claims => ?_
      cases action with
      | none => exact .throw _
      | some action => exact SessionAction.steady_runNoted action

variable (s)

def verdicts (v : Visit) (t : Tables) : List Bool :=
  (s.checks v t).map Check.passes

variable {s} {t w : Tables}

theorem visit_noted (v : Visit) (t : Tables) :
    s.visit v t = (shown v.exchange.request.method ((s.carryOutNoted v.exchange).on v.clock t).1.1,
      ((s.carryOutNoted v.exchange).on v.clock t).2) := by
  rw [visit_eq, ← forget_carryOutNoted, Noted.runOn_forget]

theorem visit_goes (alike : Alike t w) (v : Visit) :
    ((s.visit v t).1 = (s.visit v w).1 ∧ Alike (s.visit v t).2 (s.visit v w).2 ∧
      (s.checks v t).map Check.outcome = (s.checks v w).map Check.outcome) ∨
    Apart (s.checks v t) (s.checks v w) := by
  have goes := steady_carryOutNoted s v.exchange v.clock t w alike
  rw [visit_noted, visit_noted]
  unfold checks
  generalize (s.carryOutNoted v.exchange).on v.clock t = one at goes ⊢
  generalize (s.carryOutNoted v.exchange).on v.clock w = other at goes ⊢
  cases goes with
  | ok values same alike =>
    subst values
    exact .inl ⟨rfl, alike, same⟩
  | error e same alike => exact .inl ⟨rfl, alike, same⟩
  | apart apart => exact .inr apart

theorem visit_same (alike : Alike t w) {v : Visit} (agree : Agree (s.verdicts v t) (s.verdicts v w)) :
    (s.visit v t).1 = (s.visit v w).1 ∧ Alike (s.visit v t).2 (s.visit v w).2 ∧
      (s.checks v t).map Check.outcome = (s.checks v w).map Check.outcome := by
  rcases visit_goes alike v with same | apart
  · exact same
  · exact absurd agree apart.not_agree

theorem run_same {run : List Visit} (alike : Alike t w)
    (agree : ∀ before v rest, run = before ++ v :: rest →
      Agree (s.verdicts v (s.after t before)) (s.verdicts v (s.after w before))) :
    s.responses run t = s.responses run w ∧ Alike (s.after t run) (s.after w run) := by
  induction run generalizing t w with
  | nil => exact ⟨rfl, alike⟩
  | cons v run ih =>
    obtain ⟨answer, after, -⟩ := visit_same alike (agree [] v run rfl)
    have later := ih after fun before u rest place =>
      agree (v :: before) u rest (congrArg (List.cons v) place)
    exact ⟨congrArg₂ List.cons answer later.1, later.2⟩

/-- A request checks one credential at most, against a digest that is stored, and only at a login or
    a change of a password. Over tables that agree in all but the digests, requests whose checks come
    out the same are answered the same, and leave tables that agree in all but the digests. -/
theorem digests_stay_secret (s : Service) :
    (∀ x, Noted.forget (s.carryOutNoted x) = s.carryOut x) ∧
    (∀ v t, AtMostOneStored t (s.checks v t) ∧ (s.checks v t ≠ [] →
      Route.of? v.exchange.request.method v.exchange.request.path = some (.openAccess (some .login)) ∨
      ∃ part, Route.of? v.exchange.request.method v.exchange.request.path =
        some (.session (some (.changePassword part))))) ∧
    (∀ v t w, Alike t w → Agree (s.verdicts v t) (s.verdicts v w) →
      (s.visit v t).1 = (s.visit v w).1 ∧ Alike (s.visit v t).2 (s.visit v w).2 ∧
        (s.checks v t).map Check.outcome = (s.checks v w).map Check.outcome) ∧
    ∀ run t w, Alike t w →
      (∀ before v rest, run = before ++ v :: rest →
        Agree (s.verdicts v (s.after t before)) (s.verdicts v (s.after w before))) →
      s.responses run t = s.responses run w ∧ Alike (s.after t run) (s.after w run) := by
  refine ⟨forget_carryOutNoted s, fun v t => ⟨checksStored_carryOutNoted, fun checked => ?_⟩,
    fun v t w alike agree => visit_same alike agree, fun run t w alike agree => run_same alike agree⟩
  by_contra other
  obtain ⟨login, change⟩ := not_or.1 other
  exact checked (silent_carryOutNoted login (not_exists.1 change) v.clock t)

/-- A login and a list of the users over two directories whose digests of one password differ. -/
theorem digests_stay_secret_two_salts :
    let s : Service := { key := ⟨[7], by decide⟩, tokenSeconds := 3600 }
    let admin : AdminAccount := { username := "admin", email := "a@e.org", password := "p" }
    let start : Instant := { seconds := 0, nanos := 0 }
    let salted (b : UInt8) : Crypto.Salt := ⟨List.replicate 16 b, List.length_replicate⟩
    let directory (b : UInt8) : Tables := Tables.withBootstrapAdmin admin (salted b) start
    let sending (request : Request) : Visit :=
      { exchange := { request, now := start, salt := salted 2 }, clock := start }
    let login : Visit := sending
      { method := .post, path := "/login", query := "",
        headers := [("content-type", "application/json")],
        body := Text.utf8 ("\x7b\"loginName\":\"admin\",\"credentialDigest\":" ++
          "\"148de9c5a7a44d19e56cd9ae1a554bf67847afb0c58f6e12fa29ac7ddfca9940\"\x7d") }
    let list : Visit := sending
      { method := .get, path := "/api/users", query := "", headers := [], body := [] }
    admin.credentialDigest (salted 0) ≠ admin.credentialDigest (salted 1) ∧
      s.verdicts login (directory 0) = [true] ∧ s.verdicts login (directory 1) = [true] ∧
      s.responses [login, list] (directory 0) = s.responses [login, list] (directory 1) := by
  intro s admin start salted directory sending login list
  let form : LoginForm :=
    { loginName := "admin",
      credentialDigest := "148de9c5a7a44d19e56cd9ae1a554bf67847afb0c58f6e12fa29ac7ddfca9940" }
  have isLogin : IsLogin login form := ⟨rfl, rfl, rfl⟩
  have listed : Route.of? .get "/api/users" = some (.session (some .listUsers)) := by decide
  have digest : Credential.fastDigest admin.password = form.credentialDigest := by decide +kernel
  have differ : admin.credentialDigest (salted 0) ≠ admin.credentialDigest (salted 1) := by
    intro same
    have read := congrArg Crypto.Bcrypt.Stored.parse? same
    unfold AdminAccount.credentialDigest Credential.digest at read
    rw [Crypto.Bcrypt.parse?_digest (by decide) (by decide),
      Crypto.Bcrypt.parse?_digest (by decide) (by decide)] at read
    have salts : salted 0 = salted 1 := congrArg Crypto.Bcrypt.Stored.salt (Option.some.inj read)
    exact absurd salts (by decide)
  have passes (b : UInt8) : s.verdicts login (directory b) = [true] := by
    let stored : StoredUser :=
      { user := Tables.bootstrapRecord admin start, credentialDigest := admin.credentialDigest (salted b) }
    have named : (directory b).findIdByLoginName form.loginName = .ok .bootstrap := rfl
    have found : (directory b).user .bootstrap = .ok stored := rfl
    have verified : Credential.verify stored.credentialDigest form.credentialDigest = true := by
      rw [← digest]
      exact Crypto.Bcrypt.verify_digest (by decide) (by decide) (salted b) _
    have checks : s.checks login (directory b) = [⟨stored.credentialDigest, form.credentialDigest⟩] :=
      checks_login isLogin.routed isLogin.body named found rfl rfl
    unfold verdicts
    rw [checks]
    exact congrArg (fun verdict => [verdict]) verified
  obtain ⟨-, checked, -, runs⟩ := digests_stay_secret s
  have unchecked (t : Tables) : s.verdicts list t = [] := by
    have nothing : s.checks list t = [] := by
      by_contra something
      rcases (checked list t).2 something with login | ⟨part, change⟩
      · cases listed.symm.trans login
      · cases listed.symm.trans change
    unfold verdicts
    rw [nothing]
    rfl
  have alike : Alike (directory 0) (directory 1) := (Alike.refl {}).ensureAdmin admin _ _
  refine ⟨differ, passes 0, passes 1, (runs [login, list] _ _ alike ?_).1⟩
  intro before v rest place
  match before with
  | [] =>
    obtain ⟨rfl, -⟩ := List.cons.inj place
    rw [after_nil, after_nil, passes 0, passes 1]
    intro i a b here there
    exact Option.some.inj (here.symm.trans there)
  | [first] =>
    obtain ⟨-, place⟩ := List.cons.inj place
    obtain ⟨rfl, -⟩ := List.cons.inj place
    rw [unchecked]
    intro i a b here
    cases here
  | first :: second :: before => simp at place

end Service

end Http

end AccountDirectory
