import AccountDirectory.Proofs.Http.Noted
import AccountDirectory.Proofs.Http.Visit
import AccountDirectory.Proofs.Store.Table

/-!
Noted programs on tables. What a request checks is one credential at most, at a login or at a change
of a password, against a digest that is stored.
-/

namespace AccountDirectory

open AccountDirectory.Store
open AccountDirectory.Time (Instant)

variable {ε δ α β : Type}

namespace Noted

/-- What a noted program ends with on tables, its notes, and the tables after it. -/
def on (clock : Instant) (p : Noted ε α) (t : Tables) : (Except ε α × List Check) × Tables :=
  Interaction.run (Tables.answer clock) (WriterT.run p.run) t

theorem runOn_forget (clock : Instant) (p : Noted ε α) (t : Tables) :
    runOn clock (forget p) t = ((p.on clock t).1.1, (p.on clock t).2) :=
  run_bind_interaction clock (WriterT.run p.run) (fun r => pure r.1) t

theorem on_bind (clock : Instant) (p : Noted ε α) (f : α → Noted ε β) (t : Tables) :
    on clock (p >>= f) t =
      match on clock p t with
      | ((.ok a, notes), t) => (((on clock (f a) t).1.1, notes ++ (on clock (f a) t).1.2),
          (on clock (f a) t).2)
      | ((.error e, notes), t) => ((.error e, notes), t) := by
  let continued (r : Except ε α × List Check) : Program (Except ε β × List Check) :=
    WriterT.run (ExceptT.bindCont f r.1) >>= fun l => pure (l.1, r.2 ++ l.2)
  refine (run_bind_interaction clock (WriterT.run p.run) continued t).trans ?_
  unfold on
  rcases Interaction.run (Tables.answer clock) (WriterT.run p.run) t with ⟨⟨e | a, notes⟩, after⟩
  · exact congrArg (fun l => ((Except.error e, l), after)) (List.append_nil notes)
  · exact run_bind_interaction clock (WriterT.run (f a).run) (fun l => pure (l.1, notes ++ l.2)) after

theorem on_quiet (clock : Instant) (p : ExceptT ε Program α) (t : Tables) :
    on clock (quiet p) t = (((runOn clock p t).1, []), (runOn clock p t).2) :=
  run_bind_interaction clock p.run (fun r => pure (r, [])) t

theorem on_attempt (clock : Instant) (p : Noted δ α) (t : Tables) :
    on clock (ExceptT.lift p.run : Noted ε (Except δ α)) t =
      ((.ok (on clock p t).1.1, (on clock p t).1.2), (on clock p t).2) :=
  run_bind_interaction clock (WriterT.run p.run) (fun r => pure (Except.ok r.1, r.2)) t

def Silent (p : Noted ε α) : Prop :=
  ∀ clock t, (p.on clock t).1.2 = []

theorem notes_bind {clock : Instant} {t : Tables} {p : Noted ε α} {f : α → Noted ε β}
    (rest : ∀ a, Silent (f a)) : (on clock (p >>= f) t).1.2 = (on clock p t).1.2 := by
  rw [on_bind]
  rcases on clock p t with ⟨⟨e | a, notes⟩, after⟩
  · rfl
  · simp only [rest a clock after, List.append_nil]

theorem notes_pure_bind {clock : Instant} {t : Tables} {a : α} {f : α → Noted ε β} :
    (on clock ((pure a : Noted ε α) >>= f) t).1.2 = (on clock (f a) t).1.2 := by
  rw [on_bind]
  rfl

theorem notes_quiet_bind {clock : Instant} {t after : Tables} {p : ExceptT ε Program α} {a : α}
    {f : α → Noted ε β} (done : runOn clock p t = (.ok a, after)) :
    (on clock (quiet p >>= f) t).1.2 = (on clock (f a) after).1.2 := by
  rw [on_bind, on_quiet, done]
  rfl

namespace Silent

theorem quiet (p : ExceptT ε Program α) : Silent (Noted.quiet p) := by
  intro clock t
  rw [on_quiet]

theorem pure (a : α) : Silent (Pure.pure a : Noted ε α) := fun _ _ => rfl

theorem throw (e : ε) : Silent (MonadExcept.throw e : Noted ε α) := fun _ _ => rfl

theorem bind {p : Noted ε α} {f : α → Noted ε β} (first : Silent p) (rest : ∀ a, Silent (f a)) :
    Silent (p >>= f) :=
  fun clock t => (notes_bind rest).trans (first clock t)

end Silent

end Noted

/-- One credential at most is checked, against a digest in the tables. -/
inductive AtMostOneStored (t : Tables) : List Check → Prop where
  | none : AtMostOneStored t []
  | one {stored : StoredUser} (member : stored ∈ t.users.rows) (presented : String) :
      AtMostOneStored t [⟨stored.credentialDigest, presented⟩]

def ChecksStored (clock : Instant) (t : Tables) (p : Noted ε α) : Prop :=
  AtMostOneStored t (p.on clock t).1.2

variable {clock : Instant} {t : Tables}

open Noted

namespace ChecksStored

theorem of_silent {p : Noted ε α} (silent : Silent p) : ChecksStored clock t p := by
  unfold ChecksStored
  rw [silent]
  exact .none

theorem quiet (p : ExceptT ε Program α) : ChecksStored clock t (Noted.quiet p) :=
  .of_silent (.quiet p)

theorem throw (e : ε) : ChecksStored clock t (MonadExcept.throw e : Noted ε α) := AtMostOneStored.none

theorem throw_bind (e : ε) (f : α → Noted ε β) :
    ChecksStored clock t ((MonadExcept.throw e : Noted ε α) >>= f) := AtMostOneStored.none

theorem pure_bind {a : α} {f : α → Noted ε β} (rest : ChecksStored clock t (f a)) :
    ChecksStored clock t ((pure a : Noted ε α) >>= f) := by
  unfold ChecksStored
  rw [notes_pure_bind]
  exact rest

/-- What reads may go before. -/
theorem bind {p : ExceptT ε Program α} {f : α → Noted ε β} (reads : Reads p)
    (rest : ∀ a, runOn clock p t = (.ok a, t) → ChecksStored clock t (f a)) :
    ChecksStored clock t (Noted.quiet p >>= f) := by
  unfold ChecksStored
  rw [on_bind, on_quiet]
  rcases ended : runOn clock p t with ⟨r, after⟩
  obtain rfl : after = t := reads.result ended
  cases r with
  | ok a => exact rest a ended
  | error e => exact .none

/-- What checks nothing may follow. -/
theorem followed {p : Noted ε α} {f : α → Noted ε β} (first : ChecksStored clock t p)
    (rest : ∀ a, Silent (f a)) : ChecksStored clock t (p >>= f) := by
  unfold ChecksStored
  rw [notes_bind rest]
  exact first

theorem attempt {p : Noted δ α} (checks : ChecksStored clock t p) :
    ChecksStored clock t (ExceptT.lift p.run : Noted ε (Except δ α)) := by
  unfold ChecksStored
  rw [on_attempt]
  exact checks

theorem verify {stored : StoredUser} (member : stored ∈ t.users.rows) (presented : String)
    {f : Bool → Noted ε β} (rest : ∀ verdict, Silent (f verdict)) :
    ChecksStored clock t (Noted.verify stored.credentialDigest presented >>= f) :=
  followed (AtMostOneStored.one member presented) rest

end ChecksStored

section Granting

variable {key : Token.SigningKey} {validity : Int} {record : AuthRecord} {candidate : String}
  {now : Instant}

theorem notes_grantNoted : (on clock (grantNoted key validity record candidate now) t).1.2 =
    if record.isActive && !record.isLocked then [⟨record.credentialDigest, candidate⟩] else [] := by
  unfold grantNoted
  cases record.isActive
  · rfl
  · cases record.isLocked
    · refine notes_bind (p := Noted.verify record.credentialDigest candidate) fun verdict => ?_
      split
      · exact .throw _
      · cases ClaimSet.issue? record now validity with
        | some claims => exact .pure _
        | none => exact .throw _
    · rfl

theorem checksStored_grantNoted {stored : StoredUser} (member : stored ∈ t.users.rows) :
    ChecksStored clock t (grantNoted key validity stored.authRecord candidate now) := by
  unfold ChecksStored
  rw [notes_grantNoted]
  split
  · exact .one member candidate
  · exact .none

end Granting

theorem runOn_ask_ok {c : Call α} {a : α} {after : Tables} :
    runOn clock (liftM (Program.call c) : ExceptT ε Program _) t = (.ok (.ok a), after) ↔
      t.apply clock c = .ok (a, after) := by
  simp only [runOn_ask, Tables.answer]
  cases t.apply clock c with
  | ok result => simp [Prod.ext_iff]
  | error e => simp

theorem loaded_is_stored {id : UserId} {record : AuthRecord}
    (loaded : t.apply clock (.loadAuthRecord id) = .ok (record, t)) :
    ∃ stored ∈ t.users.rows, stored.authRecord = record := by
  obtain ⟨stored, found, same⟩ := Tables.user_map_ok.1 loaded
  exact ⟨stored, Table.mem_of_find? found, congrArg Prod.fst same⟩

theorem checksStored_loginNoted (key : Token.SigningKey) (validity : Int) (name candidate : String)
    (now : Instant) : ChecksStored clock t (loginNoted key validity name candidate now) := by
  refine .bind (Reads.ask rfl) fun found _ => ?_
  cases found with
  | error e => cases e <;> exact .throw_bind _ _
  | ok id =>
    refine ChecksStored.pure_bind (ChecksStored.bind (Reads.ask rfl) fun loaded done => ?_)
    cases loaded with
    | error e => exact .throw_bind _ _
    | ok record =>
      obtain ⟨stored, member, rfl⟩ := loaded_is_stored (runOn_ask_ok.1 done)
      exact .pure_bind (checksStored_grantNoted member)

theorem notes_loginNoted {key : Token.SigningKey} {validity : Int} {name candidate : String}
    {now : Instant} {id : UserId} {stored : StoredUser} (named : t.findIdByLoginName name = .ok id)
    (found : t.user id = .ok stored) :
    (on clock (loginNoted key validity name candidate now) t).1.2 =
      if stored.user.isActive && !stored.user.isLocked then [⟨stored.credentialDigest, candidate⟩]
      else [] := by
  have asked : t.apply clock (.findIdByLoginName name) = .ok (id, t) := by
    simp only [Tables.apply, named]
    rfl
  have loaded : t.apply clock (.loadAuthRecord id) = .ok (stored.authRecord, t) := by
    simp only [Tables.apply, found]
    rfl
  refine (notes_quiet_bind (runOn_ask_ok.2 asked)).trans (notes_pure_bind.trans ?_)
  refine (notes_quiet_bind (runOn_ask_ok.2 loaded)).trans (notes_pure_bind.trans ?_)
  exact notes_grantNoted

namespace Http

open Handler

namespace SessionAction

variable {x : Exchange} {claims : ClaimSet}

theorem checksStored_checkOldDigestNoted (id : UserId) (old? : Option String) :
    ChecksStored clock t (checkOldDigestNoted id old?) := by
  cases old? with
  | none => exact .quiet _
  | some old =>
    refine .bind (call_reads rfl) fun record done => ?_
    obtain ⟨stored, member, rfl⟩ := loaded_is_stored (runOn_call_ok.1 done)
    refine .verify member old fun verdict => ?_
    split
    · exact .quiet _
    · exact .pure ()

theorem checksStored_runNoted (action : SessionAction) :
    ChecksStored clock t (runNoted x claims action) := by
  cases action with
  | changePassword part =>
    refine .bind (Reads.lift _) fun raw _ => ChecksStored.bind (Reads.lift _) fun form _ =>
      ChecksStored.bind (checked_reads _) fun id _ => ChecksStored.bind (permitted_reads _) fun _ _ =>
      ChecksStored.bind (checkDigest_reads _ _) fun _ _ => ?_
    have reset : Silent (do
        Noted.quiet (call (.resetPassword id (Credential.digest x.salt form.new) claims.subjectId))
        return Response.empty 204 : Noted Refusal Response) := .bind (.quiet _) fun _ => .pure _
    simp only
    split
    · exact .followed (checksStored_checkOldDigestNoted id form.old) fun _ => reset
    · exact .of_silent reset
  | status | listUsers | createUser | maxUserId | getUser | updateUser | deleteUser | listGroups
  | createGroup | getGroup | updateGroup | deleteGroup => exact .quiet _

end SessionAction

namespace Service

variable {s : Service} {x : Exchange}

theorem checksStored_carryOutNoted : ChecksStored clock t (s.carryOutNoted x) := by
  unfold carryOutNoted
  cases Route.of? x.request.method x.request.path with
  | none => exact .throw _
  | some route =>
    cases route with
    | openAccess action =>
      cases action with
      | none => exact .throw _
      | some action =>
        cases action with
        | login =>
          refine .bind (Reads.lift _) fun form _ =>
            .followed (.attempt (checksStored_loginNoted _ _ _ _ _)) fun issued => ?_
          cases issued with
          | ok issued => exact .pure _
          | error e => exact .throw _
        | health | loginHint | resetPassword | resetPasswordBy => exact .quiet _
    | session action =>
      refine .bind (session_reads x) fun claims _ => ?_
      cases action with
      | none => exact .throw _
      | some action => exact SessionAction.checksStored_runNoted action

theorem silent_carryOutNoted
    (other : Route.of? x.request.method x.request.path ≠ some (.openAccess (some .login)))
    (others : ∀ part, Route.of? x.request.method x.request.path ≠
      some (.session (some (.changePassword part)))) : Silent (s.carryOutNoted x) := by
  unfold carryOutNoted
  generalize Route.of? x.request.method x.request.path = route? at other others
  rcases route? with _ | (_ | action) | (_ | action)
  · exact .throw _
  · exact .throw _
  · cases action with
    | login => exact absurd rfl other
    | health | loginHint | resetPassword | resetPasswordBy => exact .quiet _
  · exact Silent.bind (.quiet _) fun _ => .throw _
  · refine Silent.bind (.quiet _) fun claims => ?_
    cases action with
    | changePassword part => exact absurd rfl (others part)
    | status | listUsers | createUser | maxUserId | getUser | updateUser | deleteUser | listGroups
    | createGroup | getGroup | updateGroup | deleteGroup => exact .quiet _

/-- The checks of credentials that are made while a request is carried out. -/
def checks (s : Service) (v : Visit) (t : Tables) : List Check :=
  ((s.carryOutNoted v.exchange).on v.clock t).1.2

/-- A login to an account that may be used checks what it presents against the digest stored for it. -/
theorem checks_login {v : Visit} {form : LoginForm} {id : UserId} {stored : StoredUser}
    (routed : Route.of? v.exchange.request.method v.exchange.request.path =
      some (.openAccess (some .login)))
    (body : v.exchange.request.value LoginForm.reader = .ok form)
    (named : t.findIdByLoginName form.loginName = .ok id) (found : t.user id = .ok stored)
    (active : stored.user.isActive = true) (unlocked : stored.user.isLocked = false) :
    s.checks v t = [⟨stored.credentialDigest, form.credentialDigest⟩] := by
  have login : s.carryOutNoted v.exchange = s.runLoginNoted v.exchange := by
    unfold carryOutNoted
    rw [routed]
    rfl
  have read : runOn v.clock (liftM (v.exchange.request.value LoginForm.reader) : Handler LoginForm) t =
      (.ok form, t) := by
    rw [body]
    rfl
  unfold checks
  rw [login]
  refine (notes_quiet_bind read).trans ((notes_bind fun issued => ?_).trans ?_)
  · cases issued with
    | ok issued => exact .pure _
    | error e => exact .throw _
  · rw [on_attempt]
    refine (notes_loginNoted named found).trans ?_
    rw [active, unlocked]
    rfl

end Service

end Http

end AccountDirectory
