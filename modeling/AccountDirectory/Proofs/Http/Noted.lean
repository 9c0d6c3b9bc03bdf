import AccountDirectory.Http.Service
import Mathlib.Control.Monad.Writer

/-!
Requests carried out with notes of the credentials that are checked. Without the notes they are what
the service carries out.
-/

namespace AccountDirectory

open AccountDirectory.Store (Program)
open AccountDirectory.Time (Instant)
open AccountDirectory.Token (SigningKey)

/-- A check of a credential: the stored digest, and what is presented. -/
structure Check where
  digest : String
  presented : String

def Check.passes (c : Check) : Bool :=
  Credential.verify c.digest c.presented

/-- Calls of a store, with notes of the checks that are made. -/
abbrev Noted (ε : Type) := ExceptT ε (WriterT (List Check) Program)

namespace Noted

variable {ε δ α β : Type}

def verify (digest presented : String) : Noted ε Bool := do
  liftM (tell [{ digest, presented }] : WriterT (List Check) Program PUnit)
  return Credential.verify digest presented

/-- A program that checks nothing. -/
def quiet (p : ExceptT ε Program α) : Noted ε α :=
  ExceptT.mk (monadLift p.run : WriterT (List Check) Program (Except ε α))

def forget (p : Noted ε α) : ExceptT ε Program α :=
  ExceptT.mk (Prod.fst <$> (WriterT.run p.run))

theorem forget_pure (a : α) : forget (pure a : Noted ε α) = pure a := rfl

theorem forget_lift (r : Except ε α) : forget (liftM r : Noted ε α) = liftM r := rfl

theorem forget_bind (p : Noted ε α) (f : α → Noted ε β) :
    forget (p >>= f) = forget p >>= fun a => forget (f a) := by
  apply ExceptT.ext
  change Prod.fst <$> (WriterT.run p.run >>= fun r =>
      (fun l => (l.1, r.2 ++ l.2)) <$> WriterT.run (ExceptT.bindCont f r.1)) =
    (Prod.fst <$> WriterT.run p.run) >>= ExceptT.bindCont fun a => forget (f a)
  simp only [map_bind, Functor.map_map, bind_map_left]
  congr 1
  funext r
  rcases r with ⟨e | a, notes⟩
  · rfl
  · rfl

theorem forget_quiet (p : ExceptT ε Program α) : forget (quiet p) = p := by
  apply ExceptT.ext
  change Prod.fst <$> ((fun r => (r, [])) <$> p.run) = p.run
  rw [Functor.map_map]
  exact id_map p.run

theorem forget_verify (digest presented : String) :
    forget (verify digest presented : Noted ε Bool) = pure (Credential.verify digest presented) := rfl

theorem forget_attempt (p : Noted δ α) :
    forget (ExceptT.lift p.run : Noted ε (Except δ α)) = ExceptT.lift (forget p).run := by
  apply ExceptT.ext
  change Prod.fst <$> ((fun r => (Except.ok r.1, r.2)) <$> WriterT.run p.run) =
    Except.ok <$> (Prod.fst <$> WriterT.run p.run)
  rw [Functor.map_map, Functor.map_map]

def ask (c : Store.Call α) : Noted ε (Except StoreError α) :=
  quiet (liftM (Program.call c))

end Noted

def grantNoted (key : SigningKey) (validity : Int) (record : AuthRecord) (candidate : String)
    (now : Instant) : Noted LoginError IssuedToken := do
  if !record.isActive then throw .accountInactive
  else if record.isLocked then throw .accountLocked
  else if !(← Noted.verify record.credentialDigest candidate) then throw .wrongCredential
  else
    match ClaimSet.issue? record now validity with
    | some claims => return { token := Token.mint key claims, claims }
    | none => throw .outOfTime

def loginNoted (key : SigningKey) (validity : Int) (loginName candidate : String) (now : Instant) :
    Noted LoginError IssuedToken := do
  let id ← match ← Noted.ask (.findIdByLoginName loginName) with
    | .ok id => pure id
    | .error (.notFound _) => throw .usernameNotFound
    | .error e => throw (.ofStore e)
  let record ← match ← Noted.ask (.loadAuthRecord id) with
    | .ok record => pure record
    | .error e => throw (.ofStore e)
  grantNoted key validity record candidate now

namespace Http

open Noted (quiet)

namespace SessionAction

variable (x : Exchange) (claims : ClaimSet)

def checkOldDigestNoted (id : UserId) (old : Option String) : Noted Refusal Unit := do
  let some old := old | quiet (Handler.refuse (.validation "oldCredentialDigest is required"))
  let record ← quiet (Handler.call (.loadAuthRecord id))
  if !(← Noted.verify record.credentialDigest old) then quiet (Handler.refuse .unauthorized)

def changePasswordNoted (id : String) : Noted Refusal Response := do
  let id ← decodedPart "id" id
  let form ← x.request.value PasswordForm.reader
  let id ← quiet (Handler.checked (UserId.parse id))
  quiet (Handler.permitted (claims.requireSelfOrAdmin id))
  quiet (checkDigest "newCredentialDigest" form.new)
  if !claims.isAdmin then checkOldDigestNoted id form.old
  quiet (Handler.call (.resetPassword id (Credential.digest x.salt form.new) claims.subjectId))
  return .empty 204

/-- Of all actions, only the change of a password checks one. -/
def runNoted : SessionAction → Noted Refusal Response
  | changePassword id => changePasswordNoted x claims id
  | action => quiet (action.run x claims)

end SessionAction

namespace Service

variable (s : Service)

def runLoginNoted (x : Exchange) : Noted Refusal Response := do
  let form ← x.request.value LoginForm.reader
  let attempt := loginNoted s.key s.tokenSeconds form.loginName form.credentialDigest x.now
  match ← ExceptT.lift attempt.run with
  | .ok issued => return .json 200 (.object [("token", .string issued.token)])
  | .error e => throw (.ofLogin e)

/-- Of what needs no session, only the login checks a credential. -/
def runOpenNoted (x : Exchange) : OpenAction → Noted Refusal Response
  | .login => s.runLoginNoted x
  | action => quiet (s.runOpen x action)

def carryOutNoted (x : Exchange) : Noted Refusal Response := do
  match Route.of? x.request.method x.request.path with
  | none => throw .unknownPath
  | some (.openAccess action) =>
    match action with
    | some action => s.runOpenNoted x action
    | none => throw .methodNotAllowed
  | some (.session action) =>
    let claims ← quiet (s.session x)
    match action with
    | some action => action.runNoted x claims
    | none => throw .methodNotAllowed

end Service

end Http

open Noted

theorem forget_grantNoted (key : SigningKey) (validity : Int) (record : AuthRecord)
    (candidate : String) (now : Instant) :
    forget (grantNoted key validity record candidate now) =
      liftM (grant key validity record candidate now) := by
  unfold grantNoted grant
  split
  · rfl
  · split
    · rfl
    · rw [forget_bind, forget_verify, pure_bind]
      split
      · rfl
      · cases ClaimSet.issue? record now validity <;> rfl

theorem forget_loginNoted (key : SigningKey) (validity : Int) (name candidate : String)
    (now : Instant) : forget (loginNoted key validity name candidate now) =
      login key validity name candidate now := by
  unfold loginNoted login ask
  rw [forget_bind, forget_quiet]
  refine bind_congr fun found => ?_
  rcases found with e | id
  · cases e <;> rfl
  · simp only [forget_bind, forget_pure, pure_bind, forget_quiet]
    refine bind_congr fun loaded => ?_
    rcases loaded with e | record
    · rfl
    · simp only [forget_bind, forget_pure, pure_bind, forget_grantNoted]

namespace Http

namespace SessionAction

variable (x : Exchange) (claims : ClaimSet)

theorem forget_checkOldDigestNoted (id : UserId) (old : Option String) :
    forget (checkOldDigestNoted id old) = checkOldDigest id old := by
  cases old with
  | none => rfl
  | some old =>
    unfold checkOldDigestNoted checkOldDigest
    rw [forget_bind, forget_quiet]
    refine bind_congr fun record => ?_
    rw [forget_bind, forget_verify, pure_bind]
    split
    · exact forget_quiet _
    · rfl

theorem forget_changePasswordNoted (part : String) :
    forget (changePasswordNoted x claims part) = runChangePassword x claims part := by
  unfold changePasswordNoted runChangePassword
  simp only [forget_bind, forget_lift, forget_quiet]
  refine bind_congr fun raw => bind_congr fun form => bind_congr fun id => bind_congr fun _ =>
    bind_congr fun _ => ?_
  split
  · simp only [forget_bind, forget_checkOldDigestNoted, forget_quiet, forget_pure]
  · simp only [forget_bind, forget_quiet, forget_pure]

theorem forget_runNoted (action : SessionAction) :
    forget (runNoted x claims action) = action.run x claims := by
  cases action with
  | changePassword part => exact forget_changePasswordNoted x claims part
  | status | listUsers | createUser | maxUserId | getUser | updateUser | deleteUser | listGroups
  | createGroup | getGroup | updateGroup | deleteGroup => exact forget_quiet _

end SessionAction

namespace Service

variable (s : Service) (x : Exchange)

theorem forget_runOpenNoted (action : OpenAction) :
    forget (s.runOpenNoted x action) = s.runOpen x action := by
  cases action with
  | login =>
    simp only [runOpenNoted, runLoginNoted, runOpen, runLogin]
    rw [forget_bind, forget_lift]
    refine bind_congr fun form => ?_
    rw [forget_bind, forget_attempt, forget_loginNoted]
    refine bind_congr fun issued => ?_
    cases issued <;> rfl
  | health | loginHint | resetPassword | resetPasswordBy => exact forget_quiet _

/-- Without its notes, a noted request is what the service carries out. -/
theorem forget_carryOutNoted : forget (s.carryOutNoted x) = s.carryOut x := by
  unfold carryOutNoted carryOut
  cases Route.of? x.request.method x.request.path with
  | none => rfl
  | some route =>
    cases route with
    | openAccess action =>
      cases action with
      | none => rfl
      | some action => exact forget_runOpenNoted s x action
    | session action =>
      simp only [forget_bind, forget_quiet]
      refine bind_congr fun claims => ?_
      cases action with
      | none => rfl
      | some action => exact SessionAction.forget_runNoted x claims action

end Service

end Http

end AccountDirectory
