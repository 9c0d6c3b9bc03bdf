import AccountDirectory.Group.Json
import AccountDirectory.Http.MediaType
import AccountDirectory.Http.Refusal
import AccountDirectory.Http.Route
import AccountDirectory.Session

/-!
The service: each request is carried out by calls of a store. A request that needs a session is
looked at no further without one. What it carries is read before the action checks anything.
-/

namespace AccountDirectory.Http

open AccountDirectory.Crypto (Salt)
open AccountDirectory.Json (Reader Value)
open AccountDirectory.Store (Call Program)
open AccountDirectory.Time (Instant)

/-- Calls of a store that end with a value or a refusal. -/
abbrev Handler := ExceptT Refusal Program

/-- What an action is carried out with. -/
structure Exchange where
  request : Request
  /-- The reading of the clock. -/
  now : Instant
  /-- The salt of a digest that is to be stored. -/
  salt : Salt

namespace Handler

variable {α : Type}

/-- A call of the store whose failure is reported. -/
def call (c : Call α) : Handler α := do
  match ← Program.call c with
  | .ok a => return a
  | .error e => throw (.fault (.ofStore e))

def checked : Except DomainError α → Handler α
  | .ok a => return a
  | .error e => throw (.fault (.ofDomain e))

def permitted : Except Forbidden Unit → Handler Unit
  | .ok _ => return
  | .error f => throw (.fault (.ofForbidden f))

def refuse (f : Fault) : Handler α :=
  throw (.fault f)

end Handler

namespace Request

/-- The greatest number of bytes of a body that is read. -/
def maxBody : Nat := 2097152

/-- The value in the body. What follows it does not matter. -/
def value {α : Type} (r : Request) (reader : Reader α) : Except Refusal α :=
  if !((r.header? "content-type").map MediaType.isJson).getD false then .error .contentType
  else if maxBody < r.body.length then .error .bodyTooLarge
  else (Json.decodeFront reader r.body).mapError .body

/-- The part of a list that the query asks for. -/
def pageQuery (r : Request) : Except Refusal PageQuery :=
  (PageQuery.ofQuery r.query).mapError .query

end Request

/-- A part of a path in plain text; `name` is what the refusal calls it. -/
def decodedPart (name part : String) : Except Refusal String :=
  match String.fromUTF8? ⟨(Text.Percent.decode (Text.utf8 part)).toArray⟩ with
  | some s => .ok s
  | none => .error (.pathPart name)

def PageQuery.page (q : PageQuery) : Handler Page :=
  match q.resolve with
  | .ok p => return p
  | .error e => Handler.refuse (.validation e.message)

open Handler (call checked permitted refuse)

/-- Refuses what can be no digest; `name` is the field that holds it. -/
def checkDigest (name digest : String) : Handler Unit :=
  if Credential.looksLikeDigest digest then return
  else refuse (.validation (name ++ " must be a fast digest of a non-empty password"))

namespace SessionAction

variable (x : Exchange) (claims : ClaimSet)

def runListUsers : Handler Response := do
  let page ← (← x.request.pageQuery).page
  let users ← call (.listUsers page.offset page.limit)
  return .json 200 (.list (users.map UserSummary.toJson))

def runCreateUser : Handler Response := do
  let new ← x.request.value NewUser.reader
  permitted claims.requireAdmin
  checked new.validate
  checkDigest "password_hash" new.credentialDigest
  let salted := { new with credentialDigest := Credential.digest x.salt new.credentialDigest }
  let user ← call (.createUser salted claims.subjectId)
  return .json 201 user.toJson

def runGetUser (id : String) : Handler Response := do
  let id ← checked (UserId.parse (← decodedPart "id" id))
  permitted (claims.requireSelfOrAdmin id)
  let user ← call (.getUser id)
  return .json 200 user.toJson

/-- Users who are no administrators may change their own profile only. -/
def updateProfile (id : UserId) (update : UserUpdate) : Handler User := do
  let current ← call (.getUser id)
  let changed := update.administrativeChanges current
  if changed.isEmpty then call (.updateProfile id update claims.subjectId)
  else
    refuse (.forbidden
      ("only an administrator may change " ++ ", ".intercalate (changed.map AdminField.name)))

def runUpdateUser (id : String) : Handler Response := do
  let id ← decodedPart "id" id
  let update ← x.request.value UserUpdate.reader
  let id ← checked (UserId.parse id)
  permitted (claims.requireSelfOrAdmin id)
  checked (update.validateFor id)
  let user ←
    if claims.isAdmin then call (.updateUser id update claims.subjectId)
    else updateProfile claims id update
  return .json 200 user.toJson

def runDeleteUser (id : String) : Handler Response := do
  let id ← checked (UserId.parse (← decodedPart "id" id))
  permitted (claims.authorizeDeletion id)
  call (.deleteUser id)
  return .empty 204

/-- Asks users who are no administrators for the digest that is stored. -/
def checkOldDigest (id : UserId) (old : Option String) : Handler Unit := do
  let some old := old | refuse (.validation "oldCredentialDigest is required")
  let record ← call (.loadAuthRecord id)
  if !Credential.verify record.credentialDigest old then refuse .unauthorized

def runChangePassword (id : String) : Handler Response := do
  let id ← decodedPart "id" id
  let form ← x.request.value PasswordForm.reader
  let id ← checked (UserId.parse id)
  permitted (claims.requireSelfOrAdmin id)
  checkDigest "newCredentialDigest" form.new
  if !claims.isAdmin then checkOldDigest id form.old
  call (.resetPassword id (Credential.digest x.salt form.new) claims.subjectId)
  return .empty 204

def runListGroups : Handler Response := do
  let page ← (← x.request.pageQuery).page
  let groups ← call (.listGroups page.offset page.limit)
  return .json 200 (.list (groups.map Group.toJson))

def runCreateGroup : Handler Response := do
  let new ← x.request.value NewGroup.reader
  permitted claims.requireAdmin
  checked new.validate
  let group ← call (.createGroup new claims.subjectId)
  return .json 201 group.toJson

def runGetGroup (id : String) : Handler Response := do
  let id ← decodedPart "id" id
  permitted claims.requireAdmin
  let group ← call (.getGroup (← checked (GroupId.parse id)))
  return .json 200 group.toJson

def runUpdateGroup (id : String) : Handler Response := do
  let id ← decodedPart "id" id
  let update ← x.request.value GroupUpdate.reader
  permitted claims.requireAdmin
  let id ← checked (GroupId.parse id)
  checked update.validate
  let group ← call (.updateGroup id update claims.subjectId)
  return .json 200 group.toJson

def runDeleteGroup (id : String) : Handler Response := do
  let id ← decodedPart "id" id
  permitted claims.requireAdmin
  call (.deleteGroup (← checked (GroupId.parse id)))
  return .empty 204

/-- Carries an action out for the bearer of the claims. -/
def run : SessionAction → Handler Response
  | status => return .json 200 claims.toJson
  | listUsers => runListUsers x
  | createUser => runCreateUser x claims
  | maxUserId => return .json 200 (.int32 (← call .maxUserId))
  | getUser id => runGetUser claims id
  | updateUser id => runUpdateUser x claims id
  | deleteUser id => runDeleteUser claims id
  | changePassword id => runChangePassword x claims id
  | listGroups => runListGroups x
  | createGroup => runCreateGroup x claims
  | getGroup id => runGetGroup claims id
  | updateGroup id => runUpdateGroup x claims id
  | deleteGroup id => runDeleteGroup claims id

end SessionAction

/-- The key that signs tokens, and the number of seconds for which they are valid. -/
structure Service where
  key : Token.SigningKey
  tokenSeconds : Int

namespace Service

variable (s : Service)

/-- The claims of the session that a request belongs to. -/
def session (x : Exchange) : Handler ClaimSet := do
  let some token := x.request.bearerToken? | throw .unauthenticated
  match ← ExceptT.lift (openSession s.key token x.now).run with
  | .ok claims => return claims
  | .error (.token .outOfTime) => throw .outOfTime
  | .error e => throw (if e.isInternal then .sessionUnknown else .unauthenticated)

def runLogin (x : Exchange) : Handler Response := do
  let form ← x.request.value LoginForm.reader
  let attempt := login s.key s.tokenSeconds form.loginName form.credentialDigest x.now
  match ← ExceptT.lift attempt.run with
  | .ok issued => return .json 200 (.object [("token", .string issued.token)])
  | .error e => throw (.ofLogin e)

/-- What is said of every way to reset a forgotten password. -/
def resetFeature : String := "password reset by e-mail"

def runOpen (x : Exchange) : OpenAction → Handler Response
  | .health => return .empty 200
  | .loginHint => return .text 200 "you must post login credentials"
  | .login => s.runLogin x
  | .resetPassword => refuse (.notImplemented resetFeature)
  | .resetPasswordBy token => do
    let _ ← decodedPart "token" token
    refuse (.notImplemented resetFeature)

def carryOut (x : Exchange) : Handler Response := do
  match Route.of? x.request.method x.request.path with
  | none => throw .unknownPath
  | some (.openAccess action) =>
    match action with
    | some action => s.runOpen x action
    | none => throw .methodNotAllowed
  | some (.session action) =>
    let claims ← s.session x
    match action with
    | some action => action.run x claims
    | none => throw .methodNotAllowed

/-- Answers a request; no answer comes of it if a time leaves the range of time. -/
def answer (x : Exchange) : Program (Option Response) := do
  let response? := match ← (s.carryOut x).run with
    | .ok r => some r
    | .error e => e.response?
  return if x.request.method = .head then response?.map Response.withoutBody else response?

end Service

end AccountDirectory.Http
