import AccountDirectory.Http.Request

/-!
What the paths lead to, and what can be done there.
-/

namespace AccountDirectory.Http

/-- What a client may do without a session. -/
inductive OpenAction where
  | health
  | loginHint
  | login
  | resetPassword
  /-- The token is still encoded. -/
  | resetPasswordBy (token : String)
deriving DecidableEq, Repr

/-- What needs a session. Identifiers are still encoded. -/
inductive SessionAction where
  | status
  | listUsers
  | createUser
  | maxUserId
  | getUser (id : String)
  | updateUser (id : String)
  | deleteUser (id : String)
  | changePassword (id : String)
  | listGroups
  | createGroup
  | getGroup (id : String)
  | updateGroup (id : String)
  | deleteGroup (id : String)
deriving DecidableEq, Repr

/-- Where a path leads, with the action there if the method has one. -/
inductive Route where
  | openAccess (action : Option OpenAction)
  | session (action : Option SessionAction)
deriving DecidableEq, Repr

/-- The method whose action is taken: a head is asked for like the whole. -/
def Method.asked : Method → Method
  | head => get
  | m => m

namespace Route

/-- The parts of a path between its slashes. -/
def segments (path : String) : List String :=
  (path.toList.splitOnP (· == '/')).map String.ofList

/-- Actions on the users; a single segment after them is not empty. -/
def ofUsers (m : Method) : List String → Option Route
  | [] => some (.session (match m with
    | .get => some .listUsers
    | .post => some .createUser
    | _ => none))
  | ["maxid"] => some (.session (if m = .get then some .maxUserId else none))
  | [id] =>
    if id.isEmpty then none
    else some (.session (match m with
      | .get => some (.getUser id)
      | .put => some (.updateUser id)
      | .delete => some (.deleteUser id)
      | _ => none))
  | [id, "changepassword"] =>
    some (.session (if m = .put then some (.changePassword id) else none))
  | _ => none

def ofGroups (m : Method) : List String → Option Route
  | [] => some (.session (match m with
    | .get => some .listGroups
    | .post => some .createGroup
    | _ => none))
  | [id] =>
    if id.isEmpty then none
    else some (.session (match m with
      | .get => some (.getGroup id)
      | .put => some (.updateGroup id)
      | .delete => some (.deleteGroup id)
      | _ => none))
  | _ => none

/-- The action of a password reset, for the two methods that have one. -/
def ofReset (m : Method) (action : OpenAction) : Route :=
  .openAccess (if m = .get ∨ m = .post then some action else none)

def ofSegments (m : Method) : List String → Option Route
  | ["health"] => some (.openAccess (if m = .get then some .health else none))
  | ["login"] => some (.openAccess (match m with
    | .get => some .loginHint
    | .post => some .login
    | _ => none))
  | ["resetpassword"] => some (ofReset m .resetPassword)
  | ["resetpassword", token] =>
    if token.isEmpty then none else some (ofReset m (.resetPasswordBy token))
  | ["api", "status"] => some (.session (if m = .get then some .status else none))
  | "api" :: "users" :: rest => ofUsers m rest
  | "api" :: "groups" :: rest => ofGroups m rest
  | _ => none

/-- Where a path leads; nowhere for a path that is not known. -/
def of? (method : Method) (path : String) : Option Route :=
  match segments path with
  | "" :: rest => ofSegments method.asked rest
  | _ => none

end Route

end AccountDirectory.Http
