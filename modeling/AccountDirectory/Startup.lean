import AccountDirectory.Database.Setup
import AccountDirectory.Http.Service
import AccountDirectory.Log.Event
import AccountDirectory.Settings

/-!
How the service is started: the settings are read, the database is prepared, and only then are
requests listened for.
-/

namespace AccountDirectory

open AccountDirectory.Crypto (Salt)
open AccountDirectory.Log (Event Span)

/-- Why the service does not start. -/
inductive StartupError where
  | settings (e : SettingsError)
  | connection (e : StoreError)
  | relations (e : StoreError)
  | administrator (e : StoreError)
  | emptyKey
  | listening (address reason : String)
deriving DecidableEq, Repr

namespace StartupError

/-- What was attempted. -/
def context : StartupError → String
  | settings _ => "invalid configuration"
  | connection _ => "failed to connect to the database"
  | relations _ => "failed to create the schema"
  | administrator _ => "failed to set up the bootstrap administrator"
  | emptyKey => "failed to build the router"
  | listening address _ => "failed to bind " ++ address

def cause : StartupError → String
  | settings e => e.message
  | connection e | relations e | administrator e => e.message
  | emptyKey => Token.emptyKeyMessage
  | listening _ reason => reason

/-- The report that ends the program. -/
def report (e : StartupError) : List String :=
  ["Error: " ++ e.context, "", "Caused by:", "    " ++ e.cause]

end StartupError

namespace Startup

/-- A part of the start, with the events so far. -/
abbrev Step := ExceptT StartupError (StateT (List Event) Database.Program)

def note (e : Event) : Step Unit :=
  modify (· ++ [e])

/-- An operation on the database during a span. Its failure is an event. -/
def during {α : Type} (span : Span) (failure : StoreError → StartupError)
    (o : Database.Operation α) : Step α := do
  match ← (StateT.lift o.run : StateT (List Event) Database.Program _) with
  | .ok a => return a
  | .error e =>
    note { level := .error, target := span.target, message := none,
           fields := [("error", .text e.message)], spans := [span] }
    throw (failure e)

/-- What an operation has achieved. -/
def achieved (span : Span) (message : String) (fields : Log.Fields) : Step Unit :=
  note { level := .info, target := span.target, message := some message, fields, spans := [span] }

def connectSpan (connections : Nat) : Span where
  target := "usergroup_infra::store::postgres"
  name := "connect"
  fields := [("max_connections", .number connections)]

/-- A parameter of the database's URL that is ignored is an event. -/
def noteIgnored (span : Span) (name value : String) : Step Unit :=
  note { level := .warn, target := "sqlx_postgres::options::parse",
         message := some "ignoring unrecognized connect parameter",
         fields := [("key", .text name), ("value", .text value)], spans := [span] }

def relationsSpan : Span where
  target := "usergroup_infra::schema"
  name := "migrate"

def adminSpan (admin : AdminAccount) : Span where
  target := "usergroup_infra::schema"
  name := "ensure_admin"
  fields := [("username", .text admin.username)]

/-- Connects to the database and prepares it. -/
def prepare (settings : Settings) (connections : Nat) (salt : Salt) : Step Unit := do
  let span := connectSpan connections
  (Database.Url.ignored settings.databaseUrl).forM fun p => noteIgnored span p.1 p.2
  let version ← during span .connection (Database.connect settings.databaseUrl)
  achieved span "connected to postgres" [("version", .text version)]
  during relationsSpan .relations Database.createRelations
  achieved relationsSpan "schema is up to date" []
  let span := adminSpan settings.admin
  during span .administrator (Database.ensureAdmin settings.admin salt)
  achieved span "bootstrap administrator ensured" []

/-- Starts the service up to where it would listen. `processors` is the number of connections
    unless one is set. -/
def start (lookup : String → Option String) (processors : Nat) (salt : Salt) :
    Step (Settings × Http.Service) := do
  let settings ← match Settings.fromLookup lookup with
    | .ok s => pure s
    | .error e => throw (.settings e)
  let connections := settings.maxConnections.getD processors
  note { level := .info, target := "usergroup_api", message := some "configuration loaded",
         fields := [("config", .text (settings.describe connections))] }
  prepare settings connections salt
  match Token.SigningKey.ofBytes? settings.tokenSecret with
  | some key => return (settings, { key, tokenSeconds := settings.tokenSeconds })
  | none => throw .emptyKey

end Startup

end AccountDirectory
