import AccountDirectory.Account.Basic
import AccountDirectory.Address
import AccountDirectory.Text.Bytes
import AccountDirectory.Text.Quoted

/-!
The settings of the service, read from named values. Any value that is missing or out of range
refuses them all.
-/

namespace AccountDirectory

/-- The named values that are looked up. -/
inductive Setting where
  | port
  | listenIp
  | databaseUrl
  | maxConnections
  | tokenSecret
  | tokenMinutes
  | adminUser
  | adminEmail
  | adminPassword
deriving DecidableEq, Repr

def Setting.name : Setting → String
  | port => "PORT"
  | listenIp => "LISTEN_IP"
  | databaseUrl => "DATABASE_URL"
  | maxConnections => "DB_MAX_CONNECTIONS"
  | tokenSecret => "JWT_SECRET"
  | tokenMinutes => "JWT_DURATION_MINUTES"
  | adminUser => "ADMIN_USER"
  | adminEmail => "ADMIN_EMAIL"
  | adminPassword => "ADMIN_PASSWORD"

/-- What is wrong with the value of a setting. -/
inductive SettingFault where
  | notAPort (value : String)
  | portZero
  | notAnAddress
  | notPositive (value : String)
  | notAnInteger (value : String)
  | minutesOutOfRange (minutes : Int)
deriving DecidableEq, Repr

inductive SettingsError where
  | missing (s : Setting)
  | invalid (s : Setting) (fault : SettingFault)
deriving DecidableEq, Repr

structure Settings where
  listenIp : IpAddress
  port : Nat
  databaseUrl : String
  /-- None stands for the number of processors. -/
  maxConnections : Option Nat
  /-- The bytes that tokens are signed with. -/
  tokenSecret : List UInt8
  tokenMinutes : Nat
  admin : AdminAccount
deriving DecidableEq, Repr

namespace Settings

def defaultPort : Nat := 8080

def defaultListenIp : IpAddress := .v4 0 0 0 0

def defaultTokenMinutes : Nat := 60

def maxTokenMinutes : Nat := 14400

def defaultAdminUser : String := "goadmin"

def defaultAdminEmail : String := "goadmin@yourdomain.org"

end Settings

namespace SettingsError

def faultMessage : SettingFault → String
  | .notAPort value => s!"'{value}' is not a port number"
  | .portZero => "must be between 1 and 65535"
  | .notAnAddress => "invalid IP address syntax"
  | .notPositive value => s!"'{value}' is not a positive integer"
  | .notAnInteger value => s!"'{value}' is not an integer"
  | .minutesOutOfRange minutes =>
    s!"must be between 1 and {Settings.maxTokenMinutes}, got {minutes}"

def message : SettingsError → String
  | missing s => s.name ++ " environment variable is required"
  | invalid s fault => s.name ++ " has an invalid value: " ++ faultMessage fault

end SettingsError

namespace Settings

variable (lookup : String → Option String)

/-- A value that is not blank. -/
def filled? (s : Setting) : Option String :=
  (lookup s.name).filter fun v => !Text.isAllBlank v

/-- A value with at least one character, whatever it is. -/
def nonempty (s : Setting) : Except SettingsError String :=
  match (lookup s.name).filter fun v => !v.isEmpty with
  | some v => .ok v
  | none => .error (.missing s)

def readPort : Except SettingsError Nat :=
  match filled? lookup .port with
  | none => .ok defaultPort
  | some raw =>
    match Numeral.natural 65535 (Text.trim raw) with
    | .error _ => .error (.invalid .port (.notAPort raw))
    | .ok 0 => .error (.invalid .port .portZero)
    | .ok port => .ok port

def readListenIp : Except SettingsError IpAddress :=
  match filled? lookup .listenIp with
  | none => .ok defaultListenIp
  | some raw =>
    match IpAddress.parse? (Text.trim raw) with
    | none => .error (.invalid .listenIp .notAnAddress)
    | some ip => .ok ip

def readMaxConnections : Except SettingsError (Option Nat) :=
  match filled? lookup .maxConnections with
  | none => .ok none
  | some raw =>
    match Numeral.natural 0xffffffff (Text.trim raw) with
    | .error _ | .ok 0 => .error (.invalid .maxConnections (.notPositive raw))
    | .ok n => .ok (some n)

def readTokenMinutes : Except SettingsError Nat :=
  match filled? lookup .tokenMinutes with
  | none => .ok defaultTokenMinutes
  | some raw =>
    match Numeral.int64 (Text.trim raw) with
    | .error _ => .error (.invalid .tokenMinutes (.notAnInteger raw))
    | .ok minutes =>
      if 1 ≤ minutes ∧ minutes ≤ maxTokenMinutes then .ok minutes.toNat
      else .error (.invalid .tokenMinutes (.minutesOutOfRange minutes))

/-- Reads the settings; the first fault decides. -/
def fromLookup : Except SettingsError Settings := do
  let port ← readPort lookup
  let listenIp ← readListenIp lookup
  let databaseUrl ← match filled? lookup .databaseUrl with
    | some url => .ok url
    | none => .error (.missing .databaseUrl)
  let maxConnections ← readMaxConnections lookup
  let secret ← nonempty lookup .tokenSecret
  let tokenMinutes ← readTokenMinutes lookup
  let admin : AdminAccount :=
    { username := (filled? lookup .adminUser).getD defaultAdminUser
      email := (filled? lookup .adminEmail).getD defaultAdminEmail
      password := ← nonempty lookup .adminPassword }
  return { listenIp, port, databaseUrl, maxConnections,
           tokenSecret := Text.utf8 secret, tokenMinutes, admin }

/-- The number of seconds for which a token is valid. -/
def tokenSeconds (s : Settings) : Int :=
  60 * s.tokenMinutes

/-- The address to listen at. -/
def listenAddress (s : Settings) : String :=
  s.listenIp.withPort s.port

/-- The settings for diagnostics, without the secrets. -/
def describe (s : Settings) (connections : Nat) : String :=
  "AppConfig \x7b listen_ip: " ++ s.listenIp.render ++ ", port: " ++ toString s.port ++
    ", db_max_connections: " ++ toString connections ++
    ", jwt_validity_minutes: " ++ toString s.tokenMinutes ++
    ", admin: AdminAccount \x7b username: " ++ Text.quoted s.admin.username ++
    ", email: " ++ Text.quoted s.admin.email ++ ", password: \"<redacted>\" \x7d, .. \x7d"

end Settings

end AccountDirectory
