import AccountDirectory.Address
import AccountDirectory.Http.Query
import AccountDirectory.Text.Quoted
import AccountDirectory.Text.Utf8

/-!
The URL of a database: why one is refused before anything is connected to.
-/

namespace AccountDirectory.Database.Url

inductive UrlError where
  | noScheme
  | emptyHost
  | invalidPort
  | invalidIpv6
  | invalidHostCharacter
  | notText (fault : Text.Utf8.Fault)
  | unknownSslMode (mode : String)
  | notAnAddress
  | notANumber (e : NumeralError)
deriving DecidableEq, Repr

def UrlError.message : UrlError → String
  | noScheme => "relative URL without a base"
  | emptyHost => "empty host"
  | invalidPort => "invalid port number"
  | invalidIpv6 => "invalid IPv6 address"
  | invalidHostCharacter => "invalid domain character"
  | notText fault => fault.message
  | unknownSslMode mode =>
    "error with configuration: unknown value " ++ Text.quoted mode ++ " for \x60ssl_mode\x60"
  | notAnAddress => "invalid IP address syntax"
  | notANumber e => e.message

/-- The characters of a URL, without control characters and blanks at its ends and without the
    breaks inside. -/
def characters (url : String) : List Char :=
  (Text.stripBoth (fun c => c.toNat ≤ 32) url.toList).filter fun c =>
    c ≠ '\t' && c ≠ '\n' && c ≠ '\r'

/-- What stands after the scheme. -/
def afterScheme? (l : List Char) : Option (List Char) :=
  let inScheme (c : Char) : Bool := c.isAlphanum || c = '+' || c = '-' || c = '.'
  match l.span inScheme with
  | (first :: _, ':' :: rest) => if first.isAlpha then some rest else none
  | _ => none

/-- Whether a character ends the host and what belongs to it. -/
def endsAuthority (c : Char) : Bool :=
  c = '/' || c = '?' || c = '#'

/-- What stands before and after the last at sign. -/
def splitUser (authority : List Char) : Option (List Char) × List Char :=
  let (host, rest) := authority.reverse.span (· ≠ '@')
  match rest with
  | _ :: user => (some user.reverse, host.reverse)
  | [] => (none, authority)

/-- The length of a host; a colon between brackets is a part of it. -/
def hostLength (inBrackets : Bool) : List Char → Nat
  | [] => 0
  | c :: rest =>
    if c = ':' && !inBrackets then 0
    else hostLength (c = '[' || (inBrackets && c ≠ ']')) rest + 1

/-- The characters that no host has outside brackets. -/
def forbiddenInHost : List Char :=
  "\x00\t\n\r #/:<>?@[\\]^|".toList

def checkHost (host : List Char) : Except UrlError Unit :=
  match host with
  | '[' :: rest =>
    if rest.getLast? ≠ some ']' then .error .invalidIpv6
    else
      match IpAddress.parse? (String.ofList rest.dropLast) with
      | some (.v6 _) => .ok ()
      | _ => .error .invalidIpv6
  | _ => if host.any (forbiddenInHost.contains ·) then .error .invalidHostCharacter else .ok ()

/-- The port is checked digit by digit, from the left. -/
def checkPort (l : List Char) : Except UrlError Unit :=
  match Numeral.digits 65535 .tooLarge 0 l with
  | .ok _ => .ok ()
  | .error _ => .error .invalidPort

/-- The bytes that a part stands for must be text. -/
def checkText (l : List Char) : Except UrlError Unit :=
  match Text.Utf8.fault? (Text.Percent.decode (Text.utf8 (String.ofList l))) with
  | none => .ok ()
  | some fault => .error (.notText fault)

/-- Whether there is a user or a password before the at sign. -/
def namesUser : Option (List Char) → Bool
  | none | some [] | some [':'] => false
  | some _ => true

/-- The host and the port; `hasPath` says that something follows them. -/
def checkAuthority (authority : List Char) (hasPath : Bool) : Except UrlError Unit := do
  let (user, hostPort) := splitUser authority
  if user = some [] && hostPort = [] && hasPath then throw .emptyHost
  let n := hostLength false hostPort
  let host := hostPort.take n
  checkHost host
  match hostPort.drop n with
  | _ :: port =>
    if host = [] then throw .emptyHost
    checkPort (port.takeWhile (· ≠ '\\'))
  | [] => if host = [] && namesUser user then throw .emptyHost

/-- The user and the password, and the name of the database. -/
def checkNames (authority path : List Char) : Except UrlError Unit := do
  let user := (splitUser authority).1.getD []
  checkText (user.takeWhile (· ≠ ':'))
  checkText ((user.dropWhile (· ≠ ':')).drop 1)
  checkText (path.dropWhile (· = '/'))

def sslModes : List String :=
  ["disable", "allow", "prefer", "require", "verify-ca", "verify-full"]

def checkNumber (limit : Nat) (value : List UInt8) : Except UrlError Unit :=
  match Numeral.natural limit (Text.ofAscii value) with
  | .ok _ => .ok ()
  | .error e => .error (.notANumber e)

/-- The parameters that are read as anything but text. -/
def checkParameter (p : List UInt8 × List UInt8) : Except UrlError Unit :=
  let value := Text.Utf8.lossy p.2
  match Text.Utf8.lossy p.1 with
  | "sslmode" | "ssl-mode" =>
    if sslModes.contains (value.map Char.toLower) then .ok () else .error (.unknownSslMode value)
  | "port" => checkNumber 65535 p.2
  | "statement-cache-capacity" => checkNumber 0xffffffffffffffff p.2
  | "hostaddr" => if (IpAddress.parse? value).isSome then .ok () else .error .notAnAddress
  | _ => .ok ()

/-- Checks the parts of a URL from the left, up to the parameters. -/
def parameters (url : String) : Except UrlError (List (List UInt8 × List UInt8)) := do
  let some rest := afterScheme? (characters url) | throw .noScheme
  let (authority, rest) ← match rest with
    | '/' :: '/' :: rest => do
      let (authority, rest) := rest.span (!endsAuthority ·)
      checkAuthority authority (rest ≠ [])
      pure (authority, rest)
    | rest => pure ([], rest)
  let (path, query) := (rest.takeWhile (· ≠ '#')).span (· ≠ '?')
  checkNames authority path
  return Http.Query.pairs (String.ofList (query.drop 1))

/-- Checks a URL; the first fault counts. -/
def check (url : String) : Except UrlError Unit := do
  (← parameters url).forM checkParameter

/-- The parameters that mean something to the database, apart from those that start `options[`. -/
def knownParameters : List String :=
  ["sslmode", "ssl-mode", "sslrootcert", "ssl-root-cert", "ssl-ca", "sslcert", "ssl-cert", "sslkey",
    "ssl-key", "statement-cache-capacity", "host", "hostaddr", "port", "dbname", "user", "password",
    "application_name", "options"]

def isKnown (name : String) : Bool :=
  knownParameters.contains name || "options[".toList.isPrefixOf name.toList

/-- The parameters that are ignored, with their values, up to the first fault. -/
def ignored (url : String) : List (String × String) :=
  match parameters url with
  | .error _ => []
  | .ok l =>
    let read := l.takeWhile fun p => (checkParameter p).isOk
    (read.map fun p => (Text.Utf8.lossy p.1, Text.Utf8.lossy p.2)).filter fun p => !isKnown p.1

end AccountDirectory.Database.Url
