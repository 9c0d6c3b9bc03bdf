import AccountDirectory.Credential
import AccountDirectory.Text.Quoted

/-!
A command that prints the digests of a password and checks them.
-/

namespace AccountDirectory.PasswordTool

open AccountDirectory.Crypto (Salt)

/-- What the arguments ask for. -/
inductive Request where
  | report (password : String)
  | noPassword
  | help
  | version
  | misuse
deriving DecidableEq, Repr

/-- Whether an argument can be the value of the option before it. -/
def isValue (s : String) : Bool :=
  s == "-" || !s.startsWith "-"

/-- Reads the arguments from the left, with the password so far. Help and version are answered
    where they stand. -/
def parse (password : Option String) : List String → Request
  | [] => password.elim .noPassword .report
  | "--password" :: rest =>
    match rest with
    | value :: rest =>
      if password.isSome || !isValue value then .misuse else parse (some value) rest
    | [] => .misuse
  | "--help" :: _ => .help
  | "--version" :: _ => .version
  | ["--"] => password.elim .noPassword .report
  | arg :: rest =>
    match arg.toList with
    | '-' :: 'h' :: _ => .help
    | '-' :: 'V' :: _ => .version
    | _ =>
      match arg.dropPrefix? "--password=" with
      | some value => if password.isSome then .misuse else parse (some value.copy) rest
      | none => .misuse

/-- What the command prints, and its exit code. -/
structure Outcome where
  exit : Nat
  lines : List String
deriving DecidableEq, Repr

def name : String := "usergroup-password-tool"

def helpLines : List String :=
  ["Print the fast digest and salted digests of a password", "",
    "Usage: " ++ name ++ " [OPTIONS]", "", "Options:",
    "      --password <PASSWORD>  Password in plain text",
    "  -h, --help                 Print help",
    "  -V, --version              Print version"]

/-- The digests of a password, and whether they verify. -/
def report (password : String) (fastSalt plainSalt : Salt) : List String :=
  let fast := Credential.fastDigest password
  let saltedFast := Credential.digest fastSalt fast
  let saltedPlain := Credential.digest plainSalt password
  ["password: " ++ Text.quoted password,
    "sha256:                   " ++ fast,
    "salted digest of sha256:  " ++ saltedFast,
    "salted digest of password: " ++ saltedPlain,
    "verify(salted sha256, sha256):       " ++ toString (Credential.verify saltedFast fast),
    "verify(salted password, password):   " ++ toString (Credential.verify saltedPlain password)]

/-- Runs the command with its arguments and two fresh salts. -/
def run (args : List String) (fastSalt plainSalt : Salt) : Outcome :=
  match parse none args with
  | .report password => { exit := 0, lines := report password fastSalt plainSalt }
  | .noPassword =>
    { exit := 1, lines := ["ERROR: missing parameter, usage: " ++ name ++ " --password <plain>"] }
  | .help => { exit := 0, lines := helpLines }
  | .version => { exit := 0, lines := [name ++ " 0.1.0"] }
  | .misuse => { exit := 2, lines := [] }

end AccountDirectory.PasswordTool
