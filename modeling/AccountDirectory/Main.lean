import AccountDirectory.PasswordTool

/-!
The command line of the password tool.
-/

namespace AccountDirectory.PasswordTool

/-- Asks the system for the sixteen bytes of a salt. -/
def freshSalt : IO Crypto.Salt := do
  let bytes := (← IO.getRandomBytes 16).toList
  if h : bytes.length = 16 then return ⟨bytes, h⟩
  else throw (IO.userError "no random bytes for a salt")

end AccountDirectory.PasswordTool

open AccountDirectory

def main (args : List String) : IO UInt32 := do
  let outcome := PasswordTool.run args (← PasswordTool.freshSalt) (← PasswordTool.freshSalt)
  outcome.lines.forM fun line => IO.println line
  return outcome.exit.toUInt32
