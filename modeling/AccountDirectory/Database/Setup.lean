import AccountDirectory.Credential
import AccountDirectory.Database.Accounts
import AccountDirectory.Database.Url

/-!
What is done with the database before it is used as a store.
-/

namespace AccountDirectory.Database

open AccountDirectory.Crypto (Salt)
open Operation (ask fail fetchOne)

/-- Connects to the database and asks for its version. -/
def connect (url : String) : Operation String := do
  match Url.check url with
  | .ok _ => ask "connect" (.connect url)
  | .error e => fail "connect" (.configuration e.message)
  fetchOne "connect" { statement := .version } (·.nth .text 0)

def execute (operation : String) (statement : Statement) (parameters : List Cell) :
    Operation Unit := do
  let _ ← ask operation (.execute { statement, parameters })

/-- Creates the relations unless they exist. -/
def createRelations : Operation Unit :=
  execute "migrate" .createRelations []

/-- Writes that take effect together. When one fails they are taken back, and whether that fails
    does not matter. -/
def transaction (operation : String) (writes : Operation Unit) : Operation Unit := do
  execute operation .begin []
  try
    writes
    execute operation .commit []
  catch e =>
    let _ ← (Interaction.ask (.execute { statement := .rollback }) : Program _)
    throw e

/-- Stores the bootstrap administrator, or sets it up again. -/
def ensureAdmin (admin : AdminAccount) (salt : Salt) : Operation Unit :=
  transaction "ensure_admin" do
    let c := Accounts.ensureAdminCommand admin (admin.credentialDigest salt)
    execute "ensure_admin" c.statement c.parameters
    execute "ensure_admin" .alignIdentifiers []

end AccountDirectory.Database
