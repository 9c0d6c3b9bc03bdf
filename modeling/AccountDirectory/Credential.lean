import AccountDirectory.Account.Basic
import AccountDirectory.Crypto.Bcrypt
import AccountDirectory.Crypto.Sha2
import AccountDirectory.Text.Base16

/-!
Credentials: the fast digest of a password is what clients submit, and the salted digest of that is
what a store keeps.
-/

namespace AccountDirectory

open AccountDirectory.Crypto (Salt)

namespace Credential

/-- The cost of salted digests. -/
def cost : Nat := 4

/-- The least number of bytes of a submitted digest. -/
def minLength : Nat := 32

/-- The MD5 and the SHA-256 digest of the empty text. -/
def digestsOfNothing : List String :=
  ["d41d8cd98f00b204e9800998ecf8427e",
    "e3b0c44298fc1c149afbf4c8996fb92427ae41e4649b934ca495991b7852b855"]

/-- The SHA-256 digest of a text, in hexadecimal digits. -/
def fastDigest (password : String) : String :=
  Text.Base16.encode (Crypto.sha256 (Text.utf8 password))

def digest (salt : Salt) (secret : String) : String :=
  Crypto.Bcrypt.digest cost salt secret

/-- Whether a candidate has the stored salted digest. -/
def verify (stored candidate : String) : Bool :=
  Crypto.Bcrypt.verify stored candidate

/-- Whether a text may be the digest of a password that is not empty. -/
def looksLikeDigest (s : String) : Bool :=
  minLength ≤ s.utf8ByteSize && !digestsOfNothing.contains s

end Credential

/-- The salted digest that is stored for the bootstrap administrator. -/
def AdminAccount.credentialDigest (admin : AdminAccount) (salt : Salt) : String :=
  Credential.digest salt (Credential.fastDigest admin.password)

end AccountDirectory
