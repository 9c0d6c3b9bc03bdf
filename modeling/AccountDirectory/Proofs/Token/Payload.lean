import AccountDirectory.Claims
import AccountDirectory.Proofs.Account.Json
import AccountDirectory.Token.Registered

/-!
The payload of a token: claims that were written are read back to the second, and nothing in them is
taken for a registered claim.
-/

namespace AccountDirectory

open AccountDirectory.Json
open AccountDirectory.Text (utf8)
open AccountDirectory.Time (Instant)

/-- The claims as their written form gives them back. -/
def ClaimSet.floored (c : ClaimSet) : ClaimSet :=
  { c with issuedAt := c.issuedAt.wholeSecond, expiresAt := c.expiresAt.wholeSecond }

namespace ClaimSet

open Fields (Assigns Fills)

theorem reader_takes (c : ClaimSet) : Reader.Takes reader (utf8 c.toJson.render) c.floored := by
  refine Reader.Takes.bind (a := (c.subjectId, c.loginName, c.displayName, c.email, c.isAdmin,
    c.issuedAt.wholeSecond, c.expiresAt.wholeSecond, ())) ?_ fun bound rest => rfl
  refine record_takes [UserId, String, String, String, Bool, Instant, Instant]
    (some c.subjectId, some c.loginName, some c.displayName, some c.email, some c.isAdmin,
      some c.issuedAt.wholeSecond, some c.expiresAt.wholeSecond, ()) ?_ rfl
  refine .known (.here rfl (userId_takes c.subjectId)) ?_
  refine .known (.later rfl (.here rfl (Reader.text_takes c.loginName))) ?_
  refine .known (.later rfl (.later rfl (.here rfl (Reader.text_takes c.displayName)))) ?_
  refine .known (.later rfl (.later rfl (.later rfl (.here rfl (Reader.text_takes c.email))))) ?_
  refine .known (.later rfl (.later rfl (.later rfl (.later rfl (.here rfl
    (Reader.boolean_takes c.isAdmin)))))) ?_
  refine .known (.later rfl (.later rfl (.later rfl (.later rfl (.later rfl (.here rfl
    (Reader.instantOfSeconds_takes c.issuedAt))))))) ?_
  refine .known (.later rfl (.later rfl (.later rfl (.later rfl (.later rfl (.later rfl (.here rfl
    (Reader.instantOfSeconds_takes c.expiresAt)))))))) ?_
  exact .done

/-- Each claim has a name of its own, so all of them are passed over. -/
theorem registered_takes (c : ClaimSet) :
    Reader.Takes Token.registered (utf8 c.toJson.render) () := by
  refine Reader.Takes.bind (a := ((), (), (), (), (), ())) ?_ fun bound rest => rfl
  refine record_takes [Unit, Unit, Unit, Unit, Unit] (none, none, none, none, none, ()) ?_ rfl
  refine .unknown rfl (.number _) (.unknown rfl (.string _) (.unknown rfl (.string _) ?_))
  exact .unknown rfl (.string _) (.unknown rfl (.bool _) (.unknown rfl (.number _)
    (.unknown rfl (.number _) .done)))

end ClaimSet

end AccountDirectory
