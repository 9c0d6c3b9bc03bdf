import AccountDirectory.Proofs.Http.Visit
import AccountDirectory.Proofs.Text.Blank
import AccountDirectory.Proofs.Token.RoundTrip

/-!
A token that was minted reaches the service in the header that bears it, and opens a session while its
window is open and its account may be used.
-/

namespace AccountDirectory

open AccountDirectory.Store

theorem Token.mint_char (key : SigningKey) (claims : ClaimSet) :
    ∀ c ∈ (mint key claims).toList, Text.isBlank c = false ∧ 32 ≤ c.toNat ∧ c.toNat < 127 := by
  have dot : ∀ c ∈ ".".toList, Text.isBlank c = false ∧ 32 ≤ c.toNat ∧ c.toNat < 127 := by
    intro c member
    obtain rfl : c = '.' := List.mem_singleton.1 member
    decide
  intro c member
  simp only [mint, String.toList_append, List.mem_append] at member
  rcases member with (((inHeader | inDot) | inPayload) | isDot) | inSignature
  · exact (header_plain.char c inHeader).2
  · exact dot c inDot
  · exact ((payload_plain claims).char c inPayload).2
  · exact dot c isDot
  · exact ((signature_plain key _).char c inSignature).2

namespace Http

/-- A minted token is what the bearer header says it is. -/
theorem Request.bearerToken?_mint {r : Request} (key : Token.SigningKey) (claims : ClaimSet)
    (header : r.headers.find? (·.1 == "authorization") =
      some ("authorization", "Bearer " ++ Token.mint key claims)) :
    r.bearerToken? = some (Token.mint key claims) := by
  have visible : ("Bearer " ++ Token.mint key claims).toList.all isVisible = true := by
    have word : "Bearer ".toList.all isVisible = true := by decide
    have token : (Token.mint key claims).toList.all isVisible = true := by
      refine List.all_eq_true.2 fun c member => ?_
      obtain ⟨-, low, high⟩ := Token.mint_char key claims c member
      simp [isVisible, low, high]
    rw [String.toList_append, List.all_append, word, token]
    rfl
  have readable : r.header? "authorization" = some ("Bearer " ++ Token.mint key claims) := by
    unfold header?
    rw [header]
    simp only [Option.map_some, Option.filter_some, visible, if_true]
  have behind : "Bearer ".toList.isPrefixOf? ("Bearer " ++ Token.mint key claims).toList =
      some (Token.mint key claims).toList := by
    rw [String.toList_append]
    rfl
  have trimmed : Text.trim (Token.mint key claims) = Token.mint key claims := by
    unfold Text.trim
    rw [Text.stripBoth_eq_self fun c member => (Token.mint_char key claims c member).1,
      String.ofList_toList]
  have filled : (Token.mint key claims).isEmpty = false := by
    simp [Token.mint, String.isEmpty_eq_false_iff]
  unfold bearerToken?
  rw [readable]
  simp only [Option.bind_eq_bind, Option.bind_some, behind, String.ofList_toList, trimmed, filled]
  rfl

/-- A request that bears a minted token belongs to the session of its claims. -/
theorem Service.accepts_mint {s : Service} {x : Exchange} {t : Tables} {claims : ClaimSet}
    (guarded : ∃ action, Route.of? x.request.method x.request.path = some (.session action))
    (header : x.request.headers.find? (·.1 == "authorization") =
      some ("authorization", "Bearer " ++ Token.mint s.key claims))
    (valid : claims.floored.validateWindow x.now = .ok ()) (usable : t.Usable claims.subjectId) :
    s.Accepts x t claims.floored := by
  refine ⟨guarded, ⟨_, Request.bearerToken?_mint s.key claims header, ?_⟩, usable⟩
  rw [Token.verifyAt_mint, valid]

end Http

end AccountDirectory
