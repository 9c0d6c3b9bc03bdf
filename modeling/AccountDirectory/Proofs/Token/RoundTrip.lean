import AccountDirectory.Proofs.Time.Instant
import AccountDirectory.Proofs.Token.Payload
import AccountDirectory.Proofs.Token.Segment

/-!
A token that was minted is verified with the key that minted it: what comes of it depends on nothing
but the window of its claims.
-/

namespace AccountDirectory

open AccountDirectory.Time (Instant)

namespace ClaimSet

variable {claims : ClaimSet} {now latest : Instant}

theorem validateWindow_invalid (closed : claims.expiresAt ≤ claims.issuedAt) :
    claims.validateWindow now = .error .invalidWindow := by
  unfold validateWindow
  rw [if_pos closed]

theorem validateWindow_within (fits : now.addSeconds? leeway = some latest)
    (proper : claims.issuedAt < claims.expiresAt) :
    claims.validateWindow now =
      if latest < claims.issuedAt then .error .notYetValid
      else if claims.expiresAt ≤ now then .error .expired
      else .ok () := by
  unfold validateWindow
  rw [if_neg (Instant.not_le.2 proper), fits]

/-- With the leeway, claims begin to hold 30 seconds before the second in which they were issued. -/
theorem begun_iff (claims : ClaimSet) (fits : now.addSeconds? ClaimSet.leeway = some latest) :
    claims.floored.issuedAt ≤ latest ↔
      claims.floored.issuedAt.seconds - ClaimSet.leeway ≤ now.seconds := by
  have shifted := Instant.seconds_of_addSeconds? (by decide) fits
  have second : claims.floored.issuedAt.seconds = claims.issuedAt.seconds := rfl
  have start : claims.floored.issuedAt ≤ latest ↔ claims.issuedAt.seconds ≤ latest.seconds :=
    Instant.wholeSecond_le_iff claims.issuedAt latest
  rw [start, second]
  omega

theorem validateWindow_ok {u : Unit} (valid : claims.validateWindow now = .ok u) :
    ∃ latest, now.addSeconds? leeway = some latest ∧ claims.issuedAt ≤ latest ∧
      now < claims.expiresAt := by
  unfold validateWindow at valid
  split at valid
  · cases valid
  · split at valid
    · cases valid
    · rename_i latest fits
      split at valid
      · cases valid
      · split at valid
        · cases valid
        · rename_i begun within
          exact ⟨latest, fits, Instant.not_lt.1 begun, Instant.not_le.1 within⟩

end ClaimSet

namespace Token

variable {key : SigningKey} {claims : ClaimSet} {now latest : Instant}

theorem read_segment {α : Type} {r : Json.Reader α} {text : String} {a : α}
    (decoded : Json.decode r (Text.utf8 text) = .ok a) : read r (segment text) = .ok a := by
  unfold segment
  rw [read_encoded, decoded]
  rfl

theorem decode_issuedHeader : Json.decode header (Text.utf8 issuedHeader) = .ok .hs512 := rfl

theorem header_plain : Plain (segment issuedHeader) :=
  segment_plain (by decide +kernel)

theorem payload_plain (claims : ClaimSet) : Plain (segment claims.toJson.render) := by
  refine segment_plain ?_
  rw [ClaimSet.toJson, Json.utf8_object]
  exact List.cons_ne_nil _ _

/-- Only the window decides about a token that was minted with the same key. -/
theorem verifyAt_mint (key : SigningKey) (claims : ClaimSet) (now : Instant) :
    verifyAt key (mint key claims) now =
      match claims.floored.validateWindow now with
      | .ok _ => .ok claims.floored
      | .error e => .error (.ofWindow e) := by
  have payloadPlain := payload_plain claims
  have signed := signature_plain key (segment issuedHeader ++ "." ++ segment claims.toJson.render)
  have headerRead := read_segment decode_issuedHeader
  have claimsRead := read_segment (Json.decode_of_takes claims.reader_takes)
  have registeredRead := read_segment (Json.decode_of_takes claims.registered_takes)
  unfold verifyAt mint
  rw [dotted_join header_plain payloadPlain signed]
  simp only [header_plain.isEmpty_eq_false, payloadPlain.isEmpty_eq_false, signed.isEmpty_eq_false,
    headerRead, claimsRead, registeredRead, Bind.bind, Except.bind]
  cases claims.floored.validateWindow now with
  | ok _ => simp; rfl
  | error e => simp; rfl

theorem eq_of_verifyAt_mint {found : ClaimSet}
    (done : verifyAt key (mint key claims) now = .ok found) :
    found = claims.floored ∧ claims.floored.validateWindow now = .ok () := by
  rw [verifyAt_mint] at done
  split at done
  · rename_i valid
    exact ⟨(Except.ok.inj done).symm, valid⟩
  · cases done

/-- The outcomes of verifying a token that was minted with the same key, by the window of its
    claims as they are written. -/
theorem verifyAt_mint_outcome (key : SigningKey) (claims : ClaimSet)
    (fits : now.addSeconds? ClaimSet.leeway = some latest) :
    (claims.floored.expiresAt ≤ claims.floored.issuedAt ∧
        verifyAt key (mint key claims) now = .error (.malformed (.window .invalidWindow))) ∨
      (claims.floored.issuedAt < claims.floored.expiresAt ∧ latest < claims.floored.issuedAt ∧
        verifyAt key (mint key claims) now = .error (.malformed (.window .notYetValid))) ∨
      (claims.floored.issuedAt < claims.floored.expiresAt ∧ claims.floored.issuedAt ≤ latest ∧
        claims.floored.expiresAt ≤ now ∧ verifyAt key (mint key claims) now = .error .expired) ∨
      (claims.floored.issuedAt < claims.floored.expiresAt ∧ claims.floored.issuedAt ≤ latest ∧
        now < claims.floored.expiresAt ∧ verifyAt key (mint key claims) now = .ok claims.floored) := by
  rw [verifyAt_mint]
  by_cases closed : claims.floored.expiresAt ≤ claims.floored.issuedAt
  · rw [ClaimSet.validateWindow_invalid closed]
    exact .inl ⟨closed, rfl⟩
  have proper := Instant.not_le.1 closed
  rw [ClaimSet.validateWindow_within fits proper]
  by_cases early : latest < claims.floored.issuedAt
  · rw [if_pos early]
    exact .inr (.inl ⟨proper, early, rfl⟩)
  rw [if_neg early]
  have begun := Instant.not_lt.1 early
  by_cases late : claims.floored.expiresAt ≤ now
  · rw [if_pos late]
    exact .inr (.inr (.inl ⟨proper, begun, late, rfl⟩))
  · rw [if_neg late]
    exact .inr (.inr (.inr ⟨proper, begun, Instant.not_le.1 late, rfl⟩))

theorem verifyAt_mint_ok (key : SigningKey) (claims : ClaimSet)
    (fits : now.addSeconds? ClaimSet.leeway = some latest) :
    verifyAt key (mint key claims) now = .ok claims.floored ↔
      claims.floored.issuedAt < claims.floored.expiresAt ∧ claims.floored.issuedAt ≤ latest ∧
        now < claims.floored.expiresAt := by
  constructor
  · intro done
    rcases verifyAt_mint_outcome key claims fits with
      ⟨-, outcome⟩ | ⟨-, -, outcome⟩ | ⟨-, -, -, outcome⟩ | ⟨proper, begun, within, -⟩
    · exact nomatch outcome.symm.trans done
    · exact nomatch outcome.symm.trans done
    · exact nomatch outcome.symm.trans done
    · exact ⟨proper, begun, within⟩
  · rintro ⟨proper, begun, within⟩
    rcases verifyAt_mint_outcome key claims fits with
      ⟨closed, -⟩ | ⟨-, early, -⟩ | ⟨-, -, late, -⟩ | ⟨-, -, -, outcome⟩
    · exact absurd closed (Instant.not_le.2 proper)
    · exact absurd early (Instant.not_lt.2 begun)
    · exact absurd late (Instant.not_le.2 within)
    · exact outcome

theorem verifyAt_mint_malformed (key : SigningKey) (claims : ClaimSet)
    (fits : now.addSeconds? ClaimSet.leeway = some latest) :
    (∃ why, verifyAt key (mint key claims) now = .error (.malformed why)) ↔
      claims.floored.expiresAt ≤ claims.floored.issuedAt ∨ latest < claims.floored.issuedAt := by
  rcases verifyAt_mint_outcome key claims fits with
    ⟨closed, outcome⟩ | ⟨-, early, outcome⟩ | ⟨proper, begun, -, outcome⟩ | ⟨proper, begun, -, outcome⟩
  · exact ⟨fun _ => .inl closed, fun _ => ⟨_, outcome⟩⟩
  · exact ⟨fun _ => .inr early, fun _ => ⟨_, outcome⟩⟩
  all_goals
    refine ⟨fun ⟨why, done⟩ => (nomatch outcome.symm.trans done), fun outside => ?_⟩
    rcases outside with closed | early
    · exact absurd closed (Instant.not_le.2 proper)
    · exact absurd early (Instant.not_lt.2 begun)

theorem verifyAt_mint_expired (key : SigningKey) (claims : ClaimSet)
    (fits : now.addSeconds? ClaimSet.leeway = some latest) :
    verifyAt key (mint key claims) now = .error .expired ↔
      claims.floored.issuedAt < claims.floored.expiresAt ∧ claims.floored.issuedAt ≤ latest ∧
        claims.floored.expiresAt ≤ now := by
  constructor
  · intro done
    rcases verifyAt_mint_outcome key claims fits with
      ⟨-, outcome⟩ | ⟨-, -, outcome⟩ | ⟨proper, begun, late, -⟩ | ⟨-, -, -, outcome⟩
    · exact nomatch outcome.symm.trans done
    · exact nomatch outcome.symm.trans done
    · exact ⟨proper, begun, late⟩
    · exact nomatch outcome.symm.trans done
  · rintro ⟨proper, begun, late⟩
    rcases verifyAt_mint_outcome key claims fits with
      ⟨closed, -⟩ | ⟨-, early, -⟩ | ⟨-, -, -, outcome⟩ | ⟨-, -, within, -⟩
    · exact absurd closed (Instant.not_le.2 proper)
    · exact absurd early (Instant.not_lt.2 begun)
    · exact outcome
    · exact absurd late (Instant.not_le.2 within)

theorem expired_later (key : SigningKey) (claims : ClaimSet) {later : Instant}
    (fits : now.addSeconds? ClaimSet.leeway = some latest) (passed : now ≤ later)
    (inTime : (later.addSeconds? ClaimSet.leeway).isSome)
    (expired : verifyAt key (mint key claims) now = .error .expired) :
    verifyAt key (mint key claims) later = .error .expired := by
  obtain ⟨beyond, fitsLater⟩ := Option.isSome_iff_exists.1 inTime
  obtain ⟨proper, begun, late⟩ := (verifyAt_mint_expired key claims fits).1 expired
  refine (verifyAt_mint_expired key claims fitsLater).2 ⟨proper, ?_, Instant.le_trans late passed⟩
  have order : now.seconds ≤ later.seconds := by
    rw [Instant.le_iff] at passed
    omega
  rw [ClaimSet.begun_iff claims fitsLater]
  exact Int.le_trans ((ClaimSet.begun_iff claims fits).1 begun) order

/-- Minting and verifying with one key gives the claims back to the second, exactly within their
    window; outside it the token is malformed or expired, and expired for good. -/
theorem mint_then_verifyAt (key : SigningKey) (claims : ClaimSet)
    (fits : now.addSeconds? ClaimSet.leeway = some latest) :
    (verifyAt key (mint key claims) now = .ok claims.floored ↔
      claims.floored.issuedAt < claims.floored.expiresAt ∧ claims.floored.issuedAt ≤ latest ∧
        now < claims.floored.expiresAt) ∧
    ((∃ why, verifyAt key (mint key claims) now = .error (.malformed why)) ↔
      claims.floored.expiresAt ≤ claims.floored.issuedAt ∨ latest < claims.floored.issuedAt) ∧
    (verifyAt key (mint key claims) now = .error .expired ↔
      claims.floored.issuedAt < claims.floored.expiresAt ∧ claims.floored.issuedAt ≤ latest ∧
        claims.floored.expiresAt ≤ now) ∧
    verifyAt key (mint key claims) now ≠ .error .badSignature ∧
    (claims.floored.issuedAt < claims.floored.expiresAt →
      ((∃ found, verifyAt key (mint key claims) now = .ok found) ↔
        claims.floored.issuedAt.seconds - ClaimSet.leeway ≤ now.seconds ∧
          now < claims.floored.expiresAt)) ∧
    ∀ later, now ≤ later → (later.addSeconds? ClaimSet.leeway).isSome →
      verifyAt key (mint key claims) now = .error .expired →
        verifyAt key (mint key claims) later = .error .expired := by
  refine ⟨verifyAt_mint_ok key claims fits, verifyAt_mint_malformed key claims fits,
    verifyAt_mint_expired key claims fits, ?_, fun proper => ?_,
    fun later passed inTime expired => expired_later key claims fits passed inTime expired⟩
  · intro forged
    rcases verifyAt_mint_outcome key claims fits with
      ⟨-, outcome⟩ | ⟨-, -, outcome⟩ | ⟨-, -, -, outcome⟩ | ⟨-, -, -, outcome⟩ <;>
      exact nomatch outcome.symm.trans forged
  · rw [← ClaimSet.begun_iff claims fits]
    constructor
    · rintro ⟨found, done⟩
      rw [(eq_of_verifyAt_mint done).1] at done
      exact ((verifyAt_mint_ok key claims fits).1 done).2
    · rintro ⟨begun, within⟩
      exact ⟨_, (verifyAt_mint_ok key claims fits).2 ⟨proper, begun, within⟩⟩

theorem mint_then_verifyAt_before_1970 :
    let key : SigningKey := ⟨[7], by decide⟩
    let claims : ClaimSet :=
      { subjectId := ⟨-3⟩, loginName := "a\"b\\c\x01\n", displayName := "é", email := "",
        isAdmin := false, issuedAt := { seconds := -100, nanos := 5 },
        expiresAt := { seconds := 20, nanos := 0 } }
    Instant.addSeconds? { seconds := -130, nanos := 0 } ClaimSet.leeway =
        some { seconds := -100, nanos := 0 } ∧
      verifyAt key (mint key claims) { seconds := -130, nanos := 0 } = .ok claims.floored := by
  intro key claims
  have fits : Instant.addSeconds? { seconds := -130, nanos := 0 } ClaimSet.leeway =
      some { seconds := -100, nanos := 0 } := by decide
  exact ⟨fits, (mint_then_verifyAt key claims fits).1.2 (by decide)⟩

end Token

end AccountDirectory
