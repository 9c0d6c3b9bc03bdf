import AccountDirectory.Proofs.Text.Canonical
import AccountDirectory.Proofs.Token.RoundTrip

/-!
Which texts are tokens of a key: three segments with dots between them, of which the last is the
written digest of the other two. Whether one is accepted is then up to the window of its claims.
-/

namespace AccountDirectory

open AccountDirectory.Time (Instant)

namespace ClaimSet

variable {claims : ClaimSet} {now latest : Instant}

/-- The window of claims is open at an instant, which is `latest` with the leeway. -/
structure Open (claims : ClaimSet) (now latest : Instant) : Prop where
  proper : claims.issuedAt < claims.expiresAt
  begun : claims.issuedAt ≤ latest
  within : now < claims.expiresAt

/-- The window of claims has been left, and nothing else is wrong with it. -/
structure Over (claims : ClaimSet) (now latest : Instant) : Prop where
  proper : claims.issuedAt < claims.expiresAt
  begun : claims.issuedAt ≤ latest
  late : claims.expiresAt ≤ now

theorem validateWindow_ok_iff (fits : now.addSeconds? leeway = some latest) :
    claims.validateWindow now = .ok () ↔ claims.Open now latest := by
  by_cases closed : claims.expiresAt ≤ claims.issuedAt
  · rw [validateWindow_invalid closed]
    exact ⟨fun valid => (nomatch valid), fun valid => absurd closed (Instant.not_le.2 valid.proper)⟩
  have proper := Instant.not_le.1 closed
  rw [validateWindow_within fits proper]
  by_cases early : latest < claims.issuedAt
  · rw [if_pos early]
    exact ⟨fun valid => (nomatch valid), fun valid => absurd early (Instant.not_lt.2 valid.begun)⟩
  rw [if_neg early]
  have begun := Instant.not_lt.1 early
  by_cases late : claims.expiresAt ≤ now
  · rw [if_pos late]
    exact ⟨fun valid => (nomatch valid), fun valid => absurd late (Instant.not_le.2 valid.within)⟩
  · rw [if_neg late]
    exact ⟨fun _ => ⟨proper, begun, Instant.not_le.1 late⟩, fun _ => rfl⟩

theorem validateWindow_expired_iff (fits : now.addSeconds? leeway = some latest) :
    claims.validateWindow now = .error .expired ↔ claims.Over now latest := by
  by_cases closed : claims.expiresAt ≤ claims.issuedAt
  · rw [validateWindow_invalid closed]
    exact ⟨fun expired => (nomatch expired), fun past => absurd closed (Instant.not_le.2 past.proper)⟩
  have proper := Instant.not_le.1 closed
  rw [validateWindow_within fits proper]
  by_cases early : latest < claims.issuedAt
  · rw [if_pos early]
    exact ⟨fun expired => (nomatch expired), fun past => absurd early (Instant.not_lt.2 past.begun)⟩
  rw [if_neg early]
  have begun := Instant.not_lt.1 early
  by_cases late : claims.expiresAt ≤ now
  · rw [if_pos late]
    exact ⟨fun _ => ⟨proper, begun, late⟩, fun _ => rfl⟩
  · rw [if_neg late]
    exact ⟨fun expired => (nomatch expired), fun past => absurd past.late late⟩

end ClaimSet

namespace Token

/-- A text that may stand between the dots of a token. -/
def IsSegment (s : String) : Prop := s ≠ "" ∧ '.' ∉ s.toList

/-- The text is three segments with dots between them. -/
structure Splits (token h p s : String) : Prop where
  text : token = h ++ "." ++ p ++ "." ++ s
  header : IsSegment h
  payload : IsSegment p
  signature : IsSegment s

/-- The segment is the written form of JSON that is read as the value. -/
def Holds {α : Type} (segment : String) (r : Json.Reader α) (a : α) : Prop :=
  ∃ bytes, segment = Text.ofAscii (Text.Radix64.encode .url bytes) ∧ Json.decode r bytes = .ok a

/-- All that makes a text a token of the key with these claims, but for their window. -/
structure Signed (key : SigningKey) (token h p s : String) (claims : ClaimSet) : Prop where
  splits : Splits token h p s
  header : Holds h header .hs512
  signature : s = Text.ofAscii (Text.Radix64.encode .url
    (Crypto.hmacSha512 key.bytes (Text.utf8 (h ++ "." ++ p))))
  payload : Holds p ClaimSet.reader claims
  registered : Holds p registered ()

variable {key : SigningKey} {token h p s : String} {claims : ClaimSet} {now latest : Instant}

theorem IsSegment.isEmpty_eq_false {s : String} (segment : IsSegment s) : s.isEmpty = false :=
  String.isEmpty_eq_false_iff.2 segment.1

theorem Plain.isSegment {s : String} (plain : Plain s) : IsSegment s := by
  refine ⟨fun empty => plain.toList_ne_nil ?_, fun dot => (plain.char '.' dot).1 rfl⟩
  rw [empty]
  rfl

theorem Splits.dotted (splits : Splits token h p s) : dotted token = [h, p, s] :=
  dotted_eq_iff.2 ⟨splits.text, splits.header.2, splits.payload.2, splits.signature.2⟩

theorem Splits.unique {h' p' s' : String} (one : Splits token h p s) (two : Splits token h' p' s') :
    h = h' ∧ p = p' ∧ s = s' := by
  have same := one.dotted.symm.trans two.dotted
  simpa using same

/-- A text in three parts of which none is empty is cut into segments. -/
theorem splits_of_dotted (parts : Token.dotted token = [h, p, s])
    (filled : ¬ (h.isEmpty ∨ p.isEmpty ∨ s.isEmpty)) : Splits token h p s := by
  obtain ⟨text, freeHeader, freePayload, freeSignature⟩ := dotted_eq_iff.1 parts
  simp only [String.isEmpty_iff, not_or] at filled
  exact ⟨text, ⟨filled.1, freeHeader⟩, ⟨filled.2.1, freePayload⟩, ⟨filled.2.2, freeSignature⟩⟩

theorem read_ok {α : Type} {r : Json.Reader α} {segment : String} {a : α} :
    read r segment = .ok a ↔ Holds segment r a := by
  constructor
  · intro done
    obtain ⟨bytes, decoded, done⟩ := bind_eq_ok.1 done
    have written := (Text.Radix64.decode_ok_iff Text.Radix64.url_unpadded).1 (mapError_eq_ok.1 decoded)
    exact ⟨bytes, Text.utf8_injective (written.trans (utf8_encoded bytes).symm), mapError_eq_ok.1 done⟩
  · rintro ⟨bytes, rfl, decoded⟩
    rw [read_encoded, decoded]
    rfl

theorem read_error {α : Type} {r : Json.Reader α} {segment : String} {e : TokenError}
    (failed : read r segment = .error e) : ∃ why, e = .malformed why := by
  rcases bind_eq_error.1 failed with encoding | ⟨bytes, -, payload⟩
  · obtain ⟨cause, -, rfl⟩ := mapError_eq_error.1 encoding
    exact ⟨_, rfl⟩
  · obtain ⟨cause, -, rfl⟩ := mapError_eq_error.1 payload
    exact ⟨_, rfl⟩

/-- What is checked once a token is split. -/
theorem verifyAt_splits (key : SigningKey) (now : Instant) (splits : Splits token h p s) :
    verifyAt key token now =
      match read header h with
      | .error e => .error e
      | .ok algorithm =>
        if algorithm ≠ .hs512 then .error (.malformed .algorithm)
        else if signature key (h ++ "." ++ p) ≠ s then .error .badSignature
        else
          match read ClaimSet.reader p, read registered p with
          | .error e, _ => .error e
          | .ok _, .error e => .error e
          | .ok claims, .ok _ =>
            match claims.validateWindow now with
            | .error e => .error (.ofWindow e)
            | .ok _ => .ok claims := by
  unfold verifyAt
  rw [splits.dotted]
  simp only [splits.header.isEmpty_eq_false, splits.payload.isEmpty_eq_false,
    splits.signature.isEmpty_eq_false, Bool.false_eq_true, or_self, if_false]
  cases read Token.header h with
  | error e => rfl
  | ok algorithm =>
    simp only [Bind.bind, Except.bind]
    by_cases named : algorithm = .hs512
    · by_cases own : signature key (h ++ "." ++ p) = s
      · simp only [named, own, ne_eq, not_true_eq_false, if_false]
        cases read ClaimSet.reader p with
        | error e => rfl
        | ok claims =>
          cases read registered p with
          | error e => rfl
          | ok u =>
            simp only
            cases claims.validateWindow now with
            | error e => rfl
            | ok u => rfl
      · simp [named, own]; rfl
    · simp [named]; rfl

theorem verifyAt_unsplit (key : SigningKey) (now : Instant) (unsplit : ¬ ∃ h p s, Splits token h p s) :
    verifyAt key token now = .error (.malformed .segments) := by
  unfold verifyAt
  split
  · rename_i h p s parts
    by_cases empty : h.isEmpty ∨ p.isEmpty ∨ s.isEmpty
    · rw [if_pos empty]
      rfl
    · exact absurd ⟨h, p, s, splits_of_dotted parts empty⟩ unsplit
  · rfl

/-- Only the window decides about what the key has signed. -/
theorem Signed.verifyAt_eq (signed : Signed key token h p s claims) (now : Instant) :
    verifyAt key token now =
      match claims.validateWindow now with
      | .error e => .error (.ofWindow e)
      | .ok _ => .ok claims := by
  have own : Token.signature key (h ++ "." ++ p) = s := signed.signature.symm
  rw [verifyAt_splits key now signed.splits, read_ok.2 signed.header, read_ok.2 signed.payload,
    read_ok.2 signed.registered]
  simp only [own, ne_eq, not_true_eq_false, if_false]

/-- What the key has not signed is malformed or has a bad signature. -/
theorem verifyAt_cases (key : SigningKey) (token : String) (now : Instant) :
    (∃ h p s claims, Signed key token h p s claims) ∨
      verifyAt key token now = .error .badSignature ∨
        ∃ why, verifyAt key token now = .error (.malformed why) := by
  by_cases splits : ∃ h p s, Splits token h p s
  · obtain ⟨h, p, s, splits⟩ := splits
    rw [verifyAt_splits key now splits]
    cases header : read Token.header h with
    | error e =>
      obtain ⟨why, rfl⟩ := read_error header
      exact .inr (.inr ⟨why, rfl⟩)
    | ok algorithm =>
      by_cases other : algorithm ≠ .hs512
      · exact .inr (.inr ⟨.algorithm, if_pos other⟩)
      · simp only [other, if_false]
        by_cases foreign : signature key (h ++ "." ++ p) ≠ s
        · exact .inr (.inl (if_pos foreign))
        · simp only [foreign, if_false]
          cases payload : read ClaimSet.reader p with
          | error e =>
            obtain ⟨why, rfl⟩ := read_error payload
            exact .inr (.inr ⟨why, rfl⟩)
          | ok claims =>
            cases reserved : read registered p with
            | error e =>
              obtain ⟨why, rfl⟩ := read_error reserved
              exact .inr (.inr ⟨why, rfl⟩)
            | ok u =>
              obtain rfl := Decidable.not_not.1 other
              exact .inl ⟨h, p, s, claims, splits, read_ok.1 header,
                (Decidable.not_not.1 foreign).symm, read_ok.1 payload, read_ok.1 reserved⟩
  · exact .inr (.inr ⟨_, verifyAt_unsplit key now splits⟩)

/-- A text that is accepted, or would be at an earlier instant, was signed by the key. -/
theorem signed_of_verifyAt
    (reached : (∃ claims, verifyAt key token now = .ok claims) ∨
      verifyAt key token now = .error .expired) :
    ∃ h p s claims, Signed key token h p s claims := by
  rcases verifyAt_cases key token now with signed | forged | ⟨why, malformed⟩
  · exact signed
  · rw [forged] at reached
    simp at reached
  · rw [malformed] at reached
    simp at reached

theorem verifyAt_ok_iff (fits : now.addSeconds? ClaimSet.leeway = some latest) :
    verifyAt key token now = .ok claims ↔
      ∃ h p s, Signed key token h p s claims ∧ claims.Open now latest := by
  constructor
  · intro accepted
    obtain ⟨h, p, s, found, signed⟩ := signed_of_verifyAt (.inl ⟨claims, accepted⟩)
    rw [signed.verifyAt_eq] at accepted
    split at accepted
    · cases accepted
    · rename_i valid
      cases accepted
      exact ⟨h, p, s, signed, (ClaimSet.validateWindow_ok_iff fits).1 valid⟩
  · rintro ⟨h, p, s, signed, within⟩
    rw [signed.verifyAt_eq, (ClaimSet.validateWindow_ok_iff fits).2 within]

theorem ofWindow_eq_expired {e : WindowError} : TokenError.ofWindow e = .expired ↔ e = .expired := by
  cases e <;> simp [TokenError.ofWindow]

theorem verifyAt_expired_iff (fits : now.addSeconds? ClaimSet.leeway = some latest) :
    verifyAt key token now = .error .expired ↔
      ∃ h p s claims, Signed key token h p s claims ∧ claims.Over now latest := by
  constructor
  · intro expired
    obtain ⟨h, p, s, claims, signed⟩ := signed_of_verifyAt (.inr expired)
    rw [signed.verifyAt_eq] at expired
    split at expired
    · rename_i e invalid
      rw [ofWindow_eq_expired.1 (Except.error.inj expired)] at invalid
      exact ⟨h, p, s, claims, signed, (ClaimSet.validateWindow_expired_iff fits).1 invalid⟩
    · cases expired
  · rintro ⟨h, p, s, claims, signed, past⟩
    rw [signed.verifyAt_eq, (ClaimSet.validateWindow_expired_iff fits).2 past]
    rfl

/-- The header is looked at before the signature. -/
theorem verifyAt_other_algorithm {rest : String} {algorithm : Algorithm}
    (text : token = h ++ "." ++ rest) (free : '.' ∉ h.toList)
    (named : Holds h Token.header algorithm) (other : algorithm ≠ .hs512) :
    ∃ why, verifyAt key token now = .error (.malformed why) := by
  by_cases splits : ∃ h p s, Splits token h p s
  · obtain ⟨first, p, s, splits⟩ := splits
    have parts := splits.dotted
    have cut : token.toList = h.toList ++ '.' :: rest.toList := by
      rw [text]
      simp only [String.toList_append, List.append_assoc]
      rfl
    rw [dotted, cut, splitOnP_dot free, List.map_cons, String.ofList_toList] at parts
    obtain rfl := (List.cons.inj parts).1
    rw [verifyAt_splits key now splits, read_ok.2 named]
    exact ⟨.algorithm, if_pos other⟩
  · exact ⟨_, verifyAt_unsplit key now splits⟩

/-- The signature of a token cannot be written in any other way. -/
theorem Signed.verifyAt_resigned (signed : Signed key token h p s claims) {other : String}
    (segment : IsSegment other) (differs : other ≠ s) (now : Instant) :
    verifyAt key (h ++ "." ++ p ++ "." ++ other) now = .error .badSignature := by
  have splits : Splits (h ++ "." ++ p ++ "." ++ other) h p other :=
    ⟨rfl, signed.splits.header, signed.splits.payload, segment⟩
  have foreign : Token.signature key (h ++ "." ++ p) ≠ other := fun own =>
    differs (own.symm.trans signed.signature.symm)
  rw [verifyAt_splits key now splits, read_ok.2 signed.header]
  simp only [ne_eq, not_true_eq_false, if_false, foreign, not_false_eq_true, if_true]

/-- A text is accepted exactly when the key has signed it and the window of its claims is open. It is
    expired exactly when only the end of the window has passed, it is malformed when its header names
    another algorithm, and no other signature can take the place of its own. -/
theorem verifyAt_accepts_signed (key : SigningKey)
    (fits : now.addSeconds? ClaimSet.leeway = some latest) :
    (∀ token claims, verifyAt key token now = .ok claims ↔
      ∃ h p s, Signed key token h p s claims ∧ claims.Open now latest) ∧
    (∀ token, verifyAt key token now = .error .expired ↔
      ∃ h p s claims, Signed key token h p s claims ∧ claims.Over now latest) ∧
    (∀ h rest algorithm, '.' ∉ h.toList → Holds h header algorithm → algorithm ≠ .hs512 →
      ∀ anyKey anyTime, ∃ why, verifyAt anyKey (h ++ "." ++ rest) anyTime = .error (.malformed why)) ∧
    ∀ token h p s seen, Splits token h p s →
      ((∃ claims, verifyAt key token seen = .ok claims) ∨
        verifyAt key token seen = .error .expired) →
      ∀ other, IsSegment other → other ≠ s →
        ∀ later, verifyAt key (h ++ "." ++ p ++ "." ++ other) later = .error .badSignature := by
  refine ⟨fun token claims => verifyAt_ok_iff fits, fun token => verifyAt_expired_iff fits,
    fun h rest algorithm free named differs anyKey anyTime =>
      verifyAt_other_algorithm rfl free named differs, ?_⟩
  intro token h p s seen splits reached other segment differs later
  obtain ⟨first, second, third, claims, signed⟩ := signed_of_verifyAt reached
  obtain ⟨rfl, rfl, rfl⟩ := splits.unique signed.splits
  exact signed.verifyAt_resigned segment differs later

/-- A minted token in the first second of its window, and every other signature in its place. -/
theorem verifyAt_accepts_signed_minted :
    let key : SigningKey := ⟨[7], by decide⟩
    let claims : ClaimSet :=
      { subjectId := ⟨5⟩, loginName := "ada", displayName := "Ada \"L.\"", email := "a@e.org",
        isAdmin := true, issuedAt := { seconds := 100, nanos := 0 },
        expiresAt := { seconds := 160, nanos := 0 } }
    let now : Instant := { seconds := 70, nanos := 0 }
    let signed := segment issuedHeader ++ "." ++ segment claims.toJson.render
    now.addSeconds? ClaimSet.leeway = some { seconds := 100, nanos := 0 } ∧
      (∃ h p s, Signed key (mint key claims) h p s claims ∧
        claims.Open now { seconds := 100, nanos := 0 }) ∧
      ∀ other, IsSegment other → other ≠ signature key signed →
        ∀ later, verifyAt key (signed ++ "." ++ other) later = .error .badSignature := by
  intro key claims now signed
  have fits : now.addSeconds? ClaimSet.leeway = some { seconds := 100, nanos := 0 } := by decide
  have accepted : verifyAt key (mint key claims) now = .ok claims :=
    (verifyAt_mint_ok key claims fits).2 (by decide)
  have splits : Splits (mint key claims) (segment issuedHeader) (segment claims.toJson.render)
      (signature key signed) :=
    ⟨rfl, header_plain.isSegment, (payload_plain claims).isSegment, (signature_plain key signed).isSegment⟩
  obtain ⟨accepts, -, -, resigned⟩ := verifyAt_accepts_signed key fits
  exact ⟨fits, (accepts _ _).1 accepted, resigned _ _ _ _ now splits (.inl ⟨claims, accepted⟩)⟩

end Token

end AccountDirectory
