import AccountDirectory.Proofs.Credential
import AccountDirectory.Proofs.Http.Asked

/-!
Credentials that may stand in for each other: a login and a check of the old credential go the same way
for any two that have the same 72 bytes counted, and every credential that is accepted has such a twin.
-/

namespace AccountDirectory

open AccountDirectory.Crypto (Salt)
open AccountDirectory.Crypto.Bcrypt (counted counted_twin counted_eq_iff)
open AccountDirectory.Text (utf8 length_utf8 utf8_append utf8_injective utf8_ofList)
open AccountDirectory.Time (Instant)

variable {a b : String}

/-- Credentials of which different bytes count, and that have one hash all the same: the cipher
    collides. -/
def Credential.Collide (salt : Salt) (a b : String) : Prop :=
  counted a ≠ counted b ∧
    Crypto.Bcrypt.hash Credential.cost salt a = Crypto.Bcrypt.hash Credential.cost salt b

theorem Credential.verify_digest_iff {salt : Salt} :
    Credential.verify (Credential.digest salt a) b = true ↔
      counted a = counted b ∨ Credential.Collide salt a b := by
  have verified : Credential.verify (Credential.digest salt a) b = true ↔
      Crypto.Bcrypt.hash Credential.cost salt b = Crypto.Bcrypt.hash Credential.cost salt a :=
    Crypto.Bcrypt.verify_digest_iff Credential.low_cost Credential.high_cost
  refine verified.trans ⟨fun same => ?_, ?_⟩
  · by_cases alike : counted a = counted b
    · exact .inl alike
    · exact .inr ⟨alike, same.symm⟩
  · rintro (alike | ⟨-, same⟩)
    · exact (Crypto.Bcrypt.hash_congr alike _ salt).symm
    · exact same.symm

/-- The digests of the empty text are refused for what they are, other texts for their length. -/
theorem Credential.looksLikeDigest_of_long {s : String} (long : 65 ≤ (utf8 s).length) :
    Credential.looksLikeDigest s = true := by
  have short : ∀ d ∈ Credential.digestsOfNothing, (utf8 d).length ≤ 64 := by decide
  have other : s ∉ Credential.digestsOfNothing := fun member => by
    have length := short s member
    omega
  have enough : Credential.minLength ≤ s.utf8ByteSize := by
    rw [← length_utf8, Credential.minLength]
    omega
  simp [Credential.looksLikeDigest, enough, other]

theorem login_congr (same : counted a = counted b) (key : Token.SigningKey) (validity : Int)
    (name : String) (now : Instant) :
    login key validity name a now = login key validity name b now := by
  have granted (record : AuthRecord) :
      grant key validity record a now = grant key validity record b now := by
    unfold grant Credential.verify
    rw [Crypto.Bcrypt.verify_congr same]
  unfold login
  simp only [granted]

namespace Http

/-- Two credentials that no stored digest, no login and no check of the old credential tells apart. -/
structure Interchangeable (a b : String) : Prop where
  verified (stored : String) : Credential.verify stored a = Credential.verify stored b
  atLogin (s : Service) {x y : Exchange} {name : String} (now : x.now = y.now)
    (left : x.request.value LoginForm.reader = .ok ⟨name, a⟩)
    (right : y.request.value LoginForm.reader = .ok ⟨name, b⟩) : s.runLogin x = s.runLogin y
  asOld (claims : ClaimSet) (id : String) {x y : Exchange} {new : String} (salt : x.salt = y.salt)
    (left : x.request.value PasswordForm.reader = .ok ⟨some a, new⟩)
    (right : y.request.value PasswordForm.reader = .ok ⟨some b, new⟩) :
    SessionAction.runChangePassword x claims id = SessionAction.runChangePassword y claims id

theorem checkOldDigest_congr (same : counted a = counted b) (id : UserId) :
    SessionAction.checkOldDigest id (some a) = SessionAction.checkOldDigest id (some b) := by
  unfold SessionAction.checkOldDigest Credential.verify
  simp only [Crypto.Bcrypt.verify_congr same]

theorem interchangeable_of_counted (same : counted a = counted b) : Interchangeable a b := by
  refine ⟨Crypto.Bcrypt.verify_congr same, ?_, ?_⟩
  · intro s x y name now left right
    unfold Service.runLogin
    rw [left, right, now, Handler.lift_ok_bind, Handler.lift_ok_bind, login_congr same]
  · intro claims id x y new salt left right
    unfold SessionAction.runChangePassword
    simp only [left, right, salt, Handler.lift_ok_bind, checkOldDigest_congr same]

/-- Up to 72 bytes all of a text without a zero character counts. -/
theorem counted_ne {a b : String} (different : a ≠ b) (cleanA : '\x00' ∉ a.toList)
    (cleanB : '\x00' ∉ b.toList) (shortA : (utf8 a).length ≤ 72) (shortB : (utf8 b).length ≤ 72) :
    counted a ≠ counted b := by
  intro same
  have starts := (counted_eq_iff cleanA cleanB).1 same
  rw [List.take_of_length_le shortA, List.take_of_length_le shortB] at starts
  exact different (utf8_injective starts)

/-- Another credential that is accepted where the first one is, and stands in for it. -/
theorem exists_twin (accepted : Credential.looksLikeDigest a = true) :
    ∃ twin, twin ≠ a ∧ Credential.looksLikeDigest twin = true ∧ Interchangeable a twin := by
  have enough : Credential.minLength ≤ (utf8 a).length := by
    rw [length_utf8]
    exact of_decide_eq_true (Bool.and_eq_true_iff.1 accepted).1
  have length : (utf8 (a ++ "\x00" ++ a)).length = 2 * (utf8 a).length + 1 := by
    have zero : (utf8 "\x00").length = 1 := by decide
    rw [utf8_append, utf8_append, List.length_append, List.length_append, zero]
    omega
  have long : Credential.minLength = 32 := rfl
  refine ⟨a ++ "\x00" ++ a, fun same => ?_, ?_, interchangeable_of_counted (counted_twin a).symm⟩
  · rw [same] at length
    omega
  · exact Credential.looksLikeDigest_of_long (by omega)

/-- Which credentials a digest tells apart. The 72 counted bytes decide, unless the cipher collides;
    credentials that have them in common go the same way through logins and changes of a password.
    Texts without a zero character are told apart within their first 72 bytes only, and each accepted
    credential has another one for its twin. -/
theorem credentials_told_apart_by_counted (a b : String) :
    (∀ salt, Credential.verify (Credential.digest salt a) b = true ↔
      counted a = counted b ∨ Credential.Collide salt a b) ∧
    (counted a = counted b → Interchangeable a b) ∧
    ('\x00' ∉ a.toList → '\x00' ∉ b.toList →
      (counted a = counted b ↔ (utf8 a).take 72 = (utf8 b).take 72) ∧
      (a ≠ b → (utf8 a).length ≤ 72 → (utf8 b).length ≤ 72 → ∀ salt,
        Credential.verify (Credential.digest salt a) b = true → Credential.Collide salt a b)) ∧
    (Credential.looksLikeDigest a = true →
      ∃ twin, twin ≠ a ∧ Credential.looksLikeDigest twin = true ∧ Interchangeable a twin) := by
  refine ⟨fun salt => Credential.verify_digest_iff, interchangeable_of_counted,
    fun cleanA cleanB => ⟨counted_eq_iff cleanA cleanB, ?_⟩, exists_twin⟩
  intro different shortA shortB salt verified
  rcases Credential.verify_digest_iff.1 verified with same | collide
  · exact absurd same (counted_ne different cleanA cleanB shortA shortB)
  · exact collide

/-- The letter `a` over and over. -/
def repeated (n : Nat) : String := String.ofList (List.replicate n 'a')

theorem utf8_repeated (n : Nat) : utf8 (repeated n) = List.replicate n 97 := by
  rw [repeated, utf8_ofList]
  induction n with
  | zero => rfl
  | succ n ih => exact congrArg (97 :: ·) ih

theorem repeated_clean (n : Nat) : '\x00' ∉ (repeated n).toList := by
  simp [repeated]

theorem repeated_accepted {n : Nat} (long : 65 ≤ n) :
    Credential.looksLikeDigest (repeated n) = true :=
  Credential.looksLikeDigest_of_long (by rwa [utf8_repeated, List.length_replicate])

theorem take_repeated {m n : Nat} (longM : 72 ≤ m) (longN : 72 ≤ n) :
    (utf8 (repeated m)).take 72 = (utf8 (repeated n)).take 72 := by
  rw [utf8_repeated, utf8_repeated, List.take_replicate, List.take_replicate, Nat.min_eq_left longM,
    Nat.min_eq_left longN]

theorem repeated_ne {m n : Nat} (different : m ≠ n) : repeated m ≠ repeated n := by
  intro same
  have length := congrArg (fun s => (utf8 s).length) same
  simp only [utf8_repeated, List.length_replicate] at length
  exact different length

theorem credentials_told_apart_by_counted_repeated :
    Interchangeable (repeated 72) (repeated 73) ∧
      ∃ twin, twin ≠ repeated 72 ∧ Credential.looksLikeDigest twin = true ∧
        Interchangeable (repeated 72) twin := by
  obtain ⟨-, stand, clean, twin⟩ := credentials_told_apart_by_counted (repeated 72) (repeated 73)
  obtain ⟨starts, -⟩ := clean (repeated_clean _) (repeated_clean _)
  exact ⟨stand (starts.2 (take_repeated (by decide) (by decide))),
    twin (repeated_accepted (by decide))⟩

/-- Two credentials that the service accepts, the second of which verifies every digest of the
    first. -/
theorem longer_credential_verifies :
    repeated 72 ≠ repeated 73 ∧ Credential.looksLikeDigest (repeated 72) = true ∧
      Credential.looksLikeDigest (repeated 73) = true ∧
      ∀ salt, Credential.verify (Credential.digest salt (repeated 72)) (repeated 73) = true := by
  have same : counted (repeated 72) = counted (repeated 73) :=
    (counted_eq_iff (repeated_clean _) (repeated_clean _)).2
      (take_repeated (by decide) (by decide))
  exact ⟨repeated_ne (by decide), repeated_accepted (by decide), repeated_accepted (by decide),
    fun salt => Credential.verify_digest_iff.2 (.inl same)⟩

end Http

end AccountDirectory
