import AccountDirectory.Proofs.Crypto.Key
import AccountDirectory.Proofs.Login
import AccountDirectory.Proofs.Store.Alike

/-!
Credentials: a digest has one shape and verifies its own secret, another salt makes another digest,
and a text that has not the form of a digest verifies nothing, the fast digest of a password among
them.
-/

namespace AccountDirectory

open AccountDirectory.Crypto (Salt)
open AccountDirectory.Crypto.Bcrypt (Form Stored)
open AccountDirectory.Interaction (Asked)
open AccountDirectory.Store (Call)
open AccountDirectory.Text (utf8)
open AccountDirectory.Time (Instant)

namespace Credential

section

variable {salt other : Salt} {secret password candidate : String}

theorem low_cost : 4 ≤ cost := by decide

theorem high_cost : cost < 32 := by decide

theorem digest_begins (salt : Salt) (secret : String) :
    "$2b$04$".toList <+: (digest salt secret).toList := by
  refine ⟨(Crypto.Bcrypt.made cost salt secret).text, ?_⟩
  rw [digest, Crypto.Bcrypt.toList_digest]
  rfl

theorem digest_spaceless (salt : Salt) (secret : String) : ' ' ∉ (digest salt secret).toList := by
  have digits : Crypto.Bcrypt.costText cost = ['0', '4'] := rfl
  rw [digest, Crypto.Bcrypt.toList_digest, digits]
  simp [Stored.text_spaceless]

theorem length_digest (salt : Salt) (secret : String) : (digest salt secret).length = 60 := by
  have text : (Crypto.Bcrypt.made cost salt secret).text.length = 53 :=
    Stored.length_text (Crypto.Bcrypt.length_hash cost salt secret)
  have digits : Crypto.Bcrypt.costText cost = ['0', '4'] := rfl
  rw [← String.length_toList, digest, Crypto.Bcrypt.toList_digest, digits]
  simp [text]

theorem verify_digest (salt : Salt) (secret : String) :
    verify (digest salt secret) secret = true :=
  Crypto.Bcrypt.verify_digest low_cost high_cost salt secret

theorem digest_ne (different : other ≠ salt) : digest other secret ≠ digest salt secret :=
  fun same => different (Crypto.Bcrypt.salt_eq_of_digest_eq low_cost high_cost same)

theorem fastDigest_plain (password : String) : '$' ∉ (fastDigest password).toList := by
  have plain : ∀ d < 16, Nat.digitChar d ≠ '$' := by decide
  intro member
  simp only [fastDigest, Text.Base16.encode, String.toList_ofList, List.mem_flatMap, List.mem_cons,
    List.not_mem_nil, or_false] at member
  obtain ⟨b, -, same | same⟩ := member
  · exact plain _ (Nat.mod_lt _ (by decide)) same.symm
  · exact plain _ (Nat.mod_lt _ (by decide)) same.symm

theorem fastDigest_no_form (password : String) (s : Stored) : ¬ Form (fastDigest password) s :=
  fun form => fastDigest_plain password form.dollar_mem

theorem verify_fastDigest (password candidate : String) :
    verify (fastDigest password) candidate = false :=
  Crypto.Bcrypt.verify_of_no_form (fastDigest_no_form password)

/-- A login that ends well has loaded a digest that its candidate verifies. -/
theorem verified_of_login {key : Token.SigningKey} {validity : Int} {name : String} {now : Instant}
    {asked : List (Asked Call StoreError)} {issued : IssuedToken} {id : UserId} {record : AuthRecord}
    (ends : (login key validity name candidate now).run.Ends asked (.ok issued))
    (loaded : ⟨.loadAuthRecord id, .ok record⟩ ∈ asked) :
    verify record.credentialDigest candidate = true := by
  have course := ends_login.1 ends
  generalize outcome : (Except.ok issued : Except LoginError IssuedToken) = result at course
  cases course with
  | unknown | unsearched | unloaded => cases outcome
  | judged found judged =>
    rcases List.mem_cons.1 loaded with same | later
    · have loads := congrArg (fun one : Asked Call StoreError => one.question.loads) same
      cases loads
    · cases List.mem_singleton.1 later
      exact (grant_ok.1 outcome.symm).2.2.1

end

/-- What a digest and its verification promise each other: every digest has one shape and verifies its
    secret, salts tell digests apart, and what verifies has the form of a digest and the hash of the
    candidate. A fast digest that is stored in place of a digest lets nobody in. -/
theorem digests_verify_nothing_else_does (salt : Salt) (secret : String) :
    ((digest salt secret).length = 60 ∧ "$2b$04$".toList <+: (digest salt secret).toList ∧
      verify (digest salt secret) secret = true) ∧
    (∀ other, other ≠ salt →
      digest other secret ≠ digest salt secret ∧ verify (digest other secret) secret = true) ∧
    (∀ stored candidate, verify stored candidate = true ↔
      ∃ s, Form stored s ∧ Crypto.Bcrypt.hash s.cost s.salt candidate = s.hash) ∧
    (∀ stored, (∀ s, ¬ Form stored s) → ∀ candidate, verify stored candidate = false) ∧
    (∀ password, (∀ s, ¬ Form (fastDigest password) s) ∧
      ∀ candidate, verify (fastDigest password) candidate = false) ∧
    (∀ (key : Token.SigningKey) (validity : Int) (name candidate : String) (now : Instant)
      (asked : List (Asked Call StoreError)) (issued : IssuedToken) (id : UserId)
      (record : AuthRecord),
      (login key validity name candidate now).run.Ends asked (.ok issued) →
      ⟨.loadAuthRecord id, .ok record⟩ ∈ asked →
      ∀ password, record.credentialDigest ≠ fastDigest password) := by
  refine ⟨⟨length_digest salt secret, digest_begins salt secret, verify_digest salt secret⟩,
    fun other different => ⟨digest_ne different, verify_digest other secret⟩,
    fun stored candidate => Crypto.Bcrypt.verify_iff,
    fun stored unformed candidate => Crypto.Bcrypt.verify_of_no_form unformed,
    fun password => ⟨fastDigest_no_form password, verify_fastDigest password⟩, ?_⟩
  intro key validity name candidate now asked issued id record ends loaded password fast
  have verified := verified_of_login ends loaded
  rw [fast, verify_fastDigest] at verified
  cases verified

/-- Two salts for the empty secret and for one that is not ASCII, with which an account logs in. -/
theorem digests_verify_nothing_else_does_two_salts :
    let salt : Salt := ⟨List.replicate 16 0, rfl⟩
    let other : Salt := ⟨List.replicate 16 1, rfl⟩
    let secret := "grüne Türe"
    let key : Token.SigningKey := ⟨[7], by decide⟩
    let now : Instant := { seconds := 1000, nanos := 5 }
    let record : AuthRecord :=
      { id := ⟨7⟩, loginName := "bob", displayName := "Bobby", email := "bob@e.org",
        credentialDigest := digest salt secret, isAdmin := false, isLocked := false,
        isActive := true, badCredentialCount := 0 }
    let claims := record.claims now.floor { seconds := 4600, nanos := 0 }
    other ≠ salt ∧
      (digest other "" ≠ digest salt "" ∧ verify (digest salt "") "" = true ∧
        verify (digest other "") "" = true ∧ verify (fastDigest "") (fastDigest "") = false) ∧
      (digest other secret ≠ digest salt secret ∧ verify (digest salt secret) secret = true ∧
        verify (digest other secret) secret = true) ∧
      (login key 3600 "bob" secret now).run.Ends
        [⟨.findIdByLoginName "bob", .ok ⟨7⟩⟩, ⟨.loadAuthRecord ⟨7⟩, .ok record⟩]
        (.ok { token := Token.mint key claims, claims }) ∧
      ∀ password, record.credentialDigest ≠ fastDigest password := by
  intro salt other secret key now record claims
  have different : other ≠ salt := by decide
  obtain ⟨⟨-, -, own⟩, others, -, -, fast, -⟩ := digests_verify_nothing_else_does salt ""
  obtain ⟨⟨-, -, ownSecret⟩, othersSecret, -, -, -, loggedIn⟩ :=
    digests_verify_nothing_else_does salt secret
  obtain ⟨apart, again⟩ := others other different
  have ends : (Instant.floor { seconds := 1000, nanos := 5 }).addSeconds? 3600 =
      some { seconds := 4600, nanos := 0 } := by decide
  have entered : (login key 3600 "bob" secret now).run.Ends
      [⟨.findIdByLoginName "bob", .ok ⟨7⟩⟩, ⟨.loadAuthRecord ⟨7⟩, .ok record⟩]
      (.ok { token := Token.mint key claims, claims }) :=
    ends_login.2 ((LoginCourse.ok_iff ends).2 ⟨⟨7⟩, record, rfl, rfl, rfl, ownSecret, rfl, rfl⟩)
  exact ⟨different, ⟨apart, own, again, (fast "").2 _⟩,
    ⟨(othersSecret other different).1, ownSecret, (othersSecret other different).2⟩, entered,
    loggedIn key 3600 "bob" secret now _ _ ⟨7⟩ record entered
      (List.mem_cons_of_mem _ (List.mem_singleton.2 rfl))⟩

end Credential

end AccountDirectory
