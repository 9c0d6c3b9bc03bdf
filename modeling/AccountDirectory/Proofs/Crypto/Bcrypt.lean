import AccountDirectory.Credential
import AccountDirectory.Proofs.Outcome
import AccountDirectory.Proofs.Text.Bytes
import AccountDirectory.Proofs.Text.Canonical
import AccountDirectory.Proofs.Text.Numeral

/-!
Salted digests: the texts that can be read as one, and that the text of a digest is read as the cost,
the salt and the hash that it was made of, so that its own secret verifies.
-/

namespace AccountDirectory

open AccountDirectory.Text (utf8 utf8_ofAscii utf8_injective)

namespace Crypto.Bcrypt

section

variable {l part rest : List Char}

/-- The parts of a text between its dollar signs, without the empty ones. -/
def cut (l : List Char) : List (List Char) :=
  (l.splitOnP (· == '$')).filter fun part => !part.isEmpty

def dollars (n : Nat) : List Char := List.replicate n '$'

/-- All that follows about parts comes from this: nothing reaches across a dollar sign. -/
theorem cut_append_dollar (l later : List Char) : cut (l ++ '$' :: later) = cut l ++ cut later := by
  unfold cut
  rw [List.splitOnP_append_cons l later rfl, List.filter_append]

@[simp]
theorem cut_nil : cut [] = [] := rfl

@[simp]
theorem cut_dollar (later : List Char) : cut ('$' :: later) = cut later :=
  cut_append_dollar [] later

@[simp]
theorem cut_dollars (n : Nat) (later : List Char) : cut (dollars n ++ later) = cut later := by
  induction n with
  | zero => rfl
  | succ n ih => exact (cut_dollar _).trans ih

theorem cut_only_dollars (n : Nat) : cut (dollars n) = [] := by
  have nothing := cut_dollars n []
  rwa [List.append_nil] at nothing

theorem cut_plain (filled : part ≠ []) (plain : '$' ∉ part) : cut part = [part] := by
  have noDollar : ∀ c ∈ part, (c == '$') = false := fun c member =>
    beq_eq_false_iff_ne.2 fun same => plain (same ▸ member)
  unfold cut
  rw [List.splitOnP_eq_singleton noDollar]
  simp [filled]

/-- What may follow a part: nothing, or a dollar sign first. -/
def Ends (rest : List Char) : Prop := rest = [] ∨ ∃ later, rest = '$' :: later

theorem ends_dollars : (n : Nat) → Ends (dollars n)
  | 0 => .inl rfl
  | n + 1 => .inr ⟨dollars n, rfl⟩

theorem ends_append (n : Nat) (later : List Char) : Ends (dollars (n + 1) ++ later) :=
  .inr ⟨dollars n ++ later, rfl⟩

theorem cut_part (filled : part ≠ []) (plain : '$' ∉ part) (ends : Ends rest) :
    cut (part ++ rest) = part :: cut rest := by
  obtain rfl | ⟨later, rfl⟩ := ends
  · rw [List.append_nil, cut_plain filled plain, cut_nil]
  · rw [cut_append_dollar, cut_plain filled plain, cut_dollar]
    rfl

/-- A text has dollar signs only, or a first part that goes on to the next of them. -/
theorem exists_first_part (l : List Char) :
    ∃ n, l = dollars n ∨
      ∃ part rest, l = dollars n ++ (part ++ rest) ∧ part ≠ [] ∧ '$' ∉ part ∧ Ends rest := by
  induction l with
  | nil => exact ⟨0, .inl rfl⟩
  | cons c tail ih =>
    by_cases dollar : c = '$'
    · subst dollar
      obtain ⟨n, only | ⟨part, rest, same, found⟩⟩ := ih
      · exact ⟨n + 1, .inl (congrArg ('$' :: ·) only)⟩
      · exact ⟨n + 1, .inr ⟨part, rest, congrArg ('$' :: ·) same, found⟩⟩
    · refine ⟨0, .inr ?_⟩
      by_cases member : '$' ∈ c :: tail
      · obtain ⟨part, later, same, plain⟩ := List.eq_append_cons_of_mem member
        have filled : part ≠ [] := by
          rintro rfl
          exact dollar (List.cons.inj same).1
        exact ⟨part, '$' :: later, same, filled, plain, .inr ⟨later, rfl⟩⟩
      · exact ⟨c :: tail, [], (List.append_nil _).symm, List.cons_ne_nil c tail, member, .inl rfl⟩

theorem exists_of_cut_cons {parts : List (List Char)} (cuts : cut l = part :: parts) :
    ∃ n rest, l = dollars n ++ (part ++ rest) ∧ '$' ∉ part ∧ part ≠ [] ∧ Ends rest ∧
      cut rest = parts := by
  obtain ⟨n, rfl | ⟨first, rest, rfl, filled, plain, ends⟩⟩ := exists_first_part l
  · cases (cut_only_dollars n).symm.trans cuts
  · rw [cut_dollars, cut_part filled plain ends] at cuts
    cases cuts
    exact ⟨n, rest, rfl, plain, filled, ends, rfl⟩

theorem exists_of_cut_nil (cuts : cut l = []) : ∃ n, l = dollars n := by
  obtain ⟨n, only | ⟨first, rest, rfl, filled, plain, ends⟩⟩ := exists_first_part l
  · exact ⟨n, only⟩
  · rw [cut_dollars, cut_part filled plain ends] at cuts
    cases cuts

/-- Before a part, only a dollar sign can end another one. -/
theorem Ends.dollars_succ {n : Nat} (ends : Ends (dollars n ++ (part ++ rest)))
    (filled : part ≠ []) (plain : '$' ∉ part) : ∃ m, n = m + 1 := by
  cases n with
  | succ m => exact ⟨m, rfl⟩
  | zero =>
    obtain ⟨c, tail, rfl⟩ := List.exists_cons_of_ne_nil filled
    rcases ends with nothing | ⟨later, same⟩
    · cases nothing
    · cases same
      exact absurd List.mem_cons_self plain

end

section

variable {stored secret : String} {s : Stored}

namespace Stored

/-- The symbols of the salt and the hash. -/
def symbols (s : Stored) : List UInt8 :=
  Text.Radix64.encode .digest s.salt.bytes ++ Text.Radix64.encode .digest s.hash

def text (s : Stored) : List Char := (Text.ofAscii s.symbols).toList

theorem length_salt_symbols (salt : Salt) : (Text.Radix64.encode .digest salt.bytes).length = 22 := by
  rw [Text.Radix64.length_encode, salt.length_bytes]

theorem length_hash_symbols (hashed : s.hash.length = 23) :
    (Text.Radix64.encode .digest s.hash).length = 31 := by
  rw [Text.Radix64.length_encode, hashed]

theorem length_symbols (hashed : s.hash.length = 23) : s.symbols.length = 53 := by
  rw [symbols, List.length_append, length_salt_symbols, length_hash_symbols hashed]

theorem symbol_of_mem {b : UInt8} (member : b ∈ s.symbols) :
    b ∈ Text.Alphabet.digest.symbols := by
  rcases List.mem_append.1 member with inside | inside
  · exact Text.Radix64.mem_encode inside
  · exact Text.Radix64.mem_encode inside

theorem utf8_text : utf8 (String.ofList s.text) = s.symbols := by
  have ascii : ∀ b ∈ Text.Alphabet.digest.symbols, b.toNat < 128 := by decide +kernel
  rw [text, String.ofList_toList]
  exact utf8_ofAscii fun b member => ascii b (symbol_of_mem member)

theorem length_text (hashed : s.hash.length = 23) : s.text.length = 53 := by
  simp [text, Text.ofAscii, length_symbols hashed]

theorem text_filled (hashed : s.hash.length = 23) : s.text ≠ [] :=
  List.ne_nil_of_length_eq_add_one (length_text hashed)

theorem symbol_of_mem_text {c : Char} (member : c ∈ s.text) :
    ∃ b ∈ Text.Alphabet.digest.symbols, Char.ofNat b.toNat = c := by
  simp only [text, Text.ofAscii, String.toList_ofList, List.mem_map] at member
  obtain ⟨b, inside, same⟩ := member
  exact ⟨b, symbol_of_mem inside, same⟩

theorem text_plain : '$' ∉ s.text := by
  have plain : ∀ b ∈ Text.Alphabet.digest.symbols, Char.ofNat b.toNat ≠ '$' := by decide +kernel
  intro member
  obtain ⟨b, inside, same⟩ := symbol_of_mem_text member
  exact plain b inside same

theorem text_spaceless : ' ' ∉ s.text := by
  have plain : ∀ b ∈ Text.Alphabet.digest.symbols, Char.ofNat b.toNat ≠ ' ' := by decide +kernel
  intro member
  obtain ⟨b, inside, same⟩ := symbol_of_mem_text member
  exact plain b inside same

end Stored

/-- The versions of the scheme that a digest may name. -/
def versions : List (List Char) := [['2', 'a'], ['2', 'b'], ['2', 'x'], ['2', 'y']]

/-- The form of a stored digest: a version, a cost from 4 to 31 and the 53 symbols of a salt and a
    hash of 23 bytes, with dollar signs between them and any number of them around. -/
structure Form (stored : String) (s : Stored) : Prop where
  hashed : s.hash.length = 23
  cost : 4 ≤ s.cost ∧ s.cost ≤ 31
  written : ∃ before between after later version cost, version ∈ versions ∧
    Numeral.Spells cost s.cost ∧
    stored.toList = dollars before ++ (version ++ (dollars (between + 1) ++
      (cost ++ (dollars (after + 1) ++ (s.text ++ dollars later)))))

theorem version_plain : ∀ version ∈ versions, version ≠ [] ∧ '$' ∉ version := by
  decide

theorem cost_plain {text : List Char} {n : Nat} (spells : Numeral.Spells text n) :
    text ≠ [] ∧ '$' ∉ text := by
  obtain ⟨chars, rfl | rfl, filled, isDigit, -⟩ := spells
  · exact ⟨filled, fun member => absurd (isDigit _ member) (by decide)⟩
  · refine ⟨List.cons_ne_nil _ _, fun member => ?_⟩
    rcases List.mem_cons.1 member with same | inside
    · exact absurd same (by decide)
    · exact absurd (isDigit _ inside) (by decide)

theorem decode?_eq_some {symbols bytes : List UInt8} :
    decode? symbols = some bytes ↔ symbols = Text.Radix64.encode .digest bytes :=
  toOption_eq_some.trans (Text.Radix64.decode_ok_iff Text.Radix64.digest_unpadded)

theorem cost_eq_some {text : List Char} {n : Nat} :
    (Numeral.natural 0xffffffff (String.ofList text)).toOption = some n ↔
      Numeral.Spells text n ∧ n ≤ 0xffffffff := by
  rw [toOption_eq_some, Numeral.natural_ok_iff, String.toList_ofList]

theorem version_known {version : List Char} :
    ([['2', 'a'], ['2', 'b'], ['2', 'x'], ['2', 'y']].contains version = true) ↔
      version ∈ versions := List.contains_iff_mem

theorem parse?_of_cut {version cost rest : List Char}
    (cuts : cut stored.toList = [version, cost, rest]) :
    Stored.parse? stored = some s ↔
      version ∈ versions ∧ Numeral.Spells cost s.cost ∧ (4 ≤ s.cost ∧ s.cost ≤ 31) ∧
        s.hash.length = 23 ∧ rest = s.text := by
  have three : parts stored = [version, cost, rest] := cuts
  unfold Stored.parse?
  rw [three]
  refine guard_bind_eq_some.trans (and_congr version_known ?_)
  constructor
  · intro read
    obtain ⟨n, spelled, read⟩ := Option.bind_eq_some_iff.1 read
    obtain ⟨bounds, read⟩ := guard_bind_eq_some.1 read
    obtain ⟨long, read⟩ := guard_bind_eq_some.1 read
    obtain ⟨salt, saltRead, read⟩ := Option.bind_eq_some_iff.1 read
    obtain ⟨hash, hashRead, read⟩ := Option.bind_eq_some_iff.1 read
    rw [decode?_eq_some] at saltRead hashRead
    split at read
    · rename_i salted
      cases read
      have whole : utf8 (String.ofList rest) =
          Text.Radix64.encode .digest salt ++ Text.Radix64.encode .digest hash := by
        rw [← saltRead, ← hashRead, List.take_append_drop]
      have hashed : hash.length = 23 := by
        rw [whole, List.length_append, Text.Radix64.length_encode, Text.Radix64.length_encode,
          salted] at long
        omega
      refine ⟨(cost_eq_some.1 spelled).1, bounds, hashed, ?_⟩
      have same : utf8 (String.ofList rest) =
          utf8 (String.ofList (Stored.text ⟨n, ⟨salt, salted⟩, hash⟩)) := by
        rw [Stored.utf8_text]
        exact whole
      exact String.ofList_injective (utf8_injective same)
    · cases read
  · rintro ⟨spelled, bounds, hashed, rfl⟩
    refine Option.bind_eq_some_iff.2 ⟨s.cost, cost_eq_some.2 ⟨spelled, by omega⟩, ?_⟩
    rw [Stored.utf8_text]
    refine guard_bind_eq_some.2 ⟨bounds, guard_bind_eq_some.2 ⟨Stored.length_symbols hashed, ?_⟩⟩
    have saltPart : s.symbols.take 22 = Text.Radix64.encode .digest s.salt.bytes :=
      List.take_left' (Stored.length_salt_symbols s.salt)
    have hashPart : s.symbols.drop 22 = Text.Radix64.encode .digest s.hash :=
      List.drop_left' (Stored.length_salt_symbols s.salt)
    refine Option.bind_eq_some_iff.2 ⟨s.salt.bytes, decode?_eq_some.2 saltPart, ?_⟩
    refine Option.bind_eq_some_iff.2 ⟨s.hash, decode?_eq_some.2 hashPart, ?_⟩
    exact dif_pos s.salt.length_bytes

theorem exists_cut_of_parse? (read : Stored.parse? stored = some s) :
    ∃ version cost rest, cut stored.toList = [version, cost, rest] := by
  unfold Stored.parse? at read
  split at read
  · rename_i version cost rest three
    exact ⟨version, cost, rest, three⟩
  · cases read

/-- A text is read as a digest exactly when it has the form of one. -/
theorem parse?_eq_some_iff : Stored.parse? stored = some s ↔ Form stored s := by
  constructor
  · intro read
    obtain ⟨version, cost, rest, cuts⟩ := exists_cut_of_parse? read
    obtain ⟨known, spelled, bounds, hashed, rfl⟩ := (parse?_of_cut cuts).1 read
    -- each part is found in turn, in what is left after the part before it
    obtain ⟨before, afterVersion, written, -, -, endsVersion, cutsCost⟩ := exists_of_cut_cons cuts
    obtain ⟨between, afterCost, rfl, plain, filled, endsCost, cutsText⟩ := exists_of_cut_cons cutsCost
    obtain ⟨between, rfl⟩ := endsVersion.dollars_succ filled plain
    obtain ⟨after, afterText, rfl, plain, filled, -, cutsLast⟩ := exists_of_cut_cons cutsText
    obtain ⟨after, rfl⟩ := endsCost.dollars_succ filled plain
    obtain ⟨later, rfl⟩ := exists_of_cut_nil cutsLast
    exact ⟨hashed, bounds, before, between, after, later, version, cost, known, spelled, written⟩
  · rintro ⟨hashed, bounds, before, between, after, later, version, cost, known, spelled, written⟩
    obtain ⟨versionFilled, versionPlain⟩ := version_plain version known
    obtain ⟨costFilled, costPlain⟩ := cost_plain spelled
    have cuts : cut stored.toList = [version, cost, s.text] := by
      rw [written, cut_dollars, cut_part versionFilled versionPlain (ends_append _ _), cut_dollars,
        cut_part costFilled costPlain (ends_append _ _), cut_dollars,
        cut_part (Stored.text_filled hashed) Stored.text_plain (ends_dollars _), cut_only_dollars]
    exact (parse?_of_cut cuts).2 ⟨known, spelled, bounds, hashed, rfl⟩

theorem verify_iff :
    verify stored secret = true ↔ ∃ s, Form stored s ∧ hash s.cost s.salt secret = s.hash := by
  unfold verify
  split
  · rename_i s read
    rw [beq_iff_eq]
    constructor
    · intro same
      exact ⟨s, parse?_eq_some_iff.1 read, same⟩
    · rintro ⟨other, form, same⟩
      cases read.symm.trans (parse?_eq_some_iff.2 form)
      exact same
  · rename_i unread
    constructor
    · intro verified
      cases verified
    · rintro ⟨s, form, -⟩
      cases unread.symm.trans (parse?_eq_some_iff.2 form)

theorem verify_of_no_form (unformed : ∀ s, ¬ Form stored s) : verify stored secret = false := by
  refine Bool.eq_false_iff.2 fun verified => ?_
  obtain ⟨s, form, -⟩ := verify_iff.1 verified
  exact unformed s form

theorem Form.dollar_mem (form : Form stored s) : '$' ∈ stored.toList := by
  obtain ⟨-, -, before, between, after, later, version, cost, -, -, written⟩ := form
  have inside : '$' ∈ dollars (between + 1) := List.mem_cons_self
  rw [written]
  simp only [List.mem_append, inside, true_or, or_true]

end

section

variable {cost : Nat} {salt : Salt} {secret : String}

theorem length_hash (cost : Nat) (salt : Salt) (secret : String) :
    (hash cost salt secret).length = 23 := by
  simp [hash, wordBytes]

/-- The digits of a cost. -/
def costText (cost : Nat) : List Char :=
  (if cost < 10 then ['0'] else []) ++ (toString cost).toList

theorem spells_costText (cost : Nat) : Numeral.Spells (costText cost) cost := by
  have spells := Numeral.spells_toString cost
  have zero : '0'.isDigit = true := rfl
  refine ⟨costText cost, .inl rfl, ?_, ?_, ?_⟩
  · exact List.append_ne_nil_of_right_ne_nil _ (Numeral.toList_toString_ne_nil cost)
  · intro c member
    rcases List.mem_append.1 member with inside | inside
    · split at inside
      · rw [List.mem_singleton.1 inside]
        exact zero
      · cases inside
    · exact Numeral.isDigit_of_mem_toString cost c inside
  · unfold costText
    split
    · exact Numeral.value_toString cost
    · exact Numeral.value_toString cost

/-- What a digest is made of. -/
def made (cost : Nat) (salt : Salt) (secret : String) : Stored :=
  { cost, salt, hash := hash cost salt secret }

theorem toList_digest (cost : Nat) (salt : Salt) (secret : String) :
    (digest cost salt secret).toList =
      ['$', '2', 'b', '$'] ++ (costText cost ++ ('$' :: (made cost salt secret).text)) := by
  have zero : (if cost < 10 then "0" else "").toList = if cost < 10 then ['0'] else [] := by
    split <;> rfl
  simp only [digest, String.toList_append, zero, costText, Stored.text, Stored.symbols, Text.ofAscii,
    made, String.toList_ofList, List.append_assoc]
  rfl

theorem form_digest (low : 4 ≤ cost) (high : cost < 32) (salt : Salt) (secret : String) :
    Form (digest cost salt secret) (made cost salt secret) := by
  refine ⟨length_hash cost salt secret, ⟨low, Nat.le_of_lt_succ high⟩, 1, 0, 0, 0, ['2', 'b'],
    costText cost, ?_, spells_costText cost, ?_⟩
  · exact List.mem_cons_of_mem _ List.mem_cons_self
  · rw [toList_digest]
    simp [dollars]

theorem parse?_digest (low : 4 ≤ cost) (high : cost < 32) (salt : Salt) (secret : String) :
    Stored.parse? (digest cost salt secret) =
      some { cost, salt, hash := hash cost salt secret } :=
  parse?_eq_some_iff.2 (form_digest low high salt secret)

theorem verify_digest_iff {candidate : String} (low : 4 ≤ cost) (high : cost < 32) :
    verify (digest cost salt secret) candidate = true ↔
      hash cost salt candidate = hash cost salt secret := by
  unfold verify
  rw [parse?_digest low high]
  exact beq_iff_eq

theorem verify_digest (low : 4 ≤ cost) (high : cost < 32) (salt : Salt) (secret : String) :
    verify (digest cost salt secret) secret = true :=
  (verify_digest_iff low high).2 rfl

theorem salt_eq_of_digest_eq {other : Salt} {candidate : String} (low : 4 ≤ cost) (high : cost < 32)
    (same : digest cost salt secret = digest cost other candidate) : salt = other := by
  have read := parse?_digest low high salt secret
  rw [same, parse?_digest low high] at read
  exact (congrArg Stored.salt (Option.some.inj read)).symm

end

end Crypto.Bcrypt

end AccountDirectory
