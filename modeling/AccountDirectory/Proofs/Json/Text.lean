import AccountDirectory.Json.Text
import AccountDirectory.Json.Value
import AccountDirectory.Proofs.Json.Reader

/-!
Strings that were written: a checked reader reads them back, whatever characters they hold, and a
reader that passes over them stops behind their closing quote.
-/

namespace AccountDirectory.Json

open AccountDirectory.Text (utf8 utf8_append utf8_ofList utf8_eq_flatMap)

/-- A byte that stands for itself inside a string. -/
def PlainByte (b : UInt8) : Prop := b ≠ byte '"' ∧ b ≠ byte '\\' ∧ ¬ b < 0x20

theorem stringBytes_plain (checked : Bool) (done : List UInt8) {bytes : List UInt8}
    (plain : ∀ b ∈ bytes, PlainByte b) (rest : List UInt8) :
    stringBytes checked .plain done (bytes ++ rest) =
      stringBytes checked .plain (bytes.reverse ++ done) rest := by
  induction bytes generalizing done with
  | nil => rfl
  | cons b bytes ih =>
    obtain ⟨notQuote, notBackslash, notControl⟩ := plain b List.mem_cons_self
    have later := ih (b :: done) fun x inside => plain x (List.mem_cons_of_mem _ inside)
    rw [List.cons_append, stringBytes]
    simp only [StringMode.step, notQuote, notBackslash, notControl, if_false]
    rw [List.reverse_singleton, List.singleton_append, later, List.reverse_cons, List.append_assoc,
      List.singleton_append]

theorem plainByte_of_high {b : UInt8} (high : 128 ≤ b.toNat) : PlainByte b := by
  refine ⟨?_, ?_, ?_⟩
  · rintro rfl
    exact absurd high (by decide)
  · rintro rfl
    exact absurd high (by decide)
  · rw [UInt8.lt_iff_toNat_lt]
    exact fun low => absurd (Nat.lt_of_le_of_lt high low) (by decide)

theorem plainByte_of_ascii {c : Char} (notQuote : c ≠ '"') (notBackslash : c ≠ '\\')
    (visible : 32 ≤ c.toNat) (ascii : c.toNat < 128) : PlainByte (UInt8.ofNat c.toNat) := by
  have value : (UInt8.ofNat c.toNat).toNat = c.toNat := by
    rw [UInt8.toNat_ofNat']
    omega
  refine ⟨fun same => notQuote ?_, fun same => notBackslash ?_, ?_⟩
  · have code : c.toNat = '"'.toNat := value.symm.trans (congrArg UInt8.toNat same)
    exact Char.toNat_inj.1 code
  · have code : c.toNat = '\\'.toNat := value.symm.trans (congrArg UInt8.toNat same)
    exact Char.toNat_inj.1 code
  · rw [UInt8.lt_iff_toNat_lt, value]
    exact Nat.not_lt.2 visible

theorem plainByte_of_char {c : Char} (notQuote : c ≠ '"') (notBackslash : c ≠ '\\')
    (visible : 32 ≤ c.toNat) : ∀ b ∈ String.utf8EncodeChar c, PlainByte b := by
  intro b member
  by_cases ascii : c.toNat < 128
  · rw [Text.utf8EncodeChar_ascii ascii, List.mem_singleton] at member
    rw [member]
    exact plainByte_of_ascii notQuote notBackslash visible ascii
  · exact plainByte_of_high (Text.high_of_mem_utf8EncodeChar (Nat.not_lt.1 ascii) member)

theorem value?_digitChar : ∀ d < 16,
    Text.Base16.value? (UInt8.ofNat (Nat.digitChar d).toNat) = some d := by decide

theorem digitChar_ascii : ∀ d < 16, (Nat.digitChar d).toNat < 128 := by decide

/-- The bytes that one written character adds to a string that is read. -/
def Adds (checked : Bool) (text : List UInt8) (added : List UInt8) : Prop :=
  ∀ done rest, stringBytes checked .plain done (text ++ rest) =
    stringBytes checked .plain (added.reverse ++ done) rest

/-- The text stands for the bytes: a checked string gains them, and a string that is passed over goes
    on behind the text. -/
def Spells (checked : Bool) (text bytes : List UInt8) : Prop :=
  ∃ added, (checked = true → added = bytes) ∧ Adds checked text added

theorem Spells.append {checked : Bool} {first later x y : List UInt8} (left : Spells checked first x)
    (right : Spells checked later y) : Spells checked (first ++ later) (x ++ y) := by
  obtain ⟨a, isFirst, addsFirst⟩ := left
  obtain ⟨b, isLater, addsLater⟩ := right
  refine ⟨a ++ b, fun yes => ?_, fun done rest => ?_⟩
  · rw [isFirst yes, isLater yes]
  · rw [List.append_assoc, addsFirst, addsLater, List.reverse_append, List.append_assoc]

theorem utf8_controlEscape {n : Nat} (control : n < 32) :
    utf8 ("\\u00" ++ String.ofList [Nat.digitChar (n / 16), Nat.digitChar (n % 16)]) =
      [byte '\\', byte 'u', byte '0', byte '0', UInt8.ofNat (Nat.digitChar (n / 16)).toNat,
        UInt8.ofNat (Nat.digitChar (n % 16)).toNat] := by
  have high := Text.utf8EncodeChar_ascii (digitChar_ascii (n / 16) (by omega))
  have low := Text.utf8EncodeChar_ascii (digitChar_ascii (n % 16) (by omega))
  have digits : utf8 (String.ofList [Nat.digitChar (n / 16), Nat.digitChar (n % 16)]) =
      [UInt8.ofNat (Nat.digitChar (n / 16)).toNat, UInt8.ofNat (Nat.digitChar (n % 16)).toNat] := by
    rw [utf8_ofList, List.flatMap_cons, List.flatMap_cons, List.flatMap_nil, high, low]
    rfl
  rw [utf8_append, digits]
  rfl

theorem adds_escape {checked : Bool} {a b : UInt8} {x y : Nat} {added : List UInt8}
    (high : Text.Base16.value? a = some x) (low : Text.Base16.value? b = some y)
    (chosen : (if checked then escapedCode none (x * 16 + y) else .ok (.add [] .plain)) =
      .ok (.add added .plain)) :
    Adds checked [byte '\\', byte 'u', byte '0', byte '0', a, b] added := by
  intro done rest
  have third : (StringMode.digits none 2 (some 0)).step checked a =
      .ok (.add [] (.digits none 1 (some x))) := by
    simp [StringMode.step, high]
  have fourth : (StringMode.digits none 1 (some x)).step checked b = .ok (.add added .plain) := by
    rw [← chosen]
    simp [StringMode.step, low]
  have opened : stringBytes checked .plain done
      ([byte '\\', byte 'u', byte '0', byte '0', a, b] ++ rest) =
      stringBytes checked (.digits none 2 (some 0)) done (a :: b :: rest) := rfl
  rw [opened, stringBytes, third]
  simp only [List.reverse_nil, List.nil_append]
  rw [stringBytes, fourth]

theorem spells_control (checked : Bool) {n : Nat} (control : n < 32) :
    Spells checked (utf8 ("\\u00" ++ String.ofList [Nat.digitChar (n / 16), Nat.digitChar (n % 16)]))
      (String.utf8EncodeChar (Char.ofNat n)) := by
  have high := value?_digitChar (n / 16) (by omega)
  have low := value?_digitChar (n % 16) (by omega)
  have code : n / 16 * 16 + n % 16 = n := by omega
  have notTrail : isTrailSurrogate n = false := by
    simp only [isTrailSurrogate, Bool.and_eq_false_iff, decide_eq_false_iff_not]
    omega
  have notLead : isLeadSurrogate n = false := by
    simp only [isLeadSurrogate, Bool.and_eq_false_iff, decide_eq_false_iff_not]
    omega
  rw [utf8_controlEscape control]
  cases checked with
  | true =>
    refine ⟨_, fun _ => rfl, adds_escape high low ?_⟩
    simp [code, escapedCode, notTrail, notLead, codePointBytes]
  | false => exact ⟨[], fun impossible => (nomatch impossible), adds_escape high low rfl⟩

theorem spells_shortEscape (checked : Bool) {c : Char}
    (short : c ∈ ['"', '\\', '\x08', '\x0c', '\n', '\r', '\t']) :
    Spells checked (utf8 (escapeChar c)) (String.utf8EncodeChar c) := by
  simp only [List.mem_cons, List.not_mem_nil, or_false] at short
  rcases short with rfl | rfl | rfl | rfl | rfl | rfl | rfl <;>
    exact ⟨_, fun _ => rfl, fun done rest => rfl⟩

theorem spells_escapeChar (checked : Bool) (c : Char) :
    Spells checked (utf8 (escapeChar c)) (String.utf8EncodeChar c) := by
  by_cases short : c ∈ ['"', '\\', '\x08', '\x0c', '\n', '\r', '\t']
  · exact spells_shortEscape checked short
  simp only [List.mem_cons, List.not_mem_nil, or_false, not_or] at short
  obtain ⟨quote, backslash, backspace, feed, newline, carriage, tab⟩ := short
  unfold escapeChar
  simp only [beq_iff_eq, quote, backslash, backspace, feed, newline, carriage, tab, if_false]
  by_cases control : c.toNat < 32
  · rw [if_pos control]
    have written := spells_control checked control
    rwa [Char.ofNat_toNat] at written
  · rw [if_neg control]
    have self : utf8 c.toString = String.utf8EncodeChar c := by
      rw [Char.toString, String.singleton_eq_ofList, utf8_ofList, List.flatMap_cons, List.flatMap_nil,
        List.append_nil]
    refine ⟨_, fun _ => rfl, fun done rest => ?_⟩
    rw [self]
    exact stringBytes_plain checked done
      (plainByte_of_char quote backslash (Nat.not_lt.1 control)) rest

theorem utf8_join (parts : List String) : utf8 (String.join parts) = parts.flatMap utf8 := by
  have joined : ∀ (parts : List String) (start : String),
      utf8 (parts.foldl (· ++ ·) start) = utf8 start ++ parts.flatMap utf8 := by
    intro parts
    induction parts with
    | nil => simp
    | cons part parts ih =>
      intro start
      rw [List.foldl_cons, ih, utf8_append, List.flatMap_cons, List.append_assoc]
  exact joined parts ""

theorem spells_escaped (checked : Bool) (chars : List Char) :
    Spells checked ((chars.map escapeChar).flatMap utf8) (chars.flatMap String.utf8EncodeChar) := by
  induction chars with
  | nil => exact ⟨[], fun _ => rfl, fun done rest => rfl⟩
  | cons c chars ih =>
    rw [List.map_cons, List.flatMap_cons, List.flatMap_cons]
    exact (spells_escapeChar checked c).append ih

/-- The bytes of a written string behind its opening quote. -/
def quotedRest (s : String) : List UInt8 :=
  (s.toList.map escapeChar).flatMap utf8 ++ [byte '"']

theorem utf8_stringText (s : String) : utf8 (stringText s) = byte '"' :: quotedRest s := by
  rw [stringText, utf8_append, utf8_append, utf8_join]
  rfl

theorem stringBytes_quotedRest (checked : Bool) (s : String) (rest : List UInt8) :
    ∃ bytes, (checked = true → bytes = utf8 s) ∧
      stringBytes checked .plain [] (quotedRest s ++ rest) = .ok bytes rest := by
  obtain ⟨added, isText, adds⟩ := spells_escaped checked s.toList
  refine ⟨added, fun yes => (isText yes).trans (utf8_eq_flatMap s).symm, ?_⟩
  rw [quotedRest, List.append_assoc, adds, List.append_nil]
  have closed : ∀ done, stringBytes checked .plain done ([byte '"'] ++ rest) = .ok done.reverse rest :=
    fun _ => rfl
  rw [closed, List.reverse_reverse]

namespace Reader

theorem string_apply (s : String) (bound : Nat) (rest : List UInt8) :
    string bound (utf8 (stringText s) ++ rest) = .ok s rest := by
  obtain ⟨bytes, isText, reads⟩ := stringBytes_quotedRest true s rest
  obtain rfl := isText rfl
  rw [utf8_stringText, List.cons_append]
  refine (bind_ok advance_apply).trans ((bind_ok reads).trans ?_)
  rw [Text.fromUTF8?_utf8]
  rfl

theorem skipString_apply (s : String) (bound : Nat) (rest : List UInt8) :
    skipString bound (utf8 (stringText s) ++ rest) = .ok () rest := by
  obtain ⟨bytes, -, reads⟩ := stringBytes_quotedRest false s rest
  rw [utf8_stringText, List.cons_append]
  exact (bind_ok advance_apply).trans (bind_ok reads)

end Reader

end AccountDirectory.Json
