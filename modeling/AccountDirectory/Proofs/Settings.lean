import AccountDirectory.Proofs.Outcome
import AccountDirectory.Proofs.Text.Bytes
import AccountDirectory.Proofs.Text.Numeral
import AccountDirectory.Settings

/-!
Which named values are accepted as settings, what the settings are then, and which fault decides when
they are not.
-/

namespace AccountDirectory.Settings

open Numeral (Denotes Spells)
open Text (isAllBlank trim utf8)

variable {lookup : String → Option String} {settings : Settings} {s : Setting} {value raw : String}
  {limit n : Nat} {e : SettingsError}

/-- A value that is not blank. -/
def Given (lookup : String → Option String) (s : Setting) (raw : String) : Prop :=
  lookup s.name = some raw ∧ isAllBlank raw = false

/-- There is no value, or a blank one. -/
def Unset (lookup : String → Option String) (s : Setting) : Prop :=
  ∀ raw, lookup s.name = some raw → isAllBlank raw = true

/-- A positive number up to a limit, with white space around or none. -/
def GivesNumber (lookup : String → Option String) (s : Setting) (limit n : Nat) : Prop :=
  ∃ raw, Given lookup s raw ∧ Spells (trim raw).toList n ∧ 1 ≤ n ∧ n ≤ limit

def GivesAddress (lookup : String → Option String) (ip : IpAddress) : Prop :=
  ∃ raw, Given lookup .listenIp raw ∧ IpAddress.parse? (trim raw) = some ip

/-- A value with one character or more, white space not excepted. -/
def Kept (lookup : String → Option String) (s : Setting) (value : String) : Prop :=
  lookup s.name = some value ∧ value ≠ ""

section

theorem Given.unique {other : String} (one : Given lookup s raw) (two : Given lookup s other) :
    raw = other :=
  Option.some.inj (one.1.symm.trans two.1)

theorem Given.not_unset (given : Given lookup s raw) : ¬ Unset lookup s := by
  intro unset
  have blank := unset raw given.1
  rw [given.2] at blank
  cases blank

theorem Unset.not_given (unset : Unset lookup s) : ¬ Given lookup s raw :=
  fun given => given.not_unset unset

theorem Unset.gives_none (unset : Unset lookup s) : ¬ GivesNumber lookup s limit n :=
  fun ⟨_, given, _⟩ => unset.not_given given

theorem Given.gives_iff (given : Given lookup s raw) :
    GivesNumber lookup s limit n ↔ Spells (trim raw).toList n ∧ 1 ≤ n ∧ n ≤ limit := by
  constructor
  · rintro ⟨other, givenToo, number⟩
    obtain rfl := givenToo.unique given
    exact number
  · intro number
    exact ⟨raw, given, number⟩

theorem filled?_eq_some_iff : filled? lookup s = some raw ↔ Given lookup s raw := by
  simp [filled?, Given, Option.filter_eq_some_iff]

theorem filled?_eq_none_iff : filled? lookup s = none ↔ Unset lookup s := by
  simp [filled?, Unset, Option.filter_eq_none_iff]

theorem nonempty_ok_iff : nonempty lookup s = .ok value ↔ Kept lookup s value := by
  have found : (lookup s.name).filter (fun v => !v.isEmpty) = some value ↔ Kept lookup s value := by
    simp [Option.filter_eq_some_iff, Kept]
  unfold nonempty
  rw [← found]
  split
  · rename_i kept
    simp [kept]
  · rename_i none
    simp [none]

theorem nonempty_error_iff :
    nonempty lookup s = .error e ↔ (∀ v, ¬ Kept lookup s v) ∧ e = .missing s := by
  have refused : (∃ f, nonempty lookup s = .error f) ↔ ∀ v, ¬ Kept lookup s v := by
    simp only [exists_error_iff, ne_eq, nonempty_ok_iff]
  rw [← refused]
  unfold nonempty
  split
  · simp
  · simp [eq_comm]

end

/-- Why the value of a setting is refused. -/
inductive Refused (lookup : String → Option String) : Setting → SettingsError → Prop where
  | notAPort {raw : String} (given : Given lookup .port raw)
      (other : ∀ n ≤ 65535, ¬ Spells (trim raw).toList n) :
      Refused lookup .port (.invalid .port (.notAPort raw))
  | portZero {raw : String} (given : Given lookup .port raw) (zero : Spells (trim raw).toList 0) :
      Refused lookup .port (.invalid .port .portZero)
  | notAnAddress {raw : String} (given : Given lookup .listenIp raw)
      (other : IpAddress.parse? (trim raw) = none) :
      Refused lookup .listenIp (.invalid .listenIp .notAnAddress)
  | noUrl (unset : Unset lookup .databaseUrl) : Refused lookup .databaseUrl (.missing .databaseUrl)
  | notPositive {raw : String} (given : Given lookup .maxConnections raw)
      (other : ∀ n, 1 ≤ n → n ≤ 4294967295 → ¬ Spells (trim raw).toList n) :
      Refused lookup .maxConnections (.invalid .maxConnections (.notPositive raw))
  | noSecret (empty : ∀ v, ¬ Kept lookup .tokenSecret v) :
      Refused lookup .tokenSecret (.missing .tokenSecret)
  | notAnInteger {raw : String} (given : Given lookup .tokenMinutes raw)
      (other : ∀ v : Int, -9223372036854775808 ≤ v → v ≤ 9223372036854775807 →
        ¬ Denotes (trim raw).toList v) :
      Refused lookup .tokenMinutes (.invalid .tokenMinutes (.notAnInteger raw))
  | outOfRange {raw : String} {v : Int} (given : Given lookup .tokenMinutes raw)
      (denotes : Denotes (trim raw).toList v) (low : -9223372036854775808 ≤ v)
      (high : v ≤ 9223372036854775807) (outside : v < 1 ∨ 14400 < v) :
      Refused lookup .tokenMinutes (.invalid .tokenMinutes (.minutesOutOfRange v))
  | noPassword (empty : ∀ v, ¬ Kept lookup .adminPassword v) :
      Refused lookup .adminPassword (.missing .adminPassword)

section

theorem Given.natural_iff (given : Given lookup s raw) :
    GivesNumber lookup s limit n ↔ Numeral.natural limit (trim raw) = .ok n ∧ 1 ≤ n := by
  rw [given.gives_iff, Numeral.natural_ok_iff]
  constructor
  · rintro ⟨spells, positive, fits⟩
    exact ⟨⟨spells, fits⟩, positive⟩
  · rintro ⟨⟨spells, fits⟩, positive⟩
    exact ⟨spells, positive, fits⟩

theorem readPort_ok_iff :
    readPort lookup = .ok n ↔
      Unset lookup .port ∧ n = defaultPort ∨ GivesNumber lookup .port 65535 n := by
  unfold readPort
  split
  · rename_i none
    have unset := filled?_eq_none_iff.1 none
    simp [unset, unset.gives_none, eq_comm]
  · rename_i raw found
    have given := filled?_eq_some_iff.1 found
    rw [given.natural_iff]
    split
    · rename_i outcome
      simp [given.not_unset, outcome]
    · rename_i outcome
      simp [given.not_unset, outcome]
      omega
    · rename_i port positive outcome
      simp [given.not_unset, outcome]
      rintro rfl
      exact Nat.pos_of_ne_zero positive

theorem readPort_error_iff : readPort lookup = .error e ↔ Refused lookup .port e := by
  unfold readPort
  constructor
  · intro failed
    split at failed
    · cases failed
    · rename_i raw found
      have given := filled?_eq_some_iff.1 found
      split at failed
      · rename_i outcome
        cases failed
        exact .notAPort given (Numeral.natural_error_iff.1 ⟨_, outcome⟩)
      · rename_i outcome
        cases failed
        exact .portZero given (Numeral.natural_ok_iff.1 outcome).1
      · cases failed
  · intro refused
    cases refused with
    | notAPort given other =>
      obtain ⟨fault, outcome⟩ := Numeral.natural_error_iff.2 other
      simp only [filled?_eq_some_iff.2 given, outcome]
    | portZero given zero =>
      have outcome := Numeral.natural_ok_iff.2 ⟨zero, Nat.zero_le 65535⟩
      simp only [filled?_eq_some_iff.2 given, outcome]

theorem readListenIp_ok_iff {ip : IpAddress} :
    readListenIp lookup = .ok ip ↔
      Unset lookup .listenIp ∧ ip = defaultListenIp ∨ GivesAddress lookup ip := by
  unfold readListenIp
  split
  · rename_i none
    have unset := filled?_eq_none_iff.1 none
    simp [unset, GivesAddress, unset.not_given, eq_comm]
  · rename_i raw found
    have given := filled?_eq_some_iff.1 found
    have gives : GivesAddress lookup ip ↔ IpAddress.parse? (trim raw) = some ip := by
      constructor
      · rintro ⟨other, givenToo, read⟩
        obtain rfl := givenToo.unique given
        exact read
      · intro read
        exact ⟨raw, given, read⟩
    rw [gives]
    split
    · rename_i outcome
      simp [given.not_unset, outcome]
    · rename_i outcome
      simp [given.not_unset, outcome]

theorem readListenIp_error_iff : readListenIp lookup = .error e ↔ Refused lookup .listenIp e := by
  unfold readListenIp
  constructor
  · intro failed
    split at failed
    · cases failed
    · rename_i raw found
      split at failed
      · rename_i outcome
        cases failed
        exact .notAnAddress (filled?_eq_some_iff.1 found) outcome
      · cases failed
  · intro refused
    cases refused with
    | notAnAddress given other => simp only [filled?_eq_some_iff.2 given, other]

theorem readMaxConnections_ok_iff {n? : Option Nat} :
    readMaxConnections lookup = .ok n? ↔
      Unset lookup .maxConnections ∧ n? = none ∨
        ∃ n, n? = some n ∧ GivesNumber lookup .maxConnections 4294967295 n := by
  unfold readMaxConnections
  split
  · rename_i none
    have unset := filled?_eq_none_iff.1 none
    simp [unset, unset.gives_none, eq_comm]
  · rename_i raw found
    have given := filled?_eq_some_iff.1 found
    simp only [given.natural_iff]
    split
    · rename_i outcome
      simp [given.not_unset, outcome]
    · rename_i outcome
      simp only [given.not_unset, outcome]
      grind
    · rename_i n positive outcome
      have low : 1 ≤ n := Nat.pos_of_ne_zero positive
      simp only [given.not_unset, outcome]
      grind

theorem readMaxConnections_error_iff :
    readMaxConnections lookup = .error e ↔ Refused lookup .maxConnections e := by
  unfold readMaxConnections
  constructor
  · intro failed
    split at failed
    · cases failed
    · rename_i raw found
      have given := filled?_eq_some_iff.1 found
      split at failed
      · rename_i outcome
        cases failed
        exact .notPositive given fun n _ fits => Numeral.natural_error_iff.1 ⟨_, outcome⟩ n fits
      · rename_i outcome
        cases failed
        refine .notPositive given fun n positive fits spells => ?_
        cases (Numeral.natural_ok_iff.2 ⟨spells, fits⟩).symm.trans outcome
        omega
      · cases failed
  · intro refused
    cases refused with
    | @notPositive raw given other =>
      simp only [filled?_eq_some_iff.2 given]
      split
      · rfl
      · rfl
      · rename_i n positive outcome
        obtain ⟨spells, fits⟩ := Numeral.natural_ok_iff.1 outcome
        exact absurd spells (other n (Nat.pos_of_ne_zero positive) fits)

theorem Given.int64_iff (given : Given lookup s raw) :
    GivesNumber lookup s 14400 n ↔ Numeral.int64 (trim raw) = .ok n ∧ 1 ≤ n ∧ n ≤ 14400 := by
  rw [given.gives_iff, Numeral.int64_ok_iff]
  constructor
  · rintro ⟨spells, positive, fits⟩
    exact ⟨⟨(Numeral.denotes_natural positive).2 spells, by omega, by omega⟩, positive, fits⟩
  · rintro ⟨⟨denotes, -⟩, positive, fits⟩
    exact ⟨(Numeral.denotes_natural positive).1 denotes, positive, fits⟩

theorem readTokenMinutes_ok_iff :
    readTokenMinutes lookup = .ok n ↔
      Unset lookup .tokenMinutes ∧ n = defaultTokenMinutes ∨
        GivesNumber lookup .tokenMinutes 14400 n := by
  have greatest : (maxTokenMinutes : Int) = 14400 := rfl
  unfold readTokenMinutes
  split
  · rename_i none
    have unset := filled?_eq_none_iff.1 none
    simp [unset, unset.gives_none, eq_comm]
  · rename_i raw found
    have given := filled?_eq_some_iff.1 found
    rw [given.int64_iff]
    split
    · rename_i outcome
      simp [given.not_unset, outcome]
    · rename_i v outcome
      rw [greatest, outcome]
      split
      · rename_i inRange
        simp only [given.not_unset, false_and, false_or, Except.ok.injEq]
        omega
      · rename_i outside
        simp only [given.not_unset, false_and, false_or, Except.ok.injEq, reduceCtorEq, false_iff]
        omega

theorem readTokenMinutes_error_iff :
    readTokenMinutes lookup = .error e ↔ Refused lookup .tokenMinutes e := by
  have greatest : (maxTokenMinutes : Int) = 14400 := rfl
  unfold readTokenMinutes
  rw [greatest]
  constructor
  · intro failed
    split at failed
    · cases failed
    · rename_i raw found
      have given := filled?_eq_some_iff.1 found
      split at failed
      · rename_i outcome
        cases failed
        exact .notAnInteger given (Numeral.int64_error_iff.1 ⟨_, outcome⟩)
      · rename_i v outcome
        obtain ⟨denotes, low, high⟩ := Numeral.int64_ok_iff.1 outcome
        split at failed
        · cases failed
        · cases failed
          exact .outOfRange given denotes low high (by omega)
  · intro refused
    cases refused with
    | notAnInteger given other =>
      obtain ⟨fault, outcome⟩ := Numeral.int64_error_iff.2 other
      simp only [filled?_eq_some_iff.2 given, outcome]
    | outOfRange given denotes low high outside =>
      have outcome := Numeral.int64_ok_iff.2 ⟨denotes, low, high⟩
      simp only [filled?_eq_some_iff.2 given, outcome]
      exact if_neg (by omega)

end

/-- The settings that named values stand for. -/
structure Describes (lookup : String → Option String) (c : Settings) : Prop where
  port : Unset lookup .port ∧ c.port = defaultPort ∨ GivesNumber lookup .port 65535 c.port
  listenIp : Unset lookup .listenIp ∧ c.listenIp = defaultListenIp ∨ GivesAddress lookup c.listenIp
  databaseUrl : Given lookup .databaseUrl c.databaseUrl
  maxConnections : Unset lookup .maxConnections ∧ c.maxConnections = none ∨
    ∃ n, c.maxConnections = some n ∧ GivesNumber lookup .maxConnections 4294967295 n
  tokenSecret : ∃ secret, Kept lookup .tokenSecret secret ∧ c.tokenSecret = utf8 secret
  tokenMinutes : Unset lookup .tokenMinutes ∧ c.tokenMinutes = defaultTokenMinutes ∨
    GivesNumber lookup .tokenMinutes 14400 c.tokenMinutes
  username : Unset lookup .adminUser ∧ c.admin.username = defaultAdminUser ∨
    Given lookup .adminUser c.admin.username
  email : Unset lookup .adminEmail ∧ c.admin.email = defaultAdminEmail ∨
    Given lookup .adminEmail c.admin.email
  password : Kept lookup .adminPassword c.admin.password

theorem filled?_getD {default : String} :
    (filled? lookup s).getD default = value ↔
      Unset lookup s ∧ value = default ∨ Given lookup s value := by
  cases found : filled? lookup s with
  | none =>
    have unset := filled?_eq_none_iff.1 found
    simp [unset, unset.not_given, eq_comm]
  | some raw =>
    have given := filled?_eq_some_iff.1 found
    simp only [Option.getD_some, given.not_unset, false_and, false_or]
    constructor
    · rintro rfl
      exact given
    · exact given.unique

theorem fromLookup_ok_iff : fromLookup lookup = .ok settings ↔ Describes lookup settings := by
  constructor
  · intro done
    unfold fromLookup at done
    obtain ⟨port, portRead, done⟩ := bind_eq_ok.1 done
    obtain ⟨listenIp, addressRead, done⟩ := bind_eq_ok.1 done
    dsimp only at done
    split at done
    · rename_i url found
      obtain ⟨databaseUrl, same, done⟩ := bind_eq_ok.1 done
      obtain ⟨maxConnections, connectionsRead, done⟩ := bind_eq_ok.1 done
      obtain ⟨secret, secretRead, done⟩ := bind_eq_ok.1 done
      obtain ⟨minutes, minutesRead, done⟩ := bind_eq_ok.1 done
      obtain ⟨password, passwordRead, done⟩ := bind_eq_ok.1 done
      cases same
      cases done
      exact {
        port := readPort_ok_iff.1 portRead
        listenIp := readListenIp_ok_iff.1 addressRead
        databaseUrl := filled?_eq_some_iff.1 found
        maxConnections := readMaxConnections_ok_iff.1 connectionsRead
        tokenSecret := ⟨secret, nonempty_ok_iff.1 secretRead, rfl⟩
        tokenMinutes := readTokenMinutes_ok_iff.1 minutesRead
        username := filled?_getD.1 rfl
        email := filled?_getD.1 rfl
        password := nonempty_ok_iff.1 passwordRead }
    · obtain ⟨databaseUrl, missing, -⟩ := bind_eq_ok.1 done
      cases missing
  · intro described
    obtain ⟨secret, kept, same⟩ := described.tokenSecret
    unfold fromLookup
    rw [readPort_ok_iff.2 described.port, readListenIp_ok_iff.2 described.listenIp,
      filled?_eq_some_iff.2 described.databaseUrl,
      readMaxConnections_ok_iff.2 described.maxConnections, nonempty_ok_iff.2 kept,
      readTokenMinutes_ok_iff.2 described.tokenMinutes, filled?_getD.2 described.username,
      filled?_getD.2 described.email, nonempty_ok_iff.2 described.password]
    show Except.ok _ = _
    rw [← same]

/-- Settings that can be read from named values. The names of the administrator are only not blank. -/
structure Accepted (s : Settings) : Prop where
  secret : s.tokenSecret ≠ []
  minutes : 1 ≤ s.tokenMinutes ∧ s.tokenMinutes ≤ maxTokenMinutes
  username : Text.isAllBlank s.admin.username = false
  email : Text.isAllBlank s.admin.email = false

theorem utf8_ne_nil (filled : value ≠ "") : utf8 value ≠ [] :=
  fun nothing => filled (Text.utf8_injective nothing)

theorem accepted_of_fromLookup (done : fromLookup lookup = .ok settings) : settings.Accepted := by
  have described := fromLookup_ok_iff.1 done
  refine ⟨?secret, ?minutes, ?username, ?email⟩
  case secret =>
    obtain ⟨secret, ⟨-, filled⟩, same⟩ := described.tokenSecret
    rw [same]
    exact utf8_ne_nil filled
  case minutes =>
    rcases described.tokenMinutes with ⟨-, same⟩ | ⟨raw, -, -, inRange⟩
    · rw [same]
      decide
    · exact inRange
  case username =>
    rcases described.username with ⟨-, same⟩ | given
    · rw [same]
      decide
    · exact given.2
  case email =>
    rcases described.email with ⟨-, same⟩ | given
    · rw [same]
      decide
    · exact given.2

/-- The settings that may be refused, in the order in which they are looked at. -/
def order : List Setting :=
  [.port, .listenIp, .databaseUrl, .maxConnections, .tokenSecret, .tokenMinutes, .adminPassword]

/-- What is asked of the value of a setting. -/
def Valid (lookup : String → Option String) : Setting → Prop
  | .port => Unset lookup .port ∨ ∃ n, GivesNumber lookup .port 65535 n
  | .listenIp => Unset lookup .listenIp ∨ ∃ ip, GivesAddress lookup ip
  | .databaseUrl => ∃ url, Given lookup .databaseUrl url
  | .maxConnections =>
    Unset lookup .maxConnections ∨ ∃ n, GivesNumber lookup .maxConnections 4294967295 n
  | .tokenSecret => ∃ secret, Kept lookup .tokenSecret secret
  | .tokenMinutes => Unset lookup .tokenMinutes ∨ ∃ n, GivesNumber lookup .tokenMinutes 14400 n
  | .adminPassword => ∃ password, Kept lookup .adminPassword password
  | .adminUser | .adminEmail => True

def readDatabaseUrl (lookup : String → Option String) : Except SettingsError String :=
  match filled? lookup .databaseUrl with
  | some url => .ok url
  | none => .error (.missing .databaseUrl)

theorem readDatabaseUrl_ok_iff : readDatabaseUrl lookup = .ok value ↔ Given lookup .databaseUrl value := by
  rw [← filled?_eq_some_iff]
  unfold readDatabaseUrl
  split
  · rename_i found
    simp [found]
  · rename_i none
    simp [none]

theorem readDatabaseUrl_error_iff :
    readDatabaseUrl lookup = .error e ↔ Refused lookup .databaseUrl e := by
  unfold readDatabaseUrl
  constructor
  · intro failed
    split at failed
    · cases failed
    · rename_i none
      cases failed
      exact .noUrl (filled?_eq_none_iff.1 none)
  · intro refused
    cases refused with
    | noUrl unset => rw [filled?_eq_none_iff.2 unset]

/-- Whether the value of a setting passes, whatever it is read as. -/
def check (lookup : String → Option String) : Setting → Except SettingsError Unit
  | .port => (readPort lookup).map fun _ => ()
  | .listenIp => (readListenIp lookup).map fun _ => ()
  | .databaseUrl => (readDatabaseUrl lookup).map fun _ => ()
  | .maxConnections => (readMaxConnections lookup).map fun _ => ()
  | .tokenSecret => (nonempty lookup .tokenSecret).map fun _ => ()
  | .tokenMinutes => (readTokenMinutes lookup).map fun _ => ()
  | .adminPassword => (nonempty lookup .adminPassword).map fun _ => ()
  | .adminUser | .adminEmail => .ok ()

theorem check_ok_iff (s : Setting) : check lookup s = .ok () ↔ Valid lookup s := by
  cases s with
  | port => simp [check, Valid, map_eq_ok, readPort_ok_iff, exists_or]
  | listenIp => simp [check, Valid, map_eq_ok, readListenIp_ok_iff, exists_or]
  | databaseUrl => simp [check, Valid, map_eq_ok, readDatabaseUrl_ok_iff]
  | maxConnections =>
    simp only [check, Valid, map_eq_ok, readMaxConnections_ok_iff, and_true, exists_or]
    grind
  | tokenSecret | adminPassword => simp [check, Valid, map_eq_ok, nonempty_ok_iff]
  | tokenMinutes => simp [check, Valid, map_eq_ok, readTokenMinutes_ok_iff, exists_or]
  | adminUser | adminEmail => simp [check, Valid]

theorem check_error_iff (s : Setting) : check lookup s = .error e ↔ Refused lookup s e := by
  cases s with
  | port => exact map_eq_error.trans readPort_error_iff
  | listenIp => exact map_eq_error.trans readListenIp_error_iff
  | databaseUrl => exact map_eq_error.trans readDatabaseUrl_error_iff
  | maxConnections => exact map_eq_error.trans readMaxConnections_error_iff
  | tokenMinutes => exact map_eq_error.trans readTokenMinutes_error_iff
  | tokenSecret =>
    refine (map_eq_error.trans nonempty_error_iff).trans ⟨?_, ?_⟩
    · rintro ⟨empty, rfl⟩
      exact .noSecret empty
    · rintro ⟨⟩
      exact ⟨‹_›, rfl⟩
  | adminPassword =>
    refine (map_eq_error.trans nonempty_error_iff).trans ⟨?_, ?_⟩
    · rintro ⟨empty, rfl⟩
      exact .noPassword empty
    · rintro ⟨⟩
      exact ⟨‹_›, rfl⟩
  | adminUser | adminEmail =>
    constructor
    · intro failed
      cases failed
    · intro refused
      cases refused

theorem map_fromLookup (lookup : String → Option String) :
    (fromLookup lookup).map (fun _ => ()) = order.forM (check lookup) := by
  unfold fromLookup order
  simp only [List.forM, check]
  -- A reader that fails ends both sides with its fault; else both go on to the next.
  cases readPort lookup with
  | error e => rfl
  | ok port =>
  cases readListenIp lookup with
  | error e => rfl
  | ok ip =>
  unfold readDatabaseUrl
  cases filled? lookup .databaseUrl with
  | none => rfl
  | some url =>
  cases readMaxConnections lookup with
  | error e => rfl
  | ok n =>
  cases nonempty lookup .tokenSecret with
  | error e => rfl
  | ok secret =>
  cases readTokenMinutes lookup with
  | error e => rfl
  | ok minutes =>
  cases nonempty lookup .adminPassword with
  | error e => rfl
  | ok password => rfl

theorem exists_ok_iff :
    (∃ settings, fromLookup lookup = .ok settings) ↔ ∀ s ∈ order, Valid lookup s := by
  have checked := @map_eq_ok _ _ _ (fromLookup lookup) (fun _ => ()) ()
  rw [map_fromLookup, forM_eq_ok] at checked
  simp only [check_ok_iff, and_true] at checked
  exact checked.symm

theorem fromLookup_error_iff :
    fromLookup lookup = .error e ↔
      ∃ before s after, order = before ++ s :: after ∧ (∀ b ∈ before, Valid lookup b) ∧
        Refused lookup s e := by
  have checked := @map_eq_error _ _ _ (fromLookup lookup) (fun _ => ()) e
  rw [map_fromLookup, forM_eq_error] at checked
  simp only [check_ok_iff, check_error_iff] at checked
  exact checked.symm

section

variable {other : String → Option String}

theorem filled?_congr (same : other s.name = lookup s.name) : filled? other s = filled? lookup s := by
  unfold filled?
  rw [same]

theorem nonempty_congr (same : other s.name = lookup s.name) :
    nonempty other s = nonempty lookup s := by
  unfold nonempty
  rw [same]

theorem fromLookup_congr (filled : ∀ s, filled? other s = filled? lookup s)
    (secret : nonempty other .tokenSecret = nonempty lookup .tokenSecret)
    (password : nonempty other .adminPassword = nonempty lookup .adminPassword) :
    fromLookup other = fromLookup lookup := by
  unfold fromLookup readPort readListenIp readMaxConnections readTokenMinutes
  simp only [filled, secret, password]

theorem check_congr (same : other s.name = lookup s.name) : check other s = check lookup s := by
  have filled := filled?_congr same
  have kept := nonempty_congr same
  cases s <;>
    simp only [check, readPort, readListenIp, readDatabaseUrl, readMaxConnections, readTokenMinutes,
      filled, kept]

end

/-- The values without that of one name. -/
def without (lookup : String → Option String) (name : String) : String → Option String :=
  fun n => if n = name then none else lookup n

section

variable {name : String}

theorem without_same : without lookup name name = none :=
  if_pos rfl

theorem without_other {n : String} (differs : n ≠ name) : without lookup name n = lookup n :=
  if_neg differs

theorem filled?_without_blank (found : lookup name = some raw) (blank : isAllBlank raw = true)
    (s : Setting) : filled? (without lookup name) s = filled? lookup s := by
  by_cases same : s.name = name
  · subst same
    have before : Unset lookup s := by
      intro value stands
      obtain rfl := Option.some.inj (found.symm.trans stands)
      exact blank
    have after : Unset (without lookup s.name) s := by
      intro value stands
      cases without_same.symm.trans stands
    rw [filled?_eq_none_iff.2 before, filled?_eq_none_iff.2 after]
  · exact filled?_congr (without_other same)

theorem fromLookup_without_blank (found : lookup name = some raw) (blank : isAllBlank raw = true)
    (noSecret : name ≠ "JWT_SECRET") (noPassword : name ≠ "ADMIN_PASSWORD") :
    fromLookup (without lookup name) = fromLookup lookup :=
  fromLookup_congr (filled?_without_blank found blank)
    (nonempty_congr (without_other noSecret.symm)) (nonempty_congr (without_other noPassword.symm))

theorem fromLookup_without_secret (accepted : fromLookup lookup = .ok settings)
    (secret : s = .tokenSecret ∨ s = .adminPassword) :
    fromLookup (without lookup s.name) = .error (.missing s) := by
  have valid := exists_ok_iff.1 ⟨settings, accepted⟩
  have empty : ∀ v, ¬ Kept (without lookup s.name) s v := by
    rintro v ⟨stands, -⟩
    cases without_same.symm.trans stands
  have others {l : List Setting} (apart : ∀ b ∈ l, b ∈ order ∧ b.name ≠ s.name) :
      ∀ b ∈ l, Valid (without lookup s.name) b := by
    intro b member
    obtain ⟨inOrder, differs⟩ := apart b member
    rw [← check_ok_iff, check_congr (without_other differs)]
    exact (check_ok_iff b).2 (valid b inOrder)
  rw [fromLookup_error_iff]
  rcases secret with rfl | rfl
  · exact ⟨[.port, .listenIp, .databaseUrl, .maxConnections], _, _, rfl, others (by decide),
      .noSecret empty⟩
  · exact ⟨[.port, .listenIp, .databaseUrl, .maxConnections, .tokenSecret, .tokenMinutes], _, [], rfl,
      others (by decide), .noPassword empty⟩

end

/-- The settings are accepted exactly when every value passes, and they are what the values stand for.
    Otherwise the first value that does not pass decides. No other value counts, and a blank one counts
    as none unless it is a secret. -/
theorem first_refused_value_decides (lookup : String → Option String) :
    (∀ c, fromLookup lookup = .ok c ↔ Describes lookup c) ∧
    ((∃ c, fromLookup lookup = .ok c) ↔ ∀ s ∈ order, Valid lookup s) ∧
    (∀ e, fromLookup lookup = .error e ↔
      ∃ before s after, order = before ++ s :: after ∧ (∀ b ∈ before, Valid lookup b) ∧
        Refused lookup s e) ∧
    (∀ other : String → Option String, (∀ s : Setting, other s.name = lookup s.name) →
      fromLookup other = fromLookup lookup) ∧
    (∀ name raw, lookup name = some raw → isAllBlank raw = true → name ≠ "JWT_SECRET" →
      name ≠ "ADMIN_PASSWORD" → fromLookup (without lookup name) = fromLookup lookup) ∧
    (∀ c s, fromLookup lookup = .ok c → s = .tokenSecret ∨ s = .adminPassword →
      fromLookup (without lookup s.name) = .error (.missing s)) :=
  ⟨fun _ => fromLookup_ok_iff, exists_ok_iff, fun _ => fromLookup_error_iff,
    fun _ same => fromLookup_congr (fun s => filled?_congr (same s)) (nonempty_congr (same _))
      (nonempty_congr (same _)),
    fun _ _ found blank noSecret noPassword =>
      fromLookup_without_blank found blank noSecret noPassword,
    fun _ _ accepted secret => fromLookup_without_secret accepted secret⟩

theorem first_refused_value_decides_blank :
    let values := [("PORT", " "), ("DATABASE_URL", "db"), ("JWT_SECRET", " "), ("ADMIN_PASSWORD", "p")]
    let lookup : String → Option String := fun name => values.lookup name
    (∃ c, fromLookup lookup = .ok c ∧ c.tokenSecret = [0x20]) ∧
      fromLookup (without lookup "PORT") = fromLookup lookup ∧
      fromLookup (without lookup "JWT_SECRET") = .error (.missing .tokenSecret) := by
  intro values lookup
  obtain ⟨accepted, -, -, -, blank, secret⟩ := first_refused_value_decides lookup
  have read : ∃ c, fromLookup lookup = .ok c ∧ c.tokenSecret = [0x20] := ⟨_, rfl, rfl⟩
  obtain ⟨c, done, kept⟩ := read
  exact ⟨⟨c, done, kept⟩, blank "PORT" " " rfl rfl (by decide) (by decide),
    secret c .tokenSecret done (.inl rfl)⟩

end AccountDirectory.Settings
