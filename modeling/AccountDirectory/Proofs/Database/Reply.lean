import AccountDirectory.Database.Store
import AccountDirectory.Proofs.Database.Meaning
import AccountDirectory.Proofs.Outcome

/-!
What is wanted of the rows of a reply. A row is read just when each value is there under its name or
at its position, of the type of its column, and null only where the column may be.
-/

namespace AccountDirectory.Database

structure Wanted where
  place : Place
  /-- The name of the type that its column has. -/
  type : String
  mayBeNull : Bool
deriving DecidableEq

def Place.cell? (row : Row) : Place → Option Cell
  | named name => row.reverse.lookup name
  | position i => row[i]?.map Prod.snd

def Wanted.FoundIn (w : Wanted) (row : Row) : Prop :=
  ∃ cell ∈ w.place.cell? row, cell.typeName = w.type ∨ w.mayBeNull = true ∧ cell = .null

instance (w : Wanted) (row : Row) : Decidable (w.FoundIn row) :=
  inferInstanceAs (Decidable (∃ cell ∈ w.place.cell? row, _))

def ColumnKind.typeName : ColumnKind → String
  | serial | integer => "INT4"
  | integers => "INT4[]"
  | text => "TEXT"
  | boolean => "BOOL"
  | timestamp => "TIMESTAMPTZ"

def Column.wanted (c : Column) (place : Place) : Wanted where
  place
  type := c.kind.typeName
  mayBeNull := !c.isRequired

namespace Relation

def byName (r : Relation) (names : List String) : List Wanted :=
  names.filterMap fun name => (r.columns.find? (·.name = name)).map (·.wanted (.named name))

/-- The values of columns, in the order in which they are selected. -/
def inOrder (r : Relation) (names : List String) : List Wanted :=
  names.zipIdx.filterMap fun (name, i) => (r.columns.find? (·.name = name)).map (·.wanted (.position i))

end Relation

namespace ColumnType

variable {α : Type} {c : ColumnType α} {type : String} {mayBeNull : Bool}

/-- The values that are read are those of the type, and null if it may be. -/
def Accepts (c : ColumnType α) (type : String) (mayBeNull : Bool) : Prop :=
  ∀ cell, (c.read? cell).isSome ↔ cell.typeName = type ∨ mayBeNull = true ∧ cell = .null

theorem accepts_bool : bool.Accepts "BOOL" false := by
  intro cell
  cases cell <;> simp [bool, Cell.typeName]

theorem accepts_int4 : int4.Accepts "INT4" false := by
  intro cell
  cases cell <;> simp [int4, Cell.typeName]

theorem accepts_int8 : int8.Accepts "INT8" false := by
  intro cell
  cases cell <;> simp [int8, Cell.typeName]

theorem accepts_text : text.Accepts "TEXT" false := by
  intro cell
  cases cell <;> simp [text, Cell.typeName]

theorem accepts_int4s : int4s.Accepts "INT4[]" false := by
  intro cell
  cases cell <;> simp [int4s, Cell.typeName]

theorem accepts_time : time.Accepts "TIMESTAMPTZ" false := by
  intro cell
  cases cell <;> simp [time, Cell.typeName]

theorem Accepts.optional (accepts : c.Accepts type false) : c.optional.Accepts type true := by
  intro cell
  by_cases null : cell = .null
  · subst null
    simp [ColumnType.optional]
  · have read : c.optional.read? cell = (c.read? cell).map some := by
      cases cell <;> first | exact absurd rfl null | rfl
    have typed := accepts cell
    simp only [Bool.false_eq_true, false_and, or_false] at typed
    rw [read, Option.isSome_map, typed]
    simp [null]

theorem decode_ok_iff {place : Place} {cell : Cell} :
    (∃ a, c.decode place cell = .ok a) ↔ (c.read? cell).isSome := by
  unfold decode
  cases c.read? cell with
  | some b => simp
  | none =>
    by_cases null : cell = .null
    · simp [null]
    · simp [null]

end ColumnType

/-- A row is read if and only if these values are found in it. -/
def Wants {α : Type} (decode : Row → Except RowFault α) (values : List Wanted) : Prop :=
  ∀ row, (∃ a, decode row = .ok a) ↔ ∀ w ∈ values, w.FoundIn row

section

variable {α β : Type} {c : ColumnType α} {type name : String} {mayBeNull : Bool}

theorem wants_get (accepts : c.Accepts type mayBeNull) :
    Wants (fun row => row.get c name) [⟨.named name, type, mayBeNull⟩] := by
  intro row
  simp only [List.mem_singleton, forall_eq, Wanted.FoundIn, Place.cell?, Row.get]
  cases row.reverse.lookup name with
  | none => simp
  | some cell => simpa [ColumnType.decode_ok_iff] using accepts cell

theorem wants_nth (accepts : c.Accepts type mayBeNull) (i : Nat) :
    Wants (fun row => row.nth c i) [⟨.position i, type, mayBeNull⟩] := by
  intro row
  simp only [List.mem_singleton, forall_eq, Wanted.FoundIn, Place.cell?, Row.nth]
  cases row[i]? with
  | none => simp
  | some entry => simpa [ColumnType.decode_ok_iff] using accepts entry.2

theorem wants_pure (f : Row → α) : Wants (fun row => pure (f row)) [] :=
  fun _ => iff_of_true ⟨_, rfl⟩ nofun

/-- What is read after a value does not depend on the value for its own wants. -/
theorem Wants.cons {first : Row → Except RowFault α} {next : α → Row → Except RowFault β} {w : Wanted}
    {later : List Wanted} (here : Wants first [w]) (rest : ∀ a, Wants (next a) later) :
    Wants (fun row => first row >>= fun a => next a row) (w :: later) := by
  intro row
  have single := here row
  rw [List.forall_mem_singleton] at single
  rw [List.forall_mem_cons, ← single]
  constructor
  · rintro ⟨b, done⟩
    obtain ⟨a, read, done⟩ := bind_eq_ok.1 done
    exact ⟨⟨a, read⟩, (rest a row).1 ⟨b, done⟩⟩
  · rintro ⟨⟨a, read⟩, found⟩
    obtain ⟨b, done⟩ := (rest a row).2 found
    exact ⟨b, bind_eq_ok.2 ⟨a, read, done⟩⟩

theorem Wants.mapM {decode : Row → Except RowFault α} {values : List Wanted} (wants : Wants decode values)
    (rows : List Row) :
    (∃ l, rows.mapM decode = .ok l) ↔ ∀ row ∈ rows, ∀ w ∈ values, w.FoundIn row := by
  induction rows with
  | nil => exact iff_of_true ⟨[], rfl⟩ nofun
  | cons row rows ih =>
    rw [List.forall_mem_cons, ← wants row, ← ih, List.mapM_cons]
    constructor
    · rintro ⟨l, done⟩
      obtain ⟨a, first, done⟩ := bind_eq_ok.1 done
      obtain ⟨rest, later, -⟩ := bind_eq_ok.1 done
      exact ⟨⟨a, first⟩, rest, later⟩
    · rintro ⟨⟨a, first⟩, rest, later⟩
      exact ⟨a :: rest, bind_eq_ok.2 ⟨a, first, bind_eq_ok.2 ⟨rest, later, rfl⟩⟩⟩

theorem wants_bool : Wants (fun row => row.get .bool name) [⟨.named name, "BOOL", false⟩] :=
  wants_get ColumnType.accepts_bool

theorem wants_int4 : Wants (fun row => row.get .int4 name) [⟨.named name, "INT4", false⟩] :=
  wants_get ColumnType.accepts_int4

theorem wants_text : Wants (fun row => row.get .text name) [⟨.named name, "TEXT", false⟩] :=
  wants_get ColumnType.accepts_text

theorem wants_int4s : Wants (fun row => row.get .int4s name) [⟨.named name, "INT4[]", false⟩] :=
  wants_get ColumnType.accepts_int4s

theorem wants_time : Wants (fun row => row.get .time name) [⟨.named name, "TIMESTAMPTZ", false⟩] :=
  wants_get ColumnType.accepts_time

theorem wants_optional (accepts : c.Accepts type false) :
    Wants (fun row => row.get c.optional name) [⟨.named name, type, true⟩] :=
  wants_get accepts.optional

theorem wants_userId : Wants (fun row => row.userId name) [⟨.named name, "INT4", false⟩] :=
  wants_int4.cons fun _ => wants_pure _

theorem wants_single (accepts : c.Accepts type mayBeNull) :
    Wants (single c) [⟨.position 0, type, mayBeNull⟩] :=
  wants_nth accepts 0

end

/-- What is selected of an account, but for the digest, which is not read. -/
def accountValues : List Wanted :=
  Relation.users.byName (Accounts.columns.filter (· ≠ "password_hash"))

theorem wants_readUser : Wants Accounts.readUser accountValues := by
  unfold Accounts.readUser
  refine wants_userId.cons fun id => wants_text.cons fun name => wants_text.cons fun email => ?_
  refine wants_text.cons fun username => ?_
  refine (wants_optional ColumnType.accepts_int4).cons fun externalId => ?_
  refine (wants_optional ColumnType.accepts_int4).cons fun orgUnitId => ?_
  refine wants_int4s.cons fun groupIds => ?_
  refine (wants_optional ColumnType.accepts_text).cons fun phone => ?_
  refine wants_bool.cons fun isLocked => wants_bool.cons fun isAdmin => ?_
  refine wants_time.cons fun createTime => wants_userId.cons fun creator => ?_
  refine (wants_optional ColumnType.accepts_time).cons fun lastModificationTime => ?_
  refine (wants_optional ColumnType.accepts_int4).cons fun lastModificationUser => ?_
  refine wants_bool.cons fun isActive => ?_
  refine (wants_optional ColumnType.accepts_time).cons fun inactivationTime => ?_
  refine (wants_optional ColumnType.accepts_text).cons fun inactivationReason => ?_
  refine (wants_optional ColumnType.accepts_text).cons fun comment => ?_
  exact wants_int4.cons fun badPasswordCount => wants_pure _

theorem wants_readSummary :
    Wants Accounts.readSummary (Relation.users.byName Accounts.summaryColumns) := by
  unfold Accounts.readSummary
  refine wants_userId.cons fun id => wants_text.cons fun name => wants_text.cons fun email => ?_
  refine wants_text.cons fun username => wants_userId.cons fun creator => ?_
  refine wants_time.cons fun createTime => wants_bool.cons fun isAdmin => ?_
  exact wants_bool.cons fun isLocked => wants_bool.cons fun isActive => wants_pure _

theorem wants_readAuthRecord :
    Wants Accounts.readAuthRecord (Relation.users.byName Accounts.authColumns) := by
  unfold Accounts.readAuthRecord
  refine wants_userId.cons fun id => wants_text.cons fun username => wants_text.cons fun name => ?_
  refine wants_text.cons fun email => wants_text.cons fun digest => ?_
  refine wants_bool.cons fun isAdmin => wants_bool.cons fun isLocked => ?_
  exact wants_bool.cons fun isActive => wants_int4.cons fun count => wants_pure _

theorem wants_readState :
    Wants Accounts.readState (Relation.users.inOrder ["is_active", "is_locked"]) := by
  unfold Accounts.readState
  refine (wants_nth ColumnType.accepts_bool 0).cons fun isActive => ?_
  exact (wants_nth ColumnType.accepts_bool 1).cons fun isLocked => wants_pure _

theorem wants_readGroup : Wants Groups.readGroup (Relation.groups.byName Groups.columns) := by
  unfold Groups.readGroup
  refine wants_int4.cons fun id => wants_text.cons fun name => wants_time.cons fun createTime => ?_
  refine wants_userId.cons fun creator => ?_
  refine (wants_optional ColumnType.accepts_time).cons fun lastModificationTime => ?_
  refine (wants_optional ColumnType.accepts_int4).cons fun lastModificationUser => ?_
  refine wants_bool.cons fun isActive => ?_
  refine (wants_optional ColumnType.accepts_time).cons fun inactivationTime => ?_
  refine (wants_optional ColumnType.accepts_text).cons fun inactivationReason => ?_
  exact (wants_optional ColumnType.accepts_text).cons fun comment => wants_pure _

end AccountDirectory.Database
