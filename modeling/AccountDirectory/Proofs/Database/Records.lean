import AccountDirectory.Database.Store
import AccountDirectory.Proofs.Database.Meaning
import AccountDirectory.Proofs.Outcome
import AccountDirectory.Store.Memory
import Mathlib.Data.List.Basic

/-!
Rows and records. Each row of a relation holds one record, and is read as that record.
-/

namespace AccountDirectory.Database

open AccountDirectory.Store (StoredUser)
open AccountDirectory.Time (Instant)

theorem mapM_eq_map {α β : Type} {f : α → Option β} {g : α → β} {l : List α}
    (each : ∀ a ∈ l, f a = some (g a)) : l.mapM f = some (l.map g) := by
  induction l with
  | nil => rfl
  | cons a l ih =>
    have rest := ih fun b member => each b (List.mem_cons_of_mem a member)
    rw [List.mapM_cons, each a List.mem_cons_self, rest]
    rfl

theorem lookup_map {α : Type} {key : α → String} {value : String → Cell} {l : List α} {name : String}
    (member : name ∈ l.map key) :
    (l.map fun a => (key a, value (key a))).lookup name = some (value name) := by
  induction l with
  | nil => cases member
  | cons a l ih =>
    simp only [List.map_cons, List.lookup_cons]
    by_cases same : name = key a
    · simp [same]
    · have differs : (name == key a) = false := by simpa using same
      rw [differs]
      exact ih ((List.mem_cons.1 member).resolve_left same)

namespace Relation

variable {r : Relation} {cell : String → Cell}

theorem rowOf_congr {other : String → Cell} (same : ∀ c ∈ r.columns, cell c.name = other c.name) :
    r.rowOf cell = r.rowOf other := by
  apply List.map_congr_left
  intro c member
  rw [same c member]

theorem lookup_rowOf {name : String} (column : name ∈ r.columns.map Column.name) :
    (r.rowOf cell).lookup name = some (cell name) :=
  lookup_map column

theorem row?_eq {value? : Column → Option Cell}
    (each : ∀ c ∈ r.columns, value? c = some (cell c.name) ∧ c.admits (cell c.name) = true) :
    r.row? value? = some (r.rowOf cell) := by
  refine mapM_eq_map fun c member => ?_
  obtain ⟨valued, admitted⟩ := each c member
  rw [valued]
  show (if c.admits (cell c.name) then some (c.name, cell c.name) else none) = _
  rw [if_pos admitted]

theorem rowOf_fits (admitted : ∀ c ∈ r.columns, c.admits (cell c.name) = true) :
    r.Fits (r.rowOf cell) :=
  row?_eq fun _ member => ⟨lookup_rowOf (List.mem_map_of_mem member), admitted _ member⟩

end Relation

theorem Row.select?_rowOf {r : Relation} {cell : String → Cell} {names : List String}
    (columns : ∀ name ∈ names, name ∈ r.columns.map Column.name) :
    (r.rowOf cell).select? names = some (names.map fun name => (name, cell name)) := by
  refine mapM_eq_map fun name member => ?_
  rw [Relation.lookup_rowOf (columns name member)]
  rfl

theorem Row.get_selected {α : Type} {names : List String} (cell : String → Cell) (c : ColumnType α)
    {name : String} (selected : name ∈ names) :
    Row.get (names.map fun name => (name, cell name)) c name = c.decode (.named name) (cell name) := by
  unfold Row.get
  have found : (names.map fun name => (name, cell name)).reverse.lookup name = some (cell name) := by
    rw [← List.map_reverse]
    have back : name ∈ names.reverse.map id := by simpa using selected
    exact (lookup_map back : (names.reverse.map fun name => (id name, cell (id name))).lookup name = _)
  rw [found]

namespace ColumnType

variable {place : Place}

theorem decode_of_read? {α : Type} {c : ColumnType α} {cell : Cell} {a : α}
    (read : c.read? cell = some a) : c.decode place cell = .ok a := by
  unfold decode
  rw [read]

@[simp]
theorem decode_bool (b : Bool) : bool.decode place (.bool b) = .ok b := rfl

@[simp]
theorem decode_int4 (n : Int32) : int4.decode place (.int4 n) = .ok n := rfl

@[simp]
theorem decode_text (s : String) : text.decode place (.text s) = .ok s := rfl

@[simp]
theorem decode_int4s (l : List Int32) : int4s.decode place (.int4s l) = .ok l := rfl

@[simp]
theorem decode_time (t : Instant) : time.decode place (.time t) = .ok t := rfl

theorem decode_optional {α : Type} {c : ColumnType α} {cell : α → Cell} (a? : Option α)
    (read : ∀ a, c.optional.read? (cell a) = some (some a)) :
    c.optional.decode place (Cell.optional cell a?) = .ok a? := by
  apply decode_of_read?
  cases a? with
  | none => rfl
  | some a => exact read a

@[simp]
theorem decode_optional_int4 (n? : Option Int32) :
    int4.optional.decode place (Cell.optional .int4 n?) = .ok n? :=
  decode_optional n? fun _ => rfl

@[simp]
theorem decode_optional_text (s? : Option String) :
    text.optional.decode place (Cell.optional .text s?) = .ok s? :=
  decode_optional s? fun _ => rfl

@[simp]
theorem decode_optional_time (t? : Option Instant) :
    time.optional.decode place (Cell.optional .time t?) = .ok t? :=
  decode_optional t? fun _ => rfl

end ColumnType

theorem Column.admits_optional {α : Type} {c : Column} {cell : α → Cell} (a? : Option α)
    (nullable : c.isRequired = false) (kind : ∀ a, c.kind.admits (cell a) = true) :
    c.admits (Cell.optional cell a?) = true := by
  unfold admits
  rw [nullable]
  cases a? with
  | none => cases c.kind <;> rfl
  | some a =>
    simp only [Cell.optional, kind a]
    rfl

/-- The value of each column of a user's row. -/
def userCell (s : StoredUser) : String → Cell
  | "id" => .int4 s.user.id.value
  | "name" => .text s.user.name
  | "email" => .text s.user.email
  | "username" => .text s.user.username
  | "password_hash" => .text s.credentialDigest
  | "external_id" => .optional .int4 s.user.externalId
  | "orgunit_id" => .optional .int4 s.user.orgUnitId
  | "groups_id" => groupIdCells s.user.groupIds
  | "phone" => .optional .text s.user.phone
  | "is_locked" => .bool s.user.isLocked
  | "is_admin" => .bool s.user.isAdmin
  | "create_time" => .time s.user.createTime
  | "creator" => .int4 s.user.creator.value
  | "last_modification_time" => .optional .time s.user.lastModificationTime
  | "last_modification_user" => .optional .int4 (s.user.lastModificationUser.map (·.value))
  | "is_active" => .bool s.user.isActive
  | "inactivation_time" => .optional .time s.user.inactivationTime
  | "inactivation_reason" => .optional .text s.user.inactivationReason
  | "comment" => .optional .text s.user.comment
  | "bad_password_count" => .int4 s.user.badPasswordCount
  | _ => .null

def userRow (s : StoredUser) : Row :=
  Relation.users.rowOf (userCell s)

theorem userCell_admitted (s : StoredUser) :
    ∀ c ∈ Relation.users.columns, c.admits (userCell s c.name) = true := by
  refine List.forall_iff_forall_mem.1 ?_
  and_intros
  all_goals first
    | rfl
    | exact Column.admits_optional _ rfl fun _ => rfl

theorem ok_bind {ε α β : Type} (a : α) (f : α → Except ε β) : (Except.ok a >>= f) = f a := rfl

theorem groupIds_read (ids : List GroupId) : (ids.map (·.value)).map GroupId.mk = ids := by
  rw [List.map_map]
  exact List.map_id ids

theorem userIds_read (id? : Option UserId) : (id?.map (·.value)).map UserId.mk = id? := by
  cases id? <;> rfl

theorem readUser_selected (s : StoredUser) :
    Accounts.readUser (Accounts.columns.map fun name => (name, userCell s name)) = .ok s.user := by
  have get {α : Type} (c : ColumnType α) (name : String) (selected : name ∈ Accounts.columns) :=
    Row.get_selected (userCell s) c selected
  generalize (Accounts.columns.map fun name => (name, userCell s name)) = row at get
  simp (disch := decide) only [Accounts.readUser, Row.userId, get, userCell, groupIdCells,
    ColumnType.decode_bool, ColumnType.decode_int4, ColumnType.decode_text, ColumnType.decode_int4s,
    ColumnType.decode_time, ColumnType.decode_optional_int4, ColumnType.decode_optional_text,
    ColumnType.decode_optional_time, ok_bind, pure_bind, groupIds_read, userIds_read]
  rfl

theorem readAuthRecord_selected (s : StoredUser) :
    Accounts.readAuthRecord (Accounts.authColumns.map fun name => (name, userCell s name)) =
      .ok s.authRecord := by
  have get {α : Type} (c : ColumnType α) (name : String) (selected : name ∈ Accounts.authColumns) :=
    Row.get_selected (userCell s) c selected
  generalize (Accounts.authColumns.map fun name => (name, userCell s name)) = row at get
  simp (disch := decide) only [Accounts.readAuthRecord, Row.userId, get, userCell,
    ColumnType.decode_bool, ColumnType.decode_int4, ColumnType.decode_text, ok_bind, pure_bind]
  rfl

/-- The row of a user is read as this record, for whoever asks for the account and for a login. -/
structure HoldsUser (row : Row) (s : StoredUser) : Prop where
  account : ∃ shown, row.select? Accounts.columns = some shown ∧ Accounts.readUser shown = .ok s.user
  login : ∃ shown, row.select? Accounts.authColumns = some shown ∧
    Accounts.readAuthRecord shown = .ok s.authRecord

theorem holdsUser_userRow (s : StoredUser) : HoldsUser (userRow s) s where
  account := ⟨_, Row.select?_rowOf (by decide), readUser_selected s⟩
  login := ⟨_, Row.select?_rowOf (by decide), readAuthRecord_selected s⟩

theorem HoldsUser.unique {row : Row} {s other : StoredUser} (one : HoldsUser row s)
    (two : HoldsUser row other) : s = other := by
  obtain ⟨⟨shown, selected, account⟩, ⟨login, asked, record⟩⟩ := one
  obtain ⟨⟨_, again, accountToo⟩, ⟨_, askedToo, recordToo⟩⟩ := two
  obtain rfl := Option.some.inj (selected.symm.trans again)
  obtain rfl := Option.some.inj (asked.symm.trans askedToo)
  have users := Except.ok.inj (account.symm.trans accountToo)
  have digests := congrArg AuthRecord.credentialDigest (Except.ok.inj (record.symm.trans recordToo))
  obtain ⟨user, digest⟩ := s
  obtain ⟨user, digest⟩ := other
  cases users
  cases digests
  rfl

theorem exists_of_mapM {α β : Type} {f : α → Option β} {l : List α} {out : List β}
    (done : l.mapM f = some out) : ∀ a ∈ l, ∃ b, f a = some b := by
  induction l generalizing out with
  | nil =>
    intro a member
    cases member
  | cons a l ih =>
    rw [List.mapM_cons] at done
    obtain ⟨b, first, done⟩ := Option.bind_eq_some_iff.1 done
    obtain ⟨rest, later, -⟩ := Option.bind_eq_some_iff.1 done
    intro c member
    rcases List.mem_cons.1 member with rfl | member
    · exact ⟨b, first⟩
    · exact ih later c member

theorem Relation.Fits.cells {r : Relation} {row : Row} (fits : r.Fits row) :
    ∃ cell, row = r.rowOf cell ∧ ∀ c ∈ r.columns, c.admits (cell c.name) = true := by
  have each : ∀ c ∈ r.columns, row.lookup c.name = some ((row.lookup c.name).getD .null) ∧
      c.admits ((row.lookup c.name).getD .null) = true := by
    intro c member
    obtain ⟨entry, found⟩ := exists_of_mapM fits c member
    obtain ⟨cell, present, checked⟩ := Option.bind_eq_some_iff.1 found
    have present : row.lookup c.name = some cell := present
    rw [present]
    split at checked
    · rename_i admitted
      exact ⟨rfl, admitted⟩
    · cases checked
  let cell (name : String) : Cell := (row.lookup name).getD .null
  have built : r.row? (fun c => row.lookup c.name) = some (r.rowOf cell) := row?_eq each
  exact ⟨cell, Option.some.inj (fits.symm.trans built), fun c member => (each c member).2⟩

namespace ColumnKind

/-- The values of a kind, beside null. -/
def Ranges {α : Type} (k : ColumnKind) (cell : α → Cell) : Prop :=
  ∀ value, k.admits value = true → value = .null ∨ ∃ a, value = cell a

theorem ranges_serial : serial.Ranges Cell.int4 := by
  intro value admitted
  cases value <;> simp_all [admits]

theorem ranges_integer : integer.Ranges Cell.int4 := by
  intro value admitted
  cases value <;> simp_all [admits]

theorem ranges_integers : integers.Ranges Cell.int4s := by
  intro value admitted
  cases value <;> simp_all [admits]

theorem ranges_text : text.Ranges Cell.text := by
  intro value admitted
  cases value <;> simp_all [admits]

theorem ranges_boolean : boolean.Ranges Cell.bool := by
  intro value admitted
  cases value <;> simp_all [admits]

theorem ranges_timestamp : timestamp.Ranges Cell.time := by
  intro value admitted
  cases value <;> simp_all [admits]

end ColumnKind

namespace Column

variable {α : Type} {c : Column} {cell : α → Cell} {value : Cell}

theorem required_of_admits (ranges : c.kind.Ranges cell) (admitted : c.admits value = true)
    (required : c.isRequired = true) : ∃ a, value = cell a := by
  unfold admits at admitted
  rw [required] at admitted
  simp only [Bool.true_and, Bool.and_eq_true, Bool.not_eq_true', beq_eq_false_iff_ne] at admitted
  exact (ranges value admitted.1).resolve_left admitted.2

theorem nullable_of_admits (ranges : c.kind.Ranges cell) (admitted : c.admits value = true) :
    ∃ a?, value = Cell.optional cell a? := by
  unfold admits at admitted
  rcases ranges value (Bool.and_eq_true_iff.1 admitted).1 with rfl | ⟨a, rfl⟩
  · exact ⟨none, rfl⟩
  · exact ⟨some a, rfl⟩

end Column

open ColumnKind Column in
theorem userRow_of_fits {row : Row} (fits : Relation.users.Fits row) : ∃ s, row = userRow s := by
  obtain ⟨cell, rfl, admitted⟩ := fits.cells
  obtain ⟨id, name, email, username, digest, external, orgUnit, groups, phone, locked, admin, created,
    creator, modified, modifier, active, inactivated, reason, comment, count⟩ :=
    List.forall_iff_forall_mem.2 admitted
  -- Column by column: a required one has a value of its kind, any other may be null.
  obtain ⟨id, idCell⟩ := required_of_admits ranges_serial id rfl
  obtain ⟨name, nameCell⟩ := required_of_admits ranges_text name rfl
  obtain ⟨email, emailCell⟩ := required_of_admits ranges_text email rfl
  obtain ⟨username, usernameCell⟩ := required_of_admits ranges_text username rfl
  obtain ⟨digest, digestCell⟩ := required_of_admits ranges_text digest rfl
  obtain ⟨external, externalCell⟩ := nullable_of_admits ranges_integer external
  obtain ⟨orgUnit, orgUnitCell⟩ := nullable_of_admits ranges_integer orgUnit
  obtain ⟨groups, groupsCell⟩ := required_of_admits ranges_integers groups rfl
  obtain ⟨phone, phoneCell⟩ := nullable_of_admits ranges_text phone
  obtain ⟨locked, lockedCell⟩ := required_of_admits ranges_boolean locked rfl
  obtain ⟨admin, adminCell⟩ := required_of_admits ranges_boolean admin rfl
  obtain ⟨created, createdCell⟩ := required_of_admits ranges_timestamp created rfl
  obtain ⟨creator, creatorCell⟩ := required_of_admits ranges_integer creator rfl
  obtain ⟨modified, modifiedCell⟩ := nullable_of_admits ranges_timestamp modified
  obtain ⟨modifier, modifierCell⟩ := nullable_of_admits ranges_integer modifier
  obtain ⟨active, activeCell⟩ := required_of_admits ranges_boolean active rfl
  obtain ⟨inactivated, inactivatedCell⟩ := nullable_of_admits ranges_timestamp inactivated
  obtain ⟨reason, reasonCell⟩ := nullable_of_admits ranges_text reason
  obtain ⟨comment, commentCell⟩ := nullable_of_admits ranges_text comment
  obtain ⟨count, countCell⟩ := required_of_admits ranges_integer count rfl
  let s : StoredUser :=
    { user :=
        { id := ⟨id⟩, name, email, username, externalId := external, orgUnitId := orgUnit,
          groupIds := groups.map .mk, phone, isLocked := locked, isAdmin := admin,
          createTime := created, creator := ⟨creator⟩, lastModificationTime := modified,
          lastModificationUser := modifier.map .mk, isActive := active,
          inactivationTime := inactivated, inactivationReason := reason, comment,
          badPasswordCount := count }
      credentialDigest := digest }
  have groupsKept : Cell.int4s groups = groupIdCells s.user.groupIds := by
    have kept : (groups.map GroupId.mk).map (·.value) = groups := by
      rw [List.map_map]
      exact List.map_id groups
    exact congrArg Cell.int4s kept.symm
  have modifierKept : Cell.optional .int4 modifier =
      Cell.optional .int4 (s.user.lastModificationUser.map (·.value)) := by
    cases modifier <;> rfl
  refine ⟨s, Relation.rowOf_congr ?_⟩
  exact List.forall_iff_forall_mem.1 ⟨idCell, nameCell, emailCell, usernameCell, digestCell,
    externalCell, orgUnitCell, groupsCell.trans groupsKept, phoneCell, lockedCell, adminCell,
    createdCell, creatorCell, modifiedCell, modifierCell.trans modifierKept, activeCell,
    inactivatedCell, reasonCell, commentCell, countCell⟩

def groupCell (g : Group) : String → Cell
  | "id" => .int4 g.id.value
  | "name" => .text g.name
  | "create_time" => .time g.createTime
  | "creator" => .int4 g.creator.value
  | "last_modification_time" => .optional .time g.lastModificationTime
  | "last_modification_user" => .optional .int4 (g.lastModificationUser.map (·.value))
  | "is_active" => .bool g.isActive
  | "inactivation_time" => .optional .time g.inactivationTime
  | "inactivation_reason" => .optional .text g.inactivationReason
  | "comment" => .optional .text g.comment
  | _ => .null

def groupRow (g : Group) : Row :=
  Relation.groups.rowOf (groupCell g)

theorem groupCell_admitted (g : Group) :
    ∀ c ∈ Relation.groups.columns, c.admits (groupCell g c.name) = true := by
  refine List.forall_iff_forall_mem.1 ?_
  and_intros
  all_goals first
    | rfl
    | exact Column.admits_optional _ rfl fun _ => rfl

theorem readGroup_selected (g : Group) :
    Groups.readGroup (Groups.columns.map fun name => (name, groupCell g name)) = .ok g := by
  have get {α : Type} (c : ColumnType α) (name : String) (selected : name ∈ Groups.columns) :=
    Row.get_selected (groupCell g) c selected
  generalize (Groups.columns.map fun name => (name, groupCell g name)) = row at get
  simp (disch := decide) only [Groups.readGroup, Row.userId, get, groupCell, ColumnType.decode_bool,
    ColumnType.decode_int4, ColumnType.decode_text, ColumnType.decode_time,
    ColumnType.decode_optional_int4, ColumnType.decode_optional_text,
    ColumnType.decode_optional_time, ok_bind, pure_bind, userIds_read]
  rfl

def HoldsGroup (row : Row) (g : Group) : Prop :=
  ∃ shown, row.select? Groups.columns = some shown ∧ Groups.readGroup shown = .ok g

theorem holdsGroup_groupRow (g : Group) : HoldsGroup (groupRow g) g :=
  ⟨_, Row.select?_rowOf (by decide), readGroup_selected g⟩

theorem HoldsGroup.unique {row : Row} {g other : Group} (one : HoldsGroup row g)
    (two : HoldsGroup row other) : g = other := by
  obtain ⟨shown, selected, read⟩ := one
  obtain ⟨_, again, readToo⟩ := two
  obtain rfl := Option.some.inj (selected.symm.trans again)
  exact Except.ok.inj (read.symm.trans readToo)

open ColumnKind Column in
theorem groupRow_of_fits {row : Row} (fits : Relation.groups.Fits row) : ∃ g, row = groupRow g := by
  obtain ⟨cell, rfl, admitted⟩ := fits.cells
  obtain ⟨id, name, created, creator, modified, modifier, active, inactivated, reason, comment⟩ :=
    List.forall_iff_forall_mem.2 admitted
  obtain ⟨id, idCell⟩ := required_of_admits ranges_serial id rfl
  obtain ⟨name, nameCell⟩ := required_of_admits ranges_text name rfl
  obtain ⟨created, createdCell⟩ := required_of_admits ranges_timestamp created rfl
  obtain ⟨creator, creatorCell⟩ := required_of_admits ranges_integer creator rfl
  obtain ⟨modified, modifiedCell⟩ := nullable_of_admits ranges_timestamp modified
  obtain ⟨modifier, modifierCell⟩ := nullable_of_admits ranges_integer modifier
  obtain ⟨active, activeCell⟩ := required_of_admits ranges_boolean active rfl
  obtain ⟨inactivated, inactivatedCell⟩ := nullable_of_admits ranges_timestamp inactivated
  obtain ⟨reason, reasonCell⟩ := nullable_of_admits ranges_text reason
  obtain ⟨comment, commentCell⟩ := nullable_of_admits ranges_text comment
  let g : Group :=
    { id := ⟨id⟩, name, createTime := created, creator := ⟨creator⟩, lastModificationTime := modified,
      lastModificationUser := modifier.map .mk, isActive := active, inactivationTime := inactivated,
      inactivationReason := reason, comment }
  have modifierKept : Cell.optional .int4 modifier =
      Cell.optional .int4 (g.lastModificationUser.map (·.value)) := by
    cases modifier <;> rfl
  refine ⟨g, Relation.rowOf_congr ?_⟩
  exact List.forall_iff_forall_mem.1 ⟨idCell, nameCell, createdCell, creatorCell, modifiedCell,
    modifierCell.trans modifierKept, activeCell, inactivatedCell, reasonCell, commentCell⟩

/-- The rows that can stand in a relation are those of the records, and each holds its record. -/
structure Represents {α : Type} (r : Relation) (Holds : Row → α → Prop) (encode : α → Row) : Prop where
  fits : ∀ a, r.Fits (encode a)
  every : ∀ row, r.Fits row → ∃ a, row = encode a
  holds : ∀ a, Holds (encode a) a
  unique : ∀ row a b, Holds row a → Holds row b → a = b

theorem users_represented : Represents .users HoldsUser userRow where
  fits s := Relation.rowOf_fits (userCell_admitted s)
  every _ := userRow_of_fits
  holds := holdsUser_userRow
  unique _ _ _ := HoldsUser.unique

theorem groups_represented : Represents .groups HoldsGroup groupRow where
  fits g := Relation.rowOf_fits (groupCell_admitted g)
  every _ := groupRow_of_fits
  holds := holdsGroup_groupRow
  unique _ _ _ := HoldsGroup.unique

theorem Represents.existsUnique {α : Type} {r : Relation} {Holds : Row → α → Prop} {encode : α → Row}
    (represents : Represents r Holds encode) {row : Row} (fits : r.Fits row) : ∃! a, Holds row a := by
  obtain ⟨a, rfl⟩ := represents.every row fits
  exact ⟨a, represents.holds a, fun b holds => represents.unique _ b a holds (represents.holds a)⟩

end AccountDirectory.Database
