import AccountDirectory.Proofs.Account.Identity
import AccountDirectory.Proofs.Credential
import AccountDirectory.Proofs.Database.Agreement
import AccountDirectory.Proofs.Http.Asked

/-!
The constraints of the relations on the lengths of texts: what was validated before it is written
passes them.
-/

namespace AccountDirectory.Database

open AccountDirectory.Crypto (Salt)
open AccountDirectory.Store (Call StoredUser Tables Validated)
open AccountDirectory.Text (stripBoth trimmedLength)
open AccountDirectory.Time (Instant)

/-- The number of characters between the spaces at the ends of a text. Other white space counts. -/
def unspacedLength (s : String) : Nat :=
  (stripBoth (· == ' ') s.toList).length

section

variable {bound minimum : Nat} {value : String}

theorem trimmedLength_le (s : String) : trimmedLength s ≤ unspacedLength s := by
  refine Text.length_stripBoth_of_imp (fun c space => ?_) s.toList
  obtain rfl := beq_iff_eq.1 space
  rfl

theorem longer_of_trimmed (within : bound < minimum) (valid : minimum ≤ trimmedLength value) :
    bound < unspacedLength value :=
  Nat.lt_of_lt_of_le within (Nat.le_trans valid (trimmedLength_le value))

theorem unspacedLength_digest (salt : Salt) (secret : String) :
    unspacedLength (Credential.digest salt secret) = 60 := by
  have spaceless : ∀ c ∈ (Credential.digest salt secret).toList, (c == ' ') = false := by
    intro c member
    refine beq_eq_false_iff_ne.2 ?_
    rintro rfl
    exact Credential.digest_spaceless salt secret member
  rw [unspacedLength, Text.stripBoth_eq_self spaceless, String.length_toList,
    Credential.length_digest]

theorem digest_long (salt : Salt) (secret : String) :
    30 < unspacedLength (Credential.digest salt secret) := by
  rw [unspacedLength_digest]
  decide

end

/-- A null passes what compares it. Keys and unique values are judged beside other rows, not here. -/
def ColumnConstraint.passes : ColumnConstraint → Cell → Bool
  | longerThan _ length, .text s => length < unspacedLength s
  | _, _ => true

def Column.passes (c : Column) (cell : Cell) : Bool :=
  c.constraints.all fun k => k.passes cell

namespace Column

variable {c : Column} {name : String} {kind : ColumnKind} {constraints : List ColumnConstraint}
  {t : Term} {cell : Cell}

@[simp]
theorem name_required : (required name kind).name = name := rfl

@[simp]
theorem name_nullable : (nullable name kind).name = name := rfl

@[simp]
theorem name_withDefault : (c.withDefault t).name = c.name := rfl

@[simp]
theorem name_constrained : (c.constrained constraints).name = c.name := rfl

@[simp]
theorem passes_required : (required name kind).passes cell = true := rfl

@[simp]
theorem passes_nullable : (nullable name kind).passes cell = true := rfl

@[simp]
theorem passes_withDefault : (c.withDefault t).passes cell = c.passes cell := rfl

@[simp]
theorem passes_constrained :
    (c.constrained constraints).passes cell = constraints.all fun k => k.passes cell := rfl

end Column

def Row.Passes (row : Row) (columns : List Column) : Prop :=
  ∀ c ∈ columns, ∀ cell, row.lookup c.name = some cell → c.passes cell = true

/-- The columns to which nothing is assigned. -/
def Relation.kept (r : Relation) (values : Assignments) : List Column :=
  r.columns.filter fun c => (values.lookup c.name).isNone

/-- The command may write where this row stands: any or none if it inserts one, and otherwise the row
    with the identifier that it names. What it does not assign to that row passes already. -/
def Command.Finds (c : Command) (r : Relation) (current? : Option Row) : Prop :=
  match c.statement with
  | .insert target _ => target = r
  | .update target values idParam =>
    target = r ∧ ∃ current, current? = some current ∧ r.Fits current ∧
      current.Passes (r.kept values) ∧ current.lookup "id" = c.parameters[idParam - 1]?
  | _ => False

section

variable {r : Relation} {cell : String → Cell} {values : Assignments} {u : StoredUser} {g : Group}

theorem passes_rowOf {columns : List Column} (part : columns ⊆ r.columns) :
    (r.rowOf cell).Passes columns ↔ ∀ c ∈ columns, c.passes (cell c.name) = true := by
  have holds {c : Column} (member : c ∈ columns) : (r.rowOf cell).lookup c.name = some (cell c.name) :=
    Relation.lookup_rowOf (List.mem_map_of_mem (part member))
  constructor
  · intro passes c member
    exact passes c member _ (holds member)
  · intro each c member value found
    obtain rfl := Option.some.inj ((holds member).symm.trans found)
    exact each c member

theorem kept_subset : r.kept values ⊆ r.columns :=
  List.filter_subset_self ..

theorem kept_nil : r.kept [] = r.columns :=
  List.filter_eq_self.2 fun _ _ => rfl

theorem passes_kept_userRow : (userRow u).Passes (Relation.users.kept values) ↔
    (values.lookup "name" = none → 2 < unspacedLength u.user.name) ∧
    (values.lookup "email" = none → 3 < unspacedLength u.user.email) ∧
    (values.lookup "username" = none → 2 < unspacedLength u.user.username) ∧
    (values.lookup "password_hash" = none → 30 < unspacedLength u.credentialDigest) := by
  rw [userRow, passes_rowOf kept_subset]
  simp [Relation.kept, Relation.columns, Relation.userColumns, Relation.idColumn,
    Relation.nameColumn, Relation.originColumns, Relation.historyColumns, ColumnConstraint.passes,
    userCell]

theorem passes_userRow : (userRow u).Passes Relation.users.columns ↔
    2 < unspacedLength u.user.name ∧ 3 < unspacedLength u.user.email ∧
      2 < unspacedLength u.user.username ∧ 30 < unspacedLength u.credentialDigest := by
  rw [← kept_nil, passes_kept_userRow]
  simp

theorem passes_groupRow : (groupRow g).Passes Relation.groups.columns ↔ 2 < unspacedLength g.name := by
  rw [groupRow, passes_rowOf (List.Subset.refl _)]
  simp [Relation.columns, Relation.groupColumns, Relation.idColumn, Relation.nameColumn,
    Relation.originColumns, Relation.historyColumns, ColumnConstraint.passes, groupCell]

theorem passes_of_valid (valid : ValidIdentity u.user.name u.user.email u.user.username)
    (digested : 30 < unspacedLength u.credentialDigest) :
    (userRow u).Passes Relation.users.columns := by
  refine passes_userRow.2 ⟨?_, ?_, ?_, digested⟩
  · exact longer_of_trimmed (by decide) valid.named
  · exact longer_of_trimmed (by decide) valid.reached
  · exact longer_of_trimmed (by decide) valid.called

end

section

variable {r : Relation} {current? : Option Row} {values : Assignments} {idParam : Nat}
  {parameters : List Cell}

theorem Represents.exists_of_finds {α : Type} {target : Relation} {Holds : Row → α → Prop}
    {encode : α → Row} (represents : Represents target Holds encode) {number : α → Int32}
    (own : ∀ a, (encode a).lookup "id" = some (.int4 (number a))) {n : Int32}
    (finds : Command.Finds ⟨.update target values idParam, parameters⟩ r current?)
    (names : parameters[idParam - 1]? = some (.int4 n)) :
    target = r ∧ ∃ a, current? = some (encode a) ∧ number a = n ∧
      (encode a).Passes (target.kept values) := by
  obtain ⟨rfl, current, rfl, fits, passes, addressed⟩ := finds
  obtain ⟨a, rfl⟩ := represents.every current fits
  have same := ((own a).symm.trans addressed).trans names
  simp only [Option.some.injEq, Cell.int4.injEq] at same
  exact ⟨rfl, a, rfl, same, passes⟩

theorem exists_user_of_finds {id : UserId}
    (finds : Command.Finds ⟨.update .users values idParam, parameters⟩ r current?)
    (names : parameters[idParam - 1]? = some (.int4 id.value)) :
    Relation.users = r ∧ ∃ u, current? = some (userRow u) ∧ u.user.id = id ∧
      (userRow u).Passes (Relation.users.kept values) := by
  obtain ⟨rfl, u, stands, same, passes⟩ :=
    users_represented.exists_of_finds (fun _ => Relation.lookup_rowOf (by decide)) finds names
  exact ⟨rfl, u, stands, congrArg UserId.mk same, passes⟩

theorem exists_group_of_finds {id : GroupId}
    (finds : Command.Finds ⟨.update .groups values idParam, parameters⟩ r current?)
    (names : parameters[idParam - 1]? = some (.int4 id.value)) :
    Relation.groups = r ∧ ∃ g, current? = some (groupRow g) ∧ g.id = id := by
  obtain ⟨rfl, g, stands, same, -⟩ :=
    groups_represented.exists_of_finds (fun _ => Relation.lookup_rowOf (by decide)) finds names
  exact ⟨rfl, g, stands, congrArg GroupId.mk same⟩

end

theorem passes_of_validated {β : Type} {c : Call β} {command : Command} {r : Relation}
    {current? : Option Row} {now : Instant} {serial : Int32} (validated : Validated c)
    (sends : writeCommand? c = some command) (finds : command.Finds r current?) :
    ∃ row, command.row? now serial current? = some row ∧ row.Passes r.columns := by
  cases c with
  | createUser new creator =>
    cases sends
    obtain rfl : Relation.users = r := finds
    obtain ⟨sent, salt, valid, -, rfl⟩ := validated
    refine ⟨_, insertUser_row? now serial _ creator current?, ?_⟩
    exact passes_of_valid (NewUser.validate_ok.1 valid) (digest_long salt _)
  | updateUser id update actor =>
    cases sends
    obtain ⟨rfl, u, rfl, rfl, kept⟩ := exists_user_of_finds finds rfl
    refine ⟨_, updateUser_row? now serial u update actor, ?_⟩
    -- No update assigns the digest, and the row passes with the one that it has.
    have digested := (passes_kept_userRow.1 kept).2.2.2 rfl
    exact passes_of_valid (UserUpdate.validateFor_ok.1 validated).2 digested
  | updateProfile id update actor =>
    cases sends
    obtain ⟨rfl, u, rfl, rfl, kept⟩ := exists_user_of_finds finds rfl
    refine ⟨_, updateProfile_row? now serial u update actor, ?_⟩
    have digested := (passes_kept_userRow.1 kept).2.2.2 rfl
    exact passes_of_valid (UserUpdate.validateFor_ok.1 validated).2 digested
  | resetPassword id digest actor =>
    cases sends
    obtain ⟨rfl, u, rfl, rfl, kept⟩ := exists_user_of_finds finds rfl
    obtain ⟨salt, secret, -, rfl⟩ := validated
    obtain ⟨named, reached, called, -⟩ := passes_kept_userRow.1 kept
    refine ⟨_, resetPassword_row? now serial u _ actor, passes_userRow.2 ?_⟩
    exact ⟨named rfl, reached rfl, called rfl, digest_long salt secret⟩
  | createGroup new creator =>
    cases sends
    obtain rfl : Relation.groups = r := finds
    refine ⟨_, insertGroup_row? now serial new creator current?, passes_groupRow.2 ?_⟩
    exact longer_of_trimmed (by decide) (NewGroup.validate_ok.1 validated)
  | updateGroup id update actor =>
    cases sends
    obtain ⟨rfl, g, rfl, rfl⟩ := exists_group_of_finds finds rfl
    refine ⟨_, updateGroup_row? now serial g update actor, passes_groupRow.2 ?_⟩
    exact longer_of_trimmed (by decide) (GroupUpdate.validate_ok.1 validated)
  | deleteUser | deleteGroup =>
    cases sends
    cases finds
  | listUsers | getUser | userExists | maxUserId | countUsers | listGroups | getGroup | countGroups
  | findIdByLoginName | loadAuthRecord | isActive | isAdmin | isLocked | accountState => cases sends

/-- A command whose values were validated leaves a row that passes every constraint on the length of a
    text, and a request has no others sent, whatever the store answers. -/
theorem validated_writes_pass_constraints :
    (∀ u, (userRow u).Passes Relation.users.columns ↔
      2 < unspacedLength u.user.name ∧ 3 < unspacedLength u.user.email ∧
        2 < unspacedLength u.user.username ∧ 30 < unspacedLength u.credentialDigest) ∧
    (∀ g, (groupRow g).Passes Relation.groups.columns ↔ 2 < unspacedLength g.name) ∧
    (∀ {β : Type} (c : Call β) command r now serial current?, Validated c →
      Sent (program (.call c)) command → command.statement.writes = true →
      command.Finds r current? →
      ∃ row, command.row? now serial current? = some row ∧ row.Passes r.columns) ∧
    ∀ (s : Http.Service) (x : Http.Exchange), (s.answer x).Asks Validated := by
  refine ⟨fun u => passes_userRow, fun g => passes_groupRow, ?_, Http.Service.asks_validated⟩
  intro β c command r now serial current? validated sent writes finds
  have sends : writeCommand? c = some command := (sent_iff (.call c) command).1 ⟨sent, writes⟩
  exact passes_of_validated validated sends finds

/-- A group is created and the administrator renamed, with tabs and wide spaces about the names. -/
theorem validated_writes_pass_constraints_blank :
    let now : Instant := { seconds := 60, nanos := 0 }
    let new : NewGroup := { name := "\u3000\t Staff\u00a0\t", comment := none }
    let u : StoredUser :=
      { user := Tables.bootstrapRecord { username := "admin", email := "a@e.org", password := "p" } now
        credentialDigest := String.ofList (List.replicate 60 '*') }
    let update : UserUpdate :=
      { name := "\tNight watch \u2003", email := " a@e.org\n", username := "nights\t\t",
        externalId := none, orgUnitId := none, groupIds := [], phone := none, isLocked := false,
        isAdmin := true, isActive := true, inactivationReason := none, comment := none,
        id := .bootstrap }
    (∃ row, (Groups.insertCommand new .bootstrap).row? now 1 none = some row ∧
      row.Passes Relation.groups.columns) ∧
    ∃ row, (Accounts.updateProfileCommand .bootstrap update .bootstrap).row? now 1 (some (userRow u)) =
      some row ∧ row.Passes Relation.users.columns := by
  intro now new u update
  obtain ⟨users, -, left, -⟩ := validated_writes_pass_constraints
  have newValid : new.validate = .ok () := NewGroup.validate_ok.2 (by decide)
  have identity : ValidIdentity update.name update.email update.username :=
    ⟨by decide, by decide, by decide, by decide⟩
  have updateValid : update.validateFor .bootstrap = .ok () :=
    UserUpdate.validateFor_ok.2 ⟨rfl, identity⟩
  have insertion := (sent_iff (.call (.createGroup new .bootstrap)) _).2 rfl
  have change := (sent_iff (.call (.updateProfile .bootstrap update .bootstrap)) _).2 rfl
  have passes : (userRow u).Passes Relation.users.columns := (users u).2 (by decide)
  have stands : (Accounts.updateProfileCommand .bootstrap update .bootstrap).Finds .users
      (some (userRow u)) :=
    ⟨rfl, _, rfl, users_represented.fits u, fun c member => passes c (kept_subset member), rfl⟩
  constructor
  · exact left (.createGroup new .bootstrap) _ .groups now 1 none newValid insertion.1 insertion.2 rfl
  · exact left (.updateProfile .bootstrap update .bootstrap) _ .users now 1 _ updateValid change.1
      change.2 stands

end AccountDirectory.Database
