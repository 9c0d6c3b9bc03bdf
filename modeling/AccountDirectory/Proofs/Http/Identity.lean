import AccountDirectory.Proofs.Account.Identity
import AccountDirectory.Proofs.Http.Run
import AccountDirectory.Proofs.Settings

/-!
Which identities are stored: requests only store those that pass the rules, but the identity of the
administrator is stored as it is configured, and stays so until a request replaces it.
-/

namespace AccountDirectory

open AccountDirectory.Crypto (Salt)
open AccountDirectory.Store
open AccountDirectory.Time (Instant)

def User.Identified (u : User) : Prop :=
  ValidIdentity u.name u.email u.username

/-- The record has the identity that the administrator is first stored with. -/
structure AdminAccount.Seeded (admin : AdminAccount) (u : User) : Prop where
  named : u.name = AdminAccount.displayName
  reached : u.email = admin.email
  called : u.username = admin.username

theorem AdminAccount.Seeded.identified_iff {admin : AdminAccount} {u : User} (seeded : admin.Seeded u) :
    u.Identified ↔ ValidIdentity AdminAccount.displayName admin.email admin.username := by
  unfold User.Identified
  rw [seeded.named, seeded.reached, seeded.called]

namespace Store.Tables

/-- Every group has a name that passes the rules. -/
def GroupsNamed (t : Tables) : Prop :=
  ∀ g ∈ t.groups.rows, minGroupNameLength ≤ Text.trimmedLength g.name

/-- What is stored afterwards under an identifier has an identity that passes the rules, or the one
    that stood there before; and the names of groups go on passing them. -/
structure KeepsIdentities (t after : Tables) : Prop where
  users : ∀ (id : UserId) stored, after.users.find? id.value = some stored →
    stored.user.Identified ∨
      ∃ before, t.users.find? id.value = some before ∧ stored.user.name = before.user.name ∧
        stored.user.email = before.user.email ∧ stored.user.username = before.user.username
  groups : t.GroupsNamed → after.GroupsNamed

variable {t : Tables} {target : UserId} {number : Int32}

theorem KeepsIdentities.refl (t : Tables) : t.KeepsIdentities t where
  users := fun _ stored found => .inr ⟨stored, found, rfl, rfl, rfl⟩
  groups := id

theorem keepsIdentities_putUser {next : StoredUser} (fits : next.user.Identified) :
    t.KeepsIdentities ({ t with lastUserId := number }.putUser next) := by
  refine ⟨fun id stored found => ?_, fun named => named⟩
  rcases find?_putUser_some found with ⟨-, rfl⟩ | kept
  · exact .inl fits
  · exact .inr ⟨stored, kept, rfl, rfl, rfl⟩

theorem keepsIdentities_resetPassword {current : StoredUser} {digest : String} {actor : UserId}
    {now : Instant} (present : t.users.find? target.value = some current) :
    t.KeepsIdentities
      (t.putUser { user := resetRecord current.user actor now, credentialDigest := digest }) := by
  refine ⟨fun id stored found => ?_, fun named => named⟩
  rcases find?_putUser_some found with ⟨own, rfl⟩ | kept
  · have place : target = id := (id_of_find? present).symm.trans own
    exact .inr ⟨current, place ▸ present, rfl, rfl, rfl⟩
  · exact .inr ⟨stored, kept, rfl, rfl, rfl⟩

theorem keepsIdentities_erase : t.KeepsIdentities { t with users := t.users.erase target.value } := by
  refine ⟨fun id stored found => ?_, fun named => named⟩
  have member := Table.mem_of_find? found
  have kept := Table.find?_of_mem (Table.mem_erase.1 member).1
  have own : stored.user.id = id := id_of_find? found
  subst own
  exact .inr ⟨stored, kept, rfl, rfl, rfl⟩

theorem keepsIdentities_putGroup {g : Group} (fits : minGroupNameLength ≤ Text.trimmedLength g.name) :
    t.KeepsIdentities ({ t with lastGroupId := number }.putGroup g) := by
  refine ⟨fun id stored found => .inr ⟨stored, found, rfl, rfl, rfl⟩, fun named other member => ?_⟩
  rcases Table.mem_insert.1 member with rfl | ⟨earlier, -⟩
  · exact fits
  · exact named other earlier

theorem keepsIdentities_eraseGroup : t.KeepsIdentities { t with groups := t.groups.erase number } where
  users := fun _ stored found => .inr ⟨stored, found, rfl, rfl, rfl⟩
  groups := fun named g member => named g (Table.mem_erase.1 member).1

end Store.Tables

namespace Http

variable {x : Exchange} {claims : ClaimSet} {clock : Instant} {t after : Tables} {action : SessionAction}

/-- Whatever a request writes was checked, or leaves the identity alone. -/
theorem Effect.keepsIdentities (effect : Effect x claims clock t action after) :
    t.KeepsIdentities after := by
  cases effect with
  | nothing => exact .refl t
  | createUser body admin valid digest stored =>
    obtain ⟨-, rfl, rfl⟩ := Tables.createUser_ok stored
    have fits := NewUser.validate_ok.1 valid
    exact Tables.keepsIdentities_putUser fits
  | updateUser path parsed body valid admin stored =>
    obtain ⟨current, present, -, -, rfl⟩ := Tables.changeUser_ok stored
    have fits := (UserUpdate.validateFor_ok.1 valid).2
    exact Tables.keepsIdentities_putUser fits
  | updateProfile path parsed body valid common own found same stored =>
    obtain ⟨current, present, -, -, rfl⟩ := Tables.changeUser_ok stored
    have fits := (UserUpdate.validateFor_ok.1 valid).2
    exact Tables.keepsIdentities_putUser fits
  | deleteUser path parsed spared permitted stored =>
    obtain rfl := Tables.deleteUser_ok stored
    exact Tables.keepsIdentities_erase
  | changePassword path parsed body permitted digest proven stored =>
    obtain ⟨current, present, rfl⟩ := Tables.resetPassword_ok stored
    exact Tables.keepsIdentities_resetPassword present
  | createGroup body admin valid stored =>
    obtain ⟨-, rfl, rfl⟩ := Tables.createGroup_ok stored
    have fits := NewGroup.validate_ok.1 valid
    exact Tables.keepsIdentities_putGroup fits
  | updateGroup path parsed body admin valid stored =>
    obtain ⟨current, present, -, rfl, rfl⟩ := Tables.updateGroup_ok stored
    have fits := GroupUpdate.validate_ok.1 valid
    exact Tables.keepsIdentities_putGroup fits
  | deleteGroup path parsed admin stored =>
    obtain rfl := Tables.deleteGroup_ok stored
    exact Tables.keepsIdentities_eraseGroup

namespace Service

variable {s : Service} {admin : AdminAccount} {salt : Salt} {start : Instant}

theorem visit_keepsIdentities (v : Visit) (t : Tables) : t.KeepsIdentities (s.visit v t).2 := by
  rcases visit_effect v t with kept | ⟨action, claims, -, -, effect⟩
  · rw [kept]
    exact .refl t
  · exact effect.keepsIdentities

theorem groupsNamed_after (run : List Visit) :
    (s.after (Tables.withBootstrapAdmin admin salt start) run).GroupsNamed := by
  have none : (Tables.withBootstrapAdmin admin salt start).GroupsNamed := by
    intro g member
    cases member
  have every : ∀ part, part <+: run →
      (s.after (Tables.withBootstrapAdmin admin salt start) part).GroupsNamed := by
    refine Run.along none fun before v rest _ named => ?_
    rw [after_append]
    exact (visit_keepsIdentities v _).groups named
  exact every run List.prefix_rfl

/-- Along a run the identity of every user passes the rules, or is still the one configured for the
    administrator. -/
theorem identified_or_seeded (run : List Visit) {id : UserId} {stored : StoredUser}
    (found : (s.after (Tables.withBootstrapAdmin admin salt start) run).users.find? id.value =
      some stored) :
    stored.user.Identified ∨ id = .bootstrap ∧ admin.Seeded stored.user := by
  have every : ∀ part, part <+: run → ∀ (id : UserId) stored,
      (s.after (Tables.withBootstrapAdmin admin salt start) part).users.find? id.value =
        some stored → stored.user.Identified ∨ id = .bootstrap ∧ admin.Seeded stored.user := by
    refine Run.along ?_ fun before v rest _ earlier id stored found => ?_
    · intro id stored found
      by_cases own : id = .bootstrap
      · subst own
        have first : (Tables.withBootstrapAdmin admin salt start).users.find?
            UserId.bootstrap.value = some { user := Tables.bootstrapRecord admin start
                                            credentialDigest := admin.credentialDigest salt } := rfl
        obtain rfl := Option.some.inj (first.symm.trans found)
        exact .inr ⟨rfl, rfl, rfl, rfl⟩
      · cases (Tables.withBootstrapAdmin_find? admin salt start own).symm.trans found
    · rw [after_append, after_cons, after_nil] at found
      rcases (visit_keepsIdentities v _).users id stored found with
        valid | ⟨before, present, named, reached, called⟩
      · exact .inl valid
      · rcases earlier id before present with valid | ⟨own, seeded⟩
        · left
          unfold User.Identified at valid ⊢
          rwa [named, reached, called]
        · exact .inr ⟨own, named.trans seeded.named, reached.trans seeded.reached,
            called.trans seeded.called⟩
  exact every run List.prefix_rfl id stored found

/-- With accepted settings, every group always has a name that passes the rules, and so does the
    identity of every user, except that the administrator may still have the one that was configured.
    This one is only known not to be blank, so all identities always pass just when it does. -/
theorem identities_valid_unless_seeded (s : Service) {lookup : String → Option String}
    {settings : Settings} (accepted : Settings.fromLookup lookup = .ok settings) (salt : Salt)
    (start : Instant) :
    let origin := Tables.withBootstrapAdmin settings.admin salt start
    (∀ u : User, u.Identified ↔ checkIdentity u.name u.email u.username = .ok ()) ∧
    (∀ run, (∀ g ∈ (s.after origin run).groups.rows,
        minGroupNameLength ≤ Text.trimmedLength g.name) ∧
      ∀ stored ∈ (s.after origin run).users.rows,
        stored.user.Identified ∨ stored.user.id = .bootstrap ∧ settings.admin.Seeded stored.user) ∧
    1 ≤ Text.trimmedLength settings.admin.username ∧
    1 ≤ Text.trimmedLength settings.admin.email ∧
    ((∀ run, ∀ stored ∈ (s.after origin run).users.rows, stored.user.Identified) ↔
      minUsernameLength ≤ Text.trimmedLength settings.admin.username ∧
        minEmailLength ≤ Text.trimmedLength settings.admin.email ∧
        '@' ∈ settings.admin.email.toList) := by
  intro origin
  have sound := Settings.accepted_of_fromLookup accepted
  have stays : ∀ run, ∀ stored ∈ (s.after origin run).users.rows,
      stored.user.Identified ∨ stored.user.id = .bootstrap ∧ settings.admin.Seeded stored.user :=
    fun run stored member => identified_or_seeded run (Table.find?_of_mem member)
  refine ⟨fun u => checkIdentity_ok.symm, fun run => ⟨groupsNamed_after run, stays run⟩,
    Text.trimmedLength_pos sound.username, Text.trimmedLength_pos sound.email, ?_, ?_⟩
  · intro always
    have first : { user := Tables.bootstrapRecord settings.admin start
                   credentialDigest := settings.admin.credentialDigest salt } ∈ origin.users.rows :=
      List.mem_singleton.2 rfl
    have valid : ValidIdentity AdminAccount.displayName settings.admin.email settings.admin.username :=
      always [] _ first
    exact ⟨valid.called, valid.reached, valid.atSign⟩
  · rintro ⟨called, reached, atSign⟩ run stored member
    rcases stays run stored member with valid | ⟨-, seeded⟩
    · exact valid
    · exact seeded.identified_iff.2 ⟨by decide, called, reached, atSign⟩

/-- The default administrator passes the rules, and so does everyone then. -/
theorem identities_valid_unless_seeded_default :
    let s : Service := { key := ⟨[107], by decide⟩, tokenSeconds := 3600 }
    let lookup (name : String) : Option String :=
      [("DATABASE_URL", "db"), ("JWT_SECRET", "k"), ("ADMIN_PASSWORD", "p")].lookup name
    let salt : Salt := ⟨List.replicate 16 0, by decide⟩
    let start : Instant := { seconds := 0, nanos := 0 }
    ∃ settings, Settings.fromLookup lookup = .ok settings ∧
      ∀ run, ∀ stored ∈
        (s.after (Tables.withBootstrapAdmin settings.admin salt start) run).users.rows,
        stored.user.Identified := by
  intro s lookup salt start
  let settings : Settings :=
    { listenIp := Settings.defaultListenIp, port := 8080, databaseUrl := "db",
      maxConnections := none, tokenSecret := Text.utf8 "k", tokenMinutes := 60,
      admin := { username := "goadmin", email := "goadmin@yourdomain.org", password := "p" } }
  have accepted : Settings.fromLookup lookup = .ok settings := by rfl
  obtain ⟨-, -, -, -, always⟩ := identities_valid_unless_seeded s accepted salt start
  exact ⟨settings, accepted, always.2 ⟨by decide, by decide, by decide⟩⟩

/-- An administrator of two letters is accepted and stored. -/
theorem seeded_identity_too_short :
    let s : Service := { key := ⟨[107], by decide⟩, tokenSeconds := 3600 }
    let lookup (name : String) : Option String :=
      [("DATABASE_URL", "db"), ("JWT_SECRET", "k"), ("ADMIN_USER", "ab"),
        ("ADMIN_PASSWORD", "p")].lookup name
    let salt : Salt := ⟨List.replicate 16 0, by decide⟩
    let start : Instant := { seconds := 0, nanos := 0 }
    ∃ settings, Settings.fromLookup lookup = .ok settings ∧
      ∃ stored ∈ (s.after (Tables.withBootstrapAdmin settings.admin salt start) []).users.rows,
        Text.trimmedLength stored.user.username = 2 ∧ ¬ stored.user.Identified := by
  intro s lookup salt start
  let settings : Settings :=
    { listenIp := Settings.defaultListenIp, port := 8080, databaseUrl := "db",
      maxConnections := none, tokenSecret := Text.utf8 "k", tokenMinutes := 60,
      admin := { username := "ab", email := "goadmin@yourdomain.org", password := "p" } }
  have accepted : Settings.fromLookup lookup = .ok settings := by rfl
  have short : Text.trimmedLength "ab" = 2 := by decide
  refine ⟨settings, accepted, _, List.mem_singleton.2 rfl, short, fun valid => ?_⟩
  have called : minUsernameLength ≤ Text.trimmedLength "ab" := valid.called
  rw [short] at called
  exact absurd called (by decide)

end Service

end Http

end AccountDirectory
