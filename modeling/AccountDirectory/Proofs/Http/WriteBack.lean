import AccountDirectory.Proofs.Account.Json
import AccountDirectory.Proofs.Http.Credentials
import AccountDirectory.Proofs.Http.Identity
import AccountDirectory.Proofs.Http.Lifecycle
import AccountDirectory.Proofs.Http.Query
import AccountDirectory.Proofs.Identifier
import AccountDirectory.Proofs.Store.Inactivation

/-!
What is shown of an account, sent back as an update of it. It is read as the values that the account
has, so nothing is found to be wrong with it, and only the note of the last change is new.
-/

namespace AccountDirectory

open AccountDirectory.Crypto (Salt)
open AccountDirectory.Store
open AccountDirectory.Text (utf8)
open AccountDirectory.Time (Instant)

/-- The record as it was, with a note of a change and with this count of bad passwords. -/
def User.noted (u : User) (actor : UserId) (now : Instant) (count : Int32) : User :=
  { u with
    lastModificationTime := some now
    lastModificationUser := some actor
    badPasswordCount := count }

theorem User.administrativeChanges_asUpdate (u : User) : u.asUpdate.administrativeChanges u = [] := by
  have same : ∀ field ∈ AdminField.all, ¬ AdminField.differs u.asUpdate u field = true := by
    intro field _
    cases field <;> simp [AdminField.differs, asUpdate]
  exact List.filter_eq_nil_iff.2 same

theorem User.Identified.validateFor {u : User} (identified : u.Identified) :
    u.asUpdate.validateFor u.id = .ok () :=
  UserUpdate.validateFor_ok.2 ⟨rfl, identified⟩

namespace Store.Tables

variable {t : Tables} {id actor : UserId} {now : Instant} {stored : StoredUser} {u : User}

theorem profileRecord_asUpdate (u : User) :
    profileRecord u u.asUpdate actor now = u.noted actor now u.badPasswordCount := rfl

theorem inactivatedAt_same (now : Instant) (truthful : u.isActive = true ↔ u.inactivationTime = none) :
    inactivatedAt u.isActive u.inactivationTime now = u.inactivationTime := by
  cases active : u.isActive with
  | true => exact (truthful.1 active).symm
  | false =>
    obtain ⟨time, since⟩ : ∃ time, u.inactivationTime = some time := by
      refine Option.ne_none_iff_exists'.1 fun never => ?_
      exact Bool.noConfusion (active.symm.trans (truthful.2 never))
    rw [since]
    rfl

theorem updatedRecord_asUpdate (truthful : u.isActive = true ↔ u.inactivationTime = none) :
    updatedRecord u u.asUpdate actor now = u.noted actor now 0 := by
  have time := inactivatedAt_same now truthful
  unfold updatedRecord User.asUpdate User.noted
  rw [time]

theorem checkUserUnique_self (distinct : t.Distinct) (found : t.users.find? id.value = some stored) :
    t.checkUserUnique (some id) stored.user.name stored.user.email stored.user.username = .ok () := by
  refine checkUserUnique_ok.2 fun s member other => ?_
  have own : stored.user.id = id := id_of_find? found
  have another : s.user.id ≠ stored.user.id := fun same => other (congrArg some (same.trans own))
  have apart := free_of_same distinct found rfl rfl rfl rfl s member another
  exact ⟨apart.username, apart.email, apart.name⟩

theorem changeUser_asUpdate (distinct : t.Distinct) (found : t.users.find? id.value = some stored)
    (change : User → User) :
    t.changeUser id stored.user.asUpdate change =
      .ok (change stored.user, t.putUser { stored with user := change stored.user }) := by
  have unique := checkUserUnique_self distinct found
  exact user_bind_ok.2 ⟨stored, found, bind_eq_ok.2 ⟨(), unique, rfl⟩⟩

end Store.Tables

namespace Http

/-- The part of a path stands for the user, however the number is written. -/
def Addresses (part : String) (id : UserId) : Prop :=
  ∃ raw, decodedPart "id" part = .ok raw ∧ UserId.parse raw = .ok id

variable {x : Exchange} {claims : ClaimSet} {clock : Instant} {t after : Tables} {id : UserId}
  {part : String} {stored : StoredUser} {response : Response}

theorem Addresses.unique {other : UserId} (one : Addresses part id) (two : Addresses part other) :
    id = other := by
  obtain ⟨raw, path, parsed⟩ := one
  obtain ⟨_, same, again⟩ := two
  cases path.symm.trans same
  cases parsed.symm.trans again
  rfl

theorem addresses_render (positive : 1 ≤ id.value) : Addresses id.render id := by
  have plain := Text.sign_not_mem_digits (UserId.isDigit_of_mem_render positive)
  have decoded : decodedPart "id" id.render = .ok id.render := by
    unfold decodedPart
    rw [Text.Percent.decode_plain plain, Text.fromUTF8?_utf8]
  exact ⟨id.render, decoded, UserId.parse_render positive⟩

theorem Route.route_renderedPath (m : Method) (positive : 1 ≤ id.value) :
    of? m ("/api/users/" ++ id.render) = some (.session (match m.asked with
      | .get => some (.getUser id.render)
      | .put => some (.updateUser id.render)
      | .delete => some (.deleteUser id.render)
      | _ => none)) := by
  have digits := UserId.isDigit_of_mem_render positive
  have free : '/' ∉ id.render.toList := fun member => Bool.noConfusion (digits _ member)
  have plain : id.render ≠ "maxid" := by
    intro same
    rw [same] at digits
    exact Bool.noConfusion (digits 'm' (by decide))
  have filled : id.render ≠ "" := by
    intro same
    have parsed := UserId.parse_render positive
    rw [same] at parsed
    cases parsed
  exact route_userPath m free filled plain

namespace SessionAction

theorem runGetUser_ok (addressed : Addresses part id) (found : t.users.find? id.value = some stored) :
    runOn clock (runGetUser claims part) t = (.ok response, after) ↔
      (claims.isAdmin = true ∨ claims.subjectId = id) ∧ response = .json 200 stored.user.toJson ∧
        after = t := by
  obtain ⟨raw, path, parsed⟩ := addressed
  simp only [runGetUser, runOn_bind_ok, Handler.runOn_lift_ok, Handler.runOn_permitted_ok,
    Handler.runOn_checked_ok, Handler.runOn_call_ok, runOn_pure]
  constructor
  · rintro ⟨_, _, ⟨same, rfl⟩, _, _, ⟨again, rfl⟩, _, _, ⟨permitted, rfl⟩, user, _, read, done⟩
    cases path.symm.trans same
    cases parsed.symm.trans again
    obtain ⟨record, present, shown⟩ := Tables.user_map_ok.1 read
    cases found.symm.trans present
    cases shown
    cases done
    exact ⟨ClaimSet.requireSelfOrAdmin_ok.1 permitted, rfl, rfl⟩
  · rintro ⟨permitted, rfl, rfl⟩
    have read : after.apply clock (.getUser id) = .ok (stored.user, after) :=
      Tables.user_map_ok.2 ⟨stored, found, rfl⟩
    exact ⟨raw, after, ⟨path, rfl⟩, id, after, ⟨parsed, rfl⟩, (), after,
      ⟨ClaimSet.requireSelfOrAdmin_ok.2 permitted, rfl⟩, stored.user, after, read, rfl⟩

/-- A user's own values, sent as an update, are stored again by either of the two ways to change an
    account. -/
theorem runUpdateUser_own (addressed : Addresses part id)
    (found : t.users.find? id.value = some stored) (identified : stored.user.Identified)
    (truthful : t.Truthful id) (distinct : t.Distinct)
    (permitted : claims.isAdmin = true ∨ claims.subjectId = id)
    (body : x.request.value UserUpdate.reader = .ok stored.user.asUpdate) :
    let user := stored.user.noted claims.subjectId clock
      (if claims.isAdmin then 0 else stored.user.badPasswordCount)
    runOn clock (runUpdateUser x claims part) t =
      (.ok (.json 200 user.toJson), t.putUser { stored with user }) := by
  intro user
  obtain ⟨raw, path, parsed⟩ := addressed
  have own : stored.user.id = id := Tables.id_of_find? found
  have valid : stored.user.asUpdate.validateFor id = .ok () := own ▸ identified.validateFor
  have permit := ClaimSet.requireSelfOrAdmin_ok.2 permitted
  simp only [runUpdateUser, runOn_bind_ok, Handler.runOn_lift_ok, Handler.runOn_permitted_ok,
    Handler.runOn_checked_ok]
  refine ⟨raw, t, ⟨path, rfl⟩, _, t, ⟨body, rfl⟩, id, t, ⟨parsed, rfl⟩, (), t, ⟨permit, rfl⟩, (), t,
    ⟨valid, rfl⟩, ?_⟩
  cases admin : claims.isAdmin with
  | true =>
    have record : Tables.updatedRecord stored.user stored.user.asUpdate claims.subjectId clock = user := by
      rw [Tables.updatedRecord_asUpdate (truthful stored found)]
      simp only [user, admin, if_true]
    have done : t.updateUser id stored.user.asUpdate claims.subjectId clock =
        .ok (user, t.putUser { stored with user }) := by
      rw [← record]
      exact Tables.changeUser_asUpdate distinct found _
    simp only [if_true, runOn_bind_ok, Handler.runOn_call_ok, runOn_pure]
    exact ⟨user, _, done, rfl⟩
  | false =>
    have record : Tables.profileRecord stored.user stored.user.asUpdate claims.subjectId clock = user := by
      rw [Tables.profileRecord_asUpdate]
      simp only [user, admin, Bool.false_eq_true, if_false]
    have done : t.updateProfile id stored.user.asUpdate claims.subjectId clock =
        .ok (user, t.putUser { stored with user }) := by
      rw [← record]
      exact Tables.changeUser_asUpdate distinct found _
    have read : t.apply clock (.getUser id) = .ok (stored.user, t) :=
      Tables.user_map_ok.2 ⟨stored, found, rfl⟩
    simp only [Bool.false_eq_true, if_false, runOn_bind_ok, runOn_pure]
    refine ⟨user, t.putUser { stored with user }, ?_, rfl⟩
    simp only [updateProfile, runOn_bind_ok, Handler.runOn_call_ok]
    refine ⟨stored.user, t, read, ?_⟩
    rw [User.administrativeChanges_asUpdate]
    exact Handler.runOn_call_ok.2 done

end SessionAction

namespace Service

variable (s : Service)

/-- The document is what a `GET` for the user is answered with. -/
def Displays (t : Tables) (id : UserId) (doc : Json.Value) : Prop :=
  ∃ get part, get.exchange.request.method = .get ∧
    Route.of? get.exchange.request.method get.exchange.request.path =
      some (.session (some (.getUser part))) ∧
    Addresses part id ∧ (s.visit get t).1 = some (.json 200 doc)

/-- The request carries the document, as JSON that is read, to replace the values of the user. It is
    accepted on a token of that user or of an administrator. -/
structure Replaces (v : Visit) (t : Tables) (id : UserId) (doc : Json.Value) (claims : ClaimSet) :
    Prop where
  routed : ∃ part, Route.of? v.exchange.request.method v.exchange.request.path =
    some (.session (some (.updateUser part))) ∧ Addresses part id
  accepted : s.Accepts v.exchange t claims
  permitted : claims.isAdmin = true ∨ claims.subjectId = id
  asJson : ((v.exchange.request.header? "content-type").map MediaType.isJson).getD false = true
  body : v.exchange.request.body = utf8 doc.render
  short : v.exchange.request.body.length ≤ Request.maxBody

variable {s} {doc : Json.Value}

theorem Displays.eq_toJson (displays : s.Displays t id doc)
    (found : t.users.find? id.value = some stored) : doc = stored.user.toJson := by
  obtain ⟨get, part, asked, routed, addressed, answered⟩ := displays
  obtain ⟨claims, response, -, ran, same⟩ := visit_ok routed answered (show 200 < 400 by decide)
  obtain ⟨-, rfl, -⟩ := (SessionAction.runGetUser_ok addressed found).1 ran
  have whole : ¬ get.exchange.request.method = .head := by
    rw [asked]
    decide
  rw [if_neg whole] at same
  cases same
  rfl

theorem visit_getUser {v : Visit} (found : t.users.find? id.value = some stored)
    (asked : v.exchange.request.method = .get)
    (routed : Route.of? v.exchange.request.method v.exchange.request.path =
      some (.session (some (.getUser part))))
    (addressed : Addresses part id) (accepted : s.Accepts v.exchange t claims)
    (permitted : claims.isAdmin = true ∨ claims.subjectId = id) :
    s.visit v t = (some (.json 200 stored.user.toJson), t) := by
  have ran : runOn v.clock (SessionAction.run v.exchange claims (.getUser part)) t =
      (.ok (.json 200 stored.user.toJson), t) :=
    (SessionAction.runGetUser_ok addressed found).2 ⟨permitted, rfl, rfl⟩
  rw [visit_eq, carryOut_accepted routed accepted, ran, asked]
  rfl

theorem Replaces.value {v : Visit} {u : User} (replaces : s.Replaces v t id u.toJson claims) :
    v.exchange.request.value UserUpdate.reader = .ok u.asUpdate := by
  have short : ¬ Request.maxBody < v.exchange.request.body.length := Nat.not_lt.2 replaces.short
  unfold Request.value
  rw [replaces.asJson]
  simp only [Bool.not_true, Bool.false_eq_true, if_false, short]
  rw [replaces.body, Json.decodeFront_of_takes (UserUpdate.reader_takes_user u)]
  rfl

theorem visit_replaces {v : Visit} (replaces : s.Replaces v t id stored.user.toJson claims)
    (found : t.users.find? id.value = some stored) (identified : stored.user.Identified)
    (truthful : t.Truthful id) (distinct : t.Distinct) :
    let user := stored.user.noted claims.subjectId v.clock
      (if claims.isAdmin then 0 else stored.user.badPasswordCount)
    s.visit v t = (some (.json 200 user.toJson), t.putUser { stored with user }) := by
  intro user
  obtain ⟨part, routed, addressed⟩ := replaces.routed
  have ran : runOn v.clock (SessionAction.run v.exchange claims (.updateUser part)) t =
      (.ok (.json 200 user.toJson), t.putUser { stored with user }) :=
    SessionAction.runUpdateUser_own addressed found identified truthful distinct replaces.permitted
      replaces.value
  rw [visit_eq, carryOut_accepted routed replaces.accepted, ran]
  rw [shown_of_writes routed rfl]

/-- No request sets the administrator up again, so along a run an account has a time of inactivation
    just while it is inactive. -/
theorem after_truthful (initial : t.Initial) (run : List Visit) (id : UserId) :
    (s.after t run).Truthful id := by
  have start : t.Truthful id := by
    intro stored found
    obtain ⟨active, never⟩ := initial.active found
    exact iff_of_true active never
  refine after_keeps (P := fun t => t.Truthful id) start (fun t now β c here => ?_) run
  have quiet : ¬ (Operation.call c).Revives t id := by
    rintro ⟨seeds, -⟩
    cases seeds
  exact Tables.truthful_of_quiet here quiet

/-- A user other than the administrator that the directory starts with is read by the user or by an
    administrator, and what is shown is sent back by either. It is read as an update to the values
    the user has, which passes every check. The request is answered with status 200, and only the note
    of the last change is new in the record; an administrator also sets the count of bad passwords
    to 0. While there are numbers left, the number of the user, as it is rendered, leads there. -/
theorem shown_account_sent_back (s : Service) (admin : AdminAccount) (salt : Salt) (start : Instant)
    (run : List Visit) {id : UserId} {stored : StoredUser} (other : id ≠ .bootstrap)
    (found : (s.after (Tables.withBootstrapAdmin admin salt start) run).users.find? id.value =
      some stored) :
    let t := s.after (Tables.withBootstrapAdmin admin salt start) run
    let update := stored.user.asUpdate
    (∀ get part claims, get.exchange.request.method = .get →
      Route.of? get.exchange.request.method get.exchange.request.path =
        some (.session (some (.getUser part))) →
      Addresses part id → s.Accepts get.exchange t claims →
      (claims.isAdmin = true ∨ claims.subjectId = id) →
        s.visit get t = (some (.json 200 stored.user.toJson), t)) ∧
    (∀ put doc claims, s.Displays t id doc → s.Replaces put t id doc claims →
      let count := if claims.isAdmin then 0 else stored.user.badPasswordCount
      let written : StoredUser :=
        { stored with user := stored.user.noted claims.subjectId put.clock count }
      s.visit put t = (some (.json 200 written.user.toJson), t.putUser written) ∧
        (t.putUser written).users.find? id.value = some written) ∧
    (Json.decodeFront UserUpdate.reader (utf8 stored.user.toJson.render) = .ok update ∧
      update.administrativeChanges stored.user = [] ∧ update.validateFor id = .ok () ∧
      t.checkUserUnique (some id) update.name update.email update.username = .ok () ∧
      ∀ now, Tables.inactivatedAt update.isActive stored.user.inactivationTime now =
        stored.user.inactivationTime) ∧
    ((∀ part, part <+: run → (s.after (Tables.withBootstrapAdmin admin salt start) part).lastUserId <
        Int32.maxValue) →
      Addresses id.render id ∧
      Route.of? .get ("/api/users/" ++ id.render) =
        some (.session (some (.getUser id.render))) ∧
      Route.of? .put ("/api/users/" ++ id.render) =
        some (.session (some (.updateUser id.render)))) := by
  intro t update
  have initial : (Tables.withBootstrapAdmin admin salt start).Initial := .bootstrap admin salt start
  have own : stored.user.id = id := Tables.id_of_find? found
  have identified : stored.user.Identified :=
    (identified_or_seeded run found).resolve_right fun seeded => other seeded.1
  have truthful : t.Truthful id := after_truthful initial run id
  have distinct : t.Distinct := after_distinct initial.distinct run
  refine ⟨fun get part claims => visit_getUser found, fun put doc claims displays replaces => ?_,
    ⟨?_, ?_, ?_, ?_, ?_⟩, fun room => ?_⟩
  · obtain rfl := displays.eq_toJson found
    exact ⟨visit_replaces replaces found identified truthful distinct,
      Tables.find?_putUser_of_id own⟩
  · exact Json.decodeFront_of_takes (UserUpdate.reader_takes_user stored.user)
  · exact stored.user.administrativeChanges_asUpdate
  · exact own ▸ identified.validateFor
  · exact Tables.checkUserUnique_self distinct found
  · exact fun now => Tables.inactivatedAt_same now (truthful stored found)
  · have numbered := numbered_after room (initial.numbered .user) run List.prefix_rfl
    have positive : 1 ≤ id.value := (numbered.within id.value ⟨stored, found⟩).1
    exact ⟨addresses_render positive, Route.route_renderedPath .get positive,
      Route.route_renderedPath .put positive⟩

set_option maxRecDepth 2000 in
/-- A user that was just created reads its account and sends it back. -/
theorem shown_account_sent_back_created :
    let s : Service := { key := ⟨[7], by decide⟩, tokenSeconds := 3600 }
    let admin : AdminAccount := { username := "admin", email := "a@e.org", password := "p" }
    let salt : Salt := ⟨List.replicate 16 0, by decide⟩
    let start : Instant := { seconds := 0, nanos := 0 }
    let now : Instant := { seconds := 60, nanos := 0 }
    let claims (id : UserId) (isAdmin : Bool) : ClaimSet :=
      { subjectId := id, loginName := "u", displayName := "U", email := "u@e.org", isAdmin,
        issuedAt := start, expiresAt := { seconds := 3600, nanos := 0 } }
    let sending (bearer : ClaimSet) (method : Method) (path : String) (body : String) : Visit :=
      { exchange :=
          { request :=
              { method, path, query := "",
                headers := [("authorization", "Bearer " ++ Token.mint s.key bearer),
                  ("content-type", "application/json")],
                body := utf8 body },
            now, salt },
        clock := now }
    let create : Visit := sending (claims .bootstrap true) .post "/api/users"
      ("\x7b\"name\":\"Lovelace\",\"email\":\"b@e.org\",\"username\":\"lovelace\"," ++
        "\"password_hash\":\"0123456789abcdef0123456789abcdef\",\"is_admin\":false\x7d")
    let lovelace : User :=
      { id := ⟨2⟩, name := "Lovelace", email := "b@e.org", username := "lovelace", externalId := none,
        orgUnitId := none, groupIds := [], phone := none, isLocked := false, isAdmin := false,
        createTime := now, creator := .bootstrap, lastModificationTime := none,
        lastModificationUser := none, isActive := true, inactivationTime := none,
        inactivationReason := none, comment := none, badPasswordCount := 0 }
    let get : Visit := sending (claims ⟨2⟩ false) .get "/api/users/2" ""
    let put : Visit := sending (claims ⟨2⟩ false) .put "/api/users/2" lovelace.toJson.render
    let origin : Tables := Tables.withBootstrapAdmin admin salt start
    (s.visit get (s.after origin [create])).1 = some (.json 200 lovelace.toJson) ∧
      (s.visit put (s.after origin [create])).1 =
        some (.json 200 (lovelace.noted ⟨2⟩ now 0).toJson) := by
  intro s admin salt start now claims sending create lovelace get put origin
  have createRouted : Route.of? .post "/api/users" = some (.session (some .createUser)) := by decide
  have getRouted : Route.of? .get "/api/users/2" = some (.session (some (.getUser "2"))) := by decide
  have putRouted : Route.of? .put "/api/users/2" = some (.session (some (.updateUser "2"))) := by decide
  let stored : StoredUser :=
    { user := lovelace, credentialDigest := Credential.digest salt "0123456789abcdef0123456789abcdef" }
  let first : Tables := { origin with lastUserId := 2 }.putUser stored
  have visited : (s.visit create origin).2 = first := by
    have accepted : s.Accepts create.exchange origin (claims .bootstrap true).floored :=
      accepts_mint ⟨_, createRouted⟩ rfl rfl ⟨_, rfl, rfl, rfl⟩
    rw [visit_eq, carryOut_accepted createRouted accepted]
    rfl
  have created : s.after origin [create] = first := by
    rw [after_cons, after_nil, visited]
  have found : (s.after origin [create]).users.find? 2 = some stored := by
    rw [created]
    rfl
  have usable : (s.after origin [create]).Usable ⟨2⟩ := ⟨stored, found, rfl, rfl⟩
  have addressed : Addresses "2" ⟨2⟩ := ⟨"2", rfl, rfl⟩
  have reading : s.Accepts get.exchange (s.after origin [create]) (claims ⟨2⟩ false).floored :=
    accepts_mint ⟨_, getRouted⟩ rfl rfl usable
  have writing : s.Accepts put.exchange (s.after origin [create]) (claims ⟨2⟩ false).floored :=
    accepts_mint ⟨_, putRouted⟩ rfl rfl usable
  obtain ⟨reads, writes, -⟩ :=
    shown_account_sent_back s admin salt start [create] (by decide) found
  have shown := reads get "2" _ rfl getRouted addressed reading (.inr rfl)
  have displays : s.Displays (s.after origin [create]) ⟨2⟩ lovelace.toJson :=
    ⟨get, "2", rfl, getRouted, addressed, congrArg Prod.fst shown⟩
  have short : put.exchange.request.body.length ≤ Request.maxBody := by decide +kernel
  have replaces : s.Replaces put (s.after origin [create]) ⟨2⟩ lovelace.toJson
      (claims ⟨2⟩ false).floored :=
    ⟨⟨"2", putRouted, addressed⟩, writing, .inr rfl, rfl, rfl, short⟩
  exact ⟨congrArg Prod.fst shown, congrArg Prod.fst (writes put _ _ displays replaces).1⟩

end Service

end Http

end AccountDirectory
