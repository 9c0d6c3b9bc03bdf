import AccountDirectory.Proofs.Http.Bearer
import AccountDirectory.Proofs.Http.Run
import AccountDirectory.Proofs.Store.Identifiers

/-!
The life of an account. The administrator's never ends. Any other ends by a `DELETE` of its own path
for its user or for an administrator, and no token of it is accepted afterwards.
-/

namespace AccountDirectory.Http

open AccountDirectory.Store
open AccountDirectory.Time (Instant)

namespace Route

variable {m : Method} {path part : String}

theorem toList_userPath (p : List Char) :
    ['/'].intercalate [[], "api".toList, "users".toList, p] = "/api/users/".toList ++ p := by
  simp [List.intercalate]

theorem segments_userPath (free : '/' ∉ part.toList) :
    segments ("/api/users/" ++ part) = ["", "api", "users", part] := by
  have split : (['/'].intercalate [[], "api".toList, "users".toList, part.toList]).splitOn '/' =
      [[], "api".toList, "users".toList, part.toList] :=
    List.splitOn_intercalate '/' (by simp [free]) (List.cons_ne_nil _ _)
  rw [toList_userPath, ← String.toList_append] at split
  have parts := congrArg (List.map String.ofList) split
  refine parts.trans ?_
  simp

theorem path_of_segments (split : segments path = ["", "api", "users", part]) :
    path = "/api/users/" ++ part := by
  have parts := congrArg (List.map String.toList) split
  have lists : path.toList.splitOn '/' = [[], "api".toList, "users".toList, part.toList] := by
    simpa [segments, List.splitOn, Function.comp_def] using parts
  have whole : ['/'].intercalate (path.toList.splitOn '/') = path.toList :=
    List.intercalate_splitOn '/'
  rw [lists, toList_userPath, ← String.toList_append] at whole
  exact String.toList_injective whole.symm

/-- What can be done with a path under the users, but for the two that no user has. -/
theorem route_userPath (m : Method) (free : '/' ∉ part.toList) (filled : part ≠ "")
    (plain : part ≠ "maxid") :
    of? m ("/api/users/" ++ part) = some (.session (match m.asked with
      | .get => some (.getUser part)
      | .put => some (.updateUser part)
      | .delete => some (.deleteUser part)
      | _ => none)) := by
  cases m <;> simp [of?, segments_userPath free, ofSegments, ofUsers, Method.asked, filled]

theorem route_deleteUser (free : '/' ∉ part.toList) (filled : part ≠ "") (plain : part ≠ "maxid") :
    of? .delete ("/api/users/" ++ part) = some (.session (some (.deleteUser part))) :=
  route_userPath .delete free filled plain

theorem deleteUser_of_ofUsers {rest : List String}
    (routed : ofUsers m.asked rest = some (.session (some (.deleteUser part)))) :
    m = .delete ∧ rest = [part] := by
  unfold ofUsers at routed
  split at routed
  · cases m <;> cases routed
  · split at routed <;> cases routed
  · split at routed
    · cases routed
    · cases m <;> cases routed
      exact ⟨rfl, rfl⟩
  · split at routed <;> cases routed
  · cases routed

theorem deleteUser_of_ofGroups {rest : List String}
    (routed : ofGroups m.asked rest = some (.session (some (.deleteUser part)))) : False := by
  unfold ofGroups at routed
  split at routed
  · cases m <;> cases routed
  · split at routed
    · cases routed
    · cases m <;> cases routed
  · cases routed

/-- Only a `DELETE` of a path under the users asks for the deletion of a user. -/
theorem deleteUser_of_route (routed : of? m path = some (.session (some (.deleteUser part)))) :
    m = .delete ∧ path = "/api/users/" ++ part := by
  unfold of? at routed
  split at routed
  · rename_i rest split
    unfold ofSegments at routed
    split at routed
    · cases routed
    · cases routed
    · cases routed
    · split at routed <;> cases routed
    · split at routed <;> cases routed
    · obtain ⟨deletes, rfl⟩ := deleteUser_of_ofUsers routed
      exact ⟨deletes, path_of_segments split⟩
    · exact (deleteUser_of_ofGroups routed).elim
    · cases routed
  · cases routed

end Route

variable {x : Exchange} {claims : ClaimSet} {clock : Instant} {t after : Tables} {id : UserId}
  {action : SessionAction} {part raw : String}

theorem Effect.keeps_or_deletes (effect : Effect x claims clock t action after)
    (held : Kind.user.Holds t id.value) :
    Kind.user.Holds after id.value ∨ id ≠ .bootstrap ∧ ∃ part raw, action = .deleteUser part ∧
      decodedPart "id" part = .ok raw ∧ UserId.parse raw = .ok id ∧
      (claims.isAdmin = true ∨ claims.subjectId = id) := by
  obtain ⟨stored, found⟩ := held
  have put {last : Int32} {written : StoredUser} :
      Kind.user.Holds ({ t with lastUserId := last }.putUser written) id.value := by
    by_cases own : written.user.id = id
    · exact ⟨written, Tables.find?_putUser_of_id own⟩
    · exact ⟨stored, (Tables.find?_putUser_other own).trans found⟩
  cases effect with
  | nothing => exact .inl ⟨stored, found⟩
  | createUser _ _ _ _ done =>
    obtain ⟨-, rfl, rfl⟩ := Tables.createUser_ok done
    exact .inl put
  | updateUser _ _ _ _ _ done | updateProfile _ _ _ _ _ _ _ _ done =>
    obtain ⟨before, -, -, rfl, rfl⟩ := Tables.changeUser_ok done
    exact .inl put
  | @deleteUser part raw target _ path parsed spared permitted done =>
    obtain rfl := Tables.deleteUser_ok done
    by_cases own : target = id
    · subst own
      exact .inr ⟨spared, part, raw, rfl, path, parsed, permitted⟩
    · have kept := Table.find?_erase_other t.users fun same => own (congrArg UserId.mk same)
      exact .inl ⟨stored, kept.trans found⟩
  | changePassword _ _ _ _ _ _ done =>
    obtain ⟨before, -, rfl⟩ := Tables.resetPassword_ok done
    exact .inl put
  | createGroup _ _ _ done =>
    obtain ⟨-, -, rfl⟩ := Tables.createGroup_ok done
    exact .inl ⟨stored, found⟩
  | updateGroup _ _ _ _ _ done =>
    obtain ⟨-, -, -, -, rfl⟩ := Tables.updateGroup_ok done
    exact .inl ⟨stored, found⟩
  | deleteGroup _ _ _ done =>
    obtain rfl := Tables.deleteGroup_ok done
    exact .inl ⟨stored, found⟩

namespace Service

variable (s : Service)

/-- The request is a `DELETE` of the path of the user, accepted on a token of that user or of an
    administrator. -/
structure Deletes (v : Visit) (t : Tables) (id : UserId) : Prop where
  asked : v.exchange.request.method = .delete
  path : ∃ part raw, v.exchange.request.path = "/api/users/" ++ part ∧
    decodedPart "id" part = .ok raw ∧ UserId.parse raw = .ok id
  accepted : ∃ claims, s.Accepts v.exchange t claims ∧
    (claims.isAdmin = true ∨ claims.subjectId = id)

variable {s} {v : Visit} {run : List Visit}

theorem Accepts.holds (accepted : s.Accepts x t claims) :
    Kind.user.Holds t claims.subjectId.value := by
  obtain ⟨stored, found, -⟩ := accepted.usable
  exact ⟨stored, found⟩

theorem visit_keeps_or_deletes (v : Visit) (held : Kind.user.Holds t id.value) :
    Kind.user.Holds (s.visit v t).2 id.value ∨ id ≠ .bootstrap ∧ s.Deletes v t id := by
  rcases visit_effect v t with kept | ⟨action, claims, routed, accepted, effect⟩
  · exact .inl (kept.symm ▸ held)
  · rcases effect.keeps_or_deletes held with kept | ⟨spared, part, raw, rfl, path, parsed, permitted⟩
    · exact .inl kept
    · obtain ⟨asked, place⟩ := Route.deleteUser_of_route routed
      exact .inr ⟨spared, asked, ⟨part, raw, place, path, parsed⟩, claims, accepted, permitted⟩

theorem bootstrap_stays (held : Kind.user.Holds t UserId.bootstrap.value) :
    ∀ part, part <+: run → Kind.user.Holds (s.after t part) UserId.bootstrap.value := by
  refine Run.along held fun before v rest place here => ?_
  rw [after_append]
  exact (visit_keeps_or_deletes v here).resolve_right fun deleted => deleted.1 rfl

theorem deletes_between (held : Kind.user.Holds t id.value)
    (gone : ¬ Kind.user.Holds (s.after t run) id.value) :
    ∃ before v rest, run = before ++ v :: rest ∧ Kind.user.Holds (s.after t before) id.value ∧
      s.Deletes v (s.after t before) id ∧
      ∀ part, part <+: rest → ¬ Kind.user.Holds (s.after t (before ++ v :: part)) id.value := by
  obtain ⟨before, v, rest, place, present, absent⟩ :=
    begins (P := fun t => ¬ Kind.user.Holds t id.value) (not_not_intro held) gone
  have there := Classical.not_not.1 present
  have removed := absent [] List.nil_prefix
  rw [after_append] at removed
  have deletes := (visit_keeps_or_deletes v there).resolve_left removed
  exact ⟨before, v, rest, place, there, deletes.2, absent⟩

theorem visit_numbered (v : Visit) (numbered : Kind.user.Numbered t)
    (room : t.lastUserId < Int32.maxValue) : Kind.user.Numbered (s.visit v t).2 :=
  visit_keeps (P := fun after => Kind.user.Numbered after) v numbered fun _ c =>
    Tables.numbered_perform v.clock (.call c) numbered room

theorem last_le_visit (v : Visit) (room : t.lastUserId < Int32.maxValue) :
    t.lastUserId ≤ (s.visit v t).2.lastUserId := by
  refine visit_keeps (P := fun after => t.lastUserId ≤ after.lastUserId) v (Int32.le_refl _)
    fun _ c => ?_
  have grows : Kind.user.last t ≤ Kind.user.last ((Operation.call c).perform v.clock t) :=
    Tables.last_le_perform v.clock (.call c) room
  exact grows

/-- An identifier that was given is not given again. -/
theorem visit_gone (v : Visit) (other : id ≠ .bootstrap) (given : id.value ≤ t.lastUserId)
    (room : t.lastUserId < Int32.maxValue) (gone : ¬ Kind.user.Holds t id.value) :
    ¬ Kind.user.Holds (s.visit v t).2 id.value := by
  refine visit_keeps (P := fun after => ¬ Kind.user.Holds after id.value) v gone fun _ c held => ?_
  -- a record that comes back has the next number, which is above all that were given
  rcases Tables.appears_perform ⟨gone, held⟩ with ⟨next, -⟩ | ⟨-, one, -⟩
  · rw [next] at given
    exact Int32.lt_irrefl (Int32.lt_of_lt_of_le (lt_succ room) given)
  · exact other (congrArg UserId.mk one)

section

variable {first later : List Visit}
  (room : ∀ part, part <+: run → (s.after t part).lastUserId < Int32.maxValue)
include room

theorem numbered_after (numbered : Kind.user.Numbered t) :
    ∀ part, part <+: run → Kind.user.Numbered (s.after t part) := by
  refine Run.along numbered fun before v rest place here => ?_
  rw [after_append]
  exact visit_numbered v here (room before ⟨v :: rest, place.symm⟩)

theorem last_le_after (place : first ++ later <+: run) :
    (s.after t first).lastUserId ≤ (s.after t (first ++ later)).lastUserId := by
  obtain ⟨rest, whole⟩ := place
  refine Run.along (P := fun part => (s.after t first).lastUserId ≤
    (s.after t (first ++ part)).lastUserId) ?_ (fun before v after split grows => ?_) later List.prefix_rfl
  · rw [List.append_nil]
    exact Int32.le_refl _
  · have inside : first ++ before <+: run := ⟨v :: after ++ rest, by rw [← whole, split]; simp⟩
    rw [← List.append_assoc, after_append]
    exact Int32.le_trans grows (last_le_visit v (room _ inside))

theorem gone_after (other : id ≠ .bootstrap) (given : id.value ≤ (s.after t first).lastUserId)
    (gone : ¬ Kind.user.Holds (s.after t first) id.value) (place : first ++ later <+: run) :
    ¬ Kind.user.Holds (s.after t (first ++ later)) id.value := by
  obtain ⟨rest, whole⟩ := place
  refine Run.along (P := fun part => ¬ Kind.user.Holds (s.after t (first ++ part)) id.value) ?_
    (fun before v after split absent => ?_) later List.prefix_rfl
  · rwa [List.append_nil]
  · have inside : first ++ before <+: run := ⟨v :: after ++ rest, by rw [← whole, split]; simp⟩
    have still := Int32.le_trans given (last_le_after room inside)
    rw [← List.append_assoc, after_append]
    exact visit_gone v other still (room _ inside) absent

end

/-- Nobody may delete the administrator's account, whoever asks and however its number is written. -/
theorem visit_deletes_bootstrap (method : v.exchange.request.method = .delete)
    (place : v.exchange.request.path = "/api/users/" ++ part) (free : '/' ∉ part.toList)
    (path : decodedPart "id" part = .ok raw) (parsed : UserId.parse raw = .ok .bootstrap)
    (accepted : s.Accepts v.exchange t claims) :
    s.visit v t = (some (Fault.ofForbidden .bootstrapDeletion).response, t) := by
  -- neither of the two texts that the router does not take for an identifier can be parsed as one
  have filled : part ≠ "" := by
    rintro rfl
    cases path
    cases parsed
  have plain : part ≠ "maxid" := by
    rintro rfl
    cases path
    cases parsed
  have routed : Route.of? v.exchange.request.method v.exchange.request.path =
      some (.session (some (.deleteUser part))) := by
    rw [method, place]
    exact Route.route_deleteUser free filled plain
  have refused : claims.authorizeDeletion .bootstrap = .error .bootstrapDeletion := rfl
  have ran : runOn v.clock (SessionAction.runDeleteUser claims part) t =
      (.error (.fault (.ofForbidden .bootstrapDeletion)), t) := by
    simp only [SessionAction.runDeleteUser, path, runOn_bind, runOn_lift, parsed, Handler.checked,
      runOn_pure, refused, Handler.permitted, runOn_throw]
  have whole : ¬ v.exchange.request.method = .head := by
    rw [method]
    decide
  rw [visit_eq, carryOut_accepted routed accepted, SessionAction.run, ran]
  simp only [shown, whole, if_false, Refusal.response?]

/-- The administrator's account is always there, and a request to delete it is refused. Any other that
    goes away was deleted by a request for its own path on a token of its user or of an administrator,
    and while there are numbers left no token of that user is accepted afterwards. -/
theorem deleted_accounts_stay_closed (s : Service) (admin : AdminAccount) (salt : Crypto.Salt)
    (start : Instant) (run : List Visit) :
    let origin : Tables := Tables.withBootstrapAdmin admin salt start
    (∀ part, part <+: run → Kind.user.Holds (s.after origin part) UserId.bootstrap.value) ∧
    (∀ v t part raw claims, v.exchange.request.method = .delete →
      v.exchange.request.path = "/api/users/" ++ part → '/' ∉ part.toList →
      decodedPart "id" part = .ok raw → UserId.parse raw = .ok .bootstrap →
      s.Accepts v.exchange t claims → ∃ r, s.visit v t = (some r, t) ∧ r.status = 403) ∧
    ∀ (id : UserId) first later, id ≠ .bootstrap → first ++ later <+: run →
      Kind.user.Holds (s.after origin first) id.value →
      ¬ Kind.user.Holds (s.after origin (first ++ later)) id.value →
        (∃ before v rest, later = before ++ v :: rest ∧
          Kind.user.Holds (s.after origin (first ++ before)) id.value ∧
          s.Deletes v (s.after origin (first ++ before)) id ∧
          ∀ part, part <+: rest →
            ¬ Kind.user.Holds (s.after origin (first ++ (before ++ v :: part))) id.value) ∧
        ((∀ part, part <+: run → (s.after origin part).lastUserId < Int32.maxValue) →
          ∀ more v rest, run = first ++ later ++ more ++ v :: rest →
          ∀ claims, claims.subjectId = id →
            ¬ s.Accepts v.exchange (s.after origin (first ++ later ++ more)) claims ∧
            ∀ action token, Route.of? v.exchange.request.method v.exchange.request.path =
              some (.session action) → v.exchange.request.bearerToken? = some token →
              Token.verifyAt s.key token v.exchange.now = .ok claims →
                (s.visit v (s.after origin (first ++ later ++ more))).1 = some (.empty 401)) := by
  intro origin
  refine ⟨?_, fun v t part raw claims method place free path parsed accepted => ?_,
    fun id first later other inside held gone => ⟨?_, fun room more v rest place claims own => ?_⟩⟩
  · exact bootstrap_stays ⟨_, Tables.find?_putUser_self _ _⟩
  · exact ⟨_, visit_deletes_bootstrap method place free path parsed accepted, rfl⟩
  · rw [after_append] at gone
    simpa only [after_append] using deletes_between held gone
  · have initial : origin.Initial := .bootstrap admin salt start
    have firstInside : first <+: run := (List.prefix_append first later).trans inside
    have numbered := numbered_after room (initial.numbered .user) first firstInside
    have given := Int32.le_trans (numbered.within id.value held).2 (last_le_after room inside)
    have still : ¬ Kind.user.Holds (s.after origin (first ++ later ++ more)) claims.subjectId.value := by
      rw [own]
      exact gone_after room other given gone ⟨v :: rest, place.symm⟩
    refine ⟨fun accepted => still accepted.holds, fun action token routed borne verified => ?_⟩
    have closed : ¬ (s.after origin (first ++ later ++ more)).Usable claims.subjectId :=
      fun ⟨stored, found, _⟩ => still ⟨stored, found⟩
    rw [visit_barred routed (.inr ⟨token, borne, .inr ⟨claims, verified, closed⟩⟩)]

set_option maxRecDepth 2000 in
/-- The administrator creates a user, deletes it and creates it again, and the deleted user comes back
    with the old token. -/
theorem deleted_accounts_stay_closed_returning :
    let s : Service := { key := ⟨[7], by decide⟩, tokenSeconds := 3600 }
    let admin : AdminAccount := { username := "admin", email := "a@e.org", password := "p" }
    let salt : Crypto.Salt := ⟨List.replicate 16 0, by decide⟩
    let start : Instant := { seconds := 0, nanos := 0 }
    let claims (id : UserId) (isAdmin : Bool) : ClaimSet :=
      { subjectId := id, loginName := "u", displayName := "U", email := "u@e.org", isAdmin,
        issuedAt := start, expiresAt := { seconds := 3600, nanos := 0 } }
    let sending (bearer : ClaimSet) (method : Method) (path : String) (body : String) : Visit :=
      { exchange :=
          { request :=
              { method, path, query := "",
                headers := [("authorization", "Bearer " ++ Token.mint s.key bearer),
                  ("content-type", "application/json")],
                body := Text.utf8 body },
            now := { seconds := 60, nanos := 0 }, salt },
        clock := { seconds := 60, nanos := 0 } }
    let boss : ClaimSet := claims .bootstrap true
    let create : Visit := sending boss .post "/api/users"
      ("\x7b\"name\":\"Lovelace\",\"email\":\"b@e.org\",\"username\":\"lovelace\"," ++
        "\"password_hash\":\"0123456789abcdef0123456789abcdef\",\"is_admin\":false\x7d")
    let delete : Visit := sending boss .delete "/api/users/2" ""
    let spare : Visit := sending boss .delete "/api/users/+1" ""
    let back : Visit := sending (claims ⟨2⟩ false) .get "/api/status" ""
    let origin : Tables := Tables.withBootstrapAdmin admin salt start
    (∃ r, s.visit spare origin = (some r, origin) ∧ r.status = 403) ∧
      s.Deletes delete (s.after origin [create]) ⟨2⟩ ∧
      (s.visit back (s.after origin [create, delete, create])).1 = some (.empty 401) := by
  intro s admin salt start claims sending boss create delete spare back origin
  have createRouted : Route.of? .post "/api/users" = some (.session (some .createUser)) := by decide
  have deleteRouted : Route.of? .delete "/api/users/2" = some (.session (some (.deleteUser "2"))) := by
    decide
  have statusRouted : Route.of? .get "/api/status" = some (.session (some .status)) := by decide
  let lovelace (id : UserId) : StoredUser :=
    { user := Tables.newRecord
        { name := "Lovelace", email := "b@e.org", username := "lovelace", credentialDigest := "",
          externalId := none, orgUnitId := none, groupIds := [], phone := none, isAdmin := false,
          comment := none } id .bootstrap { seconds := 60, nanos := 0 },
      credentialDigest := Credential.digest salt "0123456789abcdef0123456789abcdef" }
  let first : Tables := { origin with lastUserId := 2 }.putUser (lovelace ⟨2⟩)
  let second : Tables := { first with users := first.users.erase 2 }
  let third : Tables := { second with lastUserId := 3 }.putUser (lovelace ⟨3⟩)
  have atOrigin : s.Accepts create.exchange origin boss.floored ∧ (s.visit create origin).2 = first := by
    have accepted : s.Accepts create.exchange origin boss.floored :=
      accepts_mint ⟨_, createRouted⟩ rfl rfl ⟨_, rfl, rfl, rfl⟩
    refine ⟨accepted, ?_⟩
    rw [visit_eq, carryOut_accepted createRouted accepted]
    rfl
  have atFirst : s.Accepts delete.exchange first boss.floored ∧ (s.visit delete first).2 = second := by
    have accepted : s.Accepts delete.exchange first boss.floored :=
      accepts_mint ⟨_, deleteRouted⟩ rfl rfl ⟨_, rfl, rfl, rfl⟩
    refine ⟨accepted, ?_⟩
    rw [visit_eq, carryOut_accepted deleteRouted accepted]
    rfl
  have atSecond : (s.visit create second).2 = third := by
    have accepted : s.Accepts create.exchange second boss.floored :=
      accepts_mint ⟨_, createRouted⟩ rfl rfl ⟨_, rfl, rfl, rfl⟩
    rw [visit_eq, carryOut_accepted createRouted accepted]
    rfl
  have borne : back.exchange.request.bearerToken? = some (Token.mint s.key (claims ⟨2⟩ false)) :=
    Request.bearerToken?_mint s.key _ rfl
  have verified : Token.verifyAt s.key (Token.mint s.key (claims ⟨2⟩ false)) back.exchange.now =
      .ok (claims ⟨2⟩ false).floored := by
    rw [Token.verifyAt_mint]
    rfl
  have closed : ¬ third.Usable ⟨2⟩ := by
    rintro ⟨stored, found, -⟩
    cases found
  have atThird : (s.visit back third).2 = third := by
    rw [visit_barred statusRouted (.inr ⟨_, borne, .inr ⟨_, verified, closed⟩⟩)]
  have created : s.after origin [create] = first := by
    rw [after_cons, after_nil, atOrigin.2]
  have deleted : s.after origin [create, delete] = second := by
    rw [after_cons, atOrigin.2, after_cons, after_nil, atFirst.2]
  have again : s.after origin [create, delete, create] = third := by
    rw [after_cons, atOrigin.2, after_cons, atFirst.2, after_cons, after_nil, atSecond]
  have turned : s.after origin [create, delete, create, back] = third := by
    rw [after_cons, atOrigin.2, after_cons, atFirst.2, after_cons, atSecond, after_cons, after_nil,
      atThird]
  let run : List Visit := [create, delete, create, back]
  have room : ∀ part, part <+: run → (s.after origin part).lastUserId < Int32.maxValue := by
    have low : (1 : Int32) < Int32.maxValue ∧ (2 : Int32) < Int32.maxValue ∧
        (3 : Int32) < Int32.maxValue := by decide
    intro part inside
    simp only [run, List.prefix_cons_iff, List.prefix_nil] at inside
    rcases inside with rfl | ⟨_, rfl, rfl | ⟨_, rfl, rfl | ⟨_, rfl, rfl | ⟨_, rfl, rfl⟩⟩⟩⟩
    · exact low.1
    · rw [created]
      exact low.2.1
    · rw [deleted]
      exact low.2.1
    · rw [again]
      exact low.2.2
    · rw [turned]
      exact low.2.2
  have spareAccepted : s.Accepts spare.exchange origin boss.floored := by
    refine accepts_mint ⟨some (.deleteUser "+1"), ?_⟩ rfl rfl ⟨_, rfl, rfl, rfl⟩
    decide
  have held : Kind.user.Holds (s.after origin [create]) 2 := by
    rw [created]
    exact ⟨_, rfl⟩
  have gone : ¬ Kind.user.Holds (s.after origin ([create] ++ [delete])) 2 := by
    rw [List.singleton_append, deleted]
    rintro ⟨stored, found⟩
    cases found
  obtain ⟨-, spares, ends⟩ := deleted_accounts_stay_closed s admin salt start run
  have refused := spares spare origin "+1" "+1" boss.floored rfl rfl (by decide) rfl rfl
    spareAccepted
  obtain ⟨⟨before, v, rest, place, -, deletes, -⟩, later⟩ :=
    ends ⟨2⟩ [create] [delete] (by decide) ⟨[create, back], rfl⟩ held gone
  have unanswered := (later room [create] back [] rfl (claims ⟨2⟩ false).floored rfl).2
    _ _ statusRouted borne verified
  refine ⟨refused, ?_, unanswered⟩
  match before with
  | [] =>
    obtain ⟨rfl, -⟩ := List.cons.inj place
    exact deletes
  | first :: before => simp at place

end Service

end AccountDirectory.Http
