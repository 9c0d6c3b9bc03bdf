import AccountDirectory.Proofs.Http.Confinement
import AccountDirectory.Proofs.Http.Run

/-!
Sessions end with their account: a request whose account is absent, inactive or locked is refused
before any handler, so that only another administrator can make the account usable again.
-/

namespace AccountDirectory.Http.Service

open AccountDirectory.Store

variable {s : Service}

/-- Leaving the state of an account that is stored but may not be used takes an administrator, and
    not the owner of the account, whose requests are refused. -/
theorem admin_of_not_disabled {v : Visit} {t : Tables} {id : UserId} (disabled : t.Disabled id)
    (left : ¬ (s.visit v t).2.Disabled id) :
    ∃ claims, s.Accepts v.exchange t claims ∧ claims.isAdmin = true ∧ claims.subjectId ≠ id := by
  rcases visit_effect v t with kept | ⟨_, claims, _, accepted, _⟩
  · rw [kept] at left
    exact absurd disabled left
  · have other : claims.subjectId ≠ id := by
      rintro rfl
      exact disabled.not_usable accepted.usable
    cases admin : claims.isAdmin with
    | true => exact ⟨claims, accepted, admin, other⟩
    | false =>
      have kept := (visit_confined accepted admin).others id other.symm
      unfold Tables.Disabled at left
      rw [kept] at left
      exact absurd disabled left

theorem admin_between {t : Tables} {run : List Visit} {id : UserId} (disabled : t.Disabled id)
    (usable : (s.after t run).Usable id) :
    ∃ before v rest claims, run = before ++ v :: rest ∧
      s.Accepts v.exchange (s.after t before) claims ∧ claims.isAdmin = true ∧
      claims.subjectId ≠ id := by
  have finish : ¬ (s.after t run).Disabled id := fun h => h.not_usable usable
  obtain ⟨before, v, rest, same, still, begun⟩ :=
    begins (P := fun t => ¬ t.Disabled id) (not_not_intro disabled) finish
  have left := begun [] List.nil_prefix
  rw [after_append] at left
  obtain ⟨claims, accepted⟩ := admin_of_not_disabled (Classical.not_not.1 still) left
  exact ⟨before, v, rest, claims, same, accepted⟩

/-- At every point of every run, a request behind the session that has no token, a rejected one, or
    an account that is absent or may not be used, is answered 401 by no handler and changes
    nothing. An account that becomes usable again owes it to another administrator. -/
theorem sessions_end_with_account (s : Service) (t : Tables) :
    (∀ (run : List Visit) (v : Visit) (action? : Option SessionAction),
      Route.of? v.exchange.request.method v.exchange.request.path = some (.session action?) →
      s.Bars v.exchange (s.after t run) →
        s.visit v (s.after t run) = (some (.empty 401), s.after t run) ∧
        ∀ handle, runOn v.clock (s.carryOutBy handle v.exchange) (s.after t run) =
          (.error .unauthenticated, s.after t run)) ∧
    ∀ (first later : List Visit) (id : UserId), (s.after t first).Disabled id →
      (s.after t (first ++ later)).Usable id →
        ∃ before v rest claims, later = before ++ v :: rest ∧
          s.Accepts v.exchange (s.after t (first ++ before)) claims ∧ claims.isAdmin = true ∧
          claims.subjectId ≠ id := by
  constructor
  · intro run v action? guarded barred
    exact ⟨visit_barred guarded barred, fun handle => carryOutBy_barred handle guarded barred⟩
  · intro first later id disabled usable
    rw [after_append] at usable
    obtain ⟨before, v, rest, claims, same, accepted, admin⟩ := admin_between disabled usable
    exact ⟨before, v, rest, claims, same, by rw [after_append]; exact accepted, admin⟩

/-- A locked user is refused with a token that verifies, until an administrator resets the
    password. -/
theorem sessions_end_with_account_reopened :
    let s : Service := { key := ⟨[7], by decide⟩, tokenSeconds := 3600 }
    let user : User := Tables.newRecord
      { name := "Ada L.", email := "a@e.org", username := "ada", credentialDigest := "",
        externalId := none, orgUnitId := none, groupIds := [], phone := none, isAdmin := false,
        comment := none } ⟨2⟩ .bootstrap { seconds := 0, nanos := 0 }
    let keeper : StoredUser :=
      { user := { user with id := .bootstrap, isAdmin := true }, credentialDigest := "" }
    let locked : StoredUser := { user := { user with isLocked := true }, credentialDigest := "" }
    let t : Tables := (Tables.putUser {} keeper).putUser locked
    let claims : ClaimSet :=
      { subjectId := .bootstrap, loginName := "keeper", displayName := "Keeper", email := "k@e.org",
        isAdmin := true, issuedAt := { seconds := 0, nanos := 0 },
        expiresAt := { seconds := 3600, nanos := 0 } }
    let request : Request :=
      { method := .put, path := "/api/users/2/changepassword", query := "",
        headers := [("authorization", "Bearer " ++ Token.mint s.key claims),
          ("content-type", "application/json")],
        body := Text.utf8 "\x7b\"newCredentialDigest\":\"0123456789abcdef0123456789abcdef\"\x7d" }
    let own : Request :=
      { request with
        headers := [("authorization", "Bearer " ++ Token.mint s.key { claims with subjectId := ⟨2⟩ })] }
    let sending (request : Request) : Visit :=
      { exchange := { request, now := { seconds := 60, nanos := 0 },
                      salt := ⟨List.replicate 16 0, by decide⟩ },
        clock := { seconds := 60, nanos := 1 } }
    s.visit (sending own) t = (some (.empty 401), t) ∧
      t.Disabled ⟨2⟩ ∧ (s.after t [sending request]).Usable ⟨2⟩ ∧
      ∃ before v rest claims, [sending request] = before ++ v :: rest ∧
        s.Accepts v.exchange (s.after t before) claims ∧ claims.isAdmin = true ∧
        claims.subjectId ≠ ⟨2⟩ := by
  intro s user keeper locked t claims request own sending
  have routed : Route.of? .put "/api/users/2/changepassword" =
      some (.session (some (.changePassword "2"))) := by decide
  have disabled : t.Disabled ⟨2⟩ := ⟨locked, rfl, .inr rfl⟩
  have borne := Request.bearerToken?_mint (r := own) s.key { claims with subjectId := ⟨2⟩ } rfl
  have verified := Token.verifyAt_mint s.key { claims with subjectId := ⟨2⟩ } { seconds := 60, nanos := 0 }
  have barred : s.Bars (sending own).exchange t :=
    .inr ⟨_, borne, .inr ⟨_, verified, disabled.not_usable⟩⟩
  have accepted : s.Accepts (sending request).exchange t claims.floored :=
    accepts_mint ⟨_, routed⟩ rfl rfl ⟨keeper, rfl, rfl, rfl⟩
  have usable : (s.after t [sending request]).Usable ⟨2⟩ := by
    rw [after_cons, after_nil, visit_eq, carryOut_accepted routed accepted]
    exact ⟨_, rfl, rfl, rfl⟩
  have ended := sessions_end_with_account s t
  exact ⟨(ended.1 [] (sending own) _ routed barred).1, disabled, usable, ended.2 [] _ _ disabled usable⟩

end AccountDirectory.Http.Service
