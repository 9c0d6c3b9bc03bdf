import AccountDirectory.Proofs.Http.Bearer
import AccountDirectory.Proofs.Store.InPlace

/-!
Requests that change nothing: those that are not answered with success, and those that only ask. The
store calls are carried out in place, so that what a call or a handler wrote before it failed would
remain.
-/

namespace AccountDirectory.Http

open AccountDirectory.Store
open AccountDirectory.Time (Instant)

def Response.Succeeds (r : Response) : Prop :=
  200 ≤ r.status ∧ r.status < 300

/-- Whatever the program ends with is such a value. -/
def Yields {ε α : Type} (P : α → Prop) (p : ExceptT ε Program α) : Prop :=
  ∀ clock t a, (runOn clock p t).1 = .ok a → P a

namespace Yields

variable {ε α β : Type} {P : β → Prop}

theorem pure {b : β} (holds : P b) : Yields P (Pure.pure b : ExceptT ε Program β) := by
  intro clock t a done
  cases done
  exact holds

theorem bind {p : ExceptT ε Program α} {f : α → ExceptT ε Program β} (last : ∀ a, Yields P (f a)) :
    Yields P (p >>= f) := by
  intro clock t b done
  rw [runOn_bind] at done
  rcases first : runOn clock p t with ⟨e | a, between⟩
  · rw [first] at done
    cases done
  · rw [first] at done
    exact last a clock between b done

end Yields

theorem SessionAction.run_succeeds (x : Exchange) (claims : ClaimSet) (action : SessionAction) :
    Yields Response.Succeeds (run x claims action) := by
  have success (status : Nat) (low : 200 ≤ status) (high : status < 300) (body : Body) :
      ({ status, body } : Response).Succeeds := ⟨low, high⟩
  have ok := success 200 (by decide) (by decide)
  have created := success 201 (by decide) (by decide)
  have done := success 204 (by decide) (by decide)
  cases action with
  | status => exact .pure (ok _)
  | listUsers | listGroups => exact .bind fun _ => .bind fun _ => .bind fun _ => .pure (ok _)
  | createUser =>
    exact .bind fun _ => .bind fun _ => .bind fun _ => .bind fun _ => .bind fun _ => .pure (created _)
  | maxUserId => exact .bind fun _ => .pure (ok _)
  | getUser part =>
    exact .bind fun _ => .bind fun _ => .bind fun _ => .bind fun _ => .pure (ok _)
  | updateUser part =>
    refine .bind fun _ => .bind fun _ => .bind fun _ => .bind fun _ => .bind fun _ => ?_
    simp only
    split
    · exact .bind fun _ => .pure (ok _)
    · exact .bind fun _ => .pure (ok _)
  | deleteUser part => exact .bind fun _ => .bind fun _ => .bind fun _ => .bind fun _ => .pure (done _)
  | changePassword part =>
    refine .bind fun _ => .bind fun _ => .bind fun _ => .bind fun _ => .bind fun _ => ?_
    simp only
    split
    · exact .bind fun _ => .bind fun _ => .pure (done _)
    · exact .bind fun _ => .pure (done _)
  | createGroup =>
    exact .bind fun _ => .bind fun _ => .bind fun _ => .bind fun _ => .pure (created _)
  | getGroup part => exact .bind fun _ => .bind fun _ => .bind fun _ => .bind fun _ => .pure (ok _)
  | updateGroup part =>
    exact .bind fun _ => .bind fun _ => .bind fun _ => .bind fun _ => .bind fun _ => .bind fun _ =>
      .pure (ok _)
  | deleteGroup part => exact .bind fun _ => .bind fun _ => .bind fun _ => .bind fun _ => .pure (done _)

namespace Service

variable {s : Service}

theorem visit_unsuccessful {v : Visit} {t : Tables}
    (unsuccessful : ∀ r, (s.visit v t).1 = some r → ¬ r.Succeeds) : (s.visit v t).2 = t := by
  rcases visit_ran v t with kept | ⟨action, claims, response, routed, ran, answered⟩
  · exact kept
  · cases writes : action.writes with
    | false => exact (SessionAction.run_reads writes).result ran
    | true =>
      rw [shown_of_writes routed writes] at answered
      have success : response.Succeeds :=
        SessionAction.run_succeeds _ _ _ _ _ _ (congrArg Prod.fst ran)
      exact absurd success (unsuccessful response answered)

theorem visit_asked {v : Visit} (t : Tables) (asked : v.exchange.request.method.asked = .get) :
    (s.visit v t).2 = t := by
  rcases visit_ran v t with kept | ⟨action, claims, response, routed, ran, -⟩
  · exact kept
  · exact (SessionAction.run_reads (reads_of_asked asked routed)).result ran

theorem visit_openAccess {v : Visit} (t : Tables) {action? : Option OpenAction}
    (routed : Route.of? v.exchange.request.method v.exchange.request.path =
      some (.openAccess action?)) : (s.visit v t).2 = t := by
  rcases visit_ran v t with kept | ⟨action, claims, response, guarded, -⟩
  · exact kept
  · rw [routed] at guarded
    cases guarded

variable (s)

/-- Answers a request over tables that the calls of the store change in place. -/
def visitInPlace (v : Visit) (t : Tables) : Option Response × Tables :=
  (Interaction.run (fun c => (InPlace.call v.clock c).run) (s.answer v.exchange) :
    StateM Tables (Option Response)) t

variable {s}

theorem visitInPlace_eq (v : Visit) (t : Tables) : s.visitInPlace v t = s.visit v t := by
  have same : (fun {β : Type} (c : Call β) => (InPlace.call v.clock c).run) =
      fun {β : Type} (c : Call β) => Tables.answer v.clock c := by
    funext β c t
    exact InPlace.exec_call v.clock c t
  unfold visitInPlace visit
  rw [same]

/-- Carried out in place, every call of the store and every request does what it does to the tables
    at once. A request that is not answered with success, any `GET`, any login, and any operation of
    the store that fails leave the tables as they were. -/
theorem unsuccessful_changes_nothing (s : Service) :
    (∀ {β : Type} now (c : Call β) t, (InPlace.call now c).exec t = t.answer now c) ∧
    (∀ now o t, (InPlace.exec (Operation.inPlace now o) t).2 = o.perform now t) ∧
    (∀ v t, s.visitInPlace v t = s.visit v t) ∧
    (∀ v t, (∀ r, (s.visitInPlace v t).1 = some r → ¬ r.Succeeds) → (s.visitInPlace v t).2 = t) ∧
    (∀ v t, v.exchange.request.method.asked = .get → (s.visitInPlace v t).2 = t) ∧
    (∀ v t, v.exchange.request.method = .post → v.exchange.request.path = "/login" →
      (s.visitInPlace v t).2 = t) ∧
    ∀ now o t e after, InPlace.exec (Operation.inPlace now o) t = (.error e, after) → after = t := by
  refine ⟨InPlace.exec_call, Operation.exec_inPlace, visitInPlace_eq, fun v t unsuccessful => ?_,
    fun v t asked => ?_, fun v t posted login => ?_, fun now o t e after => Operation.inPlace_failed⟩
  · rw [visitInPlace_eq] at unsuccessful ⊢
    exact visit_unsuccessful unsuccessful
  · rw [visitInPlace_eq]
    exact visit_asked t asked
  · have routed : Route.of? v.exchange.request.method v.exchange.request.path =
        some (.openAccess (some .login)) := by
      rw [posted, login]
      decide
    rw [visitInPlace_eq]
    exact visit_openAccess t routed

/-- The name of a group that is there already is refused, and no identifier is used up. -/
theorem unsuccessful_changes_nothing_taken :
    let s : Service := { key := ⟨[7], by decide⟩, tokenSeconds := 3600 }
    let start : Instant := { seconds := 0, nanos := 0 }
    let admin : AdminAccount := { username := "admin", email := "a@e.org", password := "p" }
    let salt : Crypto.Salt := ⟨List.replicate 16 0, by decide⟩
    let group : Group := Tables.newGroup { name := "Staff", comment := none } ⟨1⟩ .bootstrap start
    let t : Tables :=
      { Tables.withBootstrapAdmin admin salt start with lastGroupId := 1 }.putGroup group
    let claims : ClaimSet :=
      { subjectId := .bootstrap, loginName := "admin", displayName := "Administrative Account",
        email := "a@e.org", isAdmin := true, issuedAt := start,
        expiresAt := { seconds := 3600, nanos := 0 } }
    let v : Visit :=
      { exchange :=
          { request :=
              { method := .post, path := "/api/groups", query := "",
                headers := [("authorization", "Bearer " ++ Token.mint s.key claims),
                  ("content-type", "application/json")],
                body := Text.utf8 "\x7b\"name\":\"Staff\",\"comment\":null\x7d" },
            now := { seconds := 60, nanos := 0 }, salt },
        clock := { seconds := 60, nanos := 1 } }
    (∃ r, (s.visitInPlace v t).1 = some r ∧ r.status = 409) ∧ (s.visitInPlace v t).2 = t ∧
      (s.visitInPlace v t).2.lastGroupId = 1 := by
  intro s start admin salt group t claims v
  have routed : Route.of? .post "/api/groups" = some (.session (some .createGroup)) := by decide
  have accepted : s.Accepts v.exchange t claims.floored :=
    accepts_mint ⟨_, routed⟩ rfl rfl ⟨_, rfl, rfl, rfl⟩
  have answered : ∃ r, (s.visitInPlace v t).1 = some r ∧ r.status = 409 := by
    rw [visitInPlace_eq, visit_eq, carryOut_accepted routed accepted]
    exact ⟨_, rfl, rfl⟩
  have unsuccessful : ∀ r, (s.visitInPlace v t).1 = some r → ¬ r.Succeeds := by
    obtain ⟨refusal, found, conflict⟩ := answered
    intro r again success
    obtain rfl := Option.some.inj (found.symm.trans again)
    have below := success.2
    omega
  have kept := (unsuccessful_changes_nothing s).2.2.2.1 v t unsuccessful
  exact ⟨answered, kept, congrArg Tables.lastGroupId kept⟩

end Service

end AccountDirectory.Http
