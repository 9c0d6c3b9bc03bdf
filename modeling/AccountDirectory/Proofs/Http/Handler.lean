import AccountDirectory.Http.Service
import AccountDirectory.Proofs.Store.Run

/-!
The parts of handlers on tables: when each succeeds and with what, and that only calls that write
may change the tables.
-/

namespace AccountDirectory.Http

open AccountDirectory.Store
open AccountDirectory.Time (Instant)

variable {α : Type} {clock : Instant} {t after : Tables}

namespace Handler

@[simp]
theorem runOn_call_ok {c : Call α} {a : α} :
    runOn clock (call c) t = (.ok a, after) ↔ t.apply clock c = .ok (a, after) := by
  unfold call
  simp only [runOn_bind, runOn_ask, Tables.answer]
  cases t.apply clock c with
  | ok result => simp [Prod.ext_iff]
  | error e => simp

@[simp]
theorem runOn_lift_ok {r : Except Refusal α} {a : α} :
    runOn clock (liftM r : Handler α) t = (.ok a, after) ↔ r = .ok a ∧ after = t := by
  simp [eq_comm]

@[simp]
theorem runOn_checked_ok {r : Except DomainError α} {a : α} :
    runOn clock (checked r) t = (.ok a, after) ↔ r = .ok a ∧ after = t := by
  cases r with
  | ok b => simp [checked, eq_comm]
  | error e => simp [checked]

@[simp]
theorem runOn_permitted_ok {r : Except Forbidden Unit} {u : Unit} :
    runOn clock (permitted r) t = (.ok u, after) ↔ r = .ok () ∧ after = t := by
  cases r with
  | ok b => simp [permitted, eq_comm]
  | error e => simp [permitted]

@[simp]
theorem runOn_refuse_ok {f : Fault} {a : α} :
    ¬ runOn clock (refuse f : Handler α) t = (.ok a, after) := by
  simp [refuse]

theorem call_failsClean (c : Call α) : FailsClean (call c) := by
  intro clock t failed
  unfold call at failed ⊢
  simp only [runOn_bind, runOn_ask, Tables.answer] at failed ⊢
  cases done : t.apply clock c with
  | ok result => simp [done] at failed
  | error e => simp

theorem call_reads {c : Call α} (reads : c.writes = false) : Reads (call c) := by
  refine (Reads.ask reads).bind fun r => ?_
  cases r with
  | ok a => exact Reads.pure a
  | error e => exact Reads.throw _

theorem checked_reads (r : Except DomainError α) : Reads (checked r) := by
  cases r with
  | ok a => exact Reads.pure a
  | error e => exact Reads.throw _

theorem permitted_reads (r : Except Forbidden Unit) : Reads (permitted r) := by
  cases r with
  | ok a => exact Reads.pure _
  | error e => exact Reads.throw _

theorem refuse_reads (f : Fault) : Reads (refuse f : Handler α) := Reads.throw _

end Handler

open Handler

theorem checkDigest_reads (name digest : String) : Reads (checkDigest name digest) := by
  unfold checkDigest
  split
  · exact Reads.pure _
  · exact refuse_reads _

@[simp]
theorem runOn_checkDigest_ok {name digest : String} {u : Unit} :
    runOn clock (checkDigest name digest) t = (.ok u, after) ↔
      Credential.looksLikeDigest digest = true ∧ after = t := by
  unfold checkDigest
  split
  · rename_i fit
    simp [fit, eq_comm]
  · rename_i unfit
    simp [unfit]

theorem page_reads (q : PageQuery) : Reads q.page := by
  unfold PageQuery.page
  split
  · exact Reads.pure _
  · exact refuse_reads _

end AccountDirectory.Http

namespace AccountDirectory.ClaimSet

theorem requireAdmin_ok {claims : ClaimSet} :
    claims.requireAdmin = .ok () ↔ claims.isAdmin = true := by
  cases admin : claims.isAdmin <;> simp [requireAdmin, admin]

theorem requireSelfOrAdmin_ok {claims : ClaimSet} {target : UserId} :
    claims.requireSelfOrAdmin target = .ok () ↔
      claims.isAdmin = true ∨ claims.subjectId = target := by
  unfold requireSelfOrAdmin
  split
  · rename_i permitted
    simp [permitted]
  · rename_i forbidden
    simp [forbidden]

theorem authorizeDeletion_ok {claims : ClaimSet} {target : UserId} :
    claims.authorizeDeletion target = .ok () ↔
      target ≠ .bootstrap ∧ (claims.isAdmin = true ∨ claims.subjectId = target) := by
  unfold authorizeDeletion
  split
  · rename_i bootstrap
    simp [bootstrap]
  · rename_i other
    simp [other, requireSelfOrAdmin_ok]

end AccountDirectory.ClaimSet
