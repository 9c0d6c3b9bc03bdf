import AccountDirectory.Proofs.Http.Visit
import AccountDirectory.Proofs.Run
import AccountDirectory.Proofs.Store.Operation

/-!
Runs of requests over tables, one after another.
-/

namespace AccountDirectory.Http.Service

open AccountDirectory.Store

variable (s : Service)

/-- The tables after a run of requests. -/
def after (t : Tables) (run : List Visit) : Tables :=
  run.foldl (fun t v => (s.visit v t).2) t

def responses : List Visit → Tables → List (Option Response)
  | [], _ => []
  | v :: run, t => (s.visit v t).1 :: responses run (s.visit v t).2

variable {s}

@[simp]
theorem after_nil (t : Tables) : s.after t [] = t := rfl

@[simp]
theorem after_cons (t : Tables) (v : Visit) (run : List Visit) :
    s.after t (v :: run) = s.after (s.visit v t).2 run := rfl

@[simp]
theorem after_append (t : Tables) (first later : List Visit) :
    s.after t (first ++ later) = s.after (s.after t first) later :=
  List.foldl_append

/-- What holds after a run and not before it begins to hold at some request, for the last time. -/
theorem begins {P : Tables → Prop} {t : Tables} {run : List Visit} (start : ¬ P t)
    (finish : P (s.after t run)) :
    ∃ before v rest, run = before ++ v :: rest ∧ ¬ P (s.after t before) ∧
      ∀ part, part <+: rest → P (s.after t (before ++ v :: part)) :=
  Run.begins start finish

/-- A request changes the tables by one call of the store at most. -/
theorem visit_performs (v : Visit) (t : Tables) :
    (s.visit v t).2 = t ∨
      ∃ (β : Type) (c : Call β), (s.visit v t).2 = (Operation.call c).perform v.clock t := by
  rcases visit_effect v t with kept | ⟨action, claims, -, -, effect⟩
  · exact .inl kept
  · have performed : ∀ {β : Type} {b : β} (c : Call β),
        t.apply v.clock c = .ok (b, (s.visit v t).2) →
          (s.visit v t).2 = t ∨
            ∃ (β : Type) (c : Call β), (s.visit v t).2 = (Operation.call c).perform v.clock t :=
      fun c done => .inr ⟨_, c, (Tables.perform_call done).symm⟩
    generalize (s.visit v t).2 = after at effect performed ⊢
    cases effect with
    | nothing => exact .inl rfl
    | @createUser new user _ _ _ _ _ done =>
      let salted :=
        { new with credentialDigest := Credential.digest v.exchange.salt new.credentialDigest }
      exact performed (.createUser salted claims.subjectId) done
    | @updateUser _ _ id update _ _ _ _ _ _ _ done =>
      exact performed (.updateUser id update claims.subjectId) done
    | @updateProfile _ _ id update _ _ _ _ _ _ _ _ _ _ _ done =>
      exact performed (.updateProfile id update claims.subjectId) done
    | @deleteUser _ _ id _ _ _ _ _ done => exact performed (.deleteUser id) done
    | @changePassword _ _ id form _ _ _ _ _ _ _ done =>
      let digest := Credential.digest v.exchange.salt form.new
      exact performed (.resetPassword id digest claims.subjectId) done
    | @createGroup new _ _ _ _ _ done => exact performed (.createGroup new claims.subjectId) done
    | @updateGroup _ _ id update _ _ _ _ _ _ _ done =>
      exact performed (.updateGroup id update claims.subjectId) done
    | @deleteGroup _ _ id _ _ _ _ done => exact performed (.deleteGroup id) done

/-- What holds of the tables, and of what any call of the store would make of them, holds after a
    request. -/
theorem visit_keeps {P : Tables → Prop} {t : Tables} (v : Visit) (here : P t)
    (performed : ∀ (β : Type) (c : Call β), P ((Operation.call c).perform v.clock t)) :
    P (s.visit v t).2 := by
  rcases visit_performs v t with kept | ⟨β, c, performs⟩
  · exact kept.symm ▸ here
  · exact performs.symm ▸ performed β c

theorem after_keeps {P : Tables → Prop} {t : Tables} (start : P t)
    (keeps : ∀ t now (β : Type) (c : Call β), P t → P ((Operation.call c).perform now t))
    (run : List Visit) : P (s.after t run) := by
  have every : ∀ part, part <+: run → P (s.after t part) := by
    refine Run.along start fun before v rest _ here => ?_
    rw [after_append]
    exact visit_keeps v here fun β c => keeps _ v.clock β c here
  exact every run List.prefix_rfl

end AccountDirectory.Http.Service
