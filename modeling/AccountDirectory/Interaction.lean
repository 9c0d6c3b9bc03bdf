/-!
Interactions: sequences of questions in which each may depend on the answers before it. They do not
say what answers them.
-/

namespace AccountDirectory

/-- Asks questions of a family, each of which is answered with a value of its own type or with a
    failure, and ends with a value. -/
inductive Interaction (Question : Type → Type) (ε : Type) (α : Type) : Type 1 where
  | done (a : α)
  | step {β : Type} (q : Question β) (next : Except ε β → Interaction Question ε α)

namespace Interaction

universe u

variable {Question : Type → Type} {ε α β : Type}

def bind : Interaction Question ε α → (α → Interaction Question ε β) → Interaction Question ε β
  | done a, f => f a
  | step q next, f => step q fun r => (next r).bind f

instance : Monad (Interaction Question ε) where
  pure := done
  bind := bind

theorem bind_done (p : Interaction Question ε α) : p.bind done = p := by
  induction p with
  | done => rfl
  | step q next ih => simp only [bind, ih]

theorem bind_assoc {γ : Type} (p : Interaction Question ε α) (f : α → Interaction Question ε β)
    (g : β → Interaction Question ε γ) : (p.bind f).bind g = p.bind fun a => (f a).bind g := by
  induction p with
  | done => rfl
  | step q next ih => simp only [bind, ih]

instance : LawfulMonad (Interaction Question ε) :=
  LawfulMonad.mk' _ (fun p => bind_done p) (fun _ _ => rfl) (fun p f g => bind_assoc p f g)

/-- One question, with its answer or failure. -/
def ask (q : Question β) : Interaction Question ε (Except ε β) :=
  step q done

/-- Runs an interaction on what answers its questions. -/
def run {m : Type → Type u} [Monad m]
    (answer : {β : Type} → Question β → m (Except ε β)) : Interaction Question ε α → m α
  | done a => pure a
  | step q next => do
    let r ← answer q
    (next r).run answer

end Interaction

end AccountDirectory
