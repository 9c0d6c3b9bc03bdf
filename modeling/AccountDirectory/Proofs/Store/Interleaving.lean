import AccountDirectory.Proofs.Interaction
import AccountDirectory.Proofs.Store.Operation

/-!
Programs that are carried out at the same time on the same tables. Each turn answers the next call
of one of them; turns follow each other in any order.
-/

namespace AccountDirectory.Store

open AccountDirectory.Time (Instant)

/-- The tables, and what is left of each program. -/
structure Concurrent (ι α : Type) : Type 1 where
  tables : Tables
  rest : ι → Program α

structure Turn (ι : Type) where
  program : ι
  clock : Instant

namespace Concurrent

variable {ι α β : Type} {c : Concurrent ι α} {w : Turn ι} {q : Call β}
  {allowed : {γ : Type} → Call γ → Prop}

def advance (clock : Instant) (t : Tables) : Program α → Program α × Tables
  | .done a => (.done a, t)
  | .step q next => (next (t.answer clock q).1, (t.answer clock q).2)

/-- The call is the next one of the program whose turn it is. -/
def Makes (c : Concurrent ι α) (w : Turn ι) (q : Call β) : Prop :=
  ∃ next, c.rest w.program = .step q next

theorem Makes.asked (makes : c.Makes w q) (asks : (c.rest w.program).Asks allowed) : allowed q := by
  obtain ⟨next, pending⟩ := makes
  rw [pending] at asks
  exact asks.1

variable [DecidableEq ι]

def turn (c : Concurrent ι α) (w : Turn ι) : Concurrent ι α :=
  let advanced := advance w.clock c.tables (c.rest w.program)
  { tables := advanced.2
    rest := fun i => if i = w.program then advanced.1 else c.rest i }

def play (c : Concurrent ι α) (run : List (Turn ι)) : Concurrent ι α :=
  run.foldl turn c

@[simp]
theorem play_append (c : Concurrent ι α) (first later : List (Turn ι)) :
    c.play (first ++ later) = (c.play first).play later :=
  List.foldl_append

@[simp]
theorem play_cons (c : Concurrent ι α) (w : Turn ι) (run : List (Turn ι)) :
    c.play (w :: run) = (c.turn w).play run := rfl

@[simp]
theorem play_nil (c : Concurrent ι α) : c.play [] = c := rfl

theorem begins {P : Concurrent ι α → Prop} {run : List (Turn ι)} (start : ¬ P c)
    (finish : P (c.play run)) :
    ∃ before w rest, run = before ++ w :: rest ∧ ¬ P (c.play before) ∧
      ∀ part, part <+: rest → P (c.play (before ++ w :: part)) :=
  Run.begins start finish

theorem rest_turn_other {i : ι} (other : i ≠ w.program) : (c.turn w).rest i = c.rest i :=
  if_neg other

theorem rest_turn_self {next : Except StoreError β → Program α}
    (pending : c.rest w.program = .step q next) :
    (c.turn w).rest w.program = next (c.tables.answer w.clock q).1 := by
  simp only [turn, pending, advance, if_true]

theorem rest_turn_done {a : α} (ended : c.rest w.program = .done a) :
    (c.turn w).rest w.program = .done a := by
  simp only [turn, ended, advance, if_true]

/-- All that a turn does whose call is answered so. -/
theorem turn_of_answer {next : Except StoreError β → Program α} {r : Except StoreError β}
    {before after : Tables} (pending : c.rest w.program = .step q next) (tables : c.tables = before)
    (answered : before.answer w.clock q = (r, after)) :
    (c.turn w).tables = after ∧ (c.turn w).rest w.program = next r ∧
      ∀ i, i ≠ w.program → (c.turn w).rest i = c.rest i := by
  subst tables
  refine ⟨?_, ?_, fun i other => rest_turn_other other⟩
  · simp only [turn, pending, advance, answered]
  · rw [rest_turn_self pending, answered]

theorem Makes.tables_turn (makes : c.Makes w q) :
    (c.turn w).tables = (Operation.call q).perform w.clock c.tables := by
  obtain ⟨next, pending⟩ := makes
  simp only [turn, pending, advance, Operation.perform]

theorem kept_or_makes (c : Concurrent ι α) (w : Turn ι) :
    (c.turn w).tables = c.tables ∨
      ∃ (β : Type) (q : Call β), c.Makes w q ∧
        (c.turn w).tables = (Operation.call q).perform w.clock c.tables := by
  cases pending : c.rest w.program with
  | done a =>
    left
    simp only [turn, pending, advance]
  | step q next =>
    have makes : c.Makes w q := ⟨next, pending⟩
    exact .inr ⟨_, q, makes, makes.tables_turn⟩

theorem asks_turn {i : ι} (asks : (c.rest i).Asks allowed) (w : Turn ι) :
    ((c.turn w).rest i).Asks allowed := by
  by_cases own : i = w.program
  · subst own
    cases pending : c.rest w.program with
    | done a =>
      rw [rest_turn_done pending]
      trivial
    | step q next =>
      rw [pending] at asks
      rw [rest_turn_self pending]
      exact asks.2 _
  · rw [rest_turn_other own]
    exact asks

/-- However the turns follow each other, a program asks what it asks by itself. -/
theorem asks_play {i : ι} (asks : (c.rest i).Asks allowed) (run : List (Turn ι)) :
    ((c.play run).rest i).Asks allowed := by
  induction run generalizing c with
  | nil => exact asks
  | cons w run ih => exact ih (asks_turn asks w)

end Concurrent

end AccountDirectory.Store
