import AccountDirectory.Interaction

/-!
What an interaction asks, whatever it is answered, and what it has asked by its end.
-/

namespace AccountDirectory.Interaction

variable {Question : Type → Type} {ε δ α β : Type}

/-- Whatever the answers are, only such questions are asked. -/
def Asks (allowed : {γ : Type} → Question γ → Prop) : Interaction Question ε α → Prop
  | done _ => True
  | step q next => allowed q ∧ ∀ r, (next r).Asks allowed

namespace Asks

variable {allowed wider : {γ : Type} → Question γ → Prop}

theorem bind {p : Interaction Question ε α} {f : α → Interaction Question ε β} (first : p.Asks allowed)
    (second : ∀ a, (f a).Asks allowed) : (p >>= f).Asks allowed := by
  induction p with
  | done a => exact second a
  | step q next ih => exact ⟨first.1, fun r => ih r (first.2 r)⟩

theorem mono {p : Interaction Question ε α} (asks : p.Asks allowed)
    (wide : ∀ {γ : Type} (q : Question γ), allowed q → wider q) : p.Asks wider := by
  induction p with
  | done a => trivial
  | step q next ih => exact ⟨wide q asks.1, fun r => ih r (asks.2 r)⟩

theorem bindExcept {p : ExceptT δ (Interaction Question ε) α}
    {f : α → ExceptT δ (Interaction Question ε) β} (first : p.run.Asks allowed)
    (second : ∀ a, (f a).run.Asks allowed) : (p >>= f).run.Asks allowed := by
  refine first.bind fun r => ?_
  cases r with
  | ok a => exact second a
  | error e => trivial

theorem tryCatch {p : ExceptT δ (Interaction Question ε) α}
    {handle : δ → ExceptT δ (Interaction Question ε) α} (first : p.run.Asks allowed)
    (second : ∀ e, (handle e).run.Asks allowed) : (tryCatch p handle).run.Asks allowed := by
  refine first.bind fun r => ?_
  cases r with
  | ok a => trivial
  | error e => exact second e

theorem attempt {φ : Type} {p : ExceptT δ (Interaction Question ε) α} (asks : p.run.Asks allowed) :
    (ExceptT.lift p.run : ExceptT φ (Interaction Question ε) (Except δ α)).run.Asks allowed :=
  asks.bind fun _ => trivial

end Asks

/-- A question with what it was answered. -/
structure Asked (Question : Type → Type) (ε : Type) : Type 1 where
  {answer : Type}
  question : Question answer
  reply : Except ε answer

/-- The interaction ends with a value after these questions. -/
inductive Ends : Interaction Question ε α → List (Asked Question ε) → α → Prop where
  | done (a : α) : Ends (.done a) [] a
  | step {γ : Type} {q : Question γ} {next : Except ε γ → Interaction Question ε α} (r : Except ε γ)
      {later : List (Asked Question ε)} {a : α} (rest : Ends (next r) later a) :
      Ends (.step q next) (⟨q, r⟩ :: later) a

theorem ends_done {a b : α} {asked : List (Asked Question ε)} :
    Ends (.done a : Interaction Question ε α) asked b ↔ asked = [] ∧ b = a := by
  constructor
  · intro ends
    cases ends
    exact ⟨rfl, rfl⟩
  · rintro ⟨rfl, rfl⟩
    exact .done b

theorem ends_step {γ : Type} {q : Question γ} {next : Except ε γ → Interaction Question ε α}
    {asked : List (Asked Question ε)} {a : α} :
    Ends (.step q next) asked a ↔ ∃ r later, asked = ⟨q, r⟩ :: later ∧ Ends (next r) later a := by
  constructor
  · intro ends
    cases ends with
    | step r rest => exact ⟨r, _, rfl, rest⟩
  · rintro ⟨r, later, rfl, rest⟩
    exact .step r rest

/-- Whatever answers the questions, an interaction ends. -/
theorem exists_ends_run {σ : Type} (p : Interaction Question ε α)
    (answer : {γ : Type} → Question γ → StateM σ (Except ε γ)) (s : σ) :
    ∃ asked, p.Ends asked ((p.run answer).run s).1 := by
  induction p generalizing s with
  | done a => exact ⟨[], .done a⟩
  | step q next ih =>
    obtain ⟨later, rest⟩ := ih ((answer q).run s).1 ((answer q).run s).2
    exact ⟨_, .step _ rest⟩

theorem exists_ends (p : Interaction Question ε α) (e : ε) : ∃ asked a, p.Ends asked a := by
  obtain ⟨asked, ends⟩ := p.exists_ends_run (fun _ => (pure (.error e) : StateM Unit _)) ()
  exact ⟨asked, _, ends⟩

theorem ends_bind {p : Interaction Question ε α} {f : α → Interaction Question ε β}
    {asked : List (Asked Question ε)} {b : β} (ends : (p >>= f).Ends asked b) :
    ∃ first later a, asked = first ++ later ∧ p.Ends first a ∧ (f a).Ends later b := by
  induction p generalizing asked with
  | done a => exact ⟨[], asked, a, rfl, .done a, ends⟩
  | step q next ih =>
    obtain ⟨r, rest, rfl, remaining⟩ := ends_step.1 ends
    obtain ⟨first, later, a, rfl, start, finish⟩ := ih r remaining
    exact ⟨⟨q, r⟩ :: first, later, a, rfl, .step r start, finish⟩

/-- A program that may fail ends with its first part's failure, or goes on. -/
theorem ends_bindExcept {p : ExceptT δ (Interaction Question ε) α}
    {f : α → ExceptT δ (Interaction Question ε) β} {asked : List (Asked Question ε)}
    {result : Except δ β} (ends : (p >>= f).run.Ends asked result) :
    (∃ e, p.run.Ends asked (.error e) ∧ result = .error e) ∨
      ∃ first later a, asked = first ++ later ∧ p.run.Ends first (.ok a) ∧
        (f a).run.Ends later result := by
  obtain ⟨first, later, r, rfl, start, finish⟩ := ends_bind ends
  cases r with
  | ok a => exact .inr ⟨first, later, a, rfl, start, finish⟩
  | error e =>
    obtain ⟨rfl, rfl⟩ := ends_done.1 finish
    rw [List.append_nil]
    exact .inl ⟨e, start, rfl⟩

theorem Ends.bind {p : Interaction Question ε α} {f : α → Interaction Question ε β}
    {first later : List (Asked Question ε)} {a : α} {b : β} (start : p.Ends first a)
    (finish : (f a).Ends later b) : (p >>= f).Ends (first ++ later) b := by
  induction start with
  | done a => exact finish
  | step r rest ih => exact .step r (ih finish)

/-- The answers decide how an interaction ends. -/
theorem Ends.unique {p : Interaction Question ε α} {asked : List (Asked Question ε)} {a b : α}
    (one : p.Ends asked a) (two : p.Ends asked b) : a = b := by
  induction one with
  | done a => exact (ends_done.1 two).2.symm
  | step r rest ih =>
    cases two with
    | step _ again => exact ih again

theorem Ends.allowed {allowed : {γ : Type} → Question γ → Prop} {p : Interaction Question ε α}
    {asked : List (Asked Question ε)} {a : α} (ends : p.Ends asked a) (asks : p.Asks allowed) :
    ∀ one ∈ asked, allowed one.question := by
  induction ends with
  | done a =>
    intro one member
    cases member
  | step r rest ih =>
    intro one member
    rcases List.mem_cons.1 member with rfl | later
    · exact asks.1
    · exact ih (asks.2 r) one later

/-- Questions that are answered by further questions, and these. -/
inductive Carried {Inner : Type → Type} {δ : Type}
    (answer : {γ : Type} → Question γ → Interaction Inner δ (Except ε γ)) :
    List (Asked Question ε) → List (Asked Inner δ) → Prop where
  | nil : Carried @answer [] []
  | cons {γ : Type} {q : Question γ} {r : Except ε γ} {calls : List (Asked Question ε)}
      {first later : List (Asked Inner δ)} (answered : (answer q).Ends first r)
      (rest : Carried @answer calls later) : Carried @answer (⟨q, r⟩ :: calls) (first ++ later)

theorem ends_run {Inner : Type → Type} {δ : Type}
    {answer : {γ : Type} → Question γ → Interaction Inner δ (Except ε γ)}
    {p : Interaction Question ε α} {asked : List (Asked Inner δ)} {a : α} :
    (p.run answer).Ends asked a ↔ ∃ calls, Carried @answer calls asked ∧ p.Ends calls a := by
  constructor
  · intro ends
    induction p generalizing asked with
    | done b =>
      obtain ⟨rfl, rfl⟩ := ends_done.1 ends
      exact ⟨[], .nil, .done _⟩
    | step q next ih =>
      obtain ⟨first, later, r, rfl, answered, rest⟩ := ends_bind ends
      obtain ⟨calls, carried, finish⟩ := ih r rest
      exact ⟨⟨q, r⟩ :: calls, .cons answered carried, .step r finish⟩
  · rintro ⟨calls, carried, ends⟩
    induction ends generalizing asked with
    | done b =>
      cases carried
      exact .done b
    | step r _ ih =>
      cases carried with
      | cons answered rest => exact answered.bind (ih rest)

end AccountDirectory.Interaction
