import AccountDirectory.Database.Setup
import AccountDirectory.Proofs.Database.Query
import AccountDirectory.Proofs.Database.Reply

/-!
The course of an operation on the database: its statements are sent one after another until a reply
fails, and the first reply that fails decides the failure.
-/

namespace AccountDirectory

inductive FailureKind where
  | conflict
  | notFound
  | backend
deriving DecidableEq, Repr

def StoreError.kind : StoreError → FailureKind
  | conflict _ => .conflict
  | notFound _ => .notFound
  | backend _ => .backend

namespace Database

open AccountDirectory.Interaction (Asked Ends ends_bind ends_bindExcept ends_done ends_step)
open Operation

variable {α β : Type}

/-- What a statement needs of its reply. -/
inductive Need where
  /-- Every row has these values. -/
  | everyRow (values : List Wanted)
  /-- There is a row, and the first one has these values. -/
  | firstRow (values : List Wanted)
  /-- A row is affected. -/
  | affected
  | success

structure Step where
  statement : Statement
  need : Need

def ServerError.kind : ServerError → FailureKind
  | reported code _ => if code = some "23505" then .conflict else .backend
  | closed | lost _ => .backend

/-- How a reply fails, if it does. -/
def Need.failure? (need : Need) : Asked Query ServerError → Option FailureKind
  | ⟨_, .error e⟩ => some e.kind
  | ⟨.rows _, .ok rows⟩ =>
    match need, rows with
    | .everyRow values, rows =>
      if ∀ row ∈ rows, ∀ w ∈ values, w.FoundIn row then none else some .backend
    | .firstRow _, [] => some .notFound
    | .firstRow values, row :: _ => if ∀ w ∈ values, w.FoundIn row then none else some .backend
    | _, _ => none
  | ⟨.execute _, .ok n⟩ =>
    match need, n with
    | .affected, 0 => some .notFound
    | _, _ => none
  | ⟨.connect _, .ok _⟩ => none

def Step.SentBy (s : Step) (one : Asked Query ServerError) : Prop :=
  one.question.command?.map Command.statement = some s.statement

/-- The statements are sent in turn, and none after one whose reply fails. -/
inductive Course : List Step → List (Asked Query ServerError) → Option FailureKind → Prop where
  | done : Course [] [] none
  | failed {s : Step} {steps : List Step} {one : Asked Query ServerError} {kind : FailureKind}
      (sent : s.SentBy one) (fails : s.need.failure? one = some kind) :
      Course (s :: steps) [one] (some kind)
  | passed {s : Step} {steps : List Step} {one : Asked Query ServerError}
      {later : List (Asked Query ServerError)} {outcome : Option FailureKind} (sent : s.SentBy one)
      (succeeds : s.need.failure? one = none) (rest : Course steps later outcome) :
      Course (s :: steps) (one :: later) outcome

/-- How an operation failed, if it did. -/
def failure? : Except StoreError α → Option FailureKind
  | .ok _ => none
  | .error e => some e.kind

namespace Course

variable {s : Step} {steps more : List Step} {one : Asked Query ServerError}
  {asked first later : List (Asked Query ServerError)} {outcome other : Option FailureKind}
  {kind : FailureKind}

theorem single (sent : s.SentBy one) : Course [s] [one] (s.need.failure? one) := by
  cases fails : s.need.failure? one with
  | some kind => exact .failed sent fails
  | none => exact .passed sent fails .done

theorem append (start : Course steps first none) (finish : Course more later outcome) :
    Course (steps ++ more) (first ++ later) outcome := by
  -- The outcome has to be free for the induction.
  generalize passed : (none : Option FailureKind) = start? at start
  induction start with
  | done => exact finish
  | failed => cases passed
  | passed sent succeeds _ ih => exact .passed sent succeeds (ih passed)

/-- A failing reply stops whatever was to follow. -/
theorem stop (course : Course steps asked (some kind)) (more : List Step) :
    Course (steps ++ more) asked (some kind) := by
  generalize failed : some kind = outcome at course
  induction course with
  | done => cases failed
  | failed sent fails => exact .failed sent fails
  | passed sent succeeds _ ih => exact .passed sent succeeds (ih failed)

/-- The replies decide how a course ends, and nothing follows it. -/
theorem ends (course : Course steps first outcome) (longer : Course steps (first ++ later) other) :
    later = [] ∧ outcome = other := by
  induction course with
  | done =>
    cases longer
    exact ⟨rfl, rfl⟩
  | failed sent fails =>
    cases longer with
    | failed _ again => exact ⟨rfl, fails.symm.trans again⟩
    | passed _ succeeds => cases fails.symm.trans succeeds
  | @passed s steps one tail outcome sent succeeds _ ih =>
    rw [List.cons_append] at longer
    generalize whole : tail ++ later = rest at longer
    cases longer with
    | failed _ fails => cases fails.symm.trans succeeds
    | passed _ _ again => exact ih (whole ▸ again)

/-- What is sent first fails, or all of it was answered before the rest is sent. -/
theorem split (course : Course (steps ++ more) asked outcome) :
    (∃ kind, Course steps asked (some kind)) ∨
      ∃ first later, asked = first ++ later ∧ Course steps first none ∧ Course more later outcome := by
  induction steps generalizing asked with
  | nil => exact .inr ⟨[], asked, rfl, .done, course⟩
  | cons s steps ih =>
    cases course with
    | failed sent fails => exact .inl ⟨_, .failed sent fails⟩
    | passed sent succeeds rest =>
      rcases ih rest with ⟨kind, failed⟩ | ⟨first, later, rfl, start, finish⟩
      · exact .inl ⟨kind, .passed sent succeeds failed⟩
      · exact .inr ⟨_ :: first, later, rfl, .passed sent succeeds start, finish⟩

theorem sent (course : Course steps asked outcome) : ∀ one ∈ asked, ∃ s ∈ steps, s.SentBy one := by
  induction course with
  | done => nofun
  | failed here fails =>
    intro one member
    rw [List.mem_singleton.1 member]
    exact ⟨_, List.mem_cons_self, here⟩
  | passed here succeeds rest ih =>
    intro one member
    rcases List.mem_cons.1 member with rfl | later
    · exact ⟨_, List.mem_cons_self, here⟩
    · obtain ⟨s, inside, sends⟩ := ih one later
      exact ⟨s, List.mem_cons_of_mem _ inside, sends⟩

theorem unique (course : Course steps asked outcome) (again : Course steps asked other) :
    outcome = other := by
  rw [← List.append_nil asked] at again
  exact (course.ends again).2

theorem decides (course : Course steps asked outcome) : Course steps asked other ↔ outcome = other :=
  ⟨course.unique, fun same => same ▸ course⟩

end Course

/-- The operation fails as the replies to its statements do. -/
def Follows (steps : List Step) (p : Operation α) : Prop :=
  ∀ asked result, p.run.Ends asked result → Course steps asked (failure? result)

section

variable {steps more : List Step} {name missing : String} {absent : StoreError} {c : Command}
  {decode : Row → Except RowFault α} {values : List Wanted} {asked : List (Asked Query ServerError)}
  {result : Except StoreError α}

theorem kind_server (name : String) (e : ServerError) : ((Fault.server e).inOperation name).kind = e.kind := by
  cases e with
  | reported code message =>
    by_cases unique : code = some "23505"
    · simp [Fault.inOperation, Fault.uniqueViolation, ServerError.kind, StoreError.kind, unique]
    · simp [Fault.inOperation, Fault.uniqueViolation, ServerError.kind, StoreError.kind, unique]
  | closed | lost => rfl

theorem ends_read_kind {r : Except RowFault α} {found : Prop} [Decidable found]
    (reads : (∃ a, r = .ok a) ↔ found) (ends : (read name r).run.Ends asked result) :
    asked = [] ∧ failure? result = if found then none else some .backend := by
  cases r with
  | ok a =>
    obtain ⟨rfl, rfl⟩ := ends_done.1 ends
    rw [if_pos (reads.1 ⟨a, rfl⟩)]
    exact ⟨rfl, rfl⟩
  | error e =>
    obtain ⟨rfl, rfl⟩ := ends_done.1 ends
    have unread : ¬ found := by
      intro here
      obtain ⟨a, done⟩ := reads.2 here
      cases done
    rw [if_neg unread]
    exact ⟨rfl, rfl⟩

theorem failure?_error {γ : Type} (need : Need) (q : Query γ) (e : ServerError) :
    need.failure? ⟨q, .error e⟩ = some e.kind := by
  cases q <;> rfl

/-- An operation of one question fails as the database does, or as what it makes of the answer. -/
theorem follows_ask {γ : Type} {q : Query γ} {f : γ → Operation α} {s : Step}
    (sends : q.command?.map Command.statement = some s.statement)
    (settles : ∀ a asked result, (f a).run.Ends asked result →
      asked = [] ∧ failure? result = s.need.failure? ⟨q, .ok a⟩) :
    Follows [s] (ask name q >>= f) := by
  intro asked result ends
  obtain ⟨r, later, rfl, rest⟩ := ends_step.1 ends
  cases r with
  | error e =>
    obtain ⟨rfl, rfl⟩ := ends_done.1 rest
    have fails : s.need.failure? ⟨q, .error e⟩ = some ((Fault.server e).inOperation name).kind := by
      rw [failure?_error, kind_server]
    exact .failed sends fails
  | ok a =>
    obtain ⟨rfl, kind⟩ := settles a _ _ rest
    rw [kind]
    exact Course.single sends

theorem follows_firstRow (missed : absent.kind = .notFound) (wants : Wants decode values) :
    Follows [⟨c.statement, .firstRow values⟩] (firstRow absent name c decode) := by
  apply follows_ask rfl
  intro rows asked result ends
  cases rows with
  | nil =>
    obtain ⟨rfl, rfl⟩ := ends_done.1 ends
    exact ⟨rfl, congrArg some missed⟩
  | cons row more => exact ends_read_kind (wants row) ends

theorem follows_fetchKeyed (wants : Wants decode values) :
    Follows [⟨c.statement, .firstRow values⟩] (fetchKeyed name missing c decode) :=
  follows_firstRow rfl wants

theorem follows_fetchOne (wants : Wants decode values) :
    Follows [⟨c.statement, .firstRow values⟩] (fetchOne name c decode) :=
  follows_firstRow rfl wants

theorem follows_fetchAll (wants : Wants decode values) :
    Follows [⟨c.statement, .everyRow values⟩] (fetchAll name c decode) := by
  apply follows_ask rfl
  intro rows asked result ends
  exact ends_read_kind (wants.mapM rows) ends

theorem follows_writeKeyed : Follows [⟨c.statement, .affected⟩] (writeKeyed name missing c) := by
  apply follows_ask rfl
  intro n asked result ends
  cases n with
  | zero =>
    obtain ⟨rfl, rfl⟩ := ends_done.1 ends
    exact ⟨rfl, rfl⟩
  | succ n =>
    obtain ⟨rfl, rfl⟩ := ends_done.1 ends
    exact ⟨rfl, rfl⟩

theorem follows_execute (statement : Statement) (parameters : List Cell) :
    Follows [⟨statement, .success⟩] (execute name statement parameters) := by
  apply follows_ask rfl
  intro n asked result ends
  obtain ⟨rfl, rfl⟩ := ends_done.1 ends
  exact ⟨rfl, rfl⟩

theorem Follows.bind {p : Operation α} {f : α → Operation β} (first : Follows steps p)
    (second : ∀ a, Follows more (f a)) : Follows (steps ++ more) (p >>= f) := by
  intro asked result ends
  rcases ends_bindExcept ends with ⟨e, failed, rfl⟩ | ⟨before, after, a, rfl, start, finish⟩
  · exact (first _ _ failed).stop more
  · exact (first _ _ start).append (second a _ _ finish)

theorem Follows.andReturn {p : Operation α} (follows : Follows steps p) (f : α → β) :
    Follows steps (p >>= fun a => pure (f a)) := by
  intro asked result ends
  rcases ends_bindExcept ends with ⟨e, failed, rfl⟩ | ⟨before, after, a, rfl, start, finish⟩
  · exact follows _ _ failed
  · obtain ⟨rfl, rfl⟩ := ends_done.1 finish
    rw [List.append_nil]
    exact follows _ _ start

end

section

variable {steps : List Step} {name : String} {asked : List (Asked Query ServerError)}
  {result : Except StoreError Unit} {kind : FailureKind}

/-- A transaction that was begun and has failed is taken back after all that is sent in it. -/
structure TakenBack (sent asked : List (Asked Query ServerError)) (result : Except StoreError Unit) :
    Prop where
  whole : result = .ok () ∨ sent.length = 1 → asked = sent
  undone : result ≠ .ok () → sent.length ≠ 1 →
    ∃ r, asked = sent ++ [⟨.execute { statement := .rollback }, r⟩]

theorem Course.ne_nil (course : Course steps asked (some kind)) : asked ≠ [] := by
  cases course with
  | failed | passed => nofun

theorem ends_transaction {writes : Operation Unit} (follows : Follows steps writes)
    (ends : (transaction name writes).run.Ends asked result) :
    ∃ sent, Course (⟨.begin, .success⟩ :: (steps ++ [⟨.commit, .success⟩])) sent (failure? result) ∧
      TakenBack sent asked result := by
  have opening : Follows [⟨.begin, .success⟩] (execute name .begin []) := follows_execute _ _
  have inside : Follows (steps ++ [⟨.commit, .success⟩]) (do writes; execute name .commit []) :=
    follows.bind fun _ => follows_execute _ _
  rcases ends_bindExcept ends with ⟨e, failed, rfl⟩ | ⟨first, later, _, rfl, begun, rest⟩
  · -- The transaction was not begun.
    have course := opening _ _ failed
    have single : asked.length = 1 := by
      cases course with
      | failed => rfl
      | passed _ _ nothing => cases nothing
    exact ⟨asked, course.stop _, fun _ => rfl, fun _ other => absurd single other⟩
  · have course := opening _ _ begun
    have single : first.length = 1 := by
      cases course with
      | passed _ _ nothing =>
        cases nothing
        rfl
    obtain ⟨run, close, r, rfl, ran, finish⟩ := ends_bind rest
    have whole := course.append (inside _ _ ran)
    cases r with
    | ok =>
      obtain ⟨rfl, rfl⟩ := ends_done.1 finish
      rw [List.append_nil]
      exact ⟨first ++ run, whole, fun _ => rfl, fun failed => absurd rfl failed⟩
    | error e =>
      obtain ⟨reply, last, rfl, thrown⟩ := ends_step.1 finish
      obtain ⟨rfl, rfl⟩ := ends_done.1 thrown
      refine ⟨first ++ run, whole, ?_, fun _ _ => ⟨reply, (List.append_assoc _ _ _).symm⟩⟩
      rintro (done | short)
      · cases done
      · have filled := List.length_pos_iff.2 (inside _ _ ran).ne_nil
        rw [List.length_append] at short
        omega

end

/-- The kind of the result is that of the first failing reply, and it is a value if none fails. -/
structure Classified (steps : List Step) (asked : List (Asked Query ServerError))
    (result : Except StoreError α) : Prop where
  conflict : (∃ what, result = .error (.conflict what)) ↔ Course steps asked (some .conflict)
  notFound : (∃ what, result = .error (.notFound what)) ↔ Course steps asked (some .notFound)
  backend : (∃ what, result = .error (.backend what)) ↔ Course steps asked (some .backend)
  ok : (∃ a, result = .ok a) ↔ Course steps asked none

theorem Course.classified {steps : List Step} {asked : List (Asked Query ServerError)}
    {result : Except StoreError α} (course : Course steps asked (failure? result)) :
    Classified steps asked result := by
  constructor
  all_goals rw [course.decides]
  all_goals rcases result with (what | what | what) | a <;> simp [failure?, StoreError.kind]

end Database

end AccountDirectory
