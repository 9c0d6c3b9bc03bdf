import AccountDirectory.Json.Reader
import AccountDirectory.Proofs.Text.Bytes

/-!
Readers step by step, and what it means that a reader takes a text off the front of the bytes.
-/

namespace AccountDirectory.Json

variable {α β : Type}

/-- What may stand after a value: nothing, or what separates members and closes brackets. -/
def Ends (rest : List UInt8) : Prop :=
  ∀ b, rest.head? = some b → b = byte ',' ∨ b = byte '\x7d' ∨ b = byte ']'

theorem Ends.nil : Ends [] := by
  intro b present
  cases present

theorem Ends.comma (rest : List UInt8) : Ends (byte ',' :: rest) := by
  intro b present
  cases present
  exact .inl rfl

theorem Ends.brace (rest : List UInt8) : Ends (byte '\x7d' :: rest) := by
  intro b present
  cases present
  exact .inr (.inl rfl)

/-- The reader takes the text off the front, and its value is `a`. The bound need only exceed the
    length of the text, because each round of a loop takes a byte. -/
def Reader.Takes (r : Reader α) (text : List UInt8) (a : α) : Prop :=
  ∀ bound rest, text.length < bound → Ends rest → r bound (text ++ rest) = .ok a rest

namespace Reader

variable {bound : Nat} {s : List UInt8}

theorem bind_apply (r : Reader α) (f : α → Reader β) :
    (r >>= f) bound s =
      match r bound s with
      | .ok a s => f a bound s
      | .error e s => .error e s := by
  simp only [Bind.bind, ReaderT.bind, EStateM.bind]
  cases r bound s with
  | ok a s => rfl
  | error e s => rfl

theorem bind_ok {r : Reader α} {f : α → Reader β} {a : α} {later : List UInt8}
    (read : r bound s = .ok a later) : (r >>= f) bound s = f a bound later := by
  rw [bind_apply, read]

@[simp]
theorem pure_apply (a : α) : (pure a : Reader α) bound s = .ok a s := rfl

@[simp]
theorem read_apply : (read : Reader Nat) bound s = .ok bound s := rfl

@[simp]
theorem peek?_apply : peek? bound s = .ok s.head? s := rfl

@[simp]
theorem advance_apply : advance bound s = .ok () s.tail := rfl

@[simp]
theorem next?_cons (b : UInt8) (rest : List UInt8) :
    next? bound (b :: rest) = .ok (some b) rest := rfl

/-- A byte that is no white space is the next token. -/
theorem token?_apply {b : UInt8} {rest : List UInt8} (visible : isSpace b = false) :
    token? bound (b :: rest) = .ok (some b) (b :: rest) := by
  have kept : (b :: rest).dropWhile isSpace = b :: rest := by simp [visible]
  have step : token? bound (b :: rest) =
      .ok ((b :: rest).dropWhile isSpace).head? ((b :: rest).dropWhile isSpace) := rfl
  rw [step, kept]
  rfl

theorem startOfValue_apply {b : UInt8} {rest : List UInt8} (visible : isSpace b = false) :
    startOfValue bound (b :: rest) = .ok b (b :: rest) := by
  unfold startOfValue
  rw [bind_ok (token?_apply visible)]
  rfl

theorem word_apply (w rest : List UInt8) : word w bound (w ++ rest) = .ok () rest := by
  induction w with
  | nil => rfl
  | cons b w ih =>
    unfold word
    rw [List.cons_append, bind_ok (next?_cons b _)]
    simpa using ih

theorem restOfWord_apply (b : UInt8) {text : String} {w : List UInt8} (rest : List UInt8)
    (spelled : Text.ascii text = b :: w) :
    restOfWord text bound (b :: w ++ rest) = .ok () rest := by
  unfold restOfWord
  rw [List.cons_append, bind_ok advance_apply, spelled]
  exact word_apply w rest

theorem colon_apply (rest : List UInt8) : colon bound (byte ':' :: rest) = .ok () rest := by
  unfold colon
  rw [bind_ok (token?_apply rfl)]
  rfl

theorem inside_ok {r : Reader α} {a : α} {later : List UInt8} (step : PathStep)
    (read : r bound s = .ok a later) : inside step r bound s = .ok a later := by
  unfold inside
  rw [read]

theorem endOfObject_apply (rest : List UInt8) :
    endOfObject bound (byte '\x7d' :: rest) = .ok () rest := by
  unfold endOfObject
  rw [bind_ok (token?_apply rfl)]
  rfl

theorem closedBy_ok {body : Reader α} {close : Reader Unit} {a : α} {between later : List UInt8}
    (opened : body bound s = .ok a between) (closed : close bound between = .ok () later) :
    closedBy body close bound s = .ok a later := by
  unfold closedBy
  rw [opened]
  simp only [closed]

/-- The reader of a whole text. -/
theorem Takes.bind {r : Reader α} {text : List UInt8} {a : α} {f : α → Reader β} {b : β}
    (takes : Takes r text a) (ends : ∀ bound rest, f a bound rest = .ok b rest) :
    Takes (r >>= f) text b := by
  intro bound rest enough follows
  rw [bind_ok (takes bound rest enough follows)]
  exact ends bound rest

end Reader

end AccountDirectory.Json
