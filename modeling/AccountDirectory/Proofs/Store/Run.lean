import AccountDirectory.Store.Memory

/-!
Programs carried out on tables. What a program may do to the tables is read off its parts: a part
that only reads leaves them, and a part whose failure leaves them does so after parts that read.
-/

namespace AccountDirectory.Store

open AccountDirectory.Time (Instant)

variable {ε α β : Type}

/-- What a program ends with on tables, and the tables after it, at one reading of the clock. -/
def runOn (clock : Instant) (p : ExceptT ε Program α) (t : Tables) : Except ε α × Tables :=
  Interaction.run (Tables.answer clock) p.run t

theorem run_bind_interaction (clock : Instant) (p : Program α) (f : α → Program β) (t : Tables) :
    Interaction.run (Tables.answer clock) (p >>= f) t =
      Interaction.run (Tables.answer clock) (f (Interaction.run (Tables.answer clock) p t).1)
        (Interaction.run (Tables.answer clock) p t).2 := by
  induction p generalizing t with
  | done a => rfl
  | step q next ih => exact ih _ _

variable {clock : Instant} {t : Tables}

@[simp]
theorem runOn_pure (a : α) : runOn clock (pure a : ExceptT ε Program α) t = (.ok a, t) := rfl

@[simp]
theorem runOn_throw (e : ε) : runOn clock (throw e : ExceptT ε Program α) t = (.error e, t) := rfl

@[simp]
theorem runOn_lift (r : Except ε α) : runOn clock (liftM r : ExceptT ε Program α) t = (r, t) := rfl

theorem runOn_bind (p : ExceptT ε Program α) (f : α → ExceptT ε Program β) :
    runOn clock (p >>= f) t =
      match runOn clock p t with
      | (.ok a, t) => runOn clock (f a) t
      | (.error e, t) => (.error e, t) := by
  refine (run_bind_interaction clock p.run (ExceptT.bindCont f) t).trans ?_
  unfold runOn
  rcases Interaction.run (Tables.answer clock) p.run t with ⟨_ | _, _⟩ <;> rfl

theorem runOn_bind_ok {p : ExceptT ε Program α} {f : α → ExceptT ε Program β} {b : β}
    {after : Tables} :
    runOn clock (p >>= f) t = (.ok b, after) ↔
      ∃ a between, runOn clock p t = (.ok a, between) ∧
        runOn clock (f a) between = (.ok b, after) := by
  rw [runOn_bind]
  rcases runOn clock p t with ⟨e | a, between⟩
  · simp
  · constructor
    · exact fun done => ⟨a, between, rfl, done⟩
    · rintro ⟨_, _, same, done⟩
      cases same
      exact done

/-- A program whose failure is handled by the one around it. -/
theorem runOn_attempt {δ : Type} (p : ExceptT δ Program α) :
    runOn clock (ExceptT.lift p.run : ExceptT ε Program (Except δ α)) t =
      (.ok (runOn clock p t).1, (runOn clock p t).2) :=
  run_bind_interaction clock p.run (fun r => pure (Except.ok r)) t

theorem runOn_ask (c : Call α) :
    runOn clock (liftM (Program.call c) : ExceptT ε Program (Except StoreError α)) t =
      (.ok (Tables.answer clock c t).1, (Tables.answer clock c t).2) := rfl

/-- Whether a call may change the tables. -/
def Call.writes {β : Type} : Call β → Bool
  | .createUser .. | .updateUser .. | .updateProfile .. | .deleteUser .. | .createGroup ..
  | .updateGroup .. | .deleteGroup .. | .resetPassword .. => true
  | _ => false

theorem map_keeps {r : Except StoreError α} {f : α → β} {b : β} {after : Tables}
    (done : r.map (fun a => (f a, t)) = .ok (b, after)) : after = t := by
  cases r with
  | error e => cases done
  | ok a => cases done; rfl

theorem apply_keeps {c : Call β} {b : β} {after : Tables} (reads : c.writes = false)
    (done : t.apply clock c = .ok (b, after)) : after = t := by
  cases c with
  | listUsers | userExists | maxUserId | countUsers | listGroups | countGroups =>
    cases done
    rfl
  | createUser | updateUser | updateProfile | deleteUser | createGroup | updateGroup | deleteGroup
  | resetPassword => cases reads
  | getUser | getGroup | findIdByLoginName | loadAuthRecord | isActive | isAdmin | isLocked
  | accountState => exact map_keeps done

/-- The program never changes the tables. -/
def Reads (p : ExceptT ε Program α) : Prop :=
  ∀ clock t, (runOn clock p t).2 = t

/-- The program leaves the tables as they were whenever it fails. -/
def FailsClean (p : ExceptT ε Program α) : Prop :=
  ∀ clock t, (∃ e, (runOn clock p t).1 = .error e) → (runOn clock p t).2 = t

namespace Reads

theorem pure (a : α) : Reads (Pure.pure a : ExceptT ε Program α) := fun _ _ => rfl

theorem throw (e : ε) : Reads (MonadExcept.throw e : ExceptT ε Program α) := fun _ _ => rfl

theorem lift (r : Except ε α) : Reads (liftM r : ExceptT ε Program α) := fun _ _ => rfl

theorem bind {p : ExceptT ε Program α} {f : α → ExceptT ε Program β} (first : Reads p)
    (second : ∀ a, Reads (f a)) : Reads (p >>= f) := by
  intro clock t
  have kept := first clock t
  rw [runOn_bind]
  rcases result : runOn clock p t with ⟨_ | a, between⟩
  · rw [result] at kept
    exact kept
  · rw [result] at kept
    exact (second a clock between).trans kept

theorem ask {c : Call α} (reads : c.writes = false) :
    Reads (liftM (Program.call c) : ExceptT ε Program (Except StoreError α)) := by
  intro clock t
  simp only [runOn_ask, Tables.answer]
  split
  · rename_i done
    exact apply_keeps reads done
  · rfl

theorem attempt {δ : Type} {p : ExceptT δ Program α} (reads : Reads p) :
    Reads (ExceptT.lift p.run : ExceptT ε Program (Except δ α)) := by
  intro clock t
  rw [runOn_attempt]
  exact reads clock t

/-- The result of a program that reads, with the tables it ran on. -/
theorem result {p : ExceptT ε Program α} (reads : Reads p) {r : Except ε α} {after : Tables}
    (done : runOn clock p t = (r, after)) : after = t := by
  have kept := reads clock t
  rw [done] at kept
  exact kept

theorem failsClean {p : ExceptT ε Program α} (reads : Reads p) : FailsClean p :=
  fun clock t _ => reads clock t

end Reads

namespace FailsClean

theorem bind {p : ExceptT ε Program α} {f : α → ExceptT ε Program β} (first : Reads p)
    (second : ∀ a, FailsClean (f a)) : FailsClean (p >>= f) := by
  intro clock t failed
  have kept := first clock t
  rw [runOn_bind] at failed ⊢
  rcases result : runOn clock p t with ⟨_ | a, between⟩
  · rw [result] at kept
    exact kept
  · rw [result] at kept failed
    exact (second a clock between failed).trans kept

/-- What follows a last write must not fail. -/
theorem andReturn {p : ExceptT ε Program α} (clean : FailsClean p) (f : α → β) :
    FailsClean (do let a ← p; Pure.pure (f a)) := by
  intro clock t failed
  have kept := clean clock t
  rw [runOn_bind] at failed ⊢
  rcases result : runOn clock p t with ⟨e | a, between⟩
  · rw [result] at kept
    exact kept ⟨e, rfl⟩
  · rw [result] at failed
    obtain ⟨e, impossible⟩ := failed
    cases impossible

end FailsClean

end AccountDirectory.Store
