import AccountDirectory.Store.Table

/-!
Finding a record in a table after one was put into it or taken out, and what no two of its records
have in common.
-/

namespace AccountDirectory.Store.Table

variable {α : Type} {key : α → Int32}

theorem find?_empty (k : Int32) : (empty : Table α key).find? k = none := rfl

theorem key_of_find? {t : Table α key} {k : Int32} {a : α} (found : t.find? k = some a) :
    key a = k := by
  have holds := List.find?_some found
  simpa using holds

theorem mem_of_find? {t : Table α key} {k : Int32} {a : α} (found : t.find? k = some a) :
    a ∈ t.rows :=
  List.mem_of_find?_eq_some found

theorem find?_insertRow (a : α) (l : List α) (k : Int32) :
    (insertRow key a l).find? (fun b => key b = k) =
      if key a = k then some a else l.find? fun b => key b = k := by
  induction l with
  | nil => by_cases same : key a = k <;> simp [insertRow, same]
  | cons b rest ih =>
    simp only [insertRow]
    split
    · by_cases same : key a = k <;> simp [List.find?_cons, same]
    · split
      · rename_i equal
        by_cases same : key a = k
        · simp [same]
        · have other : ¬ key b = k := fun h => same (equal.trans h)
          simp [same, other]
      · rename_i differs
        by_cases same : key b = k
        · have other : ¬ key a = k := fun h => differs (h.trans same.symm)
          simp [same, other]
        · simp [same, ih]

theorem find?_insert (t : Table α key) (a : α) (k : Int32) :
    (t.insert a).find? k = if key a = k then some a else t.find? k :=
  find?_insertRow a t.rows k

@[simp]
theorem find?_insert_self (t : Table α key) (a : α) : (t.insert a).find? (key a) = some a := by
  rw [find?_insert, if_pos rfl]

theorem find?_insert_other (t : Table α key) (a : α) {k : Int32} (other : key a ≠ k) :
    (t.insert a).find? k = t.find? k := by
  rw [find?_insert, if_neg other]

@[simp]
theorem find?_erase_self (t : Table α key) (k : Int32) : (t.erase k).find? k = none := by
  apply List.find?_eq_none.2
  intro a member
  have kept := (List.mem_filter.1 member).2
  simpa using kept

theorem find?_erase_other (t : Table α key) {k l : Int32} (other : l ≠ k) :
    (t.erase l).find? k = t.find? k := by
  simp only [find?, erase, List.find?_filter]
  congr 1
  funext a
  by_cases same : key a = k
  · simp [same, other.symm]
  · simp [same]

/-- Taking out what is not there changes nothing. -/
theorem erase_of_absent {t : Table α key} {k : Int32} (absent : t.find? k = none) : t.erase k = t := by
  have kept : t.rows.filter (fun a => key a ≠ k) = t.rows := by
    refine List.filter_eq_self.2 fun a member => ?_
    have differs := List.find?_eq_none.1 absent a member
    simpa using differs
  obtain ⟨rows, ascending⟩ := t
  simp only [erase, mk.injEq]
  exact kept

/-- A record stands in a table under its own key only. -/
theorem find?_eq_some_iff {t : Table α key} {k : Int32} {a : α} :
    t.find? k = some a ↔ a ∈ t.rows ∧ key a = k := by
  constructor
  · exact fun found => ⟨mem_of_find? found, key_of_find? found⟩
  · rintro ⟨member, same⟩
    obtain ⟨before, after, split⟩ := List.append_of_mem member
    have ascending := t.ascending
    rw [split] at ascending
    have earlier := (List.pairwise_append.1 ascending).2.2
    simp only [find?, split, List.find?_append]
    have absent : before.find? (fun b => key b = k) = none := by
      apply List.find?_eq_none.2
      intro b inside equal
      have less := earlier b inside a List.mem_cons_self
      rw [same, ← of_decide_eq_true equal] at less
      exact Int32.lt_irrefl less
    simp [absent, same]

theorem find?_of_mem {t : Table α key} {a : α} (member : a ∈ t.rows) :
    t.find? (key a) = some a :=
  find?_eq_some_iff.2 ⟨member, rfl⟩

theorem mem_insert {t : Table α key} {a b : α} :
    b ∈ (t.insert a).rows ↔ b = a ∨ b ∈ t.rows ∧ key b ≠ key a := by
  have found : b ∈ (t.insert a).rows ↔ (t.insert a).find? (key b) = some b := by
    simp [find?_eq_some_iff]
  rw [found, find?_insert]
  by_cases same : key a = key b
  · simp [same, eq_comm]
  · have other : b ≠ a := fun equal => same (congrArg key equal.symm)
    simp [same, other, Ne.symm same, find?_eq_some_iff]

theorem mem_erase {t : Table α key} {k : Int32} {b : α} :
    b ∈ (t.erase k).rows ↔ b ∈ t.rows ∧ key b ≠ k := by
  simp [erase, List.mem_filter]

/-- No two records have the same value. -/
def Distinct {β : Type} (t : Table α key) (value : α → β) : Prop :=
  ∀ a ∈ t.rows, ∀ b ∈ t.rows, value a = value b → a = b

section

variable {β : Type} {t : Table α key} {value : α → β}

theorem distinct_empty : (empty : Table α key).Distinct value := by
  intro a member
  cases member

/-- A record keeps the values apart when no record under another key has its value. -/
theorem distinct_insert (distinct : t.Distinct value) {a : α} :
    (t.insert a).Distinct value ↔ ∀ b ∈ t.rows, key b ≠ key a → value b ≠ value a := by
  constructor
  · intro kept b member other equal
    have same := kept b (mem_insert.2 (.inr ⟨member, other⟩)) a (mem_insert.2 (.inl rfl)) equal
    exact other (congrArg key same)
  · intro unique b first c second equal
    rcases mem_insert.1 first with rfl | ⟨inB, otherB⟩
    · rcases mem_insert.1 second with rfl | ⟨inC, otherC⟩
      · rfl
      · exact absurd equal.symm (unique c inC otherC)
    · rcases mem_insert.1 second with rfl | ⟨inC, otherC⟩
      · exact absurd equal (unique b inB otherB)
      · exact distinct b inB c inC equal

theorem distinct_erase (distinct : t.Distinct value) (k : Int32) : (t.erase k).Distinct value :=
  fun a first b second => distinct a (mem_erase.1 first).1 b (mem_erase.1 second).1

end

end AccountDirectory.Store.Table
