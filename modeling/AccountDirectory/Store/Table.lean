/-!
Tables of records under a key, in the order of the keys.
-/

namespace AccountDirectory.Store

/-- Records with ascending keys, so that no two have the same key. -/
structure Table (α : Type) (key : α → Int32) where
  rows : List α
  ascending : rows.Pairwise fun a b => key a < key b

namespace Table

variable {α : Type} {key : α → Int32}

def empty : Table α key :=
  ⟨[], .nil⟩

def find? (t : Table α key) (k : Int32) : Option α :=
  t.rows.find? fun a => key a = k

/-- Puts a record at its place, in the stead of one with the same key. -/
def insertRow (key : α → Int32) (a : α) : List α → List α
  | [] => [a]
  | b :: rest =>
    if key a < key b then a :: b :: rest
    else if key a = key b then a :: rest
    else b :: insertRow key a rest

theorem mem_insertRow {a x : α} {l : List α} (h : x ∈ insertRow key a l) : x = a ∨ x ∈ l := by
  induction l with
  | nil => simpa [insertRow] using h
  | cons b rest ih =>
    simp only [insertRow] at h
    split at h
    · simpa using h
    · split at h
      · rcases List.mem_cons.1 h with h | h
        · exact .inl h
        · exact .inr (.tail _ h)
      · rcases List.mem_cons.1 h with h | h
        · exact .inr (by simp [h])
        · rcases ih h with h | h
          · exact .inl h
          · exact .inr (.tail _ h)

theorem pairwise_insertRow (a : α) {l : List α} (h : l.Pairwise fun a b => key a < key b) :
    (insertRow key a l).Pairwise fun a b => key a < key b := by
  induction l with
  | nil => simp [insertRow]
  | cons b rest ih =>
    obtain ⟨hb, hrest⟩ := List.pairwise_cons.1 h
    simp only [insertRow]
    split
    · next hab =>
      refine List.pairwise_cons.2 ⟨fun x hx => ?_, h⟩
      rcases List.mem_cons.1 hx with rfl | hx
      · exact hab
      · exact Int32.lt_trans hab (hb x hx)
    · split
      · next heq => exact List.pairwise_cons.2 ⟨fun x hx => heq ▸ hb x hx, hrest⟩
      · next hlt hne =>
        refine List.pairwise_cons.2 ⟨fun x hx => ?_, ih hrest⟩
        rcases mem_insertRow hx with rfl | hx
        · exact Int32.lt_of_le_of_ne (Int32.not_lt.1 hlt) (fun e => hne e.symm)
        · exact hb x hx

def insert (t : Table α key) (a : α) : Table α key :=
  ⟨insertRow key a t.rows, pairwise_insertRow a t.ascending⟩

/-- The table without the record under a key. -/
def erase (t : Table α key) (k : Int32) : Table α key :=
  ⟨t.rows.filter fun a => key a ≠ k, t.ascending.filter _⟩

def size (t : Table α key) : Nat :=
  t.rows.length

/-- The highest key; 0 for the empty table. -/
def maxKey (t : Table α key) : Int32 :=
  (t.rows.getLast?.map key).getD 0

/-- The records from position `offset` on, `limit` of them at most. Below zero counts as zero. -/
def page (t : Table α key) (offset limit : Int) : List α :=
  (t.rows.drop offset.toNat).take limit.toNat

end Table

end AccountDirectory.Store
