import AccountDirectory.Text.Blank

/-!
What is left of a text without what stands at its ends: it keeps every other character, and less is
left the more may be taken away.
-/

namespace AccountDirectory.Text

variable {α : Type} {p q : α → Bool} {a : α} {l : List α} {value : String}

theorem mem_dropWhile (member : a ∈ l) (unlike : p a = false) : a ∈ l.dropWhile p := by
  induction l with
  | nil => cases member
  | cons b l ih =>
    by_cases like : p b = true
    · rw [List.dropWhile_cons_of_pos like]
      rcases List.mem_cons.1 member with rfl | later
      · rw [unlike] at like
        cases like
      · exact ih later
    · rwa [List.dropWhile_cons_of_neg like]

theorem trimmedLength_pos (filled : isAllBlank value = false) : 1 ≤ trimmedLength value := by
  have visible : ∃ c ∈ value.toList, isBlank c = false := by
    simpa [isAllBlank] using filled
  obtain ⟨c, member, unlike⟩ := visible
  have fromLeft : c ∈ value.toList.dropWhile isBlank := mem_dropWhile member unlike
  have fromRight := mem_dropWhile (List.mem_reverse.2 fromLeft) unlike
  exact List.length_pos_of_mem (List.mem_reverse.2 fromRight)

theorem stripBoth_eq_self (none : ∀ a ∈ l, p a = false) : stripBoth p l = l := by
  have kept : ∀ l : List α, (∀ a ∈ l, p a = false) → l.dropWhile p = l := by
    intro l none
    cases l with
    | nil => rfl
    | cons a l => exact List.dropWhile_cons_of_neg (by simp [none a List.mem_cons_self])
  rw [stripBoth, kept l none, kept l.reverse fun a member => none a (List.mem_reverse.1 member),
    List.reverse_reverse]

theorem dropWhile_suffix_of_imp (wider : ∀ a, p a = true → q a = true) :
    l.dropWhile q <:+ l.dropWhile p := by
  induction l with
  | nil => exact List.suffix_refl []
  | cons a l ih =>
    by_cases inner : p a = true
    · rwa [List.dropWhile_cons_of_pos inner, List.dropWhile_cons_of_pos (wider a inner)]
    · rw [List.dropWhile_cons_of_neg inner]
      exact List.dropWhile_suffix q

theorem length_dropWhile_of_prefix {short long : List α} (begins : short <+: long) :
    (short.dropWhile p).length ≤ (long.dropWhile p).length := by
  obtain ⟨rest, rfl⟩ := begins
  rw [List.dropWhile_append]
  split
  · rename_i nothing
    simp [List.isEmpty_iff.1 nothing]
  · simp

theorem length_stripBoth_of_imp (wider : ∀ a, p a = true → q a = true) (l : List α) :
    (stripBoth q l).length ≤ (stripBoth p l).length := by
  -- Backwards, the suffix that is left on one side is a prefix of the other.
  have fromLeft : (l.dropWhile q).reverse <+: (l.dropWhile p).reverse :=
    List.reverse_prefix.2 (dropWhile_suffix_of_imp wider)
  calc (stripBoth q l).length
      = ((l.dropWhile q).reverse.dropWhile q).length := List.length_reverse
    _ ≤ ((l.dropWhile p).reverse.dropWhile q).length := length_dropWhile_of_prefix fromLeft
    _ ≤ ((l.dropWhile p).reverse.dropWhile p).length := (dropWhile_suffix_of_imp wider).length_le
    _ = (stripBoth p l).length := List.length_reverse.symm

end AccountDirectory.Text
