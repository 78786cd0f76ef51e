import Mathlib.Data.List.Sort

/-!
# Ranks in an ordered list

In a list ordered by a strict relation the rank of an element, the number of elements before it,
is its position (`Ranking.mem_take_iff`).  Where several elements may have one place, a list is
sorted stably: what was in order stays in its order (`Ranking.stablySorted_insertionSort`).
-/

namespace Ranking

variable {α : Type} {r : α → α → Prop} [DecidableRel r]

/-- How many elements of the list come before one. -/
def rank (r : α → α → Prop) [DecidableRel r] (l : List α) (x : α) : ℕ := l.countP fun y => r y x

lemma rank_eq_of_perm {l l' : List α} (h : l.Perm l') (x : α) : rank r l x = rank r l' x :=
  h.countP_eq _

/-- What comes before none of a list's elements has rank zero in it. -/
lemma rank_eq_zero {l : List α} {x : α} (h : ∀ y ∈ l, ¬ r y x) : rank r l x = 0 := by
  unfold rank
  rw [List.countP_eq_zero]
  intro y hy
  rw [decide_eq_true_eq]
  exact h y hy

/-- **The first elements are those of a small rank.** -/
theorem mem_take_iff (hasymm : ∀ x y, r x y → ¬ r y x) {l : List α} (hl : l.Pairwise r) {n : ℕ}
    {x : α} : x ∈ l.take n ↔ x ∈ l ∧ rank r l x < n := by
  induction l generalizing n with
  | nil => simp
  | cons a l ih =>
      obtain ⟨hhead, htail⟩ := List.pairwise_cons.mp hl
      have hirrefl : ∀ y, ¬ r y y := fun y hy => hasymm y y hy hy
      cases n with
      | zero => simp
      | succ n =>
          rw [List.take_succ_cons, List.mem_cons, List.mem_cons, ih htail]
          constructor
          · rintro (rfl | ⟨hx, hrank⟩)
            · refine ⟨Or.inl rfl, ?_⟩
              rw [rank_eq_zero]
              · omega
              · rintro y hy
                rcases List.mem_cons.mp hy with rfl | hy
                · exact hirrefl y
                · exact hasymm x y (hhead y hy)
            · refine ⟨Or.inr hx, ?_⟩
              unfold rank at hrank ⊢
              rw [List.countP_cons]
              split
              · omega
              · omega
          · rintro ⟨rfl | hx, hrank⟩
            · exact Or.inl rfl
            · refine Or.inr ⟨hx, ?_⟩
              unfold rank at hrank ⊢
              rw [List.countP_cons, if_pos (decide_eq_true (hhead x hx))] at hrank
              omega

/-- The list is another one, sorted; what was in order there is in the same order here. -/
structure StablySorted (le : α → α → Prop) (xs ys : List α) : Prop where
  perm : ys.Perm xs
  ordered : ys.Pairwise le
  stable : ∀ zs : List α, zs.Sublist xs → zs.Pairwise le → zs.Sublist ys

lemma stablySorted_insertionSort (le : α → α → Prop) [DecidableRel le] [Std.Total le]
    [IsTrans α le] (xs : List α) : StablySorted le xs (xs.insertionSort le) where
  perm := List.perm_insertionSort le xs
  ordered := List.pairwise_insertionSort le xs
  stable _ hsub hordered := List.sublist_insertionSort hordered hsub

end Ranking
