import Mathlib.Tactic.Common
import Mathlib.Data.List.Basic

/-!
# Replacing elements of a list while iterating over it

A loop that visits a list by position and, where a replacement is known for the element found,
looks the element up again by equality and overwrites the first occurrence.  The occurrence found
may lie before the position visited; as long as replacements are their own replacements, the loop
still computes the plain map (`foldl_replaceStep`).
-/

namespace InPlace

variable {α : Type}

/-- Visit position `i`: overwrite the first occurrence of the element there by its replacement. -/
def replaceStep [DecidableEq α] (f : α → Option α) (xs : List α) (i : ℕ) : List α :=
  match xs[i]? with
  | none => xs
  | some x =>
      match f x with
      | none => xs
      | some y => xs.set (xs.idxOf x) y

/-- An element, or its replacement. -/
def replaced (f : α → Option α) (x : α) : α := (f x).getD x

variable {f : α → Option α}

/-- A replaced element that has a replacement is its own. -/
lemma replaced_fixed (hf : ∀ x y, f x = some y → f y = some y) {x y : α}
    (h : f (replaced f x) = some y) : replaced f x = y := by
  unfold replaced at h ⊢
  cases hx : f x with
  | none =>
      rw [hx, Option.getD_none, hx] at h
      exact absurd h (by simp)
  | some z =>
      rw [hx, Option.getD_some, hf x z hx] at h
      rw [Option.getD_some]
      exact Option.some.inj h

variable [DecidableEq α]

/-- One visit, with the positions before it replaced already. -/
lemma replaceStep_append (hf : ∀ x y, f x = some y → f y = some y) (done : List α) (x : α)
    (rest : List α) :
    replaceStep f (done.map (replaced f) ++ x :: rest) done.length =
      (done ++ [x]).map (replaced f) ++ rest := by
  have hget : (done.map (replaced f) ++ x :: rest)[done.length]? = some x := by simp
  have hmap : (done ++ [x]).map (replaced f) ++ rest =
      done.map (replaced f) ++ replaced f x :: rest := by simp
  rw [replaceStep, hget, hmap]
  cases hx : f x with
  | none => simp [replaced, hx]
  | some y =>
      have hy : replaced f x = y := by rw [replaced, hx, Option.getD_some]
      simp only [hx, hy]
      by_cases hmem : x ∈ done.map (replaced f)
      · -- an earlier occurrence is a replaced element, hence its own replacement
        obtain ⟨z, -, hz⟩ := List.mem_map.mp hmem
        have hfixed : x = y := by
          rw [← hz]
          exact replaced_fixed hf (by rw [hz]; exact hx)
        have hlt : (done.map (replaced f)).idxOf x < (done.map (replaced f)).length :=
          List.idxOf_lt_length_iff.mpr hmem
        have hself := List.set_getElem_self hlt
        rw [List.getElem_idxOf hlt] at hself
        rw [List.idxOf_append_of_mem hmem, ← hfixed, List.set_append_left _ _ hlt, hself]
      · rw [List.idxOf_append_of_notMem hmem, List.idxOf_cons_self, Nat.add_zero,
          List.set_append_right _ _ (Nat.le_refl _), Nat.sub_self]
        rfl

/-- **The loop is a map.** -/
theorem foldl_replaceStep (hf : ∀ x y, f x = some y → f y = some y) (xs : List α) :
    (List.range xs.length).foldl (replaceStep f) xs = xs.map (replaced f) := by
  -- after `k` visits the first `k` elements are replaced and the others untouched
  have visited : ∀ k ≤ xs.length,
      (List.range k).foldl (replaceStep f) xs = (xs.take k).map (replaced f) ++ xs.drop k := by
    intro k hk
    induction k with
    | zero => simp
    | succ k ih =>
        have hlt : k < xs.length := by omega
        rw [List.range_succ, List.foldl_append, ih (by omega), List.foldl_cons, List.foldl_nil,
          List.drop_eq_getElem_cons hlt]
        have hlength : (xs.take k).length = k := by simp; omega
        have hstep := replaceStep_append hf (xs.take k) xs[k] (xs.drop (k + 1))
        rw [hlength] at hstep
        rw [hstep, List.take_append_getElem hlt]
  rw [visited xs.length (Nat.le_refl _), List.take_length, List.drop_length, List.append_nil]

end InPlace
