import Mathlib.Tactic.Common
import Mathlib.Data.List.DropRight

/-!
# Trimming a list at both ends

`Trim.trim p` removes the longest run of elements satisfying `p` at either end of a list.  The
lists it leaves alone are those whose first and last elements fail `p`
(`Trim.trim_eq_self_iff`), and trimming always produces such a list (`Trim.trim_trim`).

Trimming keeps every stretch that is itself trimmed (`Trim.infix_trim_iff`), and it commutes with
writing lists for the elements, as long as these lists are not empty and hold what satisfies `p`
just for the elements that do (`Trim.trim_flatMap`).
-/

namespace Trim

variable {α : Type} (p : α → Bool)

/-- Drop the elements satisfying `p` from both ends. -/
def trim (l : List α) : List α := (l.dropWhile p).rdropWhile p

lemma length_rdropWhile_le (l : List α) : (l.rdropWhile p).length ≤ l.length :=
  (List.rdropWhile_prefix p l).length_le

/-- The fixed points of trimming: neither end satisfies `p`. -/
lemma trim_eq_self_iff {l : List α} :
    trim p l = l ↔ (∀ x ∈ l.head?, p x = false) ∧ (∀ x ∈ l.getLast?, p x = false) := by
  constructor
  · intro h
    have hdrop : l.dropWhile p = l := by
      apply (List.dropWhile_suffix p).eq_of_length
      refine le_antisymm (List.dropWhile_suffix (l := l) p).length_le ?_
      calc l.length = (trim p l).length := by rw [h]
        _ ≤ (l.dropWhile p).length := length_rdropWhile_le p _
    have hrdrop : l.rdropWhile p = l := by
      rw [trim, hdrop] at h
      exact h
    constructor
    · intro x hx
      have hnot := List.head?_dropWhile_not p l
      rw [hdrop, Option.mem_def.mp hx] at hnot
      simpa using hnot
    · intro x hx
      by_contra hp
      have hne : l ≠ [] := by rintro rfl; simp at hx
      have hlast := List.rdropWhile_eq_self_iff.mp hrdrop hne
      rw [Option.mem_def, List.getLast?_eq_some_getLast hne, Option.some.injEq] at hx
      exact hlast (by rw [hx]; simpa using hp)
  · rintro ⟨hhead, hlast⟩
    have hdrop : l.dropWhile p = l := by
      cases l with
      | nil => rfl
      | cons a l => rw [List.dropWhile_cons, if_neg (by simp [hhead a rfl])]
    rw [trim, hdrop, List.rdropWhile_eq_self_iff]
    intro hne
    simp [hlast _ (List.getLast?_eq_some_getLast hne)]

/-- Trimming leaves nothing of a list exactly when every element satisfies `p`. -/
lemma trim_eq_nil_iff {l : List α} : trim p l = [] ↔ ∀ x ∈ l, p x = true := by
  rw [trim, List.rdropWhile_eq_nil_iff]
  constructor
  · intro h
    rw [← List.dropWhile_eq_nil_iff]
    rcases hdrop : l.dropWhile p with _ | ⟨a, r⟩
    · rfl
    · have hhead := List.head?_dropWhile_not p l
      rw [hdrop, List.head?_cons] at hhead
      rw [hdrop] at h
      simp [h a List.mem_cons_self] at hhead
  · intro h x hx
    exact h x ((List.dropWhile_suffix p).subset hx)

/-- Trimming is idempotent. -/
lemma trim_trim (l : List α) : trim p (trim p l) = trim p l := by
  have hlast : ((l.dropWhile p).rdropWhile p).rdropWhile p = (l.dropWhile p).rdropWhile p :=
    List.rdropWhile_idempotent p _
  have hdrop : ((l.dropWhile p).rdropWhile p).dropWhile p = (l.dropWhile p).rdropWhile p := by
    rcases hr : (l.dropWhile p).rdropWhile p with _ | ⟨a, r⟩
    · rfl
    · obtain ⟨post, hpost⟩ := List.rdropWhile_prefix p (l.dropWhile p)
      have hhead : (l.dropWhile p).head? = some a := by rw [← hpost, hr]; rfl
      have := List.head?_dropWhile_not p l
      rw [hhead] at this
      rw [List.dropWhile_cons, if_neg (by simpa using this)]
  rw [trim, trim, hdrop, hlast]

/-- A first element that fails `p` stays the first. -/
lemma trim_cons {a : α} (ha : p a = false) (l : List α) : ∃ r, trim p (a :: l) = a :: r := by
  have hdrop : (a :: l).dropWhile p = a :: l := by
    rw [List.dropWhile_cons, if_neg (by simp [ha])]
  have hne : trim p (a :: l) ≠ [] := by
    intro hnil
    have hall := (trim_eq_nil_iff p).mp hnil a List.mem_cons_self
    exact absurd (ha.symm.trans hall) (by simp)
  obtain ⟨b, r, hr⟩ := List.exists_cons_of_ne_nil hne
  obtain ⟨post, hpost⟩ : trim p (a :: l) <+: a :: l := by
    rw [trim, hdrop]
    exact List.rdropWhile_prefix p _
  rw [hr, List.cons_append, List.cons.injEq] at hpost
  exact ⟨r, by rw [hr, hpost.1]⟩

/-- A concatenation of two nonempty trimmed lists is trimmed. -/
lemma trim_append {a b : List α} (ha : trim p a = a) (hb : trim p b = b) (hane : a ≠ [])
    (hbne : b ≠ []) : trim p (a ++ b) = a ++ b := by
  rw [trim_eq_self_iff] at ha hb ⊢
  refine ⟨fun x hx => ha.1 x ?_, fun x hx => hb.2 x ?_⟩
  · rwa [List.head?_append_of_ne_nil _ hane] at hx
  · rwa [List.getLast?_append_of_ne_nil _ hbne] at hx

/-! ## Stretches of a trimmed list -/

lemma trim_isInfix (l : List α) : trim p l <:+: l :=
  (List.rdropWhile_prefix p _).isInfix.trans (List.dropWhile_suffix p).isInfix

/-- What starts with an element failing `p` survives the dropping of a run. -/
lemma infix_dropWhile {needle l : List α} (hhead : ∀ x ∈ needle.head?, p x = false)
    (h : needle <:+: l) : needle <:+: l.dropWhile p := by
  induction l with
  | nil => exact h
  | cons a rest ih =>
      rw [List.dropWhile_cons]
      split
      · rename_i ha
        apply ih
        rcases List.infix_cons_iff.mp h with hfirst | hrest
        · cases needle with
          | nil => exact List.nil_infix
          | cons b needle =>
              obtain ⟨rfl, -⟩ := List.cons_prefix_cons.mp hfirst
              exact absurd ha (by simp [hhead b rfl])
        · exact hrest
      · exact h

lemma infix_rdropWhile {needle l : List α} (hlast : ∀ x ∈ needle.getLast?, p x = false)
    (h : needle <:+: l) : needle <:+: l.rdropWhile p := by
  rw [← List.reverse_infix, List.rdropWhile, List.reverse_reverse]
  apply infix_dropWhile
  · rw [List.head?_reverse]
    exact hlast
  · exact List.reverse_infix.mpr h

/-- **Trimming keeps the trimmed stretches.** -/
theorem infix_trim_iff {needle l : List α} (hneedle : trim p needle = needle) :
    needle <:+: trim p l ↔ needle <:+: l := by
  obtain ⟨hhead, hlast⟩ := (trim_eq_self_iff p).mp hneedle
  constructor
  · intro h
    exact h.trans (trim_isInfix p l)
  · intro h
    exact infix_rdropWhile p hlast (infix_dropWhile p hhead h)

/-! ## Writing lists for the elements -/

section FlatMap

variable {p} {β : Type} {q : β → Bool} {f : α → List β} (hne : ∀ c, f c ≠ [])
  (hf : ∀ c, ∀ d ∈ f c, q d = p c)
include hne hf

lemma dropWhile_flatMap (l : List α) : (l.flatMap f).dropWhile q = (l.dropWhile p).flatMap f := by
  induction l with
  | nil => rfl
  | cons c rest ih =>
      rw [List.flatMap_cons, List.dropWhile_cons]
      split
      · rename_i hc
        rw [List.dropWhile_append_of_pos fun d hd => (hf c d hd).trans hc, ih]
      · rename_i hc
        obtain ⟨d, ds, heq⟩ := List.exists_cons_of_ne_nil (hne c)
        have hd : q d = p c := hf c d (heq ▸ List.mem_cons_self)
        rw [List.flatMap_cons, heq, List.cons_append, List.dropWhile_cons, hd, if_neg hc]

lemma rdropWhile_flatMap (l : List α) :
    (l.flatMap f).rdropWhile q = (l.rdropWhile p).flatMap f := by
  have hreverse : (l.reverse.flatMap (List.reverse ∘ f)).dropWhile q =
      (l.reverse.dropWhile p).flatMap (List.reverse ∘ f) := by
    apply dropWhile_flatMap
    · intro c
      exact List.reverse_ne_nil_iff.mpr (hne c)
    · intro c d hd
      exact hf c d (List.mem_reverse.mp hd)
  rw [List.rdropWhile, List.rdropWhile, List.reverse_flatMap, hreverse, List.reverse_flatMap]
  congr 1
  funext c
  exact List.reverse_reverse (f c)

/-- **Trimming commutes with the writing.** -/
theorem trim_flatMap (l : List α) : trim q (l.flatMap f) = (trim p l).flatMap f := by
  unfold trim
  rw [dropWhile_flatMap hne hf, rdropWhile_flatMap hne hf]

end FlatMap

end Trim
