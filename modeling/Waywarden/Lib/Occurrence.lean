import Mathlib.Data.List.Infix
import Mathlib.Data.Nat.Notation
import Mathlib.Tactic.Common

/-!
# The first occurrence of one list in another, and the stretch between two positions

`Occurrence.find needle text` is the position of the first occurrence, and
`Occurrence.slice start stop text` what stands between two positions.  The first is characterised by
`FirstMatch` (`find_eq_some_iff`), the second by the splits of the text around a stretch: a stretch
within the bounds is part of the slice (`infix_slice`), and the slice is such a stretch itself
(`exists_split_slice`).

When every element of a list is written out as some elements, positions shift: what occurs in the
written list occurs in the writing of a stretch that starts earlier, by no more than the writing is
longer than the list (`exists_split_of_flatMap`).
-/

namespace Occurrence

variable {α : Type}

/-- The list occurs at the position and nowhere before it. -/
structure FirstMatch (needle text : List α) (i : ℕ) : Prop where
  here : needle <+: text.drop i
  first : ∀ j < i, ¬ needle <+: text.drop j

variable {needle text : List α} {i start stop : ℕ}

/-! ## The first occurrence -/

lemma FirstMatch.occurs (h : FirstMatch needle text i) : needle <:+: text :=
  h.here.isInfix.trans (List.drop_suffix i text).isInfix

lemma FirstMatch.zero (h : needle <+: text) : FirstMatch needle text 0 :=
  ⟨h, fun j hj => absurd hj (Nat.not_lt_zero j)⟩

lemma FirstMatch.unique {j : ℕ} (hi : FirstMatch needle text i) (hj : FirstMatch needle text j) :
    i = j := by
  rcases Nat.lt_trichotomy i j with hlt | heq | hlt
  · exact absurd hi.here (hj.first i hlt)
  · exact heq
  · exact absurd hj.here (hi.first j hlt)

/-- The empty list occurs first at the start. -/
lemma FirstMatch.eq_zero (h : FirstMatch [] text i) : i = 0 :=
  h.unique (FirstMatch.zero List.nil_prefix)

lemma firstMatch_cons_iff {c : α} (h : ¬ needle <+: c :: text) :
    FirstMatch needle (c :: text) (i + 1) ↔ FirstMatch needle text i := by
  constructor
  · intro hmatch
    exact ⟨hmatch.here, fun j hj => hmatch.first (j + 1) (Nat.succ_lt_succ hj)⟩
  · intro hmatch
    refine ⟨hmatch.here, fun j hj => ?_⟩
    cases j with
    | zero => exact h
    | succ j => exact hmatch.first j (Nat.lt_of_succ_lt_succ hj)

section Search

variable [DecidableEq α]

/-- The position of the first occurrence. -/
def find (needle : List α) : List α → Option ℕ
  | [] => if needle = [] then some 0 else none
  | c :: text => if needle <+: c :: text then some 0 else (find needle text).map (· + 1)

lemma find_eq_some_iff : find needle text = some i ↔ FirstMatch needle text i := by
  induction text generalizing i with
  | nil =>
      unfold find
      split
      · rename_i hnil
        subst hnil
        rw [Option.some.injEq]
        constructor
        · rintro rfl
          exact FirstMatch.zero List.nil_prefix
        · intro h
          exact h.eq_zero.symm
      · rename_i hne
        constructor
        · intro h
          exact absurd h (Option.some_ne_none i).symm
        · intro h
          exact absurd (List.infix_nil.mp h.occurs) hne
  | cons c text ih =>
      unfold find
      split
      · rename_i hhere
        rw [Option.some.injEq]
        constructor
        · rintro rfl
          exact FirstMatch.zero hhere
        · intro h
          exact (FirstMatch.zero hhere).unique h
      · rename_i hnot
        rw [Option.map_eq_some_iff]
        constructor
        · rintro ⟨j, hj, rfl⟩
          exact (firstMatch_cons_iff hnot).mpr (ih.mp hj)
        · intro h
          cases i with
          | zero => exact absurd h.here hnot
          | succ j => exact ⟨j, ih.mpr ((firstMatch_cons_iff hnot).mp h), rfl⟩

lemma find_eq_none_iff : find needle text = none ↔ ¬ needle <:+: text := by
  induction text with
  | nil =>
      unfold find
      rw [List.infix_nil]
      split
      · rename_i hnil
        exact ⟨fun h => absurd h (Option.some_ne_none 0), fun h => absurd hnil h⟩
      · rename_i hne
        exact ⟨fun _ => hne, fun _ => rfl⟩
  | cons c text ih =>
      unfold find
      rw [List.infix_cons_iff]
      split
      · rename_i hhere
        exact ⟨fun h => absurd h (Option.some_ne_none 0), fun h => absurd (Or.inl hhere) h⟩
      · rename_i hnot
        rw [Option.map_eq_none_iff, ih, not_or]
        exact ⟨fun h => ⟨hnot, h⟩, fun h => h.2⟩

lemma exists_firstMatch (h : needle <:+: text) : ∃ i, FirstMatch needle text i := by
  rcases hfind : find needle text with _ | i
  · exact absurd h (find_eq_none_iff.mp hfind)
  · exact ⟨i, find_eq_some_iff.mp hfind⟩

end Search

/-! ## Stretches -/

/-- What stands from position `start` up to position `stop`. -/
def slice (start stop : ℕ) (text : List α) : List α := (text.take stop).drop start

/-- A slice that holds something starts within the text. -/
lemma start_le_length (h : slice start stop text ≠ []) : start ≤ text.length := by
  unfold slice at h
  rw [ne_eq, List.drop_eq_nil_iff, List.length_take] at h
  omega

/-- A stretch within the bounds is part of the slice. -/
lemma infix_slice {before middle after : List α} (hstart : start ≤ before.length)
    (hstop : before.length + middle.length ≤ stop) :
    middle <:+: slice start stop (before ++ middle ++ after) := by
  have hlength : (before ++ middle).length ≤ stop := by
    rw [List.length_append]
    exact hstop
  unfold slice
  rw [List.take_append, List.take_of_length_le hlength, List.append_assoc,
    List.drop_append_of_le_length hstart]
  exact List.infix_append' _ _ _

/-- The slice is a stretch within the bounds. -/
lemma exists_split_slice (hstart : start ≤ text.length) (hle : start ≤ stop) :
    ∃ before after, text = before ++ slice start stop text ++ after ∧ before.length = start ∧
      before.length + (slice start stop text).length ≤ stop := by
  have htake : (text.take stop).take start = text.take start := by
    rw [List.take_take, Nat.min_eq_left hle]
  refine ⟨text.take start, text.drop stop, ?_, ?_, ?_⟩
  · rw [slice, ← htake, List.take_append_drop, List.take_append_drop]
  · rw [List.length_take]
    omega
  · unfold slice
    rw [List.length_drop, List.length_take, List.length_take]
    omega

/-! ## Occurrences in a written list -/

section FlatMap

variable {β : Type} {f : α → List β} (hne : ∀ c, f c ≠ [])
include hne

lemma length_le_length_flatMap (l : List α) : l.length ≤ (l.flatMap f).length := by
  induction l with
  | nil => exact Nat.le_refl 0
  | cons c l ih =>
      have hc : 0 < (f c).length := List.length_pos_iff.mpr (hne c)
      rw [List.flatMap_cons, List.length_append, List.length_cons]
      omega

/-- The first `n` elements write at least `n`, if the whole list does. -/
lemma le_length_flatMap_take {l : List α} {n : ℕ} (hn : n ≤ (l.flatMap f).length) :
    n ≤ ((l.take n).flatMap f).length := by
  rcases Nat.le_total n l.length with hle | hle
  · have hwritten := length_le_length_flatMap hne (l.take n)
    rw [List.length_take_of_le hle] at hwritten
    exact hwritten
  · rw [List.take_of_length_le hle]
    exact hn

/-- How many elements write an occurrence that starts in the writing of the first. -/
lemma infix_flatMap_take {c : α} {l : List α} {before middle after : List β}
    (h : (c :: l).flatMap f = before ++ middle ++ after) :
    middle <:+: (c :: l.take (before.length + middle.length - (f c).length)).flatMap f := by
  set n := before.length + middle.length - (f c).length with hn
  have hlength := congrArg List.length h
  rw [List.flatMap_cons] at h hlength
  simp only [List.length_append] at hlength
  have htake : n ≤ ((l.take n).flatMap f).length := le_length_flatMap_take hne (by omega)
  obtain ⟨rest, hrest⟩ : ((c :: l.take n).flatMap f) <+: before ++ middle ++ after := by
    rw [← h, ← List.flatMap_cons]
    exact (List.prefix_cons_inj c).mpr (List.take_prefix n l) |>.flatMap f
  have hcut : before ++ middle <+: (c :: l.take n).flatMap f := by
    apply List.prefix_of_prefix_length_le (List.prefix_append _ after) ⟨rest, hrest⟩
    rw [List.flatMap_cons, List.length_append, List.length_append]
    omega
  exact (List.suffix_append before middle).isInfix.trans hcut.isInfix

/-- **The stretch that writes an occurrence.**  It starts before the occurrence, by no more than the
writing is longer than the list, and it is no longer than what occurs. -/
theorem exists_split_of_flatMap {l : List α} {before middle after : List β} (hmiddle : middle ≠ [])
    (h : l.flatMap f = before ++ middle ++ after) :
    ∃ front hit back, l = front ++ hit ++ back ∧ middle <:+: hit.flatMap f ∧
      front.length ≤ before.length ∧ hit.length ≤ middle.length ∧
      before.length + l.length ≤ front.length + (l.flatMap f).length := by
  have hpos : 0 < middle.length := List.length_pos_iff.mpr hmiddle
  induction l generalizing before with
  | nil =>
      have hnil : before ++ middle ++ after = [] := h.symm
      simp only [List.append_eq_nil_iff] at hnil
      exact absurd hnil.1.2 hmiddle
  | cons c l ih =>
      rcases Nat.lt_or_ge before.length (f c).length with hlt | hge
      · refine ⟨[], c :: l.take (before.length + middle.length - (f c).length),
          l.drop (before.length + middle.length - (f c).length), ?_,
          infix_flatMap_take hne h, Nat.zero_le _, ?_, ?_⟩
        · rw [List.nil_append, List.cons_append, List.take_append_drop]
        · rw [List.length_cons, List.length_take]
          omega
        · have hwritten := length_le_length_flatMap hne l
          rw [List.flatMap_cons, List.length_append, List.length_cons, List.length_nil]
          omega
      · rw [List.flatMap_cons, List.append_assoc] at h
        obtain ⟨rest, rfl⟩ : f c <+: before :=
          List.prefix_of_prefix_length_le ⟨_, h⟩ (List.prefix_append before _) hge
        rw [List.append_assoc, List.append_cancel_left_eq, ← List.append_assoc] at h
        obtain ⟨front, hit, back, rfl, hinfix, hfront, hhit, hgrowth⟩ := ih h
        refine ⟨c :: front, hit, back, rfl, hinfix, ?_, hhit, ?_⟩
        · have hc : 0 < (f c).length := List.length_pos_iff.mpr (hne c)
          rw [List.length_append, List.length_cons]
          omega
        · rw [List.flatMap_cons, List.length_append, List.length_append, List.length_cons,
            List.length_cons]
          omega

end FlatMap

end Occurrence
