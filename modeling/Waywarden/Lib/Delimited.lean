import Mathlib.Tactic.Common
import Mathlib.Data.List.Basic
import Mathlib.Data.List.Infix

/-!
# Names built by concatenation

Ways of building a name out of parts, and what the name still says about them.

* `join sep a b` lays `a`, a separator and `b` end to end.  When the separator may also occur in
  the parts, the name does not say where the one that was inserted is: `join_eq_iff` says that
  two names are equal exactly when the parts are, or when one pair of parts is the other with
  the separator read at another place (`Shifts`).
* `key ++ tag` for a tag from a fixed list.  When no tag of the list is a proper suffix of
  another, the name determines both (`SuffixFree.append_inj`).
* `[sep].intercalate parts` has no other characters than the parts and the separator
  (`forall_mem_intercalate`).
-/

namespace Delimited

variable {α : Type}

/-- Two parts with the separator between them. -/
def join (sep : α) (a b : List α) : List α := a ++ sep :: b

/-- The separator read at a later place: `a` is followed by `sep` and `x` in the first part, and
`b` is what is left of the second part after `x` and `sep`. -/
def Shifts (sep : α) (a b a' b' : List α) : Prop :=
  ∃ x, a' = join sep a x ∧ b = join sep x b'

variable {sep : α} {a b a' b' : List α}

/-- A separator read at another place gives the same name. -/
lemma Shifts.join_eq (h : Shifts sep a b a' b') : join sep a b = join sep a' b' := by
  obtain ⟨x, rfl, rfl⟩ := h
  simp [join]

/-- **What a joined name says about its parts.** -/
theorem join_eq_iff : join sep a b = join sep a' b' ↔
    (a = a' ∧ b = b') ∨ Shifts sep a b a' b' ∨ Shifts sep a' b' a b := by
  constructor
  · intro h
    rcases List.append_eq_append_iff.mp h with ⟨c, ha, hb⟩ | ⟨c, ha, hb⟩
    · -- the first part of the second name is at least as long
      cases c with
      | nil =>
          rw [List.append_nil] at ha
          exact Or.inl ⟨ha.symm, (List.cons_eq_cons.mp hb).2⟩
      | cons d x =>
          obtain ⟨rfl, hrest⟩ := List.cons_eq_cons.mp hb
          exact Or.inr (Or.inl ⟨x, ha, hrest⟩)
    · cases c with
      | nil =>
          rw [List.append_nil] at ha
          exact Or.inl ⟨ha, (List.cons_eq_cons.mp hb).2.symm⟩
      | cons d x =>
          obtain ⟨rfl, hrest⟩ := List.cons_eq_cons.mp hb
          exact Or.inr (Or.inr ⟨x, ha, hrest⟩)
  · rintro (⟨rfl, rfl⟩ | h | h)
    · rfl
    · exact h.join_eq
    · exact h.join_eq.symm

/-- No tag of the list is a proper suffix of another. -/
def SuffixFree (tags : List (List α)) : Prop :=
  ∀ t ∈ tags, ∀ t' ∈ tags, t <:+ t' → t = t'

instance [DecidableEq α] (tags : List (List α)) : Decidable (SuffixFree tags) :=
  inferInstanceAs (Decidable (∀ t ∈ tags, ∀ t' ∈ tags, t <:+ t' → t = t'))

/-- **A tagged name determines its key and its tag.** -/
theorem SuffixFree.append_inj {tags : List (List α)} (h : SuffixFree tags) {t t' : List α}
    (ht : t ∈ tags) (ht' : t' ∈ tags) (heq : a ++ t = a' ++ t') : a = a' ∧ t = t' := by
  -- of two suffixes of one list, one is a suffix of the other
  have hsuffix : t <:+ t' ∨ t' <:+ t :=
    List.suffix_or_suffix_of_suffix (List.suffix_append a t) (heq ▸ List.suffix_append a' t')
  have htag : t = t' := by
    rcases hsuffix with hs | hs
    · exact h t ht t' ht' hs
    · exact (h t' ht' t ht hs).symm
  subst htag
  exact ⟨List.append_cancel_right heq, rfl⟩

/-- What holds of the separator and in every part holds in a text laid out from them. -/
theorem forall_mem_intercalate {p : α → Prop} {parts : List (List α)} (hsep : p sep)
    (h : ∀ part ∈ parts, ∀ c ∈ part, p c) : ∀ c ∈ [sep].intercalate parts, p c := by
  induction parts with
  | nil => exact fun c hc => absurd hc List.not_mem_nil
  | cons part parts ih =>
      rw [List.forall_mem_cons] at h
      cases parts with
      | nil =>
          rw [List.intercalate_singleton]
          exact h.1
      | cons next parts =>
          rw [List.intercalate_cons_cons, List.forall_mem_append, List.forall_mem_append,
            List.forall_mem_singleton]
          exact ⟨⟨h.1, hsep⟩, ih h.2⟩

end Delimited
