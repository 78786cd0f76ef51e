import Mathlib.Tactic.Common
import Mathlib.Data.Fintype.EquivFin

/-!
# Wildcard patterns and first-match tables

A pattern on `α` is an `Option α`: unset it matches everything, set it matches the one value it
names.  A table is a list of rows with a pattern each, and the first row that matches a value
decides it.

Over an infinite type a finite list of patterns leaves some value unnamed, and that value decides
what the lists do on everything they do not name.

* `covered_iff`: finitely many patterns cover a pattern only if one of them does alone.
* `forall_lead_iff`: two tables compare at every value if and only if they compare at the values
  their deciding rows name, and at the unset pattern.
-/

namespace Wildcard

variable {α β γ : Type}

/-- The pattern matches the value. -/
def Matches (p : Option α) (a : α) : Prop := ∀ b ∈ p, b = a

/-- The first pattern is unset or equal to the second. -/
def Wider (q p : Option α) : Prop := q = none ∨ q = p

instance [DecidableEq α] (q p : Option α) : Decidable (Wider q p) :=
  inferInstanceAs (Decidable (_ ∨ _))

lemma matches_none (a : α) : Matches none a := nofun

lemma matches_some_iff {a b : α} : Matches (some b) a ↔ b = a := by simp [Matches]

lemma matches_iff_wider {p : Option α} {a : α} : Matches p a ↔ Wider p (some a) := by
  cases p with
  | none => exact iff_of_true (matches_none a) (Or.inl rfl)
  | some b => simp [matches_some_iff, Wider]

/-- Every pattern matches something. -/
lemma exists_matches [Nonempty α] (p : Option α) : ∃ a, Matches p a := by
  cases p with
  | none => exact ⟨Classical.arbitrary α, matches_none _⟩
  | some a => exact ⟨a, matches_some_iff.mpr rfl⟩

/-- A wider pattern matches more. -/
lemma Wider.matches {q p : Option α} {a : α} (h : Wider q p) (hp : Matches p a) : Matches q a := by
  rcases h with rfl | rfl
  · exact matches_none a
  · exact hp

/-- Some value is named by none of finitely many patterns. -/
lemma exists_unnamed [Infinite α] (ps : List (Option α)) : ∃ a, some a ∉ ps := by
  classical
  obtain ⟨a, ha⟩ := Infinite.exists_notMem_finset (ps.filterMap id).toFinset
  refine ⟨a, fun h => ha ?_⟩
  have hnamed : a ∈ ps.filterMap id := List.mem_filterMap.mpr ⟨some a, h, rfl⟩
  exact List.mem_toFinset.mpr hnamed

/-- At an unnamed value, the patterns that match are the unset ones. -/
lemma eq_none_of_unnamed {ps : List (Option α)} {a : α} (ha : some a ∉ ps) {q : Option α}
    (hq : q ∈ ps) (h : Matches q a) : q = none := by
  rcases matches_iff_wider.mp h with hnone | rfl
  · exact hnone
  · exact absurd hq ha

/-- **Covering.**  Finitely many patterns cover a pattern only if one of them does alone. -/
theorem covered_iff [Infinite α] (ps : List (Option α)) (p : Option α) :
    (∀ a, Matches p a → ∃ q ∈ ps, Matches q a) ↔ ∃ q ∈ ps, Wider q p := by
  constructor
  · intro h
    cases p with
    | some b =>
        obtain ⟨q, hq, hmatch⟩ := h b (matches_some_iff.mpr rfl)
        exact ⟨q, hq, matches_iff_wider.mp hmatch⟩
    | none =>
        obtain ⟨a, ha⟩ := exists_unnamed ps
        obtain ⟨q, hq, hmatch⟩ := h a (matches_none a)
        exact ⟨q, hq, Or.inl (eq_none_of_unnamed ha hq hmatch)⟩
  · rintro ⟨q, hq, hwider⟩ a ha
    exact ⟨q, hq, hwider.matches ha⟩

/-! ## First-match tables -/

section Tables

variable [DecidableEq α]

/-- The first row whose pattern is unset or equal to the one given.  For `some a` it is the row
that decides `a`; for `none` it is the row that decides every value the table does not name. -/
def lead (rows : List (Option α × β)) (m : Option α) : Option (Option α × β) :=
  rows.find? fun row => Wider row.1 m

lemma wider_of_lead {rows : List (Option α × β)} {m : Option α} {row : Option α × β}
    (h : lead rows m = some row) : Wider row.1 m := by
  simpa using List.find?_some h

/-- An unnamed value is decided as the unset pattern is. -/
lemma lead_of_unnamed {rows : List (Option α × β)} {a : α} (ha : some a ∉ rows.map Prod.fst) :
    lead rows (some a) = lead rows none := by
  rw [lead, lead]
  induction rows with
  | nil => rfl
  | cons row rows ih =>
      rw [List.map_cons, List.mem_cons, not_or] at ha
      have hsame : decide (Wider row.1 (some a)) = decide (Wider row.1 none) := by
        simp [Wider, Ne.symm ha.1]
      rw [List.find?_cons, List.find?_cons, hsame, ih ha.2]

/-- A row with the unset pattern that decides some value decides the unset pattern. -/
lemma lead_none_of_lead {rows : List (Option α × β)} {m : Option α} {row : Option α × β}
    (h : lead rows m = some row) (hrow : row.1 = none) : lead rows none = some row := by
  obtain ⟨-, pre, post, hrows, hpre⟩ := List.find?_eq_some_iff_append.mp h
  refine List.find?_eq_some_iff_append.mpr ⟨by simp [Wider, hrow], pre, post, hrows, ?_⟩
  intro r hr
  have hnot : ¬ Wider r.1 m := by simpa using hpre r hr
  simpa [Wider] using fun hnone => hnot (Or.inl hnone)

/-- Two rows that lead for a pattern which one of them has compare. -/
def LeadersCompare (R : β → γ → Prop) (rows : List (Option α × β)) (rows' : List (Option α × γ)) :
    Prop :=
  ∀ e f m, m = e.1 ∨ m = f.1 → lead rows m = some e → lead rows' m = some f → R e.2 f.2

/-- **Comparing tables.**  Two tables compare at every value if and only if they compare wherever
one of the two leading rows names the value, and where both are unset. -/
theorem forall_lead_iff [Infinite α] (R : β → γ → Prop) (rows : List (Option α × β))
    (rows' : List (Option α × γ)) :
    (∀ a e f, lead rows (some a) = some e → lead rows' (some a) = some f → R e.2 f.2) ↔
      LeadersCompare R rows rows' := by
  constructor
  · intro h e f m _ he hf
    cases m with
    | some a => exact h a e f he hf
    | none =>
        obtain ⟨a, ha⟩ := exists_unnamed (rows.map Prod.fst ++ rows'.map Prod.fst)
        rw [List.mem_append, not_or] at ha
        rw [← lead_of_unnamed ha.1] at he
        rw [← lead_of_unnamed ha.2] at hf
        exact h a e f he hf
  · intro h a e f he hf
    rcases wider_of_lead he with henone | hea
    · rcases wider_of_lead hf with hfnone | hfa
      · exact h e f none (Or.inl henone.symm) (lead_none_of_lead he henone)
          (lead_none_of_lead hf hfnone)
      · exact h e f (some a) (Or.inr hfa.symm) he hf
    · exact h e f (some a) (Or.inl hea.symm) he hf

end Tables

end Wildcard
