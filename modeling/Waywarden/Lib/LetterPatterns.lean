import Mathlib.Computability.RegularExpressions
import Mathlib.Tactic.Common

/-!
# Patterns over classes of letters

A pattern that reads its text through finitely many classes of letters is a regular expression over
the classes.  `anyOf` is a set of classes in brackets, `oneOrMore` and `orNothing` are the usual
repetitions.  What such a pattern matches is said by one membership equation each.
-/

namespace LetterPatterns

open RegularExpression

variable {α : Type}

/-- One letter of a few classes. -/
def anyOf (classes : List α) : RegularExpression α :=
  classes.foldr (fun a r => char a + r) 0

/-- A pattern, at least once. -/
def oneOrMore (r : RegularExpression α) : RegularExpression α := r * r.star

/-- A pattern or nothing. -/
def orNothing (r : RegularExpression α) : RegularExpression α := r + 1

variable {classes : List α} {r t : RegularExpression α} {w : List α}

lemma mem_char {a : α} : w ∈ (char a).matches' ↔ w = [a] := Iff.rfl

lemma mem_comp : w ∈ (r * t).matches' ↔ ∃ u ∈ r.matches', ∃ v ∈ t.matches', u ++ v = w := Iff.rfl

lemma mem_plus : w ∈ (r + t).matches' ↔ w ∈ r.matches' ∨ w ∈ t.matches' := Iff.rfl

lemma mem_anyOf : w ∈ (anyOf classes).matches' ↔ ∃ a ∈ classes, w = [a] := by
  induction classes with
  | nil =>
      simp only [List.not_mem_nil, false_and, exists_false, iff_false]
      exact id
  | cons a classes ih =>
      rw [List.exists_mem_cons_iff, ← ih]
      exact mem_plus

/-- A row of letters from a few classes. -/
lemma mem_star_anyOf : w ∈ (anyOf classes).star.matches' ↔ ∀ a ∈ w, a ∈ classes := by
  rw [matches'_star, Language.mem_kstar]
  constructor
  · rintro ⟨words, rfl, hwords⟩ a ha
    obtain ⟨word, hword, ha⟩ := List.mem_flatten.mp ha
    obtain ⟨b, hb, rfl⟩ := mem_anyOf.mp (hwords word hword)
    rwa [List.mem_singleton.mp ha]
  · intro h
    refine ⟨w.map fun a => [a], ?_, ?_⟩
    · rw [← List.flatMap_def, List.flatMap_singleton']
    · intro word hword
      obtain ⟨a, ha, rfl⟩ := List.mem_map.mp hword
      exact mem_anyOf.mpr ⟨a, h a ha, rfl⟩

lemma mem_orNothing : w ∈ (orNothing r).matches' ↔ w ∈ r.matches' ∨ w = [] := Iff.rfl

/-- What begins with one letter begins with it. -/
lemma exists_eq_cons_of_mem_char_comp {a : α} (h : w ∈ (char a * r).matches') :
    ∃ v, w = a :: v := by
  obtain ⟨u, rfl, v, -, rfl⟩ := mem_comp.mp h
  exact ⟨v, rfl⟩

end LetterPatterns
