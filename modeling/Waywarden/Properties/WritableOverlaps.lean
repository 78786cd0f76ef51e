import Waywarden.Domain.Validation

/-!
# Overlapping writable paths

A manifest is to be rejected as ambiguous when a writable path lies on or below another one with a
different grant.  `_validate_writable_overlaps` finds these pairs (`detects_iff`), but what it
raises about one is a `ValueError`, and the statement stands in a `try` that catches this very
class.  So it is right on the lists that have no such pair, and on no others
(`rejectsAmbiguity_iff`).
-/

namespace Waywarden.Validation

open PosixPath

/-- Two grants on overlapping paths that grant different things. -/
def Clash (a b : WritablePath) : Prop :=
  (Below a.path.toList b.path.toList ∨ Below b.path.toList a.path.toList) ∧
    (a.purpose ≠ b.purpose ∨ a.maxSizeMb ≠ b.maxSizeMb ∨ a.retention ≠ b.retention)

/-- Two entries at different positions clash. -/
def Ambiguous (writablePaths : List WritablePath) : Prop :=
  ∃ (i j : ℕ) (a b : WritablePath), i ≠ j ∧ writablePaths[i]? = some a ∧
    writablePaths[j]? = some b ∧ Clash a b

/-- The check rejects the ambiguous lists and no others, in whatever order they come. -/
structure RejectsAmbiguity (writablePaths : List WritablePath) : Prop where
  rejects : (∃ e, validateWritableOverlaps writablePaths = .error e ∧ e.cls = .valueError) ↔
    Ambiguous writablePaths
  accepts : ¬ Ambiguous writablePaths → validateWritableOverlaps writablePaths = .ok ()
  order : ∀ others, writablePaths.Perm others →
    (validateWritableOverlaps others = .ok () ↔ validateWritableOverlaps writablePaths = .ok ())

variable {a b : WritablePath} {writablePaths others : List WritablePath}

/-! ## The pairs the check finds -/

lemma identicalGrant_eq_false_iff : identicalGrant a b = false ↔
    a.purpose ≠ b.purpose ∨ a.maxSizeMb ≠ b.maxSizeMb ∨ a.retention ≠ b.retention := by
  unfold identicalGrant
  simp only [Bool.and_eq_false_iff, beq_eq_false_iff_ne, or_assoc]

lemma Clash.symm (h : Clash a b) : Clash b a := by
  obtain ⟨hpaths, hgrants⟩ := h
  refine ⟨hpaths.symm, ?_⟩
  rcases hgrants with h | h | h
  · exact Or.inl h.symm
  · exact Or.inr (Or.inl h.symm)
  · exact Or.inr (Or.inr h.symm)

/-- One of the two `try` blocks of a pair comes to raise: the paths overlap that way round, and the
grants differ. -/
def Detects (a b : WritablePath) : Prop :=
  (relativeTo b.path a.path = .ok () ∧ identicalGrant a b = false) ∨
    (relativeTo a.path b.path = .ok () ∧ identicalGrant b a = false)

/-- **What the check finds.**  The statement that raises is reached exactly for the pairs that
clash. -/
lemma detects_iff (ha : Rooted a.path.toList) (hb : Rooted b.path.toList) :
    Detects a b ↔ Clash a b := by
  unfold Detects
  rw [relativeTo_eq_ok_iff hb ha, relativeTo_eq_ok_iff ha hb, identicalGrant_eq_false_iff,
    identicalGrant_eq_false_iff]
  constructor
  · rintro (⟨hpath, hgrant⟩ | ⟨hpath, hgrant⟩)
    · exact ⟨Or.inr hpath, hgrant⟩
    · exact Clash.symm ⟨Or.inr hpath, hgrant⟩
  · intro h
    rcases h.1 with hpath | hpath
    · exact Or.inr ⟨hpath, h.symm.2⟩
    · exact Or.inl ⟨hpath, h.2⟩

/-- Ambiguity is about pairs, whichever stands first. -/
lemma ambiguous_iff_not_pairwise :
    Ambiguous writablePaths ↔ ¬ writablePaths.Pairwise fun a b => ¬ Clash a b := by
  rw [List.pairwise_iff_getElem]
  constructor
  · rintro ⟨i, j, a, b, hne, hi, hj, hclash⟩ hpairwise
    obtain ⟨hi', rfl⟩ := List.getElem?_eq_some_iff.mp hi
    obtain ⟨hj', rfl⟩ := List.getElem?_eq_some_iff.mp hj
    rcases Nat.lt_or_gt_of_ne hne with hlt | hlt
    · exact hpairwise i j hi' hj' hlt hclash
    · exact hpairwise j i hj' hi' hlt hclash.symm
  · intro h
    by_contra hnot
    apply h
    intro i j hi hj hlt hclash
    exact hnot ⟨i, j, _, _, by omega, List.getElem?_eq_getElem hi, List.getElem?_eq_getElem hj,
      hclash⟩

/-- Reordering a list neither makes it ambiguous nor resolves it. -/
lemma Ambiguous.perm (h : writablePaths.Perm others) :
    Ambiguous writablePaths ↔ Ambiguous others := by
  rw [ambiguous_iff_not_pairwise, ambiguous_iff_not_pairwise,
    h.pairwise_iff fun hab hba => hab hba.symm]

/-! ## The verdict -/

/-- **When the overlap check is right**: exactly when there is nothing to reject. -/
theorem rejectsAmbiguity_iff (writablePaths : List WritablePath) :
    RejectsAmbiguity writablePaths ↔ ¬ Ambiguous writablePaths := by
  constructor
  · intro h hambiguous
    obtain ⟨e, he, -⟩ := h.rejects.mpr hambiguous
    rw [validateWritableOverlaps_eq_ok] at he
    exact absurd he (by simp)
  · intro h
    have hreturns := validateWritableOverlaps_eq_ok
    refine ⟨iff_of_false ?_ h, fun _ => hreturns _, fun others _ => ?_⟩
    · rintro ⟨e, he, -⟩
      rw [hreturns] at he
      exact absurd he (by simp)
    · exact iff_of_true (hreturns _) (hreturns _)

/-- A checkout with a cache of another purpose inside it. -/
def nestedGrants : List WritablePath :=
  [{ path := "/work", purpose := .checkoutCopy }, { path := "/work/cache", purpose := .cache }]

/-- A cache inside a checkout is ambiguous, and accepted. -/
theorem not_rejects_nested_grants :
    (∀ wp ∈ nestedGrants, Rooted wp.path.toList) ∧ ¬ RejectsAmbiguity nestedGrants := by
  have hpaths : ∀ wp ∈ nestedGrants, Rooted wp.path.toList := by
    simp only [← isAbsoluteNormalized_iff]
    decide
  refine ⟨hpaths, fun h => ?_⟩
  have hbelow : relativeTo "/work/cache" "/work" = .ok () := by decide
  obtain ⟨e, he, -⟩ := h.rejects.mpr ⟨0, 1, _, _, by decide, rfl, rfl,
    (detects_iff (hpaths _ (by decide)) (hpaths _ (by decide))).mp
      (Or.inl ⟨hbelow, by decide⟩)⟩
  rw [validateWritableOverlaps_eq_ok] at he
  exact absurd he (by simp)

end Waywarden.Validation
