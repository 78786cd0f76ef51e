import Waywarden.Domain.ContextProvider

/-!
# A scrubbed text is scrubbed for good

Each substitution of `scrub_secrets` inserts `[REDACTED]` beside text that stays.  No pattern has a
match that begins in the inserted text, and only the value of an assigned secret may reach into it,
where a value stood before.  So no substitution creates a match (`unaided_of_mem`), and
`scrubSecrets_clean` follows for the three in a row.
-/

namespace Waywarden

open Regex

/-! ## How the patterns' matches begin -/

/-- Blanks have no case. -/
lemma caseKey_of_isSpace {c : Char} (h : isSpace c = true) : caseKey c = c := by
  unfold isSpace at h
  rw [List.contains_iff_mem] at h
  rw [← Char.ofNat_toNat c]
  generalize c.toNat = n at h ⊢
  revert n
  decide +kernel

/-- A text that begins with no blank begins with none in either case. -/
lemma begins_letters {text : String} {letter : Char} {rest : List Char}
    (htext : text.toList = letter :: rest) (hletter : isSpace (caseKey letter) = false) :
    (letters text).Begins nonBlank := by
  unfold letters
  rw [htext, List.map_cons]
  apply (begins_one _).seq
  intro c hc
  unfold nonBlank
  rw [Bool.not_eq_true', ← Bool.not_eq_true]
  intro hblank
  rw [caseKey_of_isSpace hblank, beq_iff_eq] at hc
  rw [hc, hletter] at hblank
  cases hblank

lemma begins_assignedSecret : assignedSecret.Begins nonBlank := by
  unfold assignedSecret secretName
  refine ((Begins.alt ?_ (.alt ?_ (.alt ?_ ?_))).seq _).seq _
  · exact (begins_letters rfl rfl).seq _
  · exact begins_letters rfl rfl
  · exact begins_letters rfl rfl
  · exact begins_letters rfl rfl

lemma begins_privateKeyHeader : privateKeyHeader.Begins nonBlank :=
  (begins_letters rfl rfl).seq _

lemma begins_githubToken : githubToken.Begins nonBlank := by
  unfold githubToken
  refine (Begins.alt ?_ (.alt ?_ (.alt ?_ (.alt ?_ ?_)))).seq _
  all_goals exact begins_letters rfl rfl

lemma begins_of_mem {pattern : Regex Char} (h : pattern ∈ secretPatterns) :
    pattern.Begins nonBlank := by
  unfold secretPatterns at h
  simp only [List.mem_cons, List.not_mem_nil, or_false] at h
  obtain rfl | rfl | rfl := h
  · exact begins_assignedSecret
  · exact begins_privateKeyHeader
  · exact begins_githubToken

lemma nullable_of_mem {pattern : Regex Char} (h : pattern ∈ secretPatterns) :
    pattern.nullable = false := by
  revert pattern
  decide +kernel

/-! ## The inserted text -/

lemma redacted_toList : redacted.toList = '[' :: "REDACTED]".toList := by decide +kernel

/-- **No replacement helps a pattern to a match.** -/
lemma unaided_of_mem {p q : Regex Char} (hp : p ∈ secretPatterns) (hq : q ∈ secretPatterns) :
    Unaided p redacted.toList q := by
  rw [redacted_toList]
  unfold secretPatterns at hq
  simp only [List.mem_cons, List.not_mem_nil, or_false] at hq
  obtain rfl | rfl | rfl := hq
  · exact unaided_seq_many (begins_of_mem hp) (by decide +kernel) (by decide +kernel)
  · exact unaided_of_rejects (by decide +kernel) (by decide +kernel)
  · exact unaided_of_rejects (by decide +kernel) (by decide +kernel)

/-! ## The substitutions in a row -/

lemma subst_redact {pattern : Regex Char} (h : pattern ∈ secretPatterns) (text : String) :
    Subst pattern redacted.toList text.toList (redact text pattern).toList := by
  unfold redact
  rw [String.toList_ofList]
  exact subst_sub (nullable_of_mem h) _ _

/-- A substitution removes its pattern and keeps the others away. -/
lemma not_occurs_redact {p q : Regex Char} {text : String} (hp : p ∈ secretPatterns)
    (hq : q ∈ secretPatterns) (h : q = p ∨ ¬ q.Occurs text.toList) :
    ¬ q.Occurs (redact text p).toList := by
  have hrun := subst_redact hp text
  rcases h with rfl | h
  · exact hrun.not_occurs (unaided_of_mem hp hp) (nullable_of_mem hp)
  · intro hoccurs
    exact h (hrun.occurs_of_occurs (unaided_of_mem hp hq) hoccurs)

/-- After a run of substitutions none of their patterns occurs, nor any that did not before. -/
lemma not_occurs_foldl {patterns : List (Regex Char)} (hpatterns : patterns ⊆ secretPatterns)
    {q : Regex Char} (hq : q ∈ secretPatterns) {text : String}
    (h : q ∈ patterns ∨ ¬ q.Occurs text.toList) :
    ¬ q.Occurs (patterns.foldl redact text).toList := by
  induction patterns generalizing text with
  | nil => exact h.resolve_left List.not_mem_nil
  | cons p patterns ih =>
      obtain ⟨hp, hpatterns⟩ := List.cons_subset.mp hpatterns
      rw [List.foldl_cons]
      apply ih hpatterns
      by_cases hmem : q ∈ patterns
      · exact .inl hmem
      · refine .inr (not_occurs_redact hp hq ?_)
        exact h.imp (fun hq => (List.mem_cons.mp hq).resolve_right hmem) id

lemma redact_of_not_occurs {pattern : Regex Char} (hpattern : pattern ∈ secretPatterns)
    {text : String} (h : ¬ pattern.Occurs text.toList) : redact text pattern = text := by
  unfold redact
  rw [sub_of_not_occurs (nullable_of_mem hpattern) _ h, String.ofList_toList]

/-- A text without a secret is not changed. -/
lemma foldl_redact_of_not_occurs {patterns : List (Regex Char)}
    (hpatterns : patterns ⊆ secretPatterns) {text : String}
    (h : ∀ pattern ∈ secretPatterns, ¬ pattern.Occurs text.toList) :
    patterns.foldl redact text = text := by
  induction patterns with
  | nil => rfl
  | cons p patterns ih =>
      obtain ⟨hp, hpatterns⟩ := List.cons_subset.mp hpatterns
      rw [List.foldl_cons, redact_of_not_occurs hp (h p hp), ih hpatterns]

/-- **A scrubbed text holds no secret**, and scrubbing it once more changes nothing. -/
theorem scrubSecrets_clean (text : String) :
    (∀ pattern ∈ secretPatterns, ¬ pattern.Occurs (scrubSecrets text).toList) ∧
      scrubSecrets (scrubSecrets text) = scrubSecrets text := by
  have hclean : ∀ pattern ∈ secretPatterns, ¬ pattern.Occurs (scrubSecrets text).toList := by
    intro pattern hpattern
    exact not_occurs_foldl (List.Subset.refl _) hpattern (.inl hpattern)
  exact ⟨hclean, foldl_redact_of_not_occurs (List.Subset.refl _) hclean⟩

end Waywarden
