import Mathlib.Data.List.Infix
import Mathlib.Tactic.Common

/-!
# Lower-casing a text

`lower` is full case mapping: each character is replaced by its lower-case form, which may be
several characters, except the capital sigma.  That one becomes a final sigma at the end of a word
and a plain one elsewhere, so what a text is lowered to depends on what stands around it.

The Unicode data come as a `CaseTable`; nothing here depends on what is in it.  Up to the two small
sigmas a text is lowered character by character (`map_foldSigma_lower`), hence a text that has
neither and occurs in a lowered text also occurs when more is put around it (`infix_lower`).
-/

namespace Lowercase

/-- The Unicode data of case mapping: the lower-case form of a character, and the two properties by
which the end of a word is told. -/
structure CaseTable where
  toLower : Char → List Char
  cased : Char → Bool
  caseIgnorable : Char → Bool

/-- The data of the ASCII letters alone. -/
def asciiTable : CaseTable where
  toLower c := [c.toLower]
  cased := Char.isAlpha
  caseIgnorable _ := false

/-- The capital sigma. -/
def capitalSigma : Char := '\u03A3'

/-- The plain small sigma. -/
def smallSigma : Char := '\u03C3'

/-- The small sigma that ends a word. -/
def finalSigma : Char := '\u03C2'

variable (T : CaseTable)

/-- Whether a cased character comes next, behind those that are ignored. -/
def CaseTable.casedNext (text : List Char) : Bool :=
  (text.dropWhile T.caseIgnorable).head?.any T.cased

/-- The lower-case form of a character between the text before it, read backwards, and the text
after it. -/
def CaseTable.lowerChar (before : List Char) (c : Char) (after : List Char) : List Char :=
  if c = capitalSigma then
    [if T.casedNext before && !T.casedNext after then finalSigma else smallSigma]
  else T.toLower c

/-- The lower-case form of a text, after some text read backwards. -/
def CaseTable.lowerFrom : List Char → List Char → List Char
  | _, [] => []
  | before, c :: rest => T.lowerChar before c rest ++ lowerFrom (c :: before) rest

/-- The lower-case form of a text. -/
def CaseTable.lower (text : List Char) : List Char := T.lowerFrom [] text

/-- The two small sigmas read as one. -/
def foldSigma (c : Char) : Char := if c = finalSigma then smallSigma else c

/-- A text without a small sigma. -/
def Plain (text : List Char) : Prop := smallSigma ∉ text ∧ finalSigma ∉ text

instance (text : List Char) : Decidable (Plain text) :=
  inferInstanceAs (Decidable (smallSigma ∉ text ∧ finalSigma ∉ text))

/-- The lower-case form of a character, the small sigmas read as one. -/
def CaseTable.folded (c : Char) : List Char :=
  if c = capitalSigma then [smallSigma] else (T.toLower c).map foldSigma

variable {text more needle : List Char}

lemma map_foldSigma_lowerChar (before : List Char) (c : Char) (after : List Char) :
    (T.lowerChar before c after).map foldSigma = T.folded c := by
  unfold CaseTable.lowerChar CaseTable.folded
  split
  · rw [List.map_singleton]
    split
    · rfl
    · rfl
  · rfl

/-- Up to the small sigmas the context does not matter. -/
lemma map_foldSigma_lowerFrom (before text : List Char) :
    (T.lowerFrom before text).map foldSigma = text.flatMap T.folded := by
  induction text generalizing before with
  | nil => rfl
  | cons c rest ih =>
      unfold CaseTable.lowerFrom
      rw [List.map_append, map_foldSigma_lowerChar, ih, List.flatMap_cons]

lemma map_foldSigma_lower (text : List Char) :
    (T.lower text).map foldSigma = text.flatMap T.folded :=
  map_foldSigma_lowerFrom T [] text

lemma map_foldSigma_of_plain (h : Plain needle) : needle.map foldSigma = needle := by
  have hfix : ∀ c ∈ needle, foldSigma c = id c := by
    intro c hc
    have hne : c ≠ finalSigma := fun heq => h.2 (heq ▸ hc)
    unfold foldSigma
    exact if_neg hne
  rw [List.map_congr_left hfix, List.map_id]

/-- What is plain after reading the small sigmas as one was plain before. -/
lemma eq_of_map_foldSigma (h : Plain needle) (heq : text.map foldSigma = needle) :
    text = needle := by
  have hfix : ∀ c ∈ text, foldSigma c = id c := by
    intro c hc
    have hmem : foldSigma c ∈ needle := heq ▸ List.mem_map_of_mem hc
    unfold foldSigma at hmem ⊢
    split at hmem
    · exact absurd hmem h.1
    · rename_i hne
      exact if_neg hne
  rw [← heq, List.map_congr_left hfix, List.map_id]

/-- A plain text occurs where it occurs with the small sigmas read as one. -/
lemma infix_iff_infix_map (h : Plain needle) :
    needle <:+: text ↔ needle <:+: text.map foldSigma := by
  constructor
  · intro hinfix
    have hmap := hinfix.map foldSigma
    rw [map_foldSigma_of_plain h] at hmap
    exact hmap
  · rintro ⟨before, after, heq⟩
    obtain ⟨front, back, htext, hfront, -⟩ := List.map_eq_append_iff.mp heq.symm
    obtain ⟨start, middle, hstart, -, hmiddle⟩ := List.map_eq_append_iff.mp hfront
    obtain rfl := eq_of_map_foldSigma h hmiddle
    exact ⟨start, back, by rw [htext, hstart]⟩

/-- **Occurrence is kept by context.**  A plain text that occurs in a lowered text occurs in the
lower-case form of every text around it. -/
theorem infix_lower (h : Plain needle) (hmore : text <:+: more)
    (hneedle : needle <:+: T.lower text) : needle <:+: T.lower more := by
  rw [infix_iff_infix_map h, map_foldSigma_lower] at hneedle ⊢
  obtain ⟨before, after, rfl⟩ := hmore
  rw [List.flatMap_append, List.flatMap_append]
  exact hneedle.trans (List.infix_append _ _ _)

end Lowercase
