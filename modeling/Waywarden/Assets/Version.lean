import Waywarden.Domain.Basic
import Waywarden.Lib.Delimited
import Waywarden.Lib.IntText
import Waywarden.Lib.LetterPatterns

/-!
# Versions of assets

`_coerce_version` of `waywarden.assets.schema`, and `SEMVER_RE`, which stands beside it and is used
nowhere.  The coercion pads up to three parts of digits and lets every other text through, so a
version it returns matches the pattern exactly when the text it was given is a version
(`matchesSemver_coerced_iff`).

`str.isdigit` knows more digits than `\d`, and `[1-9]` fewer; both come from a table.
-/

namespace Waywarden

open LetterPatterns RegularExpression

/-- The Unicode data a version is read with: the decimal digits are those of `\d`, and `isDigit` is
`str.isdigit` on one character. -/
structure DigitKinds extends IntText.DigitTable where
  isDigit : Char → Bool
  isDigit_of_isSome : ∀ c, (digit c).isSome = true → isDigit c = true
  isDigit_ascii : ∀ c : Char, c.toNat < 128 → isDigit c = c.isDigit
  isSpace_of_isDigit : ∀ c, isDigit c = true → isSpace c = false

/-- The digits of ASCII alone. -/
def asciiKinds : DigitKinds where
  toDigitTable := IntText.asciiDigits
  isDigit := Char.isDigit
  isDigit_of_isSome := by
    intro c h
    simp only [IntText.asciiDigits] at h
    split at h
    · assumption
    · cases h
  isDigit_ascii _ _ := rfl
  isSpace_of_isDigit := by
    intro c h
    have hrange : 48 ≤ c.toNat ∧ c.toNat ≤ 57 := by
      unfold Char.isDigit at h
      simpa [UInt32.le_iff_toNat_le] using h
    unfold isSpace
    simp only [List.contains_eq_mem, decide_eq_false_iff_not, List.mem_cons, List.not_mem_nil,
      or_false]
    omega

/-! ## The pattern -/

/-- What `SEMVER_RE` tells apart. -/
inductive VersionLetter
  | zero
  | oneToNine
  | decimal
  | letter
  | hyphen
  | plus
  | dot
  | other
  deriving DecidableEq, Repr

variable (T : DigitKinds)

/-- The class of a character. -/
def versionLetter (c : Char) : VersionLetter :=
  if c = '0' then .zero
  else if '1' ≤ c ∧ c ≤ '9' then .oneToNine
  else if (T.digit c).isSome then .decimal
  else if c.isAlpha then .letter
  else if c = '-' then .hyphen
  else if c = '+' then .plus
  else if c = '.' then .dot
  else .other

/-- `(0|[1-9]\d*)`. -/
def numericPart : RegularExpression VersionLetter :=
  char .zero + char .oneToNine * (anyOf [.zero, .oneToNine, .decimal]).star

/-- `[0-9A-Za-z-]+(?:\.[0-9A-Za-z-]+)*`. -/
def identifiers : RegularExpression VersionLetter :=
  let identifier : RegularExpression VersionLetter :=
    oneOrMore (anyOf [.zero, .oneToNine, .letter, .hyphen])
  identifier * (char VersionLetter.dot * identifier).star

/-- `(?:-[0-9A-Za-z-]+(?:\.[0-9A-Za-z-]+)*)?(?:\+[0-9A-Za-z-]+(?:\.[0-9A-Za-z-]+)*)?`. -/
def versionLabels : RegularExpression VersionLetter :=
  orNothing (char .hyphen * identifiers) * orNothing (char .plus * identifiers)

/-- `SEMVER_RE`, between `^` and `$`. -/
def semverPattern : RegularExpression VersionLetter :=
  numericPart * (char .dot * (numericPart * (char .dot * (numericPart * versionLabels))))

/-- `re.match(SEMVER_RE, text)`: `$` also matches before a line break at the end. -/
def matchesSemver (text : String) : Bool :=
  let whole (cs : List Char) : Bool := semverPattern.rmatch (cs.map (versionLetter T))
  whole text.toList || (text.toList.getLast? == some '\n' && whole text.toList.dropLast)

/-- A part `(0|[1-9]\d*)`. -/
def isNumericPart (part : List Char) : Bool := numericPart.rmatch (part.map (versionLetter T))

/-! ## The coercion -/

/-- `part.isdigit()`. -/
def isDigits (part : List Char) : Bool := !part.isEmpty && part.all T.isDigit

/-- `_coerce_version`. -/
def coerceVersion : Value → Except PyError String
  | .str raw =>
      let normalized := strip raw
      if normalized = "" then .error ⟨.valueError, "version must not be blank", []⟩
      else
        let parts := normalized.toList.splitOn '.'
        if parts.all (isDigits T) && parts.length ≤ 3 then
          let padded := parts ++ List.replicate (3 - parts.length) ['0']
          .ok (String.ofList (['.'].intercalate padded))
        else .ok normalized
  | _ => .error ⟨.typeError, "version must be a string", []⟩

/-! ## What a version is -/

/-- One to three numeric parts without leading zeros, with dots between them. -/
def IsDotted (text : String) : Prop :=
  (text.toList.splitOn '.').length ≤ 3 ∧
    ∀ part ∈ text.toList.splitOn '.', isNumericPart T part = true

/-- A text that can stand for a version. -/
def IsVersionText (text : String) : Prop := IsDotted T text ∨ matchesSemver T text = true

/-- The version a dotted one stands for: its first three parts, followed by zeros. -/
def paddedVersion (text : String) : String :=
  String.ofList (['.'].intercalate ((text.toList.splitOn '.' ++ [['0'], ['0']]).take 3))

instance (text : String) : Decidable (IsDotted T text) :=
  inferInstanceAs (Decidable (_ ∧ _))

instance (text : String) : Decidable (IsVersionText T text) :=
  inferInstanceAs (Decidable (_ ∨ _))

/-! ## Digits and dots -/

variable {T : DigitKinds} {c : Char} {cs part : List Char}

@[simp] lemma versionLetter_eq_dot_iff : versionLetter T c = .dot ↔ c = '.' := by
  constructor
  · intro h
    unfold versionLetter at h
    split_ifs at h with _ _ _ _ _ _ hdot
    exact hdot
  · rintro rfl
    simp [versionLetter, T.ascii '.' (by decide)]

/-- Labels begin with a hyphen or a plus sign. -/
lemma eq_of_versionLetter_hyphen (h : versionLetter T c = .hyphen) : c = '-' := by
  unfold versionLetter at h
  split_ifs at h with _ _ _ _ hhyphen
  exact hhyphen

lemma eq_of_versionLetter_plus (h : versionLetter T c = .plus) : c = '+' := by
  unfold versionLetter at h
  split_ifs at h with _ _ _ _ _ hplus
  exact hplus

lemma isDigit_of_versionLetter (h : versionLetter T c ∈ [.zero, .oneToNine, .decimal]) :
    T.isDigit c = true := by
  unfold versionLetter at h
  split_ifs at h with hzero hnine hdecimal <;> simp at h
  · subst hzero
    rw [T.isDigit_ascii '0' (by decide)]
    decide
  · have hbounds : 49 ≤ c.toNat ∧ c.toNat ≤ 57 := hnine
    have hdigit : '0'.val.toNat ≤ c.toNat ∧ c.toNat ≤ '9'.val.toNat :=
      ⟨Nat.le_of_succ_le hbounds.1, hbounds.2⟩
    rw [T.isDigit_ascii c (by omega)]
    unfold Char.isDigit
    simp only [Bool.and_eq_true, decide_eq_true_eq, ge_iff_le, UInt32.le_iff_toNat_le]
    exact hdigit
  · exact T.isDigit_of_isSome c hdecimal

/-- A numeric part is made of digits. -/
lemma isDigits_of_isNumericPart (h : isNumericPart T part = true) : isDigits T part = true := by
  unfold isNumericPart numericPart at h
  rw [rmatch_iff_matches', mem_plus] at h
  have hletters : part ≠ [] ∧ ∀ c ∈ part, versionLetter T c ∈
      [VersionLetter.zero, .oneToNine, .decimal] := by
    rcases h with h | h
    · obtain ⟨c, rfl, hc⟩ := List.map_eq_singleton_iff.mp (mem_char.mp h)
      simp [hc]
    · obtain ⟨u, rfl, v, hv, huv⟩ := mem_comp.mp h
      obtain ⟨c, rest, rfl, hc, hrest⟩ := List.map_eq_cons_iff.mp huv.symm
      subst hrest
      rw [mem_star_anyOf] at hv
      refine ⟨List.cons_ne_nil c rest, ?_⟩
      intro c' hc'
      rcases List.mem_cons.mp hc' with rfl | hc'
      · simp [hc]
      · exact hv _ (List.mem_map_of_mem hc')
  unfold isDigits
  rw [Bool.and_eq_true, List.all_eq_true]
  exact ⟨by simp [hletters.1], fun c hc => isDigit_of_versionLetter (hletters.2 c hc)⟩

lemma isDigit_of_mem (h : isDigits T part = true) (hc : c ∈ part) : T.isDigit c = true := by
  unfold isDigits at h
  rw [Bool.and_eq_true, List.all_eq_true] at h
  exact h.2 c hc

/-- What is no digit is in no part of digits. -/
lemma not_mem_of_isDigits (hc : T.isDigit c = false) (h : isDigits T part = true) : c ∉ part := by
  intro hmem
  rw [isDigit_of_mem h hmem] at hc
  cases hc

lemma dot_not_mem_of_isDigits (h : isDigits T part = true) : '.' ∉ part :=
  not_mem_of_isDigits (by rw [T.isDigit_ascii '.' (by decide)]; decide) h

/-! ## The texts of the pattern -/

/-- A part, a dot and the rest. -/
lemma exists_part_of_mem {r t : RegularExpression VersionLetter}
    (h : cs.map (versionLetter T) ∈ (r * (char VersionLetter.dot * t)).matches') :
    ∃ part rest : List Char, part.map (versionLetter T) ∈ r.matches' ∧
      rest.map (versionLetter T) ∈ t.matches' ∧ cs = part ++ '.' :: rest := by
  obtain ⟨u, hu, v, hv, huv⟩ := mem_comp.mp h
  obtain ⟨part, cs', rfl, rfl, hcs'⟩ := List.map_eq_append_iff.mp huv.symm
  obtain ⟨dot, hdot, w, hw, hdw⟩ := mem_comp.mp hv
  rw [mem_char.mp hdot, ← hcs', List.singleton_append] at hdw
  obtain ⟨d, rest, rfl, hd, rfl⟩ := List.map_eq_cons_iff.mp hdw.symm
  rw [versionLetter_eq_dot_iff.mp hd]
  exact ⟨part, rest, hu, hw, rfl⟩

/-- Three numeric parts and the labels. -/
lemma exists_of_mem_semverPattern
    (h : cs.map (versionLetter T) ∈ semverPattern.matches') :
    ∃ major minor patch labels : List Char, isNumericPart T major = true ∧
      isNumericPart T minor = true ∧ isNumericPart T patch = true ∧
      labels.map (versionLetter T) ∈ versionLabels.matches' ∧
      cs = major ++ '.' :: (minor ++ '.' :: (patch ++ labels)) := by
  unfold isNumericPart
  simp only [rmatch_iff_matches']
  obtain ⟨major, cs', hmajor, hcs', rfl⟩ := exists_part_of_mem h
  obtain ⟨minor, cs'', hminor, hcs'', rfl⟩ := exists_part_of_mem hcs'
  obtain ⟨u, hu, v, hv, huv⟩ := mem_comp.mp hcs''
  obtain ⟨patch, labels, rfl, rfl, rfl⟩ := List.map_eq_append_iff.mp huv.symm
  exact ⟨major, minor, patch, labels, hmajor, hminor, hu, hv, rfl⟩

/-- Labels are nothing, or they begin with a hyphen or a plus sign. -/
lemma labels_eq_nil_or (h : cs.map (versionLetter T) ∈ versionLabels.matches') :
    cs = [] ∨ '-' ∈ cs ∨ '+' ∈ cs := by
  obtain ⟨u, hu, v, hv, huv⟩ := mem_comp.mp h
  rcases mem_orNothing.mp hu with hu | rfl
  · obtain ⟨u', rfl⟩ := exists_eq_cons_of_mem_char_comp hu
    obtain ⟨c, rest, rfl, hc, -⟩ := List.map_eq_cons_iff.mp huv.symm
    rw [eq_of_versionLetter_hyphen hc]
    exact Or.inr (Or.inl List.mem_cons_self)
  · rcases mem_orNothing.mp hv with hv | rfl
    · obtain ⟨v', rfl⟩ := exists_eq_cons_of_mem_char_comp hv
      obtain ⟨c, rest, rfl, hc, -⟩ := List.map_eq_cons_iff.mp huv.symm
      rw [eq_of_versionLetter_plus hc]
      exact Or.inr (Or.inr List.mem_cons_self)
    · exact Or.inl (List.map_eq_nil_iff.mp huv.symm)

/-- Three numeric parts without labels. -/
lemma mem_semverPattern_of_parts {major minor patch : List Char}
    (hmajor : isNumericPart T major = true) (hminor : isNumericPart T minor = true)
    (hpatch : isNumericPart T patch = true) :
    (['.'].intercalate [major, minor, patch]).map (versionLetter T) ∈
      semverPattern.matches' := by
  have hdot : versionLetter T '.' = .dot := versionLetter_eq_dot_iff.mpr rfl
  have hnothing : [] ∈ versionLabels.matches' :=
    mem_comp.mpr ⟨[], mem_orNothing.mpr (Or.inr rfl), [], mem_orNothing.mpr (Or.inr rfl), rfl⟩
  unfold isNumericPart at hmajor hminor hpatch
  rw [rmatch_iff_matches'] at hmajor hminor hpatch
  refine mem_comp.mpr ⟨_, hmajor, _, mem_comp.mpr ⟨_, rfl, _, mem_comp.mpr ⟨_, hminor, _,
    mem_comp.mpr ⟨_, rfl, _, mem_comp.mpr ⟨_, hpatch, _, hnothing, rfl⟩, rfl⟩, rfl⟩, rfl⟩, ?_⟩
  simp [List.intercalate_cons_cons, hdot]

/-- Without signs the pattern is three numeric parts. -/
lemma mem_semverPattern_iff (hhyphen : '-' ∉ cs) (hplus : '+' ∉ cs) :
    cs.map (versionLetter T) ∈ semverPattern.matches' ↔
      (cs.splitOn '.').length = 3 ∧ ∀ part ∈ cs.splitOn '.', isNumericPart T part = true := by
  constructor
  · intro h
    obtain ⟨major, minor, patch, labels, hmajor, hminor, hpatch, hlabels, rfl⟩ :=
      exists_of_mem_semverPattern h
    have hnil : labels = [] := by
      rcases labels_eq_nil_or hlabels with hnil | hmem | hmem
      · exact hnil
      · exact absurd (by simp [hmem]) hhyphen
      · exact absurd (by simp [hmem]) hplus
    have hsplit : (major ++ '.' :: (minor ++ '.' :: (patch ++ labels))).splitOn '.' =
        [major, minor, patch] := by
      have hparts : ∀ part ∈ [major, minor, patch], '.' ∉ part := by
        simp only [List.forall_mem_cons, List.not_mem_nil, false_imp_iff, implies_true, and_true]
        exact ⟨dot_not_mem_of_isDigits (isDigits_of_isNumericPart hmajor),
          dot_not_mem_of_isDigits (isDigits_of_isNumericPart hminor),
          dot_not_mem_of_isDigits (isDigits_of_isNumericPart hpatch)⟩
      rw [← List.splitOn_intercalate '.' hparts (List.cons_ne_nil _ _), hnil]
      simp [List.intercalate_cons_cons]
    rw [hsplit]
    exact ⟨rfl, by simp [hmajor, hminor, hpatch]⟩
  · rintro ⟨hlength, hparts⟩
    obtain ⟨major, minor, patch, hsplit⟩ := List.length_eq_three.mp hlength
    rw [hsplit] at hparts
    simp only [List.forall_mem_cons, List.not_mem_nil, false_imp_iff, implies_true,
      and_true] at hparts
    have hjoin : ['.'].intercalate (cs.splitOn '.') = cs := List.intercalate_splitOn '.'
    rw [← hjoin, hsplit]
    exact mem_semverPattern_of_parts hparts.1 hparts.2.1 hparts.2.2

/-- A text that does not end with a line break matches as a whole. -/
lemma matchesSemver_iff {text : String} (h : text.toList.getLast? ≠ some '\n') :
    matchesSemver T text = true ↔
      text.toList.map (versionLetter T) ∈ semverPattern.matches' := by
  unfold matchesSemver
  simp [h, rmatch_iff_matches']

/-! ## What the coercion returns -/

/-- Up to three parts of digits: these are padded. -/
def IsNumbered (T : DigitKinds) (text : String) : Prop :=
  (text.toList.splitOn '.').length ≤ 3 ∧ ∀ part ∈ text.toList.splitOn '.', isDigits T part = true

/-- The parts of a text, and zeros up to the third. -/
def paddedParts (text : String) : List (List Char) :=
  text.toList.splitOn '.' ++ List.replicate (3 - (text.toList.splitOn '.').length) ['0']

variable {raw text version : String}

/-- **What the coercion accepts and returns.** -/
lemma coerceVersion_eq_ok_iff : coerceVersion T (.str raw) = .ok version ↔ strip raw ≠ "" ∧
    (IsNumbered T (strip raw) ∧
        String.ofList (['.'].intercalate (paddedParts (strip raw))) = version ∨
      ¬ IsNumbered T (strip raw) ∧ strip raw = version) := by
  have hnumbered : ((((strip raw).toList.splitOn '.').all (isDigits T) &&
      decide (((strip raw).toList.splitOn '.').length ≤ 3)) = true) ↔
        IsNumbered T (strip raw) := by
    rw [Bool.and_eq_true, List.all_eq_true, decide_eq_true_eq, and_comm]
    exact Iff.rfl
  unfold coerceVersion
  dsimp only
  split_ifs with hempty hparts
  · simp [hempty]
  · rw [hnumbered] at hparts
    simp [hempty, hparts, paddedParts]
  · rw [hnumbered] at hparts
    simp [hempty, hparts]

lemma exists_raw_of_coerceVersion {value : Value} (h : coerceVersion T value = .ok version) :
    ∃ raw, value = .str raw := by
  cases value with
  | str raw => exact ⟨raw, rfl⟩
  | _ => cases h

lemma isDigits_zero : isDigits T ['0'] = true := by
  simp [isDigits, T.isDigit_ascii '0' (by decide), show '0'.isDigit = true by decide]

lemma isNumericPart_zero : isNumericPart T ['0'] = true := by
  unfold isNumericPart
  rw [rmatch_iff_matches']
  exact mem_plus.mpr (Or.inl rfl)

namespace IsNumbered

variable (h : IsNumbered T text)

include h

lemma length_paddedParts : (paddedParts text).length = 3 := by
  have hle := h.1
  unfold paddedParts
  rw [List.length_append, List.length_replicate]
  omega

lemma isDigits_paddedParts : ∀ part ∈ paddedParts text, isDigits T part = true := by
  unfold paddedParts
  rw [List.forall_mem_append]
  refine ⟨h.2, ?_⟩
  intro part hpart
  rw [List.eq_of_mem_replicate hpart]
  exact isDigits_zero

/-- The parts of the padded version. -/
lemma splitOn_padded :
    (['.'].intercalate (paddedParts text)).splitOn '.' = paddedParts text := by
  apply List.splitOn_intercalate
  · exact fun part hpart => dot_not_mem_of_isDigits (h.isDigits_paddedParts part hpart)
  · have hlength := h.length_paddedParts
    exact List.ne_nil_of_length_pos (by omega)

/-- The padded version has only digits and dots. -/
lemma forall_mem_padded :
    ∀ c ∈ ['.'].intercalate (paddedParts text), c = '.' ∨ T.isDigit c = true := by
  apply Delimited.forall_mem_intercalate (p := fun c => c = '.' ∨ T.isDigit c = true) (Or.inl rfl)
  intro part hpart c hc
  exact Or.inr (isDigit_of_mem (h.isDigits_paddedParts part hpart) hc)

end IsNumbered

/-- A numbered text has only digits and dots, padded or not. -/
lemma IsNumbered.forall_mem (h : IsNumbered T text) :
    ∀ c ∈ text.toList, c = '.' ∨ T.isDigit c = true := by
  have hjoin : ['.'].intercalate (text.toList.splitOn '.') = text.toList :=
    List.intercalate_splitOn '.'
  rw [← hjoin]
  apply Delimited.forall_mem_intercalate (p := fun c => c = '.' ∨ T.isDigit c = true) (Or.inl rfl)
  exact fun part hpart c hc => Or.inr (isDigit_of_mem (h.2 part hpart) hc)

/-- A text of digits and dots matches when it is three numeric parts. -/
lemma matchesSemver_iff_parts (h : ∀ c ∈ text.toList, c = '.' ∨ T.isDigit c = true) :
    matchesSemver T text = true ↔ (text.toList.splitOn '.').length = 3 ∧
      ∀ part ∈ text.toList.splitOn '.', isNumericPart T part = true := by
  have hascii : ∀ c : Char, c.toNat < 128 → c ≠ '.' → c.isDigit = false → c ∉ text.toList := by
    intro c hc hdot hdigit hmem
    rcases h c hmem with rfl | hkind
    · exact hdot rfl
    · rw [T.isDigit_ascii c hc, hdigit] at hkind
      cases hkind
  rw [matchesSemver_iff, mem_semverPattern_iff]
  · exact hascii '-' (by decide) (by decide) (by decide)
  · exact hascii '+' (by decide) (by decide) (by decide)
  · exact fun hlast => hascii '\n' (by decide) (by decide) (by decide) (List.mem_of_getLast? hlast)

/-- A numbered text is a version when its parts are numeric. -/
lemma IsNumbered.isVersionText_iff (h : IsNumbered T text) :
    IsVersionText T text ↔ ∀ part ∈ text.toList.splitOn '.', isNumericPart T part = true := by
  unfold IsVersionText
  rw [matchesSemver_iff_parts h.forall_mem, IsDotted]
  constructor
  · rintro (hdotted | hsemver)
    · exact hdotted.2
    · exact hsemver.2
  · exact fun hparts => Or.inl ⟨h.1, hparts⟩

lemma IsDotted.isNumbered (h : IsDotted T text) : IsNumbered T text :=
  ⟨h.1, fun part hpart => isDigits_of_isNumericPart (h.2 part hpart)⟩

/-- **The coercion makes no version.**  What it returns matches `SEMVER_RE` exactly when the text it
was given is a version. -/
theorem matchesSemver_coerced_iff (h : coerceVersion T (.str raw) = .ok version) :
    matchesSemver T version = true ↔ IsVersionText T (strip raw) := by
  obtain ⟨-, ⟨hnumbered, rfl⟩ | ⟨hnot, rfl⟩⟩ := coerceVersion_eq_ok_iff.mp h
  · rw [hnumbered.isVersionText_iff, matchesSemver_iff_parts, String.toList_ofList,
      hnumbered.splitOn_padded, hnumbered.length_paddedParts]
    · unfold paddedParts
      rw [List.forall_mem_append]
      constructor
      · exact fun h => h.2.1
      · refine fun h => ⟨rfl, h, fun part hpart => ?_⟩
        rw [List.eq_of_mem_replicate hpart]
        exact isNumericPart_zero
    · rw [String.toList_ofList]
      exact hnumbered.forall_mem_padded
  · constructor
    · exact Or.inr
    · rintro (hdotted | hsemver)
      · exact absurd hdotted.isNumbered hnot
      · exact hsemver

/-- A dotted version is padded. -/
lemma coerced_of_isDotted (h : coerceVersion T (.str raw) = .ok version)
    (hdotted : IsDotted T (strip raw)) : version = paddedVersion (strip raw) := by
  obtain ⟨-, ⟨hnumbered, rfl⟩ | ⟨hnot, rfl⟩⟩ := coerceVersion_eq_ok_iff.mp h
  · have hpos := List.length_pos_of_ne_nil
      (List.splitOn_ne_nil '.' (strip raw).toList)
    have hle := hnumbered.1
    unfold paddedVersion paddedParts
    generalize (strip raw).toList.splitOn '.' = parts at hpos hle
    match parts with
    | [_] | [_, _] | [_, _, _] => rfl
  · exact absurd hdotted.isNumbered hnot

/-- A text that matches is kept. -/
lemma coerced_of_matchesSemver (h : coerceVersion T (.str raw) = .ok version)
    (hsemver : matchesSemver T (strip raw) = true) : version = strip raw := by
  obtain ⟨-, ⟨hnumbered, rfl⟩ | ⟨-, rfl⟩⟩ := coerceVersion_eq_ok_iff.mp h
  · have hlength := ((matchesSemver_iff_parts hnumbered.forall_mem).mp hsemver).1
    unfold paddedParts
    rw [hlength, Nat.sub_self, List.replicate_zero, List.append_nil, List.intercalate_splitOn,
      String.ofList_toList]
  · rfl

/-- **Coercing again changes nothing.** -/
theorem coerceVersion_coerced (h : coerceVersion T (.str raw) = .ok version) :
    coerceVersion T (.str version) = .ok version := by
  obtain ⟨hempty, ⟨hnumbered, rfl⟩ | ⟨hnot, rfl⟩⟩ := coerceVersion_eq_ok_iff.mp h
  · generalize hout : String.ofList (['.'].intercalate (paddedParts (strip raw))) = out
    have hchars : out.toList = ['.'].intercalate (paddedParts (strip raw)) := by
      rw [← hout, String.toList_ofList]
    have hparts : out.toList.splitOn '.' = paddedParts (strip raw) := by
      rw [hchars, hnumbered.splitOn_padded]
    have hlength : (out.toList.splitOn '.').length = 3 := by
      rw [hparts, hnumbered.length_paddedParts]
    have hpadded : paddedParts out = out.toList.splitOn '.' := by
      unfold paddedParts
      rw [hlength, Nat.sub_self, List.replicate_zero, List.append_nil]
    have hstrip : strip out = out := by
      apply strip_of_forall
      rw [hchars]
      intro c hc
      rcases hnumbered.forall_mem_padded c hc with rfl | hdigit
      · decide
      · exact T.isSpace_of_isDigit c hdigit
    rw [coerceVersion_eq_ok_iff, hstrip]
    refine ⟨?_, Or.inl ⟨⟨hlength.le, ?_⟩, ?_⟩⟩
    · rintro rfl
      rw [String.toList_empty, List.splitOn_nil] at hlength
      cases hlength
    · rw [hparts]
      exact hnumbered.isDigits_paddedParts
    · rw [hpadded, List.intercalate_splitOn, String.ofList_toList]
  · rw [coerceVersion_eq_ok_iff, strip_strip]
    exact ⟨hempty, Or.inr ⟨hnot, rfl⟩⟩

end Waywarden
