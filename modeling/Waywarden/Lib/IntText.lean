import Waywarden.Lib.JsonText
import Waywarden.Lib.Trim

/-!
# Reading an integer literal

A literal has spaces around it, a sign, and digits with single underscores between them.  Which
characters are digits is a table, since scripts have digits of their own; of the table only its
ASCII part is known.

`readInt` returns the sign and the digits.  Every character of a literal is one of these
(`allowed_of_readInt`), and the decimal notation of an integer is a literal for it
(`readInt_encodeInt`).
-/

namespace IntText

/-- The characters that are decimal digits, with their values. -/
structure DigitTable where
  digit : Char → Option ℕ
  ascii : ∀ c : Char, c.toNat < 128 →
    digit c = if c.isDigit then some (c.toNat - '0'.toNat) else none

/-- The digits of ASCII alone. -/
def asciiDigits : DigitTable :=
  ⟨fun c => if c.isDigit then some (c.toNat - '0'.toNat) else none, fun _ _ => rfl⟩

variable (T : DigitTable)

/-- Digits with single underscores between them. -/
def readDigits : List Char → Option (List ℕ)
  | [] => none
  | [c] => (T.digit c).map fun d => [d]
  | c :: next :: rest =>
      if next = '_' then do
        let d ← T.digit c
        let ds ← readDigits rest
        some (d :: ds)
      else do
        let d ← T.digit c
        let ds ← readDigits (next :: rest)
        some (d :: ds)

/-- A literal, as whether it has a minus sign and its digits. -/
def readInt (space : Char → Bool) (text : List Char) : Option (Bool × List ℕ) :=
  match Trim.trim space text with
  | '-' :: rest => (readDigits T rest).map fun ds => (true, ds)
  | '+' :: rest => (readDigits T rest).map fun ds => (false, ds)
  | rest => (readDigits T rest).map fun ds => (false, ds)

/-- The number a row of digits stands for. -/
def ofDigits (ds : List ℕ) : ℕ := ds.foldl (fun n d => 10 * n + d) 0

/-- The integer with this sign and these digits. -/
def signed (p : Bool × List ℕ) : ℤ := if p.1 then -(ofDigits p.2 : ℤ) else ofDigits p.2

variable {T}

/-! ## What occurs in a literal -/

/-- A row of digits has nothing else in it but underscores. -/
lemma mem_of_readDigits {cs : List Char} {ds : List ℕ} (h : readDigits T cs = some ds) :
    ∀ c ∈ cs, c = '_' ∨ (T.digit c).isSome = true := by
  induction cs using readDigits.induct generalizing ds with
  | case1 => exact fun _ hc => absurd hc List.not_mem_nil
  | case2 c =>
      intro c' hc'
      obtain rfl := List.mem_singleton.mp hc'
      obtain ⟨d, hd, -⟩ := Option.map_eq_some_iff.mp h
      exact Or.inr (Option.isSome_of_mem hd)
  | case3 c rest ih =>
      rw [readDigits, if_pos rfl] at h
      obtain ⟨d, hd, h⟩ := Option.bind_eq_some_iff.mp h
      obtain ⟨ds', hds', -⟩ := Option.bind_eq_some_iff.mp h
      intro c' hc'
      rcases List.mem_cons.mp hc' with rfl | hc'
      · exact Or.inr (Option.isSome_of_mem hd)
      · rcases List.mem_cons.mp hc' with rfl | hc'
        · exact Or.inl rfl
        · exact ih hds' c' hc'
  | case4 c next rest hnext ih =>
      rw [readDigits, if_neg hnext] at h
      obtain ⟨d, hd, h⟩ := Option.bind_eq_some_iff.mp h
      obtain ⟨ds', hds', -⟩ := Option.bind_eq_some_iff.mp h
      intro c' hc'
      rcases List.mem_cons.mp hc' with rfl | hc'
      · exact Or.inr (Option.isSome_of_mem hd)
      · exact ih hds' c' hc'

/-- Trimming keeps what is no space. -/
lemma mem_trim {space : Char → Bool} {text : List Char} {c : Char} (hc : c ∈ text)
    (hspace : space c = false) : c ∈ Trim.trim space text := by
  have hdrop : c ∈ text.dropWhile space := by
    rw [← List.takeWhile_append_dropWhile (p := space) (l := text)] at hc
    rcases List.mem_append.mp hc with hc | hc
    · exact absurd (List.mem_takeWhile_imp hc) (by simp [hspace])
    · exact hc
  unfold Trim.trim List.rdropWhile
  rw [List.mem_reverse]
  rw [← List.mem_reverse, ← List.takeWhile_append_dropWhile (p := space)
    (l := (text.dropWhile space).reverse)] at hdrop
  rcases List.mem_append.mp hdrop with hdrop | hdrop
  · exact absurd (List.mem_takeWhile_imp hdrop) (by simp [hspace])
  · exact hdrop

/-- **The characters of a literal** are spaces, signs, underscores and digits. -/
lemma allowed_of_readInt {space : Char → Bool} {text : List Char} {p : Bool × List ℕ}
    (h : readInt T space text = some p) {c : Char} (hc : c ∈ text) :
    space c = true ∨ c = '-' ∨ c = '+' ∨ c = '_' ∨ (T.digit c).isSome = true := by
  by_cases hspace : space c = true
  · exact Or.inl hspace
  · have hmem : c ∈ Trim.trim space text := mem_trim hc (by simpa using hspace)
    unfold readInt at h
    split at h
    · rename_i rest heq
      obtain ⟨ds, hds, -⟩ := Option.map_eq_some_iff.mp h
      rw [heq] at hmem
      rcases List.mem_cons.mp hmem with rfl | hmem
      · exact Or.inr (Or.inl rfl)
      · exact Or.inr (Or.inr (Or.inr (mem_of_readDigits hds c hmem)))
    · rename_i rest heq
      obtain ⟨ds, hds, -⟩ := Option.map_eq_some_iff.mp h
      rw [heq] at hmem
      rcases List.mem_cons.mp hmem with rfl | hmem
      · exact Or.inr (Or.inr (Or.inl rfl))
      · exact Or.inr (Or.inr (Or.inr (mem_of_readDigits hds c hmem)))
    · obtain ⟨ds, hds, -⟩ := Option.map_eq_some_iff.mp h
      exact Or.inr (Or.inr (Or.inr (mem_of_readDigits hds c hmem)))

/-! ## The decimal notation -/

lemma isAscii_of_isDigit {c : Char} (h : c.isDigit = true) : c.toNat < 128 := by
  rw [Char.isDigit, Bool.and_eq_true, decide_eq_true_eq, decide_eq_true_eq] at h
  have hupper : c.toNat ≤ '9'.toNat := h.2
  have hbound : '9'.toNat < 128 := by decide
  omega

lemma digit_of_isDigit {c : Char} (h : c.isDigit = true) :
    T.digit c = some (c.toNat - '0'.toNat) := by
  rw [T.ascii c (isAscii_of_isDigit h), if_pos h]

/-- Digits of ASCII are read one by one. -/
lemma readDigits_of_isDigit {cs : List Char} (hne : cs ≠ [])
    (h : ∀ c ∈ cs, c.isDigit = true) :
    readDigits T cs = some (cs.map fun c => c.toNat - '0'.toNat) := by
  induction cs with
  | nil => exact absurd rfl hne
  | cons c rest ih =>
      rw [List.forall_mem_cons] at h
      cases rest with
      | nil => rw [readDigits, digit_of_isDigit h.1]; rfl
      | cons next rest =>
          have hnext : next ≠ '_' := by
            rintro rfl
            exact absurd (h.2 '_' List.mem_cons_self) (by decide)
          rw [readDigits, if_neg hnext, digit_of_isDigit h.1, ih (by simp) h.2]
          rfl

lemma isDigit_of_mem {n : ℕ} {c : Char} (h : c ∈ Nat.toDigits 10 n) : c.isDigit = true :=
  Nat.isDigit_of_mem_toDigits (by decide) (by decide) h

lemma toDigits_ne_nil (n : ℕ) : Nat.toDigits 10 n ≠ [] := fun h =>
  absurd (congrArg List.length h) (Nat.ne_of_gt Nat.length_toDigits_pos)

lemma ofDigits_toDigits (n : ℕ) :
    ofDigits ((Nat.toDigits 10 n).map fun c => c.toNat - '0'.toNat) = n := by
  unfold ofDigits
  rw [List.foldl_map]
  exact Nat.ofDigitChars_ten_toDigits

/-- **The decimal notation of an integer** is a literal for it. -/
theorem readInt_encodeInt {space : Char → Bool}
    (hspace : ∀ c : Char, c = '-' ∨ c.isDigit = true → space c = false) (i : ℤ) :
    ∃ p, readInt T space (Json.encodeInt i) = some p ∧ signed p = i ∧
      p.2.length = (Nat.toDigits 10 i.natAbs).length := by
  have htrim : Trim.trim space (Json.encodeInt i) = Json.encodeInt i := by
    have hall : ∀ c ∈ Json.encodeInt i, space c = false := by
      intro c hc
      cases i with
      | ofNat n => exact hspace c (Or.inr (isDigit_of_mem hc))
      | negSucc n =>
          rcases List.mem_cons.mp hc with rfl | hc
          · exact hspace _ (Or.inl rfl)
          · exact hspace c (Or.inr (isDigit_of_mem hc))
    rw [Trim.trim_eq_self_iff]
    exact ⟨fun c hc => hall c (List.mem_of_mem_head? hc),
      fun c hc => hall c (List.mem_of_getLast? hc)⟩
  have hread : ∀ n : ℕ, readDigits T (Nat.toDigits 10 n) =
      some ((Nat.toDigits 10 n).map fun c => c.toNat - '0'.toNat) := fun n =>
    readDigits_of_isDigit (toDigits_ne_nil n) fun _ hc => isDigit_of_mem hc
  unfold readInt
  rw [htrim]
  cases i with
  | negSucc n =>
      refine ⟨(true, (Nat.toDigits 10 (n + 1)).map fun c => c.toNat - '0'.toNat), ?_, ?_, ?_⟩
      · show (readDigits T (Nat.toDigits 10 (n + 1))).map _ = _
        rw [hread]
        rfl
      · rw [signed, if_pos rfl, ofDigits_toDigits]
        rfl
      · exact List.length_map ..
  | ofNat n =>
      refine ⟨(false, (Nat.toDigits 10 n).map fun c => c.toNat - '0'.toNat), ?_, ?_, ?_⟩
      · have hdigit : ∀ c ∈ Nat.toDigits 10 n, c.isDigit = true := fun _ hc => isDigit_of_mem hc
        rw [Json.encodeInt]
        split
        · rename_i heq
          exact absurd (hdigit '-' (by rw [heq]; simp)) (by decide)
        · rename_i heq
          exact absurd (hdigit '+' (by rw [heq]; simp)) (by decide)
        · rw [hread]
          rfl
      · rw [signed, if_neg (by simp), ofDigits_toDigits]
        rfl
      · exact List.length_map ..

end IntText
