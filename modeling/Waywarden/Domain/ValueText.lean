import Waywarden.Domain.Basic
import Waywarden.Lib.IntText

/-!
# `str` and `int` on the values of a payload

What Python's `str` makes of a value, and when `int` accepts that text again.  A string is its own
text; inside a list or a mapping it stands with quotes and escapes, as `repr` writes it.

Both directions refuse an integer of more than 4300 digits, so `str` returns on the values that have
none (`exists_str_iff`).  `int` accepts the text of an integer and of a string that is a literal;
the text of any other value has a character that no literal has (`readsAsInt_iff`).
-/

namespace Waywarden.ValueText

/-- The Unicode data `repr` and `int` look at. -/
structure UnicodeTable extends IntText.DigitTable where
  printable : Char → Bool

/-- `sys.int_info.default_max_str_digits`. -/
def maxStrDigits : ℕ := 4300

/-- The exception of a conversion between an integer and a text that is too long. -/
def digitLimitError : PyError :=
  ⟨.valueError, "Exceeds the limit (% digits) for integer string conversion",
    [toString maxStrDigits]⟩

variable (T : UnicodeTable)

/-! ## `repr` and `str` -/

/-- A number in hexadecimal notation, at least `width` digits long. -/
def hexDigits (width n : ℕ) : List Char :=
  let ds := Nat.toDigits 16 n
  List.replicate (width - ds.length) '0' ++ ds

/-- A character as `repr` writes it between quotes. -/
def reprChar (quote c : Char) : List Char :=
  if c = quote ∨ c = '\\' then ['\\', c]
  else if c = '\t' then ['\\', 't']
  else if c = '\n' then ['\\', 'n']
  else if c = '\r' then ['\\', 'r']
  else if c.toNat < 0x20 ∨ c.toNat = 0x7f then '\\' :: 'x' :: hexDigits 2 c.toNat
  else if c.toNat < 0x7f ∨ T.printable c = true then [c]
  else if c.toNat < 0x100 then '\\' :: 'x' :: hexDigits 2 c.toNat
  else if c.toNat < 0x10000 then '\\' :: 'u' :: hexDigits 4 c.toNat
  else '\\' :: 'U' :: hexDigits 8 c.toNat

/-- `repr` of a string: in single quotes, unless it has one of these and no double quote. -/
def reprString (s : String) : String :=
  let quote := if s.toList.contains '\'' && !s.toList.contains '"' then '"' else '\''
  String.ofList (quote :: (s.toList.flatMap (reprChar T quote) ++ [quote]))

/-- `repr` of an integer. -/
def reprInt (i : ℤ) : Except PyError String :=
  if (Nat.toDigits 10 i.natAbs).length ≤ maxStrDigits then .ok (String.ofList (Json.encodeInt i))
  else .error digitLimitError

/-- The items of a container between its brackets. -/
def bracketed (opening : Char) (items : List String) (closing : List Char) : String :=
  String.ofList (opening :: ((", ".intercalate items).toList ++ closing))

mutual

/-- `repr`. -/
def repr : Value → Except PyError String
  | .null => .ok "None"
  | .bool true => .ok "True"
  | .bool false => .ok "False"
  | .int i => reprInt i
  | .float x => .ok (String.ofList x.encode)
  | .str s => .ok (reprString T s)
  | .list xs => do .ok (bracketed '[' (← reprItems xs) [']'])
  | .tuple xs => do
      .ok (bracketed '(' (← reprItems xs) (if xs.length = 1 then [',', ')'] else [')']))
  | .dict items => do .ok (bracketed '\x7b' (← reprMembers items) ['\x7d'])

/-- `repr` of each item. -/
def reprItems : List Value → Except PyError (List String)
  | [] => .ok []
  | x :: xs => do
      let text ← repr x
      let texts ← reprItems xs
      .ok (text :: texts)

/-- `repr` of each member. -/
def reprMembers : List (String × Value) → Except PyError (List String)
  | [] => .ok []
  | (k, v) :: items => do
      let text ← repr v
      let texts ← reprMembers items
      .ok ((reprString T k ++ ": " ++ text) :: texts)

end

/-- `str`. -/
def str : Value → Except PyError String
  | .str s => .ok s
  | v => repr T v

/-! ## `int` -/

/-- The spaces `int` strips: those of ASCII, and every other that `isspace` knows. -/
def isIntSpace (c : Char) : Bool :=
  if c.toNat < 0x7f then (9 ≤ c.toNat && c.toNat ≤ 13) || c.toNat == 32 else isSpace c

/-- `int` on a text. -/
def int (text : String) : Except PyError ℤ :=
  match IntText.readInt T.toDigitTable isIntSpace text.toList with
  | none => .error ⟨.valueError, "invalid literal for int() with base 10: %", [reprString T text]⟩
  | some p => if p.2.length ≤ maxStrDigits then .ok (IntText.signed p) else .error digitLimitError

/-! ## The values `str` returns on -/

mutual

/-- No integer of the value is too long to be written. -/
def Short : Value → Prop
  | .int i => (Nat.toDigits 10 i.natAbs).length ≤ maxStrDigits
  | .list xs | .tuple xs => ShortItems xs
  | .dict items => ShortMembers items
  | _ => True

/-- `Short` on the items of a list. -/
def ShortItems : List Value → Prop
  | [] => True
  | x :: xs => Short x ∧ ShortItems xs

/-- `Short` on the values of a mapping. -/
def ShortMembers : List (String × Value) → Prop
  | [] => True
  | (_, v) :: items => Short v ∧ ShortMembers items

end

variable {T}

lemma exists_reprInt_iff {i : ℤ} :
    (∃ text, reprInt i = .ok text) ↔ (Nat.toDigits 10 i.natAbs).length ≤ maxStrDigits := by
  unfold reprInt
  split
  · rename_i h
    exact iff_of_true ⟨_, rfl⟩ h
  · rename_i h
    exact iff_of_false (by simp) h

/-- What is done with the texts of the parts does not raise. -/
lemma exists_bind_ok_iff {α β : Type} {x : Except PyError α} {f : α → β} :
    (∃ b, (do .ok (f (← x)) : Except PyError β) = .ok b) ↔ ∃ a, x = .ok a := by
  cases x with
  | error e => exact iff_of_false (by simp [bind, Except.bind]) (by simp)
  | ok a => exact iff_of_true ⟨f a, rfl⟩ ⟨a, rfl⟩

mutual

/-- **`repr` returns** exactly on the values without an integer that is too long. -/
theorem exists_repr_iff (v : Value) : (∃ text, repr T v = .ok text) ↔ Short v := by
  match v with
  | .null | .bool true | .bool false | .float _ | .str _ => exact iff_of_true ⟨_, rfl⟩ trivial
  | .int i => exact exists_reprInt_iff
  | .list xs => exact exists_bind_ok_iff.trans (exists_reprItems_iff xs)
  | .tuple xs => exact exists_bind_ok_iff.trans (exists_reprItems_iff xs)
  | .dict items => exact exists_bind_ok_iff.trans (exists_reprMembers_iff items)

theorem exists_reprItems_iff (xs : List Value) :
    (∃ texts, reprItems T xs = .ok texts) ↔ ShortItems xs := by
  match xs with
  | [] => exact iff_of_true ⟨[], rfl⟩ trivial
  | x :: xs =>
      rw [reprItems, ShortItems, ← exists_repr_iff x, ← exists_reprItems_iff xs]
      simp only [Effect.except_bind_eq_ok]
      constructor
      · rintro ⟨_, text, htext, texts, htexts, -⟩
        exact ⟨⟨text, htext⟩, texts, htexts⟩
      · rintro ⟨⟨text, htext⟩, texts, htexts⟩
        exact ⟨_, text, htext, texts, htexts, rfl⟩

theorem exists_reprMembers_iff (items : List (String × Value)) :
    (∃ texts, reprMembers T items = .ok texts) ↔ ShortMembers items := by
  match items with
  | [] => exact iff_of_true ⟨[], rfl⟩ trivial
  | (k, v) :: items =>
      rw [reprMembers, ShortMembers, ← exists_repr_iff v, ← exists_reprMembers_iff items]
      simp only [Effect.except_bind_eq_ok]
      constructor
      · rintro ⟨_, text, htext, texts, htexts, -⟩
        exact ⟨⟨text, htext⟩, texts, htexts⟩
      · rintro ⟨⟨text, htext⟩, texts, htexts⟩
        exact ⟨_, text, htext, texts, htexts, rfl⟩

end

/-- So does `str`. -/
theorem exists_str_iff (v : Value) : (∃ text, str T v = .ok text) ↔ Short v := by
  match v with
  | .str s => exact iff_of_true ⟨s, rfl⟩ trivial
  | .null | .bool _ | .int _ | .float _ | .list _ | .tuple _ | .dict _ => exact exists_repr_iff _

/-! ## The first character -/

/-- The characters a text of `repr` starts with, unless it is that of a string. -/
def Opens (c : Char) : Prop :=
  c ∈ ['N', 'T', 'F', '[', '(', '\x7b', '-'] ∨ c.isDigit = true

instance (c : Char) : Decidable (Opens c) := inferInstanceAs (Decidable (_ ∨ _))

/-- The text of a value that is no string does not start like a word of small letters. -/
lemma opens_of_repr {v : Value} (hv : ∀ s, v ≠ .str s) {text : String}
    (h : repr T v = .ok text) : ∃ c cs, text.toList = c :: cs ∧ Opens c := by
  have hword : ∀ {t : String} {c : Char} {cs : List Char}, t.toList = c :: cs → Opens c →
      ∃ c cs, t.toList = c :: cs ∧ Opens c := fun ht hc => ⟨_, _, ht, hc⟩
  match v with
  | .str s => exact absurd rfl (hv s)
  | .null => obtain rfl := Except.ok.inj h; exact hword rfl (Or.inl (by decide))
  | .bool true => obtain rfl := Except.ok.inj h; exact hword rfl (Or.inl (by decide))
  | .bool false => obtain rfl := Except.ok.inj h; exact hword rfl (Or.inl (by decide))
  | .float x =>
      obtain rfl := Except.ok.inj h
      obtain ⟨c, cs, hcs, hc⟩ := Json.encodeDecimal_eq_cons x
      refine ⟨c, cs, by rw [String.toList_ofList, hcs], ?_⟩
      rcases hc with rfl | hdigit
      · exact Or.inl (by decide)
      · exact Or.inr hdigit
  | .int i =>
      rw [repr, reprInt] at h
      split at h
      · obtain rfl := Except.ok.inj h
        obtain ⟨c, cs, hcs, hc⟩ := Json.encodeInt_eq_cons i
        refine ⟨c, cs, by rw [String.toList_ofList, hcs], ?_⟩
        rcases hc with rfl | hdigit
        · exact Or.inl (by decide)
        · exact Or.inr hdigit
      · exact absurd h (by simp)
  | .list xs | .tuple xs =>
      rw [repr, Effect.except_bind_eq_ok] at h
      obtain ⟨texts, -, h⟩ := h
      obtain rfl := Except.ok.inj h
      rw [bracketed, String.toList_ofList]
      exact ⟨_, _, rfl, Or.inl (by decide)⟩
  | .dict items =>
      rw [repr, Effect.except_bind_eq_ok] at h
      obtain ⟨texts, -, h⟩ := h
      obtain rfl := Except.ok.inj h
      rw [bracketed, String.toList_ofList]
      exact ⟨_, _, rfl, Or.inl (by decide)⟩

/-- None of these characters is a space. -/
lemma isSpace_of_opens {c : Char} (h : Opens c) : isSpace c = false := by
  rcases h with hmem | hdigit
  · have hnone : ['N', 'T', 'F', '[', '(', '\x7b', '-'].any isSpace = false := by decide
    rw [List.any_eq_false] at hnone
    exact Bool.eq_false_of_not_eq_true (hnone c hmem)
  · have hbounds : '0'.toNat = 48 ∧ '9'.toNat = 57 := by decide
    rw [Char.isDigit, Bool.and_eq_true, decide_eq_true_eq, decide_eq_true_eq] at hdigit
    have hlower : '0'.toNat ≤ c.toNat := hdigit.1
    have hupper : c.toNat ≤ '9'.toNat := hdigit.2
    unfold isSpace
    simp only [List.contains_eq_mem, List.mem_cons, List.not_mem_nil, or_false,
      decide_eq_false_iff_not]
    omega

/-- Stripping the text of a value that is no string leaves its first character. -/
lemma opens_of_strip_repr {v : Value} (hv : ∀ s, v ≠ .str s) {text : String}
    (h : repr T v = .ok text) : ∃ c cs, (strip text).toList = c :: cs ∧ Opens c := by
  obtain ⟨c, cs, hcs, hc⟩ := opens_of_repr hv h
  obtain ⟨rest, hrest⟩ := Trim.trim_cons isSpace (isSpace_of_opens hc) cs
  exact ⟨c, rest, by rw [strip, String.toList_ofList, hcs, hrest], hc⟩

/-- The text of a value that is no string is its `repr`. -/
lemma str_eq_repr {v : Value} (hv : ∀ s, v ≠ .str s) : str T v = repr T v := by
  unfold str
  split
  · exact absurd rfl (hv _)
  · rfl

/-- **A word is the text of itself alone.** -/
lemma str_eq_word_iff {word : String} (hword : ∀ c ∈ word.toList.head?, ¬ Opens c) {v : Value} :
    str T v = .ok word ↔ v = .str word := by
  by_cases hv : ∃ s, v = .str s
  · obtain ⟨s, rfl⟩ := hv
    rw [str, Except.ok.injEq, Value.str.injEq]
  · have hnone : ∀ s, v ≠ .str s := fun s hs => hv ⟨s, hs⟩
    constructor
    · intro h
      rw [str_eq_repr hnone] at h
      obtain ⟨c, cs, hcs, hc⟩ := opens_of_repr hnone h
      exact absurd hc (hword c (by rw [hcs]; rfl))
    · rintro rfl
      exact absurd ⟨word, rfl⟩ hv

/-- **A list of words has the stripped text of strings alone.** -/
lemma exists_str_strip_mem_iff {words : List String}
    (hwords : ∀ word ∈ words, ∀ c ∈ word.toList.head?, ¬ Opens c) {v : Value} :
    (∃ text, str T v = .ok text ∧ strip text ∈ words) ↔ ∃ s, v = .str s ∧ strip s ∈ words := by
  constructor
  · rintro ⟨text, htext, hmem⟩
    by_cases hv : ∃ s, v = .str s
    · obtain ⟨s, rfl⟩ := hv
      obtain rfl := Except.ok.inj htext
      exact ⟨s, rfl, hmem⟩
    · have hnone : ∀ s, v ≠ .str s := fun s hs => hv ⟨s, hs⟩
      rw [str_eq_repr hnone] at htext
      obtain ⟨c, cs, hcs, hc⟩ := opens_of_strip_repr hnone htext
      exact absurd hc (hwords _ hmem c (by rw [hcs]; rfl))
  · rintro ⟨s, rfl, hmem⟩
    exact ⟨s, rfl, hmem⟩

/-- **What strips to nothing** is a blank string. -/
lemma exists_str_strip_ne_iff {v : Value} :
    (∃ text, str T v = .ok text ∧ strip text ≠ "") ↔
      Short v ∧ ∀ s, v = .str s → strip s ≠ "" := by
  constructor
  · rintro ⟨text, htext, hne⟩
    refine ⟨(exists_str_iff v).mp ⟨text, htext⟩, ?_⟩
    rintro s rfl
    obtain rfl := Except.ok.inj htext
    exact hne
  · rintro ⟨hshort, hblank⟩
    obtain ⟨text, htext⟩ := (exists_str_iff (T := T) v).mpr hshort
    refine ⟨text, htext, ?_⟩
    by_cases hv : ∃ s, v = .str s
    · obtain ⟨s, rfl⟩ := hv
      obtain rfl := Except.ok.inj htext
      exact hblank s rfl
    · have hnone : ∀ s, v ≠ .str s := fun s hs => hv ⟨s, hs⟩
      rw [str_eq_repr hnone] at htext
      obtain ⟨c, cs, hcs, -⟩ := opens_of_strip_repr hnone htext
      intro hempty
      rw [hempty] at hcs
      exact absurd hcs (by simp)

/-! ## The values whose text `int` accepts -/

/-- An integer that is not too long, or a string that is a literal. -/
def ReadsAsInt (T : UnicodeTable) (v : Value) : Prop :=
  (∃ i, v = .int i ∧ Short v) ∨ ∃ s i, v = .str s ∧ int T s = .ok i

/-- A character that no literal has. -/
def Foreign (c : Char) : Prop :=
  c.toNat < 128 ∧ c.isDigit = false ∧ c ∉ ['-', '+', '_'] ∧ isIntSpace c = false

instance (c : Char) : Decidable (Foreign c) := inferInstanceAs (Decidable (_ ∧ _))

/-- A text with such a character is refused. -/
lemma int_ne_ok {text : String} {c : Char} (hc : c ∈ text.toList) (h : Foreign c) (i : ℤ) :
    int T text ≠ .ok i := by
  obtain ⟨hascii, hdigit, hsign, hspace⟩ := h
  intro hint
  unfold int at hint
  split at hint
  · exact absurd hint (by simp)
  · rename_i p hp
    rcases IntText.allowed_of_readInt hp hc with hallowed | rfl | rfl | rfl | hallowed
    · exact absurd (hallowed.symm.trans hspace) (by simp)
    · exact hsign (by simp)
    · exact hsign (by simp)
    · exact hsign (by simp)
    · rw [T.ascii c hascii, hdigit] at hallowed
      exact absurd hallowed (by simp)

/-- The text of an integer is read back. -/
lemma int_reprInt {i : ℤ} (h : (Nat.toDigits 10 i.natAbs).length ≤ maxStrDigits) :
    int T (String.ofList (Json.encodeInt i)) = .ok i := by
  have hspace : ∀ c : Char, c = '-' ∨ c.isDigit = true → isIntSpace c = false := by
    rintro c (rfl | hdigit)
    · decide
    · have hascii := IntText.isAscii_of_isDigit hdigit
      have hbounds : '0'.toNat = 48 ∧ '9'.toNat = 57 := by decide
      rw [Char.isDigit, Bool.and_eq_true, decide_eq_true_eq, decide_eq_true_eq] at hdigit
      have hlower : '0'.toNat ≤ c.toNat := hdigit.1
      have hupper : c.toNat ≤ '9'.toNat := hdigit.2
      unfold isIntSpace
      rw [if_pos (by omega), Bool.or_eq_false_iff, Bool.and_eq_false_iff, decide_eq_false_iff_not,
        decide_eq_false_iff_not, beq_eq_false_iff_ne]
      omega
  obtain ⟨p, hp, hsigned, hlength⟩ :=
    @IntText.readInt_encodeInt T.toDigitTable isIntSpace hspace i
  unfold int
  rw [String.toList_ofList, hp]
  simp only [hlength, hsigned]
  rw [if_pos h]

/-- A number with a fraction or an exponent is no literal. -/
lemma exists_foreign_of_decimal (x : Decimal) : ∃ c ∈ x.encode, Foreign c := by
  have hparts := x.not_integer
  unfold Decimal.encode
  cases hfraction : x.fraction with
  | some ds => exact ⟨'.', by simp [Decimal.encodeFraction], by decide⟩
  | none =>
      cases hexponent : x.exponent with
      | some e => exact ⟨'e', by simp [Decimal.encodeExponent], by decide⟩
      | none =>
          rw [hfraction, hexponent] at hparts
          exact absurd hparts (by simp)

/-- Nor is the text of a value that is no number and no string. -/
lemma exists_foreign_of_repr {v : Value} (hint : ∀ i, v ≠ .int i) (hstr : ∀ s, v ≠ .str s)
    {text : String} (h : repr T v = .ok text) : ∃ c ∈ text.toList, Foreign c := by
  have hfirst : ∀ {t : String} {c : Char} {cs : List Char}, t.toList = c :: cs → Foreign c →
      ∃ c ∈ t.toList, Foreign c := fun ht hc => ⟨_, ht ▸ List.mem_cons_self, hc⟩
  match v with
  | .str s => exact absurd rfl (hstr s)
  | .int i => exact absurd rfl (hint i)
  | .null => obtain rfl := Except.ok.inj h; exact hfirst rfl (by decide)
  | .bool true => obtain rfl := Except.ok.inj h; exact hfirst rfl (by decide)
  | .bool false => obtain rfl := Except.ok.inj h; exact hfirst rfl (by decide)
  | .float x =>
      obtain rfl := Except.ok.inj h
      rw [String.toList_ofList]
      exact exists_foreign_of_decimal x
  | .list xs | .tuple xs =>
      rw [repr, Effect.except_bind_eq_ok] at h
      obtain ⟨texts, -, h⟩ := h
      obtain rfl := Except.ok.inj h
      rw [bracketed, String.toList_ofList]
      exact ⟨_, List.mem_cons_self, by decide⟩
  | .dict items =>
      rw [repr, Effect.except_bind_eq_ok] at h
      obtain ⟨texts, -, h⟩ := h
      obtain rfl := Except.ok.inj h
      rw [bracketed, String.toList_ofList]
      exact ⟨_, List.mem_cons_self, by decide⟩

/-- **When `int(str(v))` returns.** -/
theorem readsAsInt_iff (v : Value) :
    (∃ text i, str T v = .ok text ∧ int T text = .ok i) ↔ ReadsAsInt T v := by
  unfold ReadsAsInt
  constructor
  · rintro ⟨text, i, htext, hi⟩
    by_cases hint : ∃ i, v = .int i
    · obtain ⟨j, rfl⟩ := hint
      exact Or.inl ⟨j, rfl, (exists_str_iff _).mp ⟨text, htext⟩⟩
    · by_cases hstr : ∃ s, v = .str s
      · obtain ⟨s, rfl⟩ := hstr
        obtain rfl := Except.ok.inj htext
        exact Or.inr ⟨s, i, rfl, hi⟩
      · have hnone : ∀ s, v ≠ .str s := fun s hs => hstr ⟨s, hs⟩
        rw [str_eq_repr hnone] at htext
        obtain ⟨c, hc, hforeign⟩ :=
          exists_foreign_of_repr (fun i hi => hint ⟨i, hi⟩) hnone htext
        exact absurd hi (int_ne_ok hc hforeign i)
  · rintro (⟨i, rfl, hshort⟩ | ⟨s, i, rfl, hi⟩)
    · refine ⟨String.ofList (Json.encodeInt i), i, ?_, int_reprInt hshort⟩
      exact if_pos hshort
    · exact ⟨s, i, rfl, hi⟩

end Waywarden.ValueText
