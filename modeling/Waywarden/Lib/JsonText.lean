import Mathlib.Data.Nat.Notation
import Waywarden.Lib.Json

/-!
# JSON texts

`dumps` writes a value as text, in ASCII: a character outside the printable range is written as
`\uXXXX`, one beyond the basic plane as a surrogate pair.  The separators are followed by a blank,
or the text is compact.  `loads` reads a text: blanks between the tokens, every escape, numbers
without leading zeros, nothing after the value; a repeated key collapses as in a hash table.  A lone
surrogate is refused, since no `Json` stands for it.

The recursive descent is by fuel, and the length of the text is enough: `parse_dumps` says that
parsing inverts writing, whatever the separators.  So `dumps` is injective (`dumps_injective`),
and `loads` inverts it on values whose dictionaries have distinct keys (`loads_dumps`).
-/

namespace Json

open Decimal

/-! ## Writing -/

/-- The last four hexadecimal digits of a number. -/
def hex4 (n : ℕ) : List Char :=
  [Nat.digitChar (n / 4096 % 16), Nat.digitChar (n / 256 % 16), Nat.digitChar (n / 16 % 16),
    Nat.digitChar (n % 16)]

/-- The escape of a sixteen-bit code unit. -/
def escapeUnit (n : ℕ) : List Char := '\\' :: 'u' :: hex4 n

/-- A character as it stands between the quotes. -/
def escape (c : Char) : List Char :=
  if c = '"' then ['\\', '"']
  else if c = '\\' then ['\\', '\\']
  else if c = '\n' then ['\\', 'n']
  else if c = '\r' then ['\\', 'r']
  else if c = '\t' then ['\\', 't']
  else if c = Char.ofNat 0x0c then ['\\', 'f']
  else if c = Char.ofNat 0x08 then ['\\', 'b']
  else if 0x20 ≤ c.toNat ∧ c.toNat ≤ 0x7e then [c]
  else if c.toNat < 0x10000 then escapeUnit c.toNat
  else
    escapeUnit (0xd800 + (c.toNat - 0x10000) / 0x400) ++
      escapeUnit (0xdc00 + (c.toNat - 0x10000) % 0x400)

/-- A string with its quotes. -/
def encodeString (s : String) : List Char := '"' :: (s.toList.flatMap escape ++ ['"'])

/-- An integer in decimal notation. -/
def encodeInt : ℤ → List Char
  | .ofNat n => Nat.toDigits 10 n
  | .negSucc n => '-' :: Nat.toDigits 10 (n + 1)

/-- What follows a separator: a blank, or nothing in a compact text. -/
def gap (compact : Bool) : List Char := if compact then [] else [' ']

mutual

/-- The text of a value. -/
def encode (compact : Bool) : Json → List Char
  | .null => "null".toList
  | .bool true => "true".toList
  | .bool false => "false".toList
  | .int i => encodeInt i
  | .float x => x.encode
  | .str s => encodeString s
  | .list [] => ['[', ']']
  | .list (x :: xs) => '[' :: (encode compact x ++ encodeItems compact xs)
  | .dict [] => ['{', '}']
  | .dict ((k, v) :: ms) =>
      '{' :: (encodeString k ++ ':' :: (gap compact ++ (encode compact v ++
        encodeMembers compact ms)))

/-- The items after the first, and the closing bracket. -/
def encodeItems (compact : Bool) : List Json → List Char
  | [] => [']']
  | x :: xs => ',' :: (gap compact ++ (encode compact x ++ encodeItems compact xs))

/-- The members after the first, and the closing brace. -/
def encodeMembers (compact : Bool) : List (String × Json) → List Char
  | [] => ['}']
  | (k, v) :: ms =>
      ',' :: (gap compact ++ (encodeString k ++ ':' :: (gap compact ++ (encode compact v ++
        encodeMembers compact ms))))

end

/-- `json.dumps`, with the default separators or compact. -/
def dumps (compact : Bool) (j : Json) : String := String.ofList (encode compact j)

/-! ## Reading -/

/-- The blanks of JSON. -/
def isBlank (c : Char) : Bool := c = ' ' || c = '\t' || c = '\n' || c = '\r'

/-- The text after its leading blanks. -/
def skipBlank (cs : List Char) : List Char := cs.dropWhile isBlank

/-- The value of a hexadecimal digit. -/
def hexVal (c : Char) : Option ℕ :=
  if '0' ≤ c ∧ c ≤ '9' then some (c.toNat - '0'.toNat)
  else if 'a' ≤ c ∧ c ≤ 'f' then some (c.toNat - 'a'.toNat + 10)
  else if 'A' ≤ c ∧ c ≤ 'F' then some (c.toNat - 'A'.toNat + 10)
  else none

/-- Four hexadecimal digits. -/
def readHex4 : List Char → Option (ℕ × List Char)
  | a :: b :: c :: d :: rest => do
      let a ← hexVal a
      let b ← hexVal b
      let c ← hexVal c
      let d ← hexVal d
      some (a * 4096 + b * 256 + c * 16 + d, rest)
  | _ => none

/-- The character of a `\u` escape, after the `u`: one code unit, or a surrogate pair. -/
def readUnits (cs : List Char) : Option (Char × List Char) := do
  let (n, rest) ← readHex4 cs
  if n < 0xd800 ∨ 0xdfff < n then some (Char.ofNat n, rest)
  else
    match rest with
    | '\\' :: 'u' :: rest => do
        let (m, rest) ← readHex4 rest
        if n < 0xdc00 ∧ 0xdc00 ≤ m ∧ m ≤ 0xdfff then
          some (Char.ofNat (0x10000 + (n - 0xd800) * 0x400 + (m - 0xdc00)), rest)
        else none
    | _ => none

/-- The character of an escape, after the backslash. -/
def readEscape : List Char → Option (Char × List Char)
  | '"' :: rest => some ('"', rest)
  | '\\' :: rest => some ('\\', rest)
  | '/' :: rest => some ('/', rest)
  | 'b' :: rest => some (Char.ofNat 0x08, rest)
  | 'f' :: rest => some (Char.ofNat 0x0c, rest)
  | 'n' :: rest => some ('\n', rest)
  | 'r' :: rest => some ('\r', rest)
  | 't' :: rest => some ('\t', rest)
  | 'u' :: rest => readUnits rest
  | _ => none

/-- One character of a string; a control character must be escaped. -/
def readChar : List Char → Option (Char × List Char)
  | [] => none
  | c :: rest =>
      if c = '\\' then readEscape rest else if c.toNat < 0x20 then none else some (c, rest)

/-- The characters of a string and what follows its closing quote. -/
def readChars : ℕ → List Char → Option (List Char × List Char)
  | 0, _ => none
  | _, [] => none
  | fuel + 1, c :: rest =>
      if c = '"' then some ([], rest)
      else do
        let (d, rest) ← readChar (c :: rest)
        let (ds, rest) ← readChars fuel rest
        some (d :: ds, rest)

/-- A string, after its opening quote. -/
def readString (cs : List Char) : Option (String × List Char) := do
  let (ds, rest) ← readChars cs.length cs
  some (String.ofList ds, rest)

/-- A natural number without leading zeros. -/
def readNat : List Char → Option (ℕ × List Char)
  | [] => none
  | c :: rest =>
      if c = '0' then some (0, rest)
      else if c.isDigit then
        some (Nat.ofDigitChars 10 ((c :: rest).takeWhile Char.isDigit) 0,
          (c :: rest).dropWhile Char.isDigit)
      else none

/-- A number after its sign: an integer, unless a fraction or an exponent follows. -/
def readUnsigned (negative : Bool) (cs : List Char) : Option (Json × List Char) := do
  let (whole, rest) ← readNat cs
  let fraction := readFraction rest
  let exponent := readExponent fraction.2
  if h : (fraction.1.isSome || exponent.1.isSome) = true then
    some (.float ⟨negative, whole, fraction.1, exponent.1, h⟩, exponent.2)
  else
    some (.int (if negative then -(whole : ℤ) else whole), exponent.2)

/-- A number. -/
def readNumber : List Char → Option (Json × List Char)
  | '-' :: rest => readUnsigned true rest
  | cs => readUnsigned false cs

/-- A key and the colon after it. -/
def readKey : List Char → Option (String × List Char)
  | '"' :: rest => do
      let (k, rest) ← readString rest
      match skipBlank rest with
      | ':' :: rest => some (k, skipBlank rest)
      | _ => none
  | _ => none

mutual

/-- A value, at the start of the text. -/
def readValue : ℕ → List Char → Option (Json × List Char)
  | 0, _ => none
  | _, [] => none
  | _ + 1, '"' :: rest => do
      let (s, rest) ← readString rest
      some (.str s, rest)
  | fuel + 1, '[' :: rest =>
      match skipBlank rest with
      | [] => none
      | c :: rest =>
          if c = ']' then some (.list [], rest)
          else do
            let (x, rest) ← readValue fuel (c :: rest)
            let (xs, rest) ← readItems fuel rest
            some (.list (x :: xs), rest)
  | fuel + 1, '{' :: rest =>
      match skipBlank rest with
      | [] => none
      | c :: rest =>
          if c = '}' then some (.dict [], rest)
          else do
            let (k, rest) ← readKey (c :: rest)
            let (v, rest) ← readValue fuel rest
            let (ms, rest) ← readMembers fuel rest
            some (.dict ((k, v) :: ms), rest)
  | _ + 1, 'n' :: 'u' :: 'l' :: 'l' :: rest => some (.null, rest)
  | _ + 1, 't' :: 'r' :: 'u' :: 'e' :: rest => some (.bool true, rest)
  | _ + 1, 'f' :: 'a' :: 'l' :: 's' :: 'e' :: rest => some (.bool false, rest)
  | _ + 1, cs => readNumber cs

/-- The items after one item, up to the closing bracket. -/
def readItems : ℕ → List Char → Option (List Json × List Char)
  | 0, _ => none
  | fuel + 1, cs =>
      match skipBlank cs with
      | ']' :: rest => some ([], rest)
      | ',' :: rest => do
          let (x, rest) ← readValue fuel (skipBlank rest)
          let (xs, rest) ← readItems fuel rest
          some (x :: xs, rest)
      | _ => none

/-- The members after one member, up to the closing brace. -/
def readMembers : ℕ → List Char → Option (List (String × Json) × List Char)
  | 0, _ => none
  | fuel + 1, cs =>
      match skipBlank cs with
      | '}' :: rest => some ([], rest)
      | ',' :: rest => do
          let (k, rest) ← readKey (skipBlank rest)
          let (v, rest) ← readValue fuel rest
          let (ms, rest) ← readMembers fuel rest
          some ((k, v) :: ms, rest)
      | _ => none

end

/-- The value of a text, with repeated keys kept. -/
def parse (s : String) : Option Json :=
  match readValue s.length (skipBlank s.toList) with
  | some (j, rest) => if skipBlank rest = [] then some j else none
  | none => none

/-- `json.loads`. -/
def loads (s : String) : Option Json := (parse s).map asDicts

/-! ## Reading back a string -/

variable {r : List Char}

lemma hexVal_digitChar {d : ℕ} (h : d < 16) : hexVal (Nat.digitChar d) = some d := by
  have all : ∀ d < 16, hexVal (Nat.digitChar d) = some d := by decide
  exact all d h

lemma readHex4_hex4 {n : ℕ} (h : n < 0x10000) : readHex4 (hex4 n ++ r) = some (n, r) := by
  have digit : ∀ m, hexVal (Nat.digitChar (m % 16)) = some (m % 16) := fun m =>
    hexVal_digitChar (Nat.mod_lt m (by decide))
  have hsum : n / 4096 % 16 * 4096 + n / 256 % 16 * 256 + n / 16 % 16 * 16 + n % 16 = n := by
    omega
  simp only [hex4, List.cons_append, List.nil_append, readHex4, digit, Option.bind_eq_bind,
    Option.bind_some, hsum]

/-- A character is not a surrogate. -/
lemma toNat_scalar (c : Char) : c.toNat < 0xd800 ∨ 0xdfff < c.toNat ∧ c.toNat < 0x110000 :=
  c.valid

/-- A character written as one code unit. -/
lemma readUnits_unit {c : Char} (h : c.toNat < 0x10000) :
    readUnits (hex4 c.toNat ++ r) = some (c, r) := by
  have hscalar : c.toNat < 0xd800 ∨ 0xdfff < c.toNat := (toNat_scalar c).imp_right And.left
  rw [readUnits, readHex4_hex4 h, Option.bind_eq_bind, Option.bind_some]
  simp only [if_pos hscalar, Char.ofNat_toNat]

/-- A character written as a surrogate pair. -/
lemma readUnits_pair {c : Char} (h : ¬ c.toNat < 0x10000) :
    readUnits (hex4 (0xd800 + (c.toNat - 0x10000) / 0x400) ++
      (escapeUnit (0xdc00 + (c.toNat - 0x10000) % 0x400) ++ r)) = some (c, r) := by
  have hmax : c.toNat < 0x110000 := by
    have := toNat_scalar c
    omega
  have hhigh : 0xd800 + (c.toNat - 0x10000) / 0x400 < 0xdc00 := by omega
  have hlow : 0xdc00 + (c.toNat - 0x10000) % 0x400 ≤ 0xdfff := by omega
  have hsurrogate : ¬ (0xd800 + (c.toNat - 0x10000) / 0x400 < 0xd800 ∨
      0xdfff < 0xd800 + (c.toNat - 0x10000) / 0x400) := by omega
  have hsum : 0x10000 + (0xd800 + (c.toNat - 0x10000) / 0x400 - 0xd800) * 0x400 +
      (0xdc00 + (c.toNat - 0x10000) % 0x400 - 0xdc00) = c.toNat := by omega
  rw [readUnits, readHex4_hex4 (by omega), Option.bind_eq_bind, Option.bind_some]
  simp only [if_neg hsurrogate, escapeUnit, List.cons_append]
  rw [readHex4_hex4 (by omega), Option.bind_some]
  rw [if_pos ⟨hhigh, Nat.le_add_right _ _, hlow⟩, hsum, Char.ofNat_toNat]

/-- The characters written with a backslash and a letter. -/
def shortEscapes : List (Char × List Char) :=
  [('"', ['\\', '"']), ('\\', ['\\', '\\']), ('\n', ['\\', 'n']), ('\r', ['\\', 'r']),
    ('\t', ['\\', 't']), (Char.ofNat 0x0c, ['\\', 'f']), (Char.ofNat 0x08, ['\\', 'b'])]

/-- The ways a character is written. -/
inductive Escaped (c : Char) : List Char → Prop
  | short (ds : List Char) (listed : (c, ds) ∈ shortEscapes) : Escaped c ds
  | plain (no_quote : c ≠ '"') (no_slash : c ≠ '\\')
      (printable : 0x20 ≤ c.toNat ∧ c.toNat ≤ 0x7e) : Escaped c [c]
  | unit (small : c.toNat < 0x10000) : Escaped c (escapeUnit c.toNat)
  | pair (large : ¬ c.toNat < 0x10000) :
      Escaped c (escapeUnit (0xd800 + (c.toNat - 0x10000) / 0x400) ++
        escapeUnit (0xdc00 + (c.toNat - 0x10000) % 0x400))

/-- **How a character is written**: what is known of it below is read off these cases. -/
lemma escaped_escape (c : Char) : Escaped c (escape c) := by
  unfold escape
  by_cases hquote : c = '"'
  · rw [if_pos hquote, hquote]
    exact .short _ (by decide)
  rw [if_neg hquote]
  by_cases hslash : c = '\\'
  · rw [if_pos hslash, hslash]
    exact .short _ (by decide)
  rw [if_neg hslash]
  by_cases hn : c = '\n'
  · rw [if_pos hn, hn]
    exact .short _ (by decide)
  rw [if_neg hn]
  by_cases hr : c = '\r'
  · rw [if_pos hr, hr]
    exact .short _ (by decide)
  rw [if_neg hr]
  by_cases ht : c = '\t'
  · rw [if_pos ht, ht]
    exact .short _ (by decide)
  rw [if_neg ht]
  by_cases hf : c = Char.ofNat 0x0c
  · rw [if_pos hf, hf]
    exact .short _ (by decide)
  rw [if_neg hf]
  by_cases hb : c = Char.ofNat 0x08
  · rw [if_pos hb, hb]
    exact .short _ (by decide)
  rw [if_neg hb]
  by_cases hplain : 0x20 ≤ c.toNat ∧ c.toNat ≤ 0x7e
  · rw [if_pos hplain]
    exact .plain hquote hslash hplain
  rw [if_neg hplain]
  by_cases hunit : c.toNat < 0x10000
  · rw [if_pos hunit]
    exact .unit hunit
  · rw [if_neg hunit]
    exact .pair hunit

lemma readChar_short : ∀ p ∈ shortEscapes, readChar (p.2 ++ r) = some (p.1, r) := by
  simp only [shortEscapes, List.forall_mem_cons]
  exact ⟨rfl, rfl, rfl, rfl, rfl, rfl, rfl, by simp⟩

/-- **Reading one character** inverts writing it. -/
lemma readChar_escape (c : Char) : readChar (escape c ++ r) = some (c, r) := by
  have hescaped := escaped_escape c
  generalize escape c = ds at hescaped ⊢
  cases hescaped with
  | short _ listed => exact readChar_short _ listed
  | plain _ no_slash printable =>
      rw [List.singleton_append, readChar, if_neg no_slash, if_neg (by omega)]
  | unit small => exact readUnits_unit small
  | pair large =>
      rw [List.append_assoc]
      exact readUnits_pair large

/-- No character is written starting with a quote. -/
lemma escape_eq_cons (c : Char) : ∃ d ds, escape c = d :: ds ∧ d ≠ '"' := by
  have hslash : ∀ p ∈ shortEscapes, p.2.head? = some '\\' := by decide
  have hescaped := escaped_escape c
  generalize escape c = ds at hescaped ⊢
  cases hescaped with
  | short _ listed =>
      obtain ⟨rest, rfl⟩ := List.head?_eq_some_iff.mp (hslash _ listed)
      exact ⟨_, _, rfl, by decide⟩
  | plain no_quote _ _ => exact ⟨_, _, rfl, no_quote⟩
  | unit _ => exact ⟨_, _, rfl, by decide⟩
  | pair _ => exact ⟨_, _, rfl, by decide⟩

lemma readChars_flatMap (cs : List Char) {fuel : ℕ} (h : (cs.flatMap escape).length < fuel) :
    readChars fuel (cs.flatMap escape ++ '"' :: r) = some (cs, r) := by
  induction cs generalizing fuel with
  | nil =>
      obtain ⟨fuel, rfl⟩ := Nat.exists_eq_add_one_of_ne_zero (Nat.ne_of_gt h)
      rfl
  | cons c cs ih =>
      obtain ⟨d, ds, hd, hquote⟩ := escape_eq_cons c
      obtain ⟨fuel, rfl⟩ := Nat.exists_eq_add_one_of_ne_zero (Nat.ne_of_gt (Nat.zero_lt_of_lt h))
      rw [List.flatMap_cons, List.length_append, hd, List.length_cons] at h
      have hchar := readChar_escape (r := cs.flatMap escape ++ '"' :: r) c
      rw [List.flatMap_cons, List.append_assoc]
      rw [hd, List.cons_append] at hchar ⊢
      have hrest : readChars fuel (cs.flatMap escape ++ '"' :: r) = some (cs, r) := ih (by omega)
      rw [readChars, if_neg hquote, hchar, Option.bind_eq_bind, Option.bind_some]
      simp only [hrest, Option.bind_eq_bind, Option.bind_some]

/-- **Reading a string** inverts writing it. -/
lemma readString_flatMap (s : String) :
    readString (s.toList.flatMap escape ++ '"' :: r) = some (s, r) := by
  rw [readString, readChars_flatMap s.toList (by simp), Option.bind_eq_bind, Option.bind_some]
  show some (String.ofList s.toList, r) = some (s, r)
  rw [String.ofList_toList]

/-! ## Reading back a number -/

/-- A positive number is written without a leading zero. -/
lemma toDigits_eq_cons {n : ℕ} (h : 0 < n) :
    ∃ d ds, Nat.toDigits 10 n = d :: ds ∧ d ≠ '0' ∧ d.isDigit = true := by
  induction n using Nat.strong_induction_on with
  | _ n ih =>
      rcases Nat.lt_or_ge n 10 with hlt | hge
      · refine ⟨Nat.digitChar n, [], Nat.toDigits_of_lt_base hlt, ?_, ?_⟩
        · rw [ne_eq, Nat.digitChar_eq_zero]
          omega
        · rw [Nat.isDigit_digitChar, decide_eq_true hlt]
      · obtain ⟨d, ds, hd, hzero, hdigit⟩ := ih (n / 10) (by omega) (by omega)
        refine ⟨d, ds ++ [Nat.digitChar (n % 10)], ?_, hzero, hdigit⟩
        rw [Nat.toDigits_of_base_le (by decide) hge, hd, List.cons_append]

/-- **Reading a natural number** inverts writing it. -/
lemma readNat_toDigits (n : ℕ) (hr : Ended r) :
    readNat (Nat.toDigits 10 n ++ r) = some (n, r) := by
  rcases Nat.eq_zero_or_pos n with rfl | hpos
  · rfl
  · obtain ⟨d, ds, hd, hzero, hdigit⟩ := toDigits_eq_cons hpos
    have hds : ∀ c ∈ Nat.toDigits 10 n, c.isDigit = true := fun c hc =>
      Nat.isDigit_of_mem_toDigits (by decide) (by decide) hc
    obtain ⟨htake, hdrop⟩ := span_digits hds hr
    rw [hd, List.cons_append] at htake hdrop ⊢
    rw [readNat, if_neg hzero, if_pos hdigit, htake, hdrop, ← hd, Nat.ofDigitChars_ten_toDigits]

/-- **Reading a number after its sign** inverts writing its parts. -/
lemma readUnsigned_parts (negative : Bool) (n : ℕ) (fraction : Option Digits)
    (exponent : Option (Bool × Digits)) (hr : NumberEnded r) :
    readUnsigned negative
        (Nat.toDigits 10 n ++ (encodeFraction fraction ++ (encodeExponent exponent ++ r))) =
      if h : (fraction.isSome || exponent.isSome) = true then
        some (.float ⟨negative, n, fraction, exponent, h⟩, r)
      else some (.int (if negative then -(n : ℤ) else n), r) := by
  obtain ⟨hended, hpoint⟩ := ended_exponent exponent hr
  have hnat := readNat_toDigits n (ended_fraction fraction exponent hr)
  have hfraction := readFraction_encode fraction hended hpoint
  have hexponent := readExponent_encode exponent hr
  unfold readUnsigned
  rw [hnat, Option.bind_eq_bind, Option.bind_some]
  simp only [hfraction, hexponent]

/-- A number does not start with a sign of its own. -/
lemma readNumber_toDigits (n : ℕ) (r : List Char) :
    readNumber (Nat.toDigits 10 n ++ r) = readUnsigned false (Nat.toDigits 10 n ++ r) := by
  have hminus : ∀ rest, Nat.toDigits 10 n ++ r ≠ '-' :: rest := by
    intro rest heq
    have hdigit : ∀ c ∈ Nat.toDigits 10 n, c.isDigit = true := fun c hc =>
      Nat.isDigit_of_mem_toDigits (by decide) (by decide) hc
    cases hd : Nat.toDigits 10 n with
    | nil => exact absurd (congrArg List.length hd) (Nat.ne_of_gt Nat.length_toDigits_pos)
    | cons d ds =>
        rw [hd] at heq hdigit
        have hsign := hdigit d List.mem_cons_self
        rw [(List.cons.inj heq).1] at hsign
        exact absurd hsign (by decide)
  rw [readNumber]
  exact hminus

/-- **Reading an integer** inverts writing it. -/
lemma readNumber_encodeInt (i : ℤ) (hr : NumberEnded r) :
    readNumber (encodeInt i ++ r) = some (.int i, r) := by
  cases i with
  | negSucc n => exact readUnsigned_parts true (n + 1) none none hr
  | ofNat n =>
      rw [encodeInt, readNumber_toDigits]
      exact readUnsigned_parts false n none none hr

/-- **Reading a number with a fraction or an exponent** inverts writing it. -/
lemma readNumber_encode (x : Decimal) (hr : NumberEnded r) :
    readNumber (x.encode ++ r) = some (.float x, r) := by
  obtain ⟨negative, whole, fraction, exponent, hparts⟩ := x
  have hread := readUnsigned_parts negative whole fraction exponent hr
  rw [dif_pos hparts] at hread
  rw [Decimal.encode]
  simp only [List.append_assoc]
  cases negative with
  | true => exact hread
  | false =>
      rw [if_neg (by simp), List.nil_append, readNumber_toDigits]
      exact hread

/-! ## Reading back a value -/

variable (compact : Bool)

lemma skipBlank_cons {c : Char} (h : isBlank c = false) (cs : List Char) :
    skipBlank (c :: cs) = c :: cs := by
  rw [skipBlank, List.dropWhile_cons_of_neg (by rw [h]; exact Bool.false_ne_true)]

lemma skipBlank_gap (cs : List Char) : skipBlank (gap compact ++ cs) = skipBlank cs := by
  cases compact with
  | true => rfl
  | false => rfl

/-- A digit or a sign starts a number. -/
lemma readValue_number {fuel : ℕ} {c : Char} (hc : c = '-' ∨ c.isDigit = true)
    (cs : List Char) : readValue (fuel + 1) (c :: cs) = readNumber (c :: cs) := by
  have hne : ∀ d ∈ ['"', '[', '{', 'n', 't', 'f'], c ≠ d := by
    rintro d hd rfl
    rcases hc with rfl | hdigit
    · exact absurd hd (by decide)
    · have all : ∀ d ∈ ['"', '[', '{', 'n', 't', 'f'], d.isDigit = false := by
        simp only [List.mem_cons, List.not_mem_nil, or_false, forall_eq_or_imp, forall_eq]
        decide
      exact absurd (hdigit.symm.trans (all c hd)) (by decide)
  simp only [List.mem_cons, List.not_mem_nil, or_false, forall_eq_or_imp, forall_eq] at hne
  rw [readValue]
  -- none of the other patterns starts with this character
  all_goals simp [hne]

lemma toDigits_head (n : ℕ) :
    ∃ c cs, Nat.toDigits 10 n = c :: cs ∧ c.isDigit = true := by
  cases hd : Nat.toDigits 10 n with
  | nil => exact absurd (congrArg List.length hd) (Nat.ne_of_gt Nat.length_toDigits_pos)
  | cons d ds =>
      refine ⟨d, ds, rfl, ?_⟩
      refine Nat.isDigit_of_mem_toDigits (b := 10) (by decide) (by decide) (n := n) ?_
      rw [hd]
      exact List.mem_cons_self

/-- An integer's text starts with a digit or a sign. -/
lemma encodeInt_eq_cons (i : ℤ) :
    ∃ c cs, encodeInt i = c :: cs ∧ (c = '-' ∨ c.isDigit = true) := by
  cases i with
  | negSucc n => exact ⟨_, _, rfl, Or.inl rfl⟩
  | ofNat n =>
      obtain ⟨c, cs, hcs, hc⟩ := toDigits_head n
      exact ⟨c, cs, hcs, Or.inr hc⟩

/-- So does the text of any other number. -/
lemma encodeDecimal_eq_cons (x : Decimal) :
    ∃ c cs, x.encode = c :: cs ∧ (c = '-' ∨ c.isDigit = true) := by
  unfold Decimal.encode
  cases x.negative with
  | true => exact ⟨_, _, rfl, Or.inl rfl⟩
  | false =>
      obtain ⟨c, cs, hcs, hc⟩ := toDigits_head x.whole
      refine ⟨c, cs ++ (encodeFraction x.fraction ++ encodeExponent x.exponent), ?_, Or.inr hc⟩
      rw [hcs, if_neg (by simp), List.nil_append, List.cons_append]

/-- Neither a digit nor a sign is a blank or a closing bracket. -/
lemma start_of_number {c : Char} (hc : c = '-' ∨ c.isDigit = true) :
    isBlank c = false ∧ c ≠ ']' := by
  rcases hc with rfl | hdigit
  · exact ⟨by decide, by decide⟩
  · have hne : ∀ d : Char, d.isDigit = false → c ≠ d := by
      rintro d hd rfl
      exact absurd (hdigit.symm.trans hd) (by decide)
    have hblank : isBlank c = false := by
      simp [isBlank, hne ' ' (by decide), hne '\t' (by decide), hne '\n' (by decide),
        hne '\r' (by decide)]
    exact ⟨hblank, hne ']' (by decide)⟩

/-- A value's text starts with neither a blank nor a closing bracket. -/
lemma encode_eq_cons (j : Json) :
    ∃ c cs, encode compact j = c :: cs ∧ isBlank c = false ∧ c ≠ ']' := by
  match j with
  | .null => exact ⟨_, _, rfl, by decide, by decide⟩
  | .bool true => exact ⟨_, _, rfl, by decide, by decide⟩
  | .bool false => exact ⟨_, _, rfl, by decide, by decide⟩
  | .str s => exact ⟨_, _, rfl, by decide, by decide⟩
  | .list [] => exact ⟨_, _, rfl, by decide, by decide⟩
  | .list (x :: xs) => exact ⟨_, _, rfl, by decide, by decide⟩
  | .dict [] => exact ⟨_, _, rfl, by decide, by decide⟩
  | .dict ((k, v) :: ms) => exact ⟨_, _, rfl, by decide, by decide⟩
  | .int i =>
      obtain ⟨c, cs, hcs, hc⟩ := encodeInt_eq_cons i
      exact ⟨c, cs, hcs, start_of_number hc⟩
  | .float x =>
      obtain ⟨c, cs, hcs, hc⟩ := encodeDecimal_eq_cons x
      exact ⟨c, cs, hcs, start_of_number hc⟩

lemma skipBlank_encode (j : Json) :
    skipBlank (encode compact j ++ r) = encode compact j ++ r := by
  obtain ⟨c, cs, hcs, hblank, -⟩ := encode_eq_cons compact j
  rw [hcs, List.cons_append, skipBlank_cons hblank]

/-- **Reading a key** inverts writing it. -/
lemma readKey_encode (k : String) (v : Json) :
    readKey (encodeString k ++ ':' :: (gap compact ++ (encode compact v ++ r))) =
      some (k, encode compact v ++ r) := by
  rw [encodeString, List.cons_append, List.append_assoc, List.singleton_append, readKey,
    readString_flatMap, Option.bind_eq_bind, Option.bind_some]
  have hcolon : ∀ cs, skipBlank (':' :: cs) = ':' :: cs := skipBlank_cons (by decide)
  simp only [hcolon, skipBlank_gap, skipBlank_encode]

lemma ended_encodeItems (xs : List Json) : NumberEnded (encodeItems compact xs ++ r) := by
  cases xs with
  | nil => exact numberEnded_cons (by decide) _
  | cons x xs => exact numberEnded_cons (by decide) _

lemma ended_encodeMembers (ms : List (String × Json)) :
    NumberEnded (encodeMembers compact ms ++ r) := by
  match ms with
  | [] => exact numberEnded_cons (by decide) _
  | (k, v) :: ms => exact numberEnded_cons (by decide) _

mutual

/-- **Reading a value** inverts writing it. -/
theorem readValue_encode (j : Json) {fuel : ℕ} {r : List Char}
    (h : (encode compact j).length ≤ fuel) (hr : NumberEnded r) :
    readValue fuel (encode compact j ++ r) = some (j, r) := by
  obtain ⟨c, cs, hcs, -, hbracket⟩ := encode_eq_cons compact j
  obtain ⟨fuel, rfl⟩ : ∃ n, fuel = n + 1 :=
    Nat.exists_eq_add_one_of_ne_zero (by rw [hcs, List.length_cons] at h; omega)
  match j with
  | .null => rfl
  | .bool true => rfl
  | .bool false => rfl
  | .str s =>
      rw [encode, encodeString, List.cons_append, List.append_assoc, List.singleton_append,
        readValue, readString_flatMap]
      rfl
  | .int i =>
      obtain ⟨d, ds, hds, hd⟩ := encodeInt_eq_cons i
      have hint := readNumber_encodeInt i hr
      rw [encode]
      rw [hds, List.cons_append] at hint ⊢
      rw [readValue_number hd, hint]
  | .float x =>
      obtain ⟨d, ds, hds, hd⟩ := encodeDecimal_eq_cons x
      have hfloat := readNumber_encode x hr
      rw [encode]
      rw [hds, List.cons_append] at hfloat ⊢
      rw [readValue_number hd, hfloat]
  | .list [] => rfl
  | .dict [] => rfl
  | .list (x :: xs) =>
      rw [encode, List.length_cons, List.length_append] at h
      have hx : readValue fuel (encode compact x ++ (encodeItems compact xs ++ r)) =
          some (x, encodeItems compact xs ++ r) :=
        readValue_encode x (by omega) (ended_encodeItems compact xs)
      have hxs : readItems fuel (encodeItems compact xs ++ r) = some (xs, r) :=
        readItems_encode xs (by omega)
      obtain ⟨d, ds, hds, hblank, hclose⟩ := encode_eq_cons compact x
      rw [encode, List.cons_append, List.append_assoc]
      rw [hds, List.cons_append] at hx ⊢
      rw [readValue, skipBlank_cons hblank]
      simp only [if_neg hclose, hx, hxs, Option.bind_eq_bind, Option.bind_some]
  | .dict ((k, v) :: ms) =>
      rw [encode, List.length_cons, List.length_append, List.length_cons, List.length_append,
        List.length_append] at h
      have hv : readValue fuel (encode compact v ++ (encodeMembers compact ms ++ r)) =
          some (v, encodeMembers compact ms ++ r) :=
        readValue_encode v (by omega) (ended_encodeMembers compact ms)
      have hms : readMembers fuel (encodeMembers compact ms ++ r) = some (ms, r) :=
        readMembers_encode ms (by omega)
      have hk := @readKey_encode (encodeMembers compact ms ++ r) compact k v
      rw [encode, List.cons_append, List.append_assoc, List.cons_append, List.append_assoc,
        List.append_assoc]
      rw [encodeString, List.cons_append] at hk ⊢
      rw [readValue, skipBlank_cons (by decide)]
      simp only [hk, hv, hms, Option.bind_eq_bind, Option.bind_some]
      rfl

/-- Reading the items after one item inverts writing them. -/
theorem readItems_encode (xs : List Json) {fuel : ℕ} {r : List Char}
    (h : (encodeItems compact xs).length ≤ fuel) :
    readItems fuel (encodeItems compact xs ++ r) = some (xs, r) := by
  match xs with
  | [] =>
      obtain ⟨fuel, rfl⟩ := Nat.exists_eq_add_one_of_ne_zero (Nat.ne_of_gt h)
      rfl
  | x :: xs =>
      rw [encodeItems, List.length_cons, List.length_append, List.length_append] at h
      obtain ⟨fuel, rfl⟩ : ∃ n, fuel = n + 1 := Nat.exists_eq_add_one_of_ne_zero (by omega)
      have hx : readValue fuel (encode compact x ++ (encodeItems compact xs ++ r)) =
          some (x, encodeItems compact xs ++ r) :=
        readValue_encode x (by omega) (ended_encodeItems compact xs)
      have hxs : readItems fuel (encodeItems compact xs ++ r) = some (xs, r) :=
        readItems_encode xs (by omega)
      rw [encodeItems, List.cons_append, List.append_assoc, List.append_assoc, readItems,
        skipBlank_cons (by decide)]
      simp only [skipBlank_gap, skipBlank_encode, hx, hxs, Option.bind_eq_bind, Option.bind_some]

/-- Reading the members after one member inverts writing them. -/
theorem readMembers_encode (ms : List (String × Json)) {fuel : ℕ} {r : List Char}
    (h : (encodeMembers compact ms).length ≤ fuel) :
    readMembers fuel (encodeMembers compact ms ++ r) = some (ms, r) := by
  match ms with
  | [] =>
      obtain ⟨fuel, rfl⟩ := Nat.exists_eq_add_one_of_ne_zero (Nat.ne_of_gt h)
      rfl
  | (k, v) :: ms =>
      rw [encodeMembers, List.length_cons, List.length_append, List.length_append,
        List.length_cons, List.length_append, List.length_append] at h
      obtain ⟨fuel, rfl⟩ : ∃ n, fuel = n + 1 := Nat.exists_eq_add_one_of_ne_zero (by omega)
      have hv : readValue fuel (encode compact v ++ (encodeMembers compact ms ++ r)) =
          some (v, encodeMembers compact ms ++ r) :=
        readValue_encode v (by omega) (ended_encodeMembers compact ms)
      have hms : readMembers fuel (encodeMembers compact ms ++ r) = some (ms, r) :=
        readMembers_encode ms (by omega)
      have hk := @readKey_encode (encodeMembers compact ms ++ r) compact k v
      have hkey : skipBlank (encodeString k ++ ':' :: (gap compact ++ (encode compact v ++
          (encodeMembers compact ms ++ r)))) = encodeString k ++ ':' :: (gap compact ++
          (encode compact v ++ (encodeMembers compact ms ++ r))) := by
        rw [encodeString, List.cons_append, skipBlank_cons (by decide)]
      rw [encodeMembers, List.cons_append, List.append_assoc, List.append_assoc,
        List.cons_append, List.append_assoc, List.append_assoc, readMembers,
        skipBlank_cons (by decide)]
      simp only [skipBlank_gap, hkey, hk, hv, hms, Option.bind_eq_bind, Option.bind_some]

end

/-! ## Texts -/

/-- **Parsing inverts writing**, whatever the separators. -/
theorem parse_dumps (compact : Bool) (j : Json) : parse (dumps compact j) = some j := by
  have hread := readValue_encode compact j (le_refl _) numberEnded_nil
  have hskip := @skipBlank_encode [] compact j
  rw [List.append_nil] at hread hskip
  rw [parse, dumps, String.length_ofList, String.toList_ofList, hskip, hread]
  rfl

/-- **The text determines the value.** -/
theorem dumps_injective {compact : Bool} {j j' : Json} (h : dumps compact j = dumps compact j') :
    j = j' := by
  have hparse := parse_dumps compact j
  rw [h, parse_dumps] at hparse
  exact (Option.some.inj hparse).symm

/-- **Loading inverts writing** when no dictionary repeats a key. -/
theorem loads_dumps (compact : Bool) {j : Json} (h : Distinct j) :
    loads (dumps compact j) = some j := by
  rw [loads, parse_dumps, Option.map_some, asDicts_of_distinct h]

/-! ## The characters of a text -/

/-- A printable character of ASCII. -/
def IsPrintable (c : Char) : Prop := 0x20 ≤ c.toNat ∧ c.toNat ≤ 0x7e

/-- Every character of the list is printable. -/
abbrev Printable (cs : List Char) : Prop := ∀ c ∈ cs, IsPrintable c

instance (c : Char) : Decidable (IsPrintable c) := inferInstanceAs (Decidable (_ ∧ _))

-- decided along the list: there are finitely many characters, but too many to go through
instance (cs : List Char) : Decidable (Printable cs) := List.decidableBAll IsPrintable cs

lemma Printable.append {cs ds : List Char} (hc : Printable cs) (hd : Printable ds) :
    Printable (cs ++ ds) := fun c h => (List.mem_append.mp h).elim (hc c) (hd c)

lemma Printable.cons {c : Char} {cs : List Char} (hc : IsPrintable c) (hcs : Printable cs) :
    Printable (c :: cs) := List.forall_mem_cons.mpr ⟨hc, hcs⟩

lemma printable_hex4 (n : ℕ) : Printable (hex4 n) := by
  have hdigit : ∀ m < 16, IsPrintable (Nat.digitChar m) := by decide
  intro c hc
  simp only [hex4, List.mem_cons, List.not_mem_nil, or_false] at hc
  rcases hc with rfl | rfl | rfl | rfl <;> exact hdigit _ (Nat.mod_lt _ (by decide))

lemma printable_escapeUnit (n : ℕ) : Printable (escapeUnit n) :=
  .cons (by decide) (.cons (by decide) (printable_hex4 n))

/-- A character is written with printable ones. -/
lemma printable_escape (c : Char) : Printable (escape c) := by
  have hshort : ∀ p ∈ shortEscapes, Printable p.2 := by decide
  have hescaped := escaped_escape c
  generalize escape c = ds at hescaped ⊢
  cases hescaped with
  | short _ listed => exact hshort _ listed
  | plain _ _ printable => exact .cons printable nofun
  | unit _ => exact printable_escapeUnit _
  | pair _ => exact (printable_escapeUnit _).append (printable_escapeUnit _)

lemma printable_encodeString (s : String) : Printable (encodeString s) := by
  refine .cons (by decide) (.append ?_ (by decide))
  intro c hc
  obtain ⟨d, -, hc⟩ := List.mem_flatMap.mp hc
  exact printable_escape d c hc

lemma printable_digits {ds : List Char} (h : ∀ d ∈ ds, d.isDigit = true) : Printable ds := by
  intro c hc
  have hdigit : c.isDigit = true := h c hc
  rw [Char.isDigit, Bool.and_eq_true, decide_eq_true_eq, decide_eq_true_eq] at hdigit
  have hlower : '0'.toNat ≤ c.toNat := hdigit.1
  have hupper : c.toNat ≤ '9'.toNat := hdigit.2
  have hbounds : '0'.toNat = 0x30 ∧ '9'.toNat = 0x39 := by decide
  unfold IsPrintable
  omega

lemma printable_toDigits (n : ℕ) : Printable (Nat.toDigits 10 n) :=
  printable_digits fun _ hd => Nat.isDigit_of_mem_toDigits (by decide) (by decide) hd

lemma printable_encodeDecimal (x : Decimal) : Printable x.encode := by
  have hsign : Printable (if x.negative then ['-'] else []) := by
    cases x.negative with
    | true => decide
    | false => exact nofun
  have hfraction : Printable (encodeFraction x.fraction) := by
    cases x.fraction with
    | none => exact nofun
    | some ds => exact .cons (by decide) (printable_digits ds.all_digits)
  have hexponent : Printable (encodeExponent x.exponent) := by
    rcases x.exponent with _ | ⟨negative, ds⟩
    · exact nofun
    · refine .cons (by decide) (.cons ?_ (printable_digits ds.all_digits))
      cases negative <;> decide
  exact hsign.append ((printable_toDigits x.whole).append (hfraction.append hexponent))

lemma printable_encodeInt (i : ℤ) : Printable (encodeInt i) := by
  cases i with
  | ofNat n => exact printable_toDigits n
  | negSucc n => exact .cons (by decide) (printable_toDigits (n + 1))

lemma printable_gap : Printable (gap compact) := by
  cases compact with
  | true => exact nofun
  | false => decide

mutual

/-- **A value is written with printable characters**, whatever its strings hold. -/
theorem printable_encode (j : Json) : Printable (encode compact j) := by
  match j with
  | .null => rw [encode]; decide
  | .bool true => rw [encode]; decide
  | .bool false => rw [encode]; decide
  | .int i => rw [encode]; exact printable_encodeInt i
  | .float x => rw [encode]; exact printable_encodeDecimal x
  | .str s => rw [encode]; exact printable_encodeString s
  | .list [] => rw [encode]; decide
  | .list (x :: xs) =>
      rw [encode]
      exact .cons (by decide) ((printable_encode x).append (printable_encodeItems xs))
  | .dict [] => rw [encode]; decide
  | .dict ((k, v) :: ms) =>
      rw [encode]
      exact .cons (by decide) ((printable_encodeString k).append (.cons (by decide)
        ((printable_gap compact).append ((printable_encode v).append
          (printable_encodeMembers ms)))))

theorem printable_encodeItems (xs : List Json) : Printable (encodeItems compact xs) := by
  match xs with
  | [] => rw [encodeItems]; decide
  | x :: xs =>
      rw [encodeItems]
      exact .cons (by decide) ((printable_gap compact).append
        ((printable_encode x).append (printable_encodeItems xs)))

theorem printable_encodeMembers (ms : List (String × Json)) :
    Printable (encodeMembers compact ms) := by
  match ms with
  | [] => rw [encodeMembers]; decide
  | (k, v) :: ms =>
      rw [encodeMembers]
      exact .cons (by decide) ((printable_gap compact).append
        ((printable_encodeString k).append (.cons (by decide) ((printable_gap compact).append
          ((printable_encode v).append (printable_encodeMembers ms))))))

end

end Json
