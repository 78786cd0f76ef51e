import Mathlib.Tactic.Common
import Mathlib.Data.Nat.Notation
import Mathlib.Data.List.TakeWhile

/-!
# Floating-point numbers by their decimal notation

A finite floating-point number is kept as the text it is printed as: the digits before the point,
those after it, and an exponent with its sign.  At least one of the latter two is there, which is
what tells the number from an integer.  Nothing is computed with such a number; it is carried from
one place to another and compared with zero.
-/

/-- A nonempty row of decimal digits. -/
structure Digits where
  digits : List Char
  nonempty : digits ≠ []
  all_digits : ∀ d ∈ digits, d.isDigit = true
  deriving DecidableEq, Repr

/-- A number in decimal notation with a fraction or an exponent. -/
structure Decimal where
  negative : Bool
  whole : ℕ
  fraction : Option Digits
  exponent : Option (Bool × Digits)
  not_integer : (fraction.isSome || exponent.isSome) = true
  deriving DecidableEq, Repr

namespace Decimal

/-- Whether all digits of the number are zero, whatever its exponent. -/
def isZero (x : Decimal) : Bool :=
  x.whole == 0 && x.fraction.all fun ds => ds.digits.all (· == '0')

/-- The point and the digits after it. -/
def encodeFraction : Option Digits → List Char
  | none => []
  | some ds => '.' :: ds.digits

/-- The exponent with its sign. -/
def encodeExponent : Option (Bool × Digits) → List Char
  | none => []
  | some (negative, ds) => 'e' :: (if negative then '-' else '+') :: ds.digits

/-- The text of the number. -/
def encode (x : Decimal) : List Char :=
  (if x.negative then ['-'] else []) ++ (Nat.toDigits 10 x.whole ++
    (encodeFraction x.fraction ++ encodeExponent x.exponent))

/-- The digits at the start of a text, if there are any. -/
def readDigits (cs : List Char) : Option (Digits × List Char) :=
  if h : cs.takeWhile Char.isDigit = [] then none
  else some (⟨cs.takeWhile Char.isDigit, h, fun _ hd => List.mem_takeWhile_imp hd⟩,
    cs.dropWhile Char.isDigit)

/-- The fraction at the start of a text, if there is one. -/
def readFraction : List Char → Option Digits × List Char
  | '.' :: cs =>
      match readDigits cs with
      | some (ds, rest) => (some ds, rest)
      | none => (none, '.' :: cs)
  | cs => (none, cs)

/-- The digits of an exponent, after its letter and an optional sign. -/
def readSigned : List Char → Option ((Bool × Digits) × List Char)
  | '-' :: cs => (readDigits cs).map fun p => ((true, p.1), p.2)
  | '+' :: cs => (readDigits cs).map fun p => ((false, p.1), p.2)
  | cs => (readDigits cs).map fun p => ((false, p.1), p.2)

/-- The exponent at the start of a text, if there is one. -/
def readExponent : List Char → Option (Bool × Digits) × List Char
  | [] => (none, [])
  | c :: cs =>
      if c = 'e' ∨ c = 'E' then
        match readSigned cs with
        | some (e, rest) => (some e, rest)
        | none => (none, c :: cs)
      else (none, c :: cs)

/-- A text does not go on with a digit. -/
def Ended (r : List Char) : Prop := ∀ c ∈ r.head?, c.isDigit = false

/-- A text goes on neither with a digit nor with another part of a number. -/
def NumberEnded (r : List Char) : Prop :=
  ∀ c ∈ r.head?, c.isDigit = false ∧ c ≠ '.' ∧ c ≠ 'e' ∧ c ≠ 'E'

variable {r : List Char}

lemma ended_cons {c : Char} (h : c.isDigit = false) (cs : List Char) : Ended (c :: cs) := by
  intro d hd
  obtain rfl := Option.some.inj hd
  exact h

lemma numberEnded_nil : NumberEnded [] := nofun

lemma numberEnded_cons {c : Char} (h : c.isDigit = false ∧ c ≠ '.' ∧ c ≠ 'e' ∧ c ≠ 'E')
    (cs : List Char) : NumberEnded (c :: cs) := by
  intro d hd
  obtain rfl := Option.some.inj hd
  exact h

lemma NumberEnded.ended (h : NumberEnded r) : Ended r := fun c hc => (h c hc).1

/-- Digits and what follows them are told apart by the first character that is no digit. -/
lemma span_digits {ds : List Char} (hds : ∀ d ∈ ds, d.isDigit = true) (hr : Ended r) :
    (ds ++ r).takeWhile Char.isDigit = ds ∧ (ds ++ r).dropWhile Char.isDigit = r := by
  rw [List.takeWhile_append_of_pos hds, List.dropWhile_append_of_pos hds]
  cases r with
  | nil => simp
  | cons c cs =>
      have hc : c.isDigit = false := hr c rfl
      simp [hc]

lemma readDigits_append (ds : Digits) (hr : Ended r) :
    readDigits (ds.digits ++ r) = some (ds, r) := by
  obtain ⟨htake, hdrop⟩ := span_digits ds.all_digits hr
  unfold readDigits
  rw [dif_neg (by rw [htake]; exact ds.nonempty)]
  simp only [htake, hdrop]

/-- **Reading a fraction** inverts writing it. -/
lemma readFraction_encode (fraction : Option Digits) (hr : Ended r)
    (hpoint : ∀ c ∈ r.head?, c ≠ '.') :
    readFraction (encodeFraction fraction ++ r) = (fraction, r) := by
  cases fraction with
  | some ds =>
      rw [encodeFraction, List.cons_append, readFraction, readDigits_append ds hr]
  | none =>
      rw [encodeFraction, List.nil_append]
      cases r with
      | nil => rfl
      | cons c cs =>
          have hc : c ≠ '.' := hpoint c rfl
          unfold readFraction
          split
          · rename_i heq
            exact absurd (List.cons.inj heq).1 hc
          · rfl

/-- **Reading an exponent** inverts writing it. -/
lemma readExponent_encode (exponent : Option (Bool × Digits)) (hr : NumberEnded r) :
    readExponent (encodeExponent exponent ++ r) = (exponent, r) := by
  cases exponent with
  | some e =>
      obtain ⟨negative, ds⟩ := e
      rw [encodeExponent, List.cons_append, List.cons_append, readExponent, if_pos (Or.inl rfl)]
      cases negative with
      | true => rw [if_pos rfl, readSigned, readDigits_append ds hr.ended]; rfl
      | false => rw [if_neg (by simp), readSigned, readDigits_append ds hr.ended]; rfl
  | none =>
      rw [encodeExponent, List.nil_append]
      cases r with
      | nil => rfl
      | cons c cs =>
          obtain ⟨-, -, he, hE⟩ := hr c rfl
          rw [readExponent, if_neg (not_or.mpr ⟨he, hE⟩)]

/-- An exponent ends the digits before it, and what follows does where there is none. -/
lemma ended_exponent (exponent : Option (Bool × Digits)) (hr : NumberEnded r) :
    Ended (encodeExponent exponent ++ r) ∧
      ∀ c ∈ (encodeExponent exponent ++ r).head?, c ≠ '.' := by
  cases exponent with
  | some e =>
      refine ⟨ended_cons (by decide) _, fun c hc => ?_⟩
      obtain rfl := Option.some.inj hc
      decide
  | none => exact ⟨hr.ended, fun c hc => (hr c hc).2.1⟩

/-- So do a fraction and an exponent. -/
lemma ended_fraction (fraction : Option Digits) (exponent : Option (Bool × Digits))
    (hr : NumberEnded r) : Ended (encodeFraction fraction ++ (encodeExponent exponent ++ r)) := by
  cases fraction with
  | some ds => exact ended_cons (by decide) _
  | none => exact (ended_exponent exponent hr).1

end Decimal
