import Mathlib.Data.Int.Notation
import Mathlib.Data.List.Sort
import Mathlib.Data.Nat.Notation
import Waywarden.Lib.Decimal
import Waywarden.Lib.Effect
import Waywarden.Lib.KeyedTable
import Waywarden.Lib.Trim

/-!
# Texts, values, instants and errors shared by the domain models

Every domain record of `waywarden.domain` checks its text fields with the same helper,
`_require_non_empty_text`: the value is stripped and must not be blank.  `Text` is the subtype
of the strings that helper returns, so a record holding a `Text` cannot hold a blank or padded
identifier, and the check itself is `requireNonEmptyText`.

Strings are Lean strings (Unicode scalar values), instants are integers on the UTC line, and an
exception is its class with the message template and the values formatted into it.
-/

namespace Waywarden

/-! ## Exceptions -/

/-- The exception classes the modelled code raises. -/
inductive ErrorClass
  | valueError
  | runtimeError
  | keyError
  | assertionError
  | fileNotFoundError
  | integrityError
  | terminalRunStateError
  | runAlreadyTerminalError
  | invalidResumeKindError
  | approvalAlreadyResolvedError
  | delegationWideningError
  | typeError
  | jsonDecodeError
  | manifestChangedWithoutRevisionError
  | crossRunCheckpointError
  | httpException
  | unknownModelProviderError
  | missingRunIdError
  | dataError
  | attributeError
  | filterError
  deriving DecidableEq, Repr

/-- A raised exception.  `text` is the message of the source with `%` in place of each
formatted value, and `values` lists those values in order. -/
structure PyError where
  cls : ErrorClass
  text : String
  values : List String := []
  deriving DecidableEq, Repr

/-- `sorted(names)`, as a message shows it: names in single quotes, here without the escapes of
`repr`. -/
def formatSorted (names : List String) : String :=
  "[" ++ ", ".intercalate ((names.insertionSort (· ≤ ·)).map fun name => "'" ++ name ++ "'") ++ "]"

/-! ## Stripped, non-blank text -/

/-- `str.isspace` on one character: the whitespace code points of Python's `str.strip`. -/
def isSpace (c : Char) : Bool :=
  [0x09, 0x0a, 0x0b, 0x0c, 0x0d, 0x1c, 0x1d, 0x1e, 0x1f, 0x20, 0x85, 0xa0, 0x1680, 0x2000,
    0x2001, 0x2002, 0x2003, 0x2004, 0x2005, 0x2006, 0x2007, 0x2008, 0x2009, 0x200a, 0x2028,
    0x2029, 0x202f, 0x205f, 0x3000].contains c.toNat

/-- Only the ASCII capitals change. -/
lemma toLower_eq_or (c : Char) :
    c.toLower = c ∨ 65 ≤ c.toNat ∧ c.toNat ≤ 90 ∧ c.toLower.toNat = c.toNat + 32 := by
  unfold Char.toLower
  split
  · rename_i h
    have hrange : 65 ≤ c.val.toNat ∧ c.val.toNat ≤ 90 := h
    refine Or.inr ⟨hrange.1, hrange.2, ?_⟩
    show (c.val + 32).toNat = c.val.toNat + 32
    rw [UInt32.toNat_add]
    have h32 : (32 : UInt32).toNat = 32 := rfl
    omega
  · exact Or.inl rfl

lemma isSpace_toLower (c : Char) : isSpace c.toLower = isSpace c := by
  rcases toLower_eq_or c with h | ⟨hleast, hmost, hlower⟩
  · rw [h]
  · unfold isSpace
    rw [hlower]
    simp only [List.contains_eq_mem, List.mem_cons, List.not_mem_nil, or_false]
    congr 1
    rw [eq_iff_iff]
    omega

lemma toLower_toLower (c : Char) : c.toLower.toLower = c.toLower := by
  rcases toLower_eq_or c with h | ⟨hleast, hmost, hlower⟩
  · rw [h, h]
  · rcases toLower_eq_or c.toLower with h | h
    · exact h
    · omega

/-- `str.strip` without an argument. -/
def strip (s : String) : String := String.ofList (Trim.trim isSpace s.toList)

@[simp] lemma strip_strip (s : String) : strip (strip s) = strip s := by
  rw [strip, strip, String.toList_ofList, Trim.trim_trim]

/-- A string without a space is stripped already. -/
lemma strip_of_forall {s : String} (h : ∀ c ∈ s.toList, isSpace c = false) : strip s = s := by
  rw [← String.toList_inj, strip, String.toList_ofList, Trim.trim_eq_self_iff]
  exact ⟨fun c hc => h c (List.mem_of_mem_head? hc), fun c hc => h c (List.mem_of_getLast? hc)⟩

/-- A string with a character that is no space does not strip to nothing. -/
lemma strip_ne_empty {s : String} {c : Char} (hc : c ∈ s.toList) (hspace : isSpace c = false) :
    strip s ≠ "" := by
  intro h
  have hnil : Trim.trim isSpace s.toList = [] := by
    rw [← String.toList_inj, strip, String.toList_ofList] at h
    exact h
  exact absurd ((Trim.trim_eq_nil_iff isSpace).mp hnil c hc) (by simp [hspace])

/-- A string `_require_non_empty_text` returns: stripped and not blank. -/
def Text : Type := {s : String // strip s = s ∧ s ≠ ""}

/-- A text written out; that it is stripped and not blank is computed. -/
def Text.lit (s : String) (h : strip s = s ∧ s ≠ "" := by decide +kernel) : Text := ⟨s, h⟩

instance : DecidableEq Text := inferInstanceAs (DecidableEq {s : String // strip s = s ∧ s ≠ ""})

instance : Repr Text := ⟨fun t => reprPrec t.val⟩

instance : Coe Text String := ⟨fun t => t.val⟩

/-- `_require_non_empty_text`. -/
def requireNonEmptyText (value fieldName : String) : Except PyError Text :=
  if h : strip value = "" then
    .error ⟨.valueError, "% must not be blank", [fieldName]⟩
  else
    .ok ⟨strip value, strip_strip value, h⟩

/-- The optional form: a missing value is passed through. -/
def requireOptionalText (value : Option String) (fieldName : String) :
    Except PyError (Option Text) :=
  match value with
  | none => .ok none
  | some v => (requireNonEmptyText v fieldName).map some

/-- A text passes its own check unchanged. -/
@[simp] lemma requireNonEmptyText_val (t : Text) (fieldName : String) :
    requireNonEmptyText t.val fieldName = .ok t := by
  have hne : strip t.val ≠ "" := by rw [t.property.1]; exact t.property.2
  rw [requireNonEmptyText, dif_neg hne]
  exact congrArg Except.ok (Subtype.ext t.property.1)

@[simp] lemma requireOptionalText_map_val (t : Option Text) (fieldName : String) :
    requireOptionalText (t.map Subtype.val) fieldName = .ok t := by
  cases t with
  | none => rfl
  | some t =>
      show (requireNonEmptyText t.val fieldName).map some = _
      rw [requireNonEmptyText_val]
      rfl

/-- What the check returns is the stripped value. -/
lemma val_of_requireNonEmptyText {value fieldName : String} {t : Text}
    (h : requireNonEmptyText value fieldName = .ok t) : t.val = strip value := by
  rw [requireNonEmptyText] at h
  split at h
  · exact absurd h (by simp)
  · exact (congrArg Subtype.val (Except.ok.inj h)).symm

/-- Two texts laid end to end make a text. -/
lemma strip_append (a b : Text) : strip (a.val ++ b.val) = a.val ++ b.val := by
  have fixed : ∀ t : Text, Trim.trim isSpace t.val.toList = t.val.toList := by
    intro t
    have h := t.property.1
    rwa [← String.toList_inj, strip, String.toList_ofList] at h
  have nonempty : ∀ t : Text, t.val.toList ≠ [] := by
    intro t hnil
    exact t.property.2 (String.toList_inj.mp (by rw [hnil]; rfl))
  rw [← String.toList_inj, strip, String.toList_ofList, String.toList_append]
  exact Trim.trim_append isSpace (fixed a) (fixed b) (nonempty a) (nonempty b)

/-- The concatenation of two texts. -/
def Text.append (a b : Text) : Text :=
  ⟨a.val ++ b.val, strip_append a b, by
    intro h
    have : a.val.toList ++ b.val.toList = [] := by rw [← String.toList_append, h]; rfl
    exact a.property.2 (String.toList_inj.mp (List.append_eq_nil_iff.mp this).1)⟩

/-- `value or default` on an optional string: the empty string counts as missing. -/
def orDefault (value : Option String) (default : String) : String :=
  match value with
  | none => default
  | some v => if v = "" then default else v

/-! ## Instants -/

/-- An instant on the UTC line. -/
abbrev Timestamp : Type := ℤ

/-- A caller's `datetime`: aware of its time zone, or naive. -/
inductive PyDatetime
  | aware (utc : Timestamp)
  | naive (wall : ℤ)
  deriving DecidableEq, Repr

/-- `_normalize_utc_datetime`. -/
def normalizeUtcDatetime (value : PyDatetime) (fieldName : String) : Except PyError Timestamp :=
  match value with
  | .aware utc => .ok utc
  | .naive _ => .error ⟨.valueError, "% must be timezone-aware", [fieldName]⟩

/-- The optional form: a missing instant is passed through. -/
def normalizeOptionalUtcDatetime (value : Option PyDatetime) (fieldName : String) :
    Except PyError (Option Timestamp) :=
  match value with
  | none => .ok none
  | some v => (normalizeUtcDatetime v fieldName).map some

/-- What one call reads from outside the store: its `i`-th reading of the clock and its `i`-th
random identifier. -/
structure Env where
  now : ℕ → Timestamp
  uuid4 : ℕ → String

/-- The readings of the clock that come after the first `n`. -/
def Env.later (env : Env) (n : ℕ) : Env := { env with now := fun i => env.now (n + i) }

/-- A clock that stands still, for concrete runs. -/
def stillEnv : Env := ⟨fun _ => 0, fun _ => "00000000000000000000000000000000"⟩

/-- A sequence number is positive. -/
lemma one_le_seq (seq : {n : ℕ // 1 ≤ n}) : 1 ≤ seq.val := seq.property

/-! ## JSON-like values -/

/-- A value in an event payload or a tool-call mapping. -/
inductive Value
  | null
  | bool (b : Bool)
  | int (i : ℤ)
  | float (x : Decimal)
  | str (s : String)
  | list (xs : List Value)
  | tuple (xs : List Value)
  | dict (items : List (String × Value))

/-- Python truth of a value. -/
def Value.truthy : Value → Bool
  | .null => false
  | .bool b => b
  | .int i => i != 0
  | .float x => !x.isZero
  | .str s => s != ""
  | .list xs | .tuple xs => !xs.isEmpty
  | .dict items => !items.isEmpty

/-- A `dict[str, object]`, in insertion order. -/
abbrev Mapping : Type := List (String × Value)

/-- `mapping.get(key)`. -/
def Mapping.get (m : Mapping) (key : String) : Option Value :=
  (m.find? (fun kv => kv.1 == key)).map Prod.snd

/-- `mapping.update(other)`: a key of `other` takes its value from there. -/
def Mapping.update (m other : Mapping) : Mapping :=
  other.foldl (fun m item => KeyedTable.upsert Prod.fst item m) m

/-- A key of the other mapping is read there, and any other key as before. -/
lemma Mapping.get_update {m other : Mapping} (hkeys : (other.map Prod.fst).Nodup) (key : String) :
    (m.update other).get key = (other.get key).or (m.get key) := by
  have hget : ∀ m : Mapping, m.get key = (KeyedTable.get Prod.fst key m).map Prod.snd := by
    intro m
    simp only [Mapping.get, KeyedTable.get, beq_eq_decide]
  rw [hget, hget, hget, Mapping.update, KeyedTable.get_foldl_upsert,
    ← KeyedTable.get_reverse hkeys, ← Option.map_or]
  rfl

end Waywarden
