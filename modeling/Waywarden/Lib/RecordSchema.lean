import Mathlib.Tactic.Common
import Waywarden.Lib.Effect
import Waywarden.Lib.KeyedTable

/-!
# Records read from named values

A `RecordSchema` reads a record from named values and writes it as a list of them.  Its law is that
a record is read back wherever each value it writes is found under its name; the combinators keep
the law, so a schema composed of them has it.

`parse` reads a whole table and refuses a name the schema does not know.  When the names are
distinct, it returns the record a table was written from (`parse_write`).
-/

/-- How a record is read from named values, and written as such. -/
structure RecordSchema (V ε α : Type) where
  names : List String
  read : (String → Option V) → Except ε α
  write : α → List (String × V)
  names_write : ∀ a, (write a).map Prod.fst = names
  read_write : ∀ a get, (∀ item ∈ write a, get item.1 = some item.2) → read get = .ok a

namespace RecordSchema

variable {V ε α β : Type}

/-! ## Combinators -/

/-- No values. -/
def empty : RecordSchema V ε Unit where
  names := []
  read _ := .ok ()
  write _ := []
  names_write _ := rfl
  read_write _ _ _ := rfl

/-- One value under a name. -/
def field (name : String) (read : Option V → Except ε α) (write : α → V)
    (h : ∀ a, read (some (write a)) = .ok a) : RecordSchema V ε α where
  names := [name]
  read get := read (get name)
  write a := [(name, write a)]
  names_write _ := rfl
  read_write a get hget := by
    rw [hget _ List.mem_cons_self]
    exact h a

/-- The values of one schema and then those of another. -/
def both (s : RecordSchema V ε α) (t : RecordSchema V ε β) : RecordSchema V ε (α × β) where
  names := s.names ++ t.names
  read get := do
    let a ← s.read get
    let b ← t.read get
    .ok (a, b)
  write r := s.write r.1 ++ t.write r.2
  names_write r := by rw [List.map_append, s.names_write, t.names_write]
  read_write r get hget := by
    rw [List.forall_mem_append] at hget
    rw [s.read_write r.1 get hget.1, t.read_write r.2 get hget.2]
    rfl

/-- The values of one schema and then those of another that depends on what was read. -/
def andThen {β : α → Type} (s : RecordSchema V ε α) (names : List String)
    (t : (a : α) → RecordSchema V ε (β a)) (h : ∀ a, (t a).names = names) :
    RecordSchema V ε ((a : α) × β a) where
  names := s.names ++ names
  read get := do
    let a ← s.read get
    let b ← (t a).read get
    .ok ⟨a, b⟩
  write r := s.write r.1 ++ (t r.1).write r.2
  names_write r := by rw [List.map_append, s.names_write, (t r.1).names_write, h]
  read_write r get hget := by
    rw [List.forall_mem_append] at hget
    rw [s.read_write r.1 get hget.1]
    simp only [bind, Except.bind, (t r.1).read_write r.2 get hget.2]

/-- A schema and a check of what it reads. -/
def refine (s : RecordSchema V ε α) (check : α → Except ε β) (back : β → α)
    (h : ∀ b, check (back b) = .ok b) : RecordSchema V ε β where
  names := s.names
  read get := s.read get >>= check
  write b := s.write (back b)
  names_write b := s.names_write (back b)
  read_write b get hget := by
    rw [s.read_write (back b) get hget]
    exact h b

/-- A schema in other words. -/
def as (s : RecordSchema V ε α) (forth : α → β) (back : β → α) (h : ∀ b, forth (back b) = b) :
    RecordSchema V ε β :=
  s.refine (fun a => .ok (forth a)) back fun b => congrArg Except.ok (h b)

variable {s : RecordSchema V ε α} {t : RecordSchema V ε β} {get : String → Option V}

/-! ## What a composed schema reads -/

lemma read_both_eq_ok {r : α × β} :
    (s.both t).read get = .ok r ↔ s.read get = .ok r.1 ∧ t.read get = .ok r.2 := by
  unfold both
  simp only [Effect.except_bind_eq_ok]
  constructor
  · rintro ⟨a, ha, b, hb, hr⟩
    obtain rfl := Except.ok.inj hr
    exact ⟨ha, hb⟩
  · rintro ⟨ha, hb⟩
    exact ⟨r.1, ha, r.2, hb, rfl⟩

lemma read_andThen_eq_ok {β : α → Type} {names : List String}
    {t : (a : α) → RecordSchema V ε (β a)} {h : ∀ a, (t a).names = names} {r : (a : α) × β a} :
    (s.andThen names t h).read get = .ok r ↔
      s.read get = .ok r.1 ∧ (t r.1).read get = .ok r.2 := by
  unfold andThen
  simp only [Effect.except_bind_eq_ok]
  constructor
  · rintro ⟨a, ha, b, hb, hr⟩
    obtain rfl := Except.ok.inj hr
    exact ⟨ha, hb⟩
  · rintro ⟨ha, hb⟩
    exact ⟨r.1, ha, r.2, hb, rfl⟩

lemma read_refine_eq_ok {check : α → Except ε β} {back : β → α} {h : ∀ b, check (back b) = .ok b}
    {b : β} : (s.refine check back h).read get = .ok b ↔
      ∃ a, s.read get = .ok a ∧ check a = .ok b := Effect.except_bind_eq_ok

/-! ## Whole tables -/

/-- The value under a name in a table. -/
def lookup (table : List (String × V)) (name : String) : Option V :=
  (KeyedTable.get Prod.fst name table).map Prod.snd

/-- Reading a whole table: a name that is not known is an error. -/
def parse (s : RecordSchema V ε α) (unknown : String → ε) (table : List (String × V)) :
    Except ε α :=
  match table.find? fun item => item.1 ∉ s.names with
  | some item => .error (unknown item.1)
  | none => s.read (lookup table)

lemma lookup_of_mem {table : List (String × V)} (hnames : (table.map Prod.fst).Nodup)
    {item : String × V} (h : item ∈ table) : lookup table item.1 = some item.2 := by
  unfold lookup
  rw [KeyedTable.get_of_mem hnames h, Option.map_some]

/-- What a table that is accepted reads as. -/
lemma read_of_parse {unknown : String → ε} {table : List (String × V)} {a : α}
    (h : s.parse unknown table = .ok a) : s.read (lookup table) = .ok a := by
  unfold parse at h
  split at h
  · cases h
  · exact h

/-- **Reading back.**  The table a record is written as is read as that record. -/
theorem parse_write (hnames : s.names.Nodup) (unknown : String → ε) (a : α) :
    s.parse unknown (s.write a) = .ok a := by
  have hknown : (s.write a).find? (fun item => item.1 ∉ s.names) = none := by
    rw [List.find?_eq_none]
    intro item hitem
    have hmem : item.1 ∈ (s.write a).map Prod.fst := List.mem_map_of_mem hitem
    rw [s.names_write] at hmem
    simp [hmem]
  unfold parse
  rw [hknown]
  apply s.read_write a
  intro item hitem
  exact lookup_of_mem (by rw [s.names_write]; exact hnames) hitem

end RecordSchema
