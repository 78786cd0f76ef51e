import Waywarden.Domain.Basic

/-!
# Timestamp columns

What a `SELECT` returns for a `TIMESTAMP` column depends on the database and its driver: a text, a
`datetime` that knows its time zone, or a naive one.  Every reader of a row tells the three apart;
they differ in what they do with a text only.
-/

namespace Waywarden

/-- A value of a `TIMESTAMP` column. -/
inductive ColumnTime
  | text (s : String)
  | datetime (d : PyDatetime)
  deriving DecidableEq, Repr

/-- `value.replace(tzinfo=UTC)` on a naive value. -/
def assumeUtc : PyDatetime → PyDatetime
  | .aware utc => .aware utc
  | .naive wall => .aware wall

/-- A `TIMESTAMP` column: what it returns for an instant written to it, and `fromisoformat` for the
texts among its values. -/
structure TimestampColumn where
  stored : Timestamp → ColumnTime
  fromisoformat : String → Except PyError PyDatetime

/-- The column returns the instant written, with its time zone or as naive UTC. -/
def TimestampColumn.Lossless (column : TimestampColumn) : Prop :=
  ∀ t, column.stored t = .datetime (.aware t) ∨ column.stored t = .datetime (.naive t)

/-- A column of the first kind. -/
def awareColumn : TimestampColumn :=
  ⟨fun t => .datetime (.aware t), fun _ => .error ⟨.valueError, "Invalid isoformat string", []⟩⟩

/-- A column of the second kind. -/
def naiveColumn : TimestampColumn :=
  ⟨fun t => .datetime (.naive t), fun _ => .error ⟨.valueError, "Invalid isoformat string", []⟩⟩

lemma lossless_awareColumn : awareColumn.Lossless := fun _ => Or.inl rfl

lemma lossless_naiveColumn : naiveColumn.Lossless := fun _ => Or.inr rfl

end Waywarden
