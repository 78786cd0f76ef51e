import Waywarden.Infra.RunEventRepository
import Waywarden.Infra.TimestampColumn
import Waywarden.Infra.WorkspaceManifestRepository
import Waywarden.Lib.IntText

/-!
# The rows of `run_events`

`_event_to_row` and `_row_to_event` of `waywarden.infra.db.repositories.run_event_repo`.  The
causation and the actor of an event are kept as JSON texts, its payload in a `JSONB` column, its
timestamp in one that may or may not return the time zone, and its number is bound as a text.

Everywhere else a row is the event it stores.  Here `append` works on the rows themselves, as far as
`run_events` goes; `append_cases` has what it does.
-/

namespace Waywarden

/-! ## Columns -/

/-- A value bound to an `INTEGER` column. -/
inductive IntegerValue
  | int (i : ℤ)
  | text (s : String)
  deriving DecidableEq, Repr

/-- What the column holds of it: a text is read as the decimal notation of an integer. -/
def IntegerValue.stored : IntegerValue → Option ℤ
  | .int i => some i
  | .text s =>
      (IntText.readInt IntText.asciiDigits (fun _ => false) s.toList).map IntText.signed

/-- The values of an `INSERT` into `run_events`. -/
structure EventValues where
  id : String
  runId : String
  seq : IntegerValue
  type : RunEventType
  payload : Mapping
  timestamp : Timestamp
  causation : Option String
  actor : Option String

/-- A row as a `SELECT` returns it.  The check constraints of the table are the type of `type` and
the last field. -/
structure EventRow where
  id : String
  runId : String
  seq : ℕ
  type : RunEventType
  payload : Option Mapping
  timestamp : ColumnTime
  causation : Option String
  actor : Option String
  seq_pos : 1 ≤ seq

/-- What the database returns for a payload and for an instant. -/
structure EventColumns where
  payload : Mapping → Option Mapping
  timestamp : TimestampColumn

/-- The row an `INSERT` makes of its values. -/
def EventColumns.convert (columns : EventColumns) (values : EventValues) :
    Except PyError EventRow :=
  match values.seq.stored with
  | none => .error ⟨.dataError, "invalid input syntax for type integer", []⟩
  | some i =>
      if h : 1 ≤ i then
        .ok {
          id := values.id, runId := values.runId, seq := i.toNat, type := values.type
          payload := columns.payload values.payload
          timestamp := columns.timestamp.stored values.timestamp
          causation := values.causation, actor := values.actor, seq_pos := by omega }
      else .error ⟨.integrityError, "ck_run_events_seq_positive", []⟩

namespace EventRows

open WorkspaceManifestRepository (subscript loadBody argumentError)

/-! ## The parts kept as JSON texts -/

/-- `Causation`, as a dataclass. -/
def causationClass : DataClass Causation where
  fields := [⟨"event_id", none⟩, ⟨"action", none⟩, ⟨"request_id", none⟩]
  values c := [Json.ofOption .str c.eventId, Json.ofOption .str c.action,
    Json.ofOption .str c.requestId]
  distinct := by decide
  length_values _ := rfl
  values_injective := by
    rintro ⟨⟩ ⟨⟩ h
    simpa using h

/-- `Actor`, as a dataclass. -/
def actorClass : DataClass Actor where
  fields := [⟨"kind", none⟩, ⟨"id", none⟩, ⟨"display", none⟩]
  values a := [.str a.kind.name, Json.ofOption .str a.id, Json.ofOption .str a.display]
  distinct := by decide
  length_values _ := rfl
  values_injective := by
    rintro ⟨⟩ ⟨⟩ h
    simpa using h

/-- A value of type `str | None`.  The source keeps a value of another type as it is; no row has
one, and here it is refused. -/
def optionalText : Json → Except PyError (Option String)
  | .null => .ok none
  | .str s => .ok (some s)
  | _ => .error ⟨.typeError, "value is neither a text nor null", []⟩

/-- `Causation(…)` on the values of its fields. -/
def causationOfFields (fields : Json) : Except PyError Causation := do
  let eventId ← optionalText (← subscript fields "event_id")
  let action ← optionalText (← subscript fields "action")
  let requestId ← optionalText (← subscript fields "request_id")
  Causation.new eventId action requestId

/-- The kind of an actor: `str` of anything but a text is no kind. -/
def kindOfField : Json → Except PyError ActorKind
  | .str value => normalizeActorKind value
  | _ => .error actorKindError

/-- `Actor(…)` on the values of its fields. -/
def actorOfFields (fields : Json) : Except PyError Actor := do
  let kind ← kindOfField (← subscript fields "kind")
  let id ← optionalText (← subscript fields "id")
  let display ← optionalText (← subscript fields "display")
  .ok ⟨kind, id, display⟩

/-- `json.dumps` of the fields of a part, if it is there. -/
def writePart {α : Type} (C : DataClass α) (part : Option α) : Option String :=
  part.map fun a => Json.dumps false (C.asdict a)

/-- `C(**json.loads(column))` for a column that is neither `NULL` nor empty. -/
def readPart {α : Type} (C : DataClass α) (className : String)
    (ofFields : Json → Except PyError α) : Option String → Except PyError (Option α)
  | none => .ok none
  | some text =>
      if text = "" then .ok none
      else do
        let d ← loadBody (.str text)
        let fields ← (C.construct d).mapError (argumentError className)
        let part ← ofFields fields
        .ok (some part)

/-! ## Rows and events -/

/-- `_event_to_row`. -/
def eventToRow (event : RunEvent) : EventValues where
  id := event.id
  runId := event.runId
  seq := .int event.seq
  type := event.type
  payload := event.payload
  timestamp := event.timestamp
  causation := writePart causationClass event.causation
  actor := writePart actorClass event.actor

/-- `row.payload if row.payload else {}`. -/
def payloadOf (row : EventRow) : Mapping :=
  match row.payload with
  | some payload => if payload.isEmpty then [] else payload
  | none => []

/-- The timestamp of a row: a text is parsed, a naive value is taken to be UTC. -/
def readTimestamp (fromisoformat : String → Except PyError PyDatetime) :
    ColumnTime → Except PyError PyDatetime
  | .text s => fromisoformat s
  | .datetime d => .ok (assumeUtc d)

/-- `_row_to_event`. -/
def rowToEvent (fromisoformat : String → Except PyError PyDatetime) (row : EventRow) :
    Except PyError RunEvent := do
  let causation ← readPart causationClass "Causation" causationOfFields row.causation
  let actor ← readPart actorClass "Actor" actorOfFields row.actor
  let ts ← readTimestamp fromisoformat row.timestamp
  RunEvent.new row.id row.runId row.seq row.type (payloadOf row) ts causation actor

/-! ## `append` on rows -/

/-- The tables `append` reads and writes. -/
structure EventTable where
  runs : List RunRow
  rows : List EventRow

namespace EventTable

/-- The rows of a run. -/
def ofRun (t : EventTable) (runId : String) : List EventRow :=
  t.rows.filter fun row => row.runId = runId

/-- The number of the next row of a run. -/
def nextSeq (t : EventTable) (runId : String) : {n : ℕ // 1 ≤ n} :=
  ⟨SeqLog.maxSeq EventRow.seq (t.ofRun runId) + 1, Nat.le_add_left 1 _⟩

/-- The state column of a run. -/
def state? (t : EventTable) (runId : String) : Option RunState :=
  (KeyedTable.get RunRow.key runId t.runs).map RunRow.state

/-- Whether the run's row is in a terminal state. -/
def settled (t : EventTable) (runId : String) : Bool :=
  (KeyedTable.get RunRow.key runId t.runs).any fun row => row.state.isTerminal

/-- Whether an event id is already a primary key. -/
def hasEvent (t : EventTable) (eventId : String) : Bool := t.rows.any fun row => row.id = eventId

/-- The tables with one more row. -/
def push (t : EventTable) (row : EventRow) : EventTable := { t with rows := t.rows ++ [row] }

end EventTable

/-- A coroutine on these tables. -/
abbrev RowSession (α : Type) : Type := Effect EventTable PyError α

/-- The `INSERT` with its constraints: a refused row changes nothing. -/
def insertRow (columns : EventColumns) (values : EventValues) : RowSession Unit := do
  let row ← Effect.ofExcept (columns.convert values)
  if ← Effect.gets fun t : EventTable => t.hasEvent row.id then
    Effect.raise ⟨.integrityError, "run_events_pkey", [row.id]⟩
  else if ← Effect.gets fun t : EventTable => (t.ofRun row.runId).any fun r => r.seq = row.seq then
    Effect.raise ⟨.integrityError, "uq_run_events_run_id_seq", [row.runId]⟩
  else
    Effect.modify fun t => t.push row

/-- The values of the `INSERT`: the number of the event is replaced by the text of the next one. -/
def rowData (event : RunEvent) (nextSeq : ℕ) : EventValues :=
  { eventToRow event with seq := .text (String.ofList (Json.encodeInt nextSeq)) }

/-- `append`. -/
def append (columns : EventColumns) (event : RunEvent) : RowSession RunEvent := do
  let latestState ← Effect.gets fun t : EventTable => t.state? event.runId
  match latestState.filter RunState.isTerminal with
  | some state => Effect.raise (RunEventRepository.terminalRunStateError event.runId state)
  | none => do
      let nextSeq ← Effect.gets fun t : EventTable => (t.nextSeq event.runId).val
      insertRow columns (rowData event nextSeq)
      Effect.ofExcept (RunEvent.new event.id event.runId nextSeq event.type event.payload
        (.aware event.timestamp) event.causation event.actor)

/-- `list`: the rows after `since_seq`, ordered by `seq`, at most `limit` of them. -/
def list (columns : EventColumns) (runId : String) (sinceSeq : ℕ) (limit : Option ℕ) :
    RowSession (List RunEvent) := do
  let rows ← Effect.gets fun t : EventTable =>
    ((t.ofRun runId).filter fun row => sinceSeq < row.seq).insertionSort fun a b => a.seq ≤ b.seq
  let rows := match limit with
    | none => rows
    | some n => rows.take n
  Effect.ofExcept (rows.mapM (rowToEvent columns.timestamp.fromisoformat))

/-! ## What the operations do -/

section Parts

variable {α : Type} {C : DataClass α} {className : String} {ofFields : Json → Except PyError α}

/-- The text of a part is not empty. -/
lemma dumps_asdict_ne_empty (a : α) : Json.dumps false (C.asdict a) ≠ "" := by
  intro h
  have hnil : Json.encode false (C.asdict a) = [] := by
    rw [← String.toList_inj, Json.dumps, String.toList_ofList] at h
    exact h
  obtain ⟨c, cs, hcons, -⟩ := Json.encode_eq_cons false (C.asdict a)
  rw [hcons] at hnil
  exact absurd hnil (List.cons_ne_nil c cs)

/-- **A part is read back**, present or not, whatever texts it holds. -/
lemma readPart_writePart (hflat : ∀ a, ∀ v ∈ C.values a, Json.Flat v)
    (hof : ∀ a, ofFields (C.asdict a) = .ok a) (part : Option α) :
    readPart C className ofFields (writePart C part) = .ok part := by
  cases part with
  | none => rfl
  | some a =>
      have hload : loadBody (.str (Json.dumps false (C.asdict a))) = .ok (C.asdict a) := by
        have hdistinct := C.distinct_asdict fun v hv => Json.distinct_of_flat (hflat a v hv)
        rw [loadBody, Json.loads_dumps false hdistinct]
      rw [writePart, Option.map_some, readPart, if_neg (dumps_asdict_ne_empty a), hload]
      simp only [bind, Except.bind, C.construct_asdict, Except.mapError, hof]

end Parts

@[simp] lemma optionalText_ofOption (o : Option String) :
    optionalText (Json.ofOption .str o) = .ok o := by
  cases o <;> rfl

/-- The values of the fields are those a causation is made of. -/
lemma causationOfFields_asdict (c : Causation) :
    causationOfFields (causationClass.asdict c) = .ok c := by
  have heventId : subscript (causationClass.asdict c) "event_id" =
      .ok (Json.ofOption .str c.eventId) := rfl
  have haction : subscript (causationClass.asdict c) "action" =
      .ok (Json.ofOption .str c.action) := rfl
  have hrequestId : subscript (causationClass.asdict c) "request_id" =
      .ok (Json.ofOption .str c.requestId) := rfl
  unfold causationOfFields
  rw [heventId, haction, hrequestId]
  simp only [bind, Except.bind, optionalText_ofOption, Causation.new_fields]

lemma actorOfFields_asdict (a : Actor) : actorOfFields (actorClass.asdict a) = .ok a := by
  have hkind : subscript (actorClass.asdict a) "kind" = .ok (.str a.kind.name) := rfl
  have hid : subscript (actorClass.asdict a) "id" = .ok (Json.ofOption .str a.id) := rfl
  have hdisplay : subscript (actorClass.asdict a) "display" =
      .ok (Json.ofOption .str a.display) := rfl
  unfold actorOfFields
  rw [hkind, hid, hdisplay]
  simp only [bind, Except.bind, kindOfField, normalizeActorKind_name, optionalText_ofOption]

lemma flat_causationClass (c : Causation) : ∀ v ∈ causationClass.values c, Json.Flat v := by
  simp [causationClass]

lemma flat_actorClass (a : Actor) : ∀ v ∈ actorClass.values a, Json.Flat v := by
  simp [actorClass, Json.Flat]

/-- The column holds the number that was bound as a text. -/
lemma stored_text (n : ℕ) :
    (IntegerValue.text (String.ofList (Json.encodeInt n))).stored = some (n : ℤ) := by
  obtain ⟨p, hp, hsigned, -⟩ :=
    @IntText.readInt_encodeInt IntText.asciiDigits (fun _ => false) (fun _ _ => rfl) n
  unfold IntegerValue.stored
  simp only [String.toList_ofList, hp, Option.map_some, hsigned]

/-- The row of an event under a number. -/
def rowOf (columns : EventColumns) (e : RunEvent) (n : {n : ℕ // 1 ≤ n}) : EventRow where
  id := e.id
  runId := e.runId
  seq := n
  type := e.type
  payload := columns.payload e.payload
  timestamp := columns.timestamp.stored e.timestamp
  causation := writePart causationClass e.causation
  actor := writePart actorClass e.actor
  seq_pos := one_le_seq n

lemma convert_rowData (columns : EventColumns) (e : RunEvent) (n : {n : ℕ // 1 ≤ n}) :
    columns.convert (rowData e n) = .ok (rowOf columns e n) := by
  have hstored : (rowData e n).seq.stored = some (n : ℤ) := stored_text n
  have hpos := n.property
  unfold EventColumns.convert
  simp only [hstored]
  rw [dif_pos (by omega)]
  rfl

lemma insertRow_of_taken {columns : EventColumns} {values : EventValues} {row : EventRow}
    {t : EventTable} (hrow : columns.convert values = .ok row) (h : t.hasEvent row.id = true) :
    insertRow columns values t = (.error ⟨.integrityError, "run_events_pkey", [row.id]⟩, t) := by
  have hid : (Effect.gets fun t : EventTable => t.hasEvent row.id : RowSession Bool) t =
      (.ok (t.hasEvent row.id), t) := rfl
  rw [insertRow, Effect.bind_of_ok (Effect.ofExcept_of_eq hrow t), Effect.bind_of_ok hid, h]
  rfl

lemma insertRow_of_fresh {columns : EventColumns} {values : EventValues} {row : EventRow}
    {t : EventTable} (hrow : columns.convert values = .ok row) (h : t.hasEvent row.id = false)
    (hseq : ((t.ofRun row.runId).any fun r => r.seq = row.seq) = false) :
    insertRow columns values t = (.ok (), t.push row) := by
  have hid : (Effect.gets fun t : EventTable => t.hasEvent row.id : RowSession Bool) t =
      (.ok (t.hasEvent row.id), t) := rfl
  have huq : (Effect.gets fun t : EventTable => (t.ofRun row.runId).any fun r => r.seq = row.seq :
      RowSession Bool) t = (.ok ((t.ofRun row.runId).any fun r => r.seq = row.seq), t) := rfl
  rw [insertRow, Effect.bind_of_ok (Effect.ofExcept_of_eq hrow t), Effect.bind_of_ok hid, h,
    if_neg (by simp), Effect.bind_of_ok huq, hseq]
  rfl

/-- No row of the run carries the next number. -/
lemma not_any_seq_eq_next (t : EventTable) (runId : String) :
    ((t.ofRun runId).any fun r => r.seq = (t.nextSeq runId).val) = false := by
  rw [List.any_eq_false]
  intro r hr
  have hle : r.seq ≤ SeqLog.maxSeq EventRow.seq (t.ofRun runId) := SeqLog.le_maxSeq hr
  rw [decide_eq_true_eq]
  show ¬ r.seq = SeqLog.maxSeq EventRow.seq (t.ofRun runId) + 1
  omega

/-- **What `append` does** on the rows: as on the events, with the row of the event stored. -/
theorem append_cases (columns : EventColumns) (e : RunEvent) (t : EventTable) :
    (t.settled e.runId = true ∧
      ∃ state, (t.state? e.runId).filter RunState.isTerminal = some state ∧ append columns e t =
        (.error (RunEventRepository.terminalRunStateError e.runId state), t)) ∨
    (t.settled e.runId = false ∧ t.hasEvent e.id = true ∧
      append columns e t = (.error ⟨.integrityError, "run_events_pkey", [e.id]⟩, t)) ∨
    (t.settled e.runId = false ∧ t.hasEvent e.id = false ∧
      append columns e t = (.ok (e.withSeq (t.nextSeq e.runId)),
        t.push (rowOf columns e (t.nextSeq e.runId)))) := by
  have hstate : (Effect.gets fun t : EventTable => t.state? e.runId :
      RowSession (Option RunState)) t = (.ok (t.state? e.runId), t) := rfl
  have hnext : (Effect.gets fun t : EventTable => (t.nextSeq e.runId).val : RowSession ℕ) t =
      (.ok (t.nextSeq e.runId).val, t) := rfl
  have hrow := convert_rowData columns e (t.nextSeq e.runId)
  rw [append, Effect.bind_of_ok hstate]
  rcases RunEventRepository.guard_cases (KeyedTable.get RunRow.key e.runId t.runs) with
    ⟨hsettled, state, hguard⟩ | ⟨hopen, hguard⟩
  · rw [EventTable.state?, hguard]
    exact Or.inl ⟨hsettled, state, rfl, rfl⟩
  · simp only [EventTable.state?, hguard, Effect.bind_of_ok hnext]
    cases hid : t.hasEvent e.id with
    | true =>
        exact Or.inr (Or.inl ⟨hopen, rfl, Effect.bind_of_error (insertRow_of_taken hrow hid)⟩)
    | false =>
        have hins := insertRow_of_fresh hrow hid (not_any_seq_eq_next t e.runId)
        refine Or.inr (Or.inr ⟨hopen, rfl, ?_⟩)
        rw [Effect.bind_of_ok hins]
        exact Effect.ofExcept_of_eq (RunEvent.new_of_valid e.id e.runId
          (t.nextSeq e.runId).property e.payload_ok e.timestamp e.causation e.actor) _

end EventRows

end Waywarden
