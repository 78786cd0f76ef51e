import Waywarden.Infra.EventRows

/-!
# Events written and read back

An event goes through two JSON texts, a `JSONB` column and a column that may lose the time zone,
and is built anew by constructors that check it again.  `round_trip` says that it comes back: with
every part that was there or missing, and under the number `append` gave it.

The database may return the keys of an object in another order, so two values are compared as JSON
values (`Value.Same`).  Under this comparison the rows stand for the events of the store, and what
`append` and `list` do on the rows is what they do on the events (`append_refines`,
`list_refines`).
-/

namespace Waywarden

/-! ## JSON values -/

mutual

/-- A JSON value: no tuple occurs in it, and no mapping repeats a key. -/
def Value.IsJson : Value → Prop
  | .list xs => AreJson xs
  | .tuple _ => False
  | .dict items => (items.map Prod.fst).Nodup ∧ MembersJson items
  | _ => True

/-- `IsJson` on the items of a list. -/
def Value.AreJson : List Value → Prop
  | [] => True
  | x :: xs => IsJson x ∧ AreJson xs

/-- `IsJson` on the values of a mapping. -/
def Value.MembersJson : List (String × Value) → Prop
  | [] => True
  | (_, v) :: items => IsJson v ∧ MembersJson items

end

/-- The same JSON value, but for the order of the keys in its mappings. -/
inductive Value.Same : Value → Value → Prop
  | refl (v : Value) : Same v v
  | list {xs ys : List Value} (items : List.Forall₂ Same xs ys) : Same (.list xs) (.list ys)
  | dict {ms ns ns' : List (String × Value)} (keys : ms.map Prod.fst = ns.map Prod.fst)
      (values : List.Forall₂ Same (ms.map Prod.snd) (ns.map Prod.snd)) (order : ns.Perm ns') :
      Same (.dict ms) (.dict ns')

/-- The same mapping has the same keys. -/
lemma Value.Same.keys {ms ns : Mapping} (h : Same (.dict ms) (.dict ns)) :
    (ms.map Prod.fst).Perm (ns.map Prod.fst) := by
  cases h with
  | refl => exact .refl _
  | dict keys _ order => exact keys ▸ order.map Prod.fst

/-- The database returns what it was given: of a payload the same JSON value, of an instant the
instant, with its time zone or as naive UTC. -/
structure EventColumns.Lossless (columns : EventColumns) : Prop where
  payload : ∀ p : Mapping, Value.IsJson (.dict p) →
    ∃ q, columns.payload p = some q ∧ Value.Same (.dict q) (.dict p)
  timestamp : columns.timestamp.Lossless

/-- The events are equal; their payloads as JSON values. -/
structure RunEvent.Same (a b : RunEvent) : Prop where
  id : a.id = b.id
  runId : a.runId = b.runId
  seq : a.seq = b.seq
  type : a.type = b.type
  payload : Value.Same (.dict a.payload) (.dict b.payload)
  timestamp : a.timestamp = b.timestamp
  causation : a.causation = b.causation
  actor : a.actor = b.actor

/-- The check of a payload looks at its keys only. -/
lemma validatePayload_of_keys {type : RunEventType} {p q : Mapping}
    (hkeys : p.map Prod.fst ⊆ q.map Prod.fst) (h : validatePayload type p = true) :
    validatePayload type q = true := by
  unfold validatePayload at h ⊢
  rw [List.all_eq_true] at h ⊢
  intro field hfield
  obtain ⟨item, hitem, hname⟩ := List.any_eq_true.mp (h field hfield)
  obtain ⟨other, hother, hsame⟩ := List.mem_map.mp (hkeys (List.mem_map_of_mem hitem))
  exact List.any_eq_true.mpr ⟨other, hother, by rwa [hsame]⟩

namespace EventRows

variable {columns : EventColumns}

/-! ## One row -/

/-- A payload that was stored is read as it is, empty or not. -/
lemma payloadOf_eq {row : EventRow} {p : Mapping} (h : row.payload = some p) :
    payloadOf row = p := by
  unfold payloadOf
  rw [h]
  cases p with
  | nil => rfl
  | cons item items => rfl

/-- An instant is read back in either form. -/
lemma readTimestamp_stored (h : columns.timestamp.Lossless) (utc : Timestamp) :
    readTimestamp columns.timestamp.fromisoformat (columns.timestamp.stored utc) =
      .ok (.aware utc) := by
  rcases h utc with haware | hnaive
  · rw [haware, readTimestamp, assumeUtc]
  · rw [hnaive, readTimestamp, assumeUtc]

/-- **The row of an event is read back** as the event under the number of the row. -/
lemma exists_rowToEvent_rowOf (hcolumns : columns.Lossless) {e : RunEvent}
    (hjson : Value.IsJson (.dict e.payload)) (n : {n : ℕ // 1 ≤ n}) :
    ∃ read, rowToEvent columns.timestamp.fromisoformat (rowOf columns e n) = .ok read ∧
      read.Same (e.withSeq n) := by
  obtain ⟨q, hq, hsame⟩ := hcolumns.payload e.payload hjson
  have hvalid : validatePayload e.type q = true :=
    validatePayload_of_keys hsame.keys.symm.subset e.payload_ok
  have hpayload : payloadOf (rowOf columns e n) = q := payloadOf_eq hq
  have hcausation := @readPart_writePart _ causationClass "Causation" _ flat_causationClass
    causationOfFields_asdict e.causation
  have hactor := @readPart_writePart _ actorClass "Actor" _ flat_actorClass
    actorOfFields_asdict e.actor
  have hts := readTimestamp_stored hcolumns.timestamp e.timestamp
  refine ⟨⟨e.id, e.runId, n, e.type, q, e.timestamp, e.causation, e.actor, n.property, hvalid⟩,
    ?_, ⟨rfl, rfl, rfl, rfl, hsame, rfl, rfl, rfl⟩⟩
  simp only [rowToEvent, Effect.except_bind_eq_ok, hpayload]
  exact ⟨e.causation, hcausation, e.actor, hactor, .aware e.timestamp, hts,
    RunEvent.new_of_valid e.id e.runId n.property hvalid e.timestamp e.causation e.actor⟩

/-- **An event comes back from the database.**  `append` refuses it, when its run is in a terminal
state or its id is taken, and changes nothing; or it returns the event under the next number of its
run and stores one row, and that row is read as the event returned. -/
theorem round_trip (hcolumns : columns.Lossless) (t : EventTable) {e : RunEvent}
    (hjson : Value.IsJson (.dict e.payload)) :
    ((t.settled e.runId = true ∨ t.hasEvent e.id = true) ∧
      ∃ error, append columns e t = (.error error, t)) ∨
    ∃ row read, append columns e t = (.ok (e.withSeq (t.nextSeq e.runId)), t.push row) ∧
      rowToEvent columns.timestamp.fromisoformat row = .ok read ∧
      read.Same (e.withSeq (t.nextSeq e.runId)) := by
  rcases append_cases columns e t with ⟨hs, state, -, h⟩ | ⟨-, hid, h⟩ | ⟨-, -, h⟩
  · exact Or.inl ⟨Or.inl hs, _, h⟩
  · exact Or.inl ⟨Or.inr hid, _, h⟩
  · obtain ⟨read, hread, hsame⟩ := exists_rowToEvent_rowOf hcolumns hjson (t.nextSeq e.runId)
    exact Or.inr ⟨_, read, h, hread, hsame⟩

/-- A database that returns the time zone, and the last key of a payload first. -/
def reversingColumns : EventColumns := ⟨fun p => some p.reverse, awareColumn⟩

lemma lossless_reversingColumns : reversingColumns.Lossless where
  payload p _ := ⟨p.reverse, rfl, .dict rfl
    (List.forall₂_same.mpr fun v _ => .refl v) (List.reverse_perm p)⟩
  timestamp := lossless_awareColumn

/-- An event whose causation is an empty text, by an actor without an id. -/
def progressEvent : RunEvent where
  id := "evt-run-1-progress"
  runId := "run-1"
  seq := 12
  type := .runProgress
  payload := [("milestone", .str "received"), ("phase", .str "intake")]
  timestamp := 0
  causation := some ⟨none, some "", none, rfl⟩
  actor := some ⟨.policyEngine, none, some ""⟩
  seq_pos := by decide
  payload_ok := rfl

theorem round_trip_progressEvent :
    ∃ row read, append reversingColumns progressEvent ⟨[], []⟩ =
        (.ok (progressEvent.withSeq ⟨1, Nat.le_refl 1⟩), ⟨[], [row]⟩) ∧
      rowToEvent reversingColumns.timestamp.fromisoformat row = .ok read ∧
      read.Same (progressEvent.withSeq ⟨1, Nat.le_refl 1⟩) := by
  have hjson : Value.IsJson (.dict progressEvent.payload) :=
    ⟨by decide, trivial, trivial, trivial⟩
  refine (round_trip lossless_reversingColumns ⟨[], []⟩ hjson).resolve_left ?_
  rintro ⟨hs | hid, -⟩
  · exact absurd hs (by decide)
  · exact absurd hid (by decide)

/-! ## The rows and the events of the store -/

/-- The row is read as the event. -/
def Reads (columns : EventColumns) (row : EventRow) (e : RunEvent) : Prop :=
  ∃ read, rowToEvent columns.timestamp.fromisoformat row = .ok read ∧ read.Same e

/-- The rows are read as the events of the store, one by one. -/
structure Stores (columns : EventColumns) (t : EventTable) (s : Store) : Prop where
  runs : t.runs = s.runs
  events : List.Forall₂ (Reads columns) t.rows s.runEvents

/-- The columns that are kept as they are. -/
lemma Reads.ids {row : EventRow} {e : RunEvent} (h : Reads columns row e) :
    row.id = e.id ∧ row.runId = e.runId ∧ row.seq = e.seq := by
  obtain ⟨read, hread, hsame⟩ := h
  simp only [rowToEvent, Effect.except_bind_eq_ok] at hread
  obtain ⟨causation, -, actor, -, ts, -, hnew⟩ := hread
  obtain ⟨hid, hrunId, hseq⟩ := RunEvent.ids_of_new hnew
  refine ⟨hid.symm.trans hsame.id, hrunId.symm.trans hsame.runId, ?_⟩
  have hsame := hsame.seq
  omega

lemma related_reads (columns : EventColumns) :
    SeqLog.Related EventRow.seq RunEvent.seq (Reads columns) := fun _ _ h => h.ids.2.2

namespace Stores

variable {t : EventTable} {s : Store}

lemma settled_eq (h : Stores columns t s) (runId : String) : t.settled runId = s.settled runId := by
  rw [EventTable.settled, Store.settled, Store.run?, h.runs]

lemma hasEvent_eq (h : Stores columns t s) (eventId : String) :
    t.hasEvent eventId = s.hasEvent eventId := by
  have hany : ∀ {rows : List EventRow} {events : List RunEvent},
      List.Forall₂ (Reads columns) rows events →
        (rows.any fun row => row.id = eventId) = events.any fun e => e.id = eventId := by
    intro rows events hreads
    induction hreads with
    | nil => rfl
    | cons hreads _ ih => rw [List.any_cons, List.any_cons, hreads.ids.1, ih]
  exact hany h.events

/-- The rows of a run are read as its log. -/
lemma log (h : Stores columns t s) (runId : String) :
    List.Forall₂ (Reads columns) (t.ofRun runId) (s.log runId) := by
  unfold EventTable.ofRun Store.log
  refine List.rel_filter (fun row e hreads => ?_) h.events
  show decide (row.runId = runId) = true ↔ decide (e.runId = runId) = true
  rw [hreads.ids.2.1]

lemma nextSeq_eq (h : Stores columns t s) (runId : String) :
    (t.nextSeq runId).val = s.latestSeq runId + 1 :=
  congrArg (· + 1) ((related_reads columns).maxSeq_eq (h.log runId))

lemma push (h : Stores columns t s) {row : EventRow} {e : RunEvent} (hreads : Reads columns row e) :
    Stores columns (t.push row) (s.push e) :=
  ⟨h.runs, List.rel_append h.events (.cons hreads .nil)⟩

end Stores

/-- **`append` on the rows is `append` on the events**: the same reply, and the rows still stand for
the events. -/
theorem append_refines (hcolumns : columns.Lossless) {t : EventTable} {s : Store}
    (hstores : Stores columns t s) {e : RunEvent} (hjson : Value.IsJson (.dict e.payload)) :
    (append columns e t).1 = (RunEventRepository.append e s).1 ∧
      Stores columns (append columns e t).2 (RunEventRepository.append e s).2 := by
  have hstamp : e.withSeq (t.nextSeq e.runId) = s.stamp e :=
    congrArg e.withSeq (Subtype.ext (hstores.nextSeq_eq e.runId))
  rcases append_cases columns e t with ⟨-, state, hstate, h⟩ | ⟨hopen, hid, h⟩ | ⟨hopen, hid, h⟩
  · have hevents : RunEventRepository.append e s =
        (.error (RunEventRepository.terminalRunStateError e.runId state), s) := by
      rw [EventTable.state?, hstores.runs] at hstate
      exact RunEventRepository.append_of_terminal hstate
    rw [h, hevents]
    exact ⟨rfl, hstores⟩
  · rw [hstores.settled_eq] at hopen
    rw [hstores.hasEvent_eq] at hid
    rcases RunEventRepository.append_cases e s with ⟨hs, -⟩ | ⟨-, -, hevents⟩ | ⟨-, hfree, -⟩
    · exact absurd (hs.symm.trans hopen) (by simp)
    · rw [h, hevents]
      exact ⟨rfl, hstores⟩
    · exact absurd (hid.symm.trans hfree) (by simp)
  · rw [hstores.settled_eq] at hopen
    rw [hstores.hasEvent_eq] at hid
    have hevents : RunEventRepository.append e s = (.ok (s.stamp e), s.push (s.stamp e)) :=
      Effect.eq_ok_of_wp ((RunEventRepository.wp_append_of_open hopen hid).mpr ⟨rfl, rfl⟩)
    rw [h, hevents, hstamp]
    obtain ⟨read, hread, hsame⟩ := exists_rowToEvent_rowOf hcolumns hjson (t.nextSeq e.runId)
    exact ⟨rfl, hstores.push ⟨read, hread, hstamp ▸ hsame⟩⟩

/-- Rows that stand for events are read, one by one. -/
lemma exists_mapM_rowToEvent {rows : List EventRow} {events : List RunEvent}
    (h : List.Forall₂ (Reads columns) rows events) :
    ∃ reads, rows.mapM (rowToEvent columns.timestamp.fromisoformat) = .ok reads ∧
      List.Forall₂ RunEvent.Same reads events := by
  simp only [Effect.except_mapM_eq_ok]
  induction h with
  | nil => exact ⟨[], .nil, .nil⟩
  | cons hreads _ ih =>
      obtain ⟨read, hread, hsame⟩ := hreads
      obtain ⟨reads, hrest, hsames⟩ := ih
      exact ⟨read :: reads, .cons hread hrest, .cons hsame hsames⟩

/-- **`list` on the rows is `list` on the events**, but for the order of the keys in a payload. -/
theorem list_refines {t : EventTable} {s : Store} (hstores : Stores columns t s) (runId : String)
    (sinceSeq : ℕ) (limit : Option ℕ) :
    ∃ reads events, list columns runId sinceSeq limit t = (.ok reads, t) ∧
      RunEventRepository.list runId sinceSeq limit s = (.ok events, s) ∧
      List.Forall₂ RunEvent.Same reads events := by
  have hafter : List.Forall₂ (Reads columns)
      (((t.ofRun runId).filter fun row => sinceSeq < row.seq).insertionSort
        fun a b => a.seq ≤ b.seq)
      (((s.log runId).filter fun e => sinceSeq < e.seq).insertionSort
        fun a b => a.seq ≤ b.seq) := by
    refine (related_reads columns).insertionSort
      (List.rel_filter (fun row e hreads => ?_) (hstores.log runId))
    show decide (sinceSeq < row.seq) = true ↔ decide (sinceSeq < e.seq) = true
    rw [hreads.ids.2.2]
  cases limit with
  | none =>
      obtain ⟨reads, hreads, hsame⟩ := exists_mapM_rowToEvent hafter
      exact ⟨reads, _, Effect.ofExcept_of_eq hreads t, rfl, hsame⟩
  | some n =>
      obtain ⟨reads, hreads, hsame⟩ := exists_mapM_rowToEvent (List.forall₂_take n hafter)
      exact ⟨reads, _, Effect.ofExcept_of_eq hreads t, rfl, hsame⟩

end EventRows

end Waywarden
