import Waywarden.Infra.Store

/-!
# `RunEventRepositoryImpl`

`waywarden.infra.db.repositories.run_event_repo`: the append-only event log.  `append` reads the
state column of the run, computes the next sequence number from the stored rows whatever number
the caller put in the event, and inserts the row under the primary key on `id` and the unique
constraint on `(run_id, seq)`.

`append_cases` is the one place where `append` is unfolded; every service cites it or its
weakest-precondition form `wp_append`.
-/

namespace Waywarden.RunEventRepository

/-- `_get_run_state`. -/
def getRunState (runId : String) : Session (Option RunState) :=
  Effect.gets fun s => (s.run? runId).map RunRow.state

/-- `_compute_next_seq`.  The locking query and the fallback compute the same number. -/
def computeNextSeq (runId : String) : Session {n : ℕ // 1 ≤ n} :=
  Effect.gets fun s => ⟨s.latestSeq runId + 1, Nat.le_add_left 1 _⟩

/-- The `INSERT` with its two constraints: a refused row changes nothing. -/
def insertRow (row : RunEvent) : Session Unit := do
  if ← Effect.gets fun s : Store => s.hasEvent row.id then
    Effect.raise ⟨.integrityError, "run_events_pkey", [row.id]⟩
  else if ← Effect.gets fun s : Store => (s.log row.runId).any fun e => e.seq = row.seq then
    Effect.raise ⟨.integrityError, "uq_run_events_run_id_seq", [row.runId]⟩
  else
    Effect.modify fun s => s.push row

/-- The exception of the terminal-state guard. -/
def terminalRunStateError (runId : String) (state : RunState) : PyError :=
  ⟨.terminalRunStateError, "Cannot append event to run % in terminal state %",
    [runId, state.name]⟩

/-- `append`. -/
def append (event : RunEvent) : Session RunEvent := do
  let latestState ← getRunState event.runId
  match latestState.filter RunState.isTerminal with
  | some state => Effect.raise (terminalRunStateError event.runId state)
  | none => do
      let nextSeq ← computeNextSeq event.runId
      insertRow (event.withSeq nextSeq)
      pure (event.withSeq nextSeq)

/-- `latest_seq`. -/
def latestSeq (runId : String) : Session ℕ := Effect.gets fun s => s.latestSeq runId

/-- `list`: the events after `since_seq`, ordered by `seq`, at most `limit` of them. -/
def list (runId : String) (sinceSeq : ℕ) (limit : Option ℕ) : Session (List RunEvent) :=
  Effect.gets fun s =>
    let rows := ((s.log runId).filter fun e => sinceSeq < e.seq).insertionSort
      fun a b => a.seq ≤ b.seq
    match limit with
    | none => rows
    | some n => rows.take n

/-- What `list` returns without a limit: the events after `since_seq`, in order. -/
lemma list_spec (runId : String) (sinceSeq : ℕ) (s : Store) :
    ∃ rows, list runId sinceSeq none s = (.ok rows, s) ∧
      rows.Pairwise (fun a b => a.seq ≤ b.seq) ∧
      ∀ e, e ∈ rows ↔ e ∈ s.log runId ∧ sinceSeq < e.seq := by
  refine ⟨_, rfl, List.pairwise_insertionSort _ _, fun e => ?_⟩
  rw [(List.perm_insertionSort _ _).mem_iff, List.mem_filter, decide_eq_true_eq]

/-- In a contiguous log the rows `list` selects are in order already. -/
lemma insertionSort_drop {s : Store} {runId : String}
    (h : SeqLog.Contiguous RunEvent.seq (s.log runId)) (k : ℕ) :
    ((s.log runId).filter fun e => k < e.seq).insertionSort (fun a b => a.seq ≤ b.seq) =
      (s.log runId).drop k := by
  rw [h.filter_lt_eq_drop]
  apply List.Pairwise.insertionSort_eq
  exact (h.pairwise_lt.sublist (List.drop_sublist k _)).imp fun hlt => Nat.le_of_lt hlt

/-- No stored event of the run carries the next sequence number. -/
lemma not_any_seq_eq_next (s : Store) (runId : String) :
    ((s.log runId).any fun e => e.seq = s.latestSeq runId + 1) = false := by
  rw [List.any_eq_false]
  intro e he
  have hle : e.seq ≤ s.latestSeq runId := SeqLog.le_maxSeq he
  simp only [decide_eq_true_eq]
  omega

lemma insertRow_of_taken {row : RunEvent} {s : Store} (h : s.hasEvent row.id = true) :
    insertRow row s = (.error ⟨.integrityError, "run_events_pkey", [row.id]⟩, s) := by
  have hid : (Effect.gets fun s : Store => s.hasEvent row.id : Session Bool) s =
      (.ok (s.hasEvent row.id), s) := rfl
  rw [insertRow, Effect.bind_of_ok hid, h]
  rfl

lemma insertRow_of_fresh {row : RunEvent} {s : Store} (h : s.hasEvent row.id = false)
    (hseq : ((s.log row.runId).any fun e => e.seq = row.seq) = false) :
    insertRow row s = (.ok (), s.push row) := by
  have hid : (Effect.gets fun s : Store => s.hasEvent row.id : Session Bool) s =
      (.ok (s.hasEvent row.id), s) := rfl
  have huq : (Effect.gets fun s : Store => (s.log row.runId).any fun e => e.seq = row.seq :
      Session Bool) s = (.ok ((s.log row.runId).any fun e => e.seq = row.seq), s) := rfl
  rw [insertRow, Effect.bind_of_ok hid, h, if_neg (by simp), Effect.bind_of_ok huq, hseq]
  rfl

/-- The guard finds a state exactly when the row of the run is in a terminal one. -/
lemma guard_cases (row : Option RunRow) :
    (row.any (fun r => r.state.isTerminal) = true ∧
      ∃ state, (row.map RunRow.state).filter RunState.isTerminal = some state) ∨
    (row.any (fun r => r.state.isTerminal) = false ∧
      (row.map RunRow.state).filter RunState.isTerminal = none) := by
  cases row with
  | none => exact Or.inr ⟨rfl, rfl⟩
  | some row =>
      rw [Option.map_some, Option.filter_some, Option.any_some]
      cases hterm : row.state.isTerminal with
      | true => exact Or.inl ⟨rfl, row.state, if_pos rfl⟩
      | false => exact Or.inr ⟨rfl, if_neg (by simp)⟩

/-- **What `append` does.**  It is refused by the state guard, refused by the primary key, or
stores the event numbered one past the latest of its run; a refused append changes nothing. -/
theorem append_cases (event : RunEvent) (s : Store) :
    (s.settled event.runId = true ∧
      ∃ state, append event s = (.error (terminalRunStateError event.runId state), s)) ∨
    (s.settled event.runId = false ∧ s.hasEvent event.id = true ∧
      append event s = (.error ⟨.integrityError, "run_events_pkey", [event.id]⟩, s)) ∨
    (s.settled event.runId = false ∧ s.hasEvent event.id = false ∧
      append event s = (.ok (s.stamp event), s.push (s.stamp event))) := by
  have hstate : getRunState event.runId s = (.ok ((s.run? event.runId).map RunRow.state), s) := rfl
  have hnext : computeNextSeq event.runId s =
      (.ok ⟨s.latestSeq event.runId + 1, Nat.le_add_left 1 _⟩, s) := rfl
  rw [append, Effect.bind_of_ok hstate]
  rcases guard_cases (s.run? event.runId) with ⟨hsettled, state, hguard⟩ | ⟨hopen, hguard⟩
  · rw [hguard]
    exact Or.inl ⟨hsettled, state, rfl⟩
  · simp only [hguard, Effect.bind_of_ok hnext]
    cases hid : s.hasEvent event.id with
    | true =>
        exact Or.inr (Or.inl ⟨hopen, rfl, Effect.bind_of_error (insertRow_of_taken hid)⟩)
    | false =>
        have hins : insertRow (s.stamp event) s = (.ok (), s.push (s.stamp event)) :=
          insertRow_of_fresh hid (not_any_seq_eq_next s event.runId)
        exact Or.inr (Or.inr ⟨hopen, rfl, Effect.bind_of_ok hins⟩)

/-- The refusal of the guard names the state of the run. -/
lemma append_of_terminal {event : RunEvent} {s : Store} {state : RunState}
    (h : ((s.run? event.runId).map RunRow.state).filter RunState.isTerminal = some state) :
    append event s = (.error (terminalRunStateError event.runId state), s) := by
  have hstate : getRunState event.runId s = (.ok ((s.run? event.runId).map RunRow.state), s) := rfl
  rw [append, Effect.bind_of_ok hstate, h]
  rfl

/-- `append` in weakest-precondition form. -/
lemma wp_append {event : RunEvent} {Q : RunEvent → Store → Prop} {E : PyError → Store → Prop}
    {s : Store} (herr : ∀ e, E e s)
    (hok : s.settled event.runId = false → s.hasEvent event.id = false →
      Q (s.stamp event) (s.push (s.stamp event))) :
    Effect.wp (append event) Q E s := by
  rcases append_cases event s with ⟨-, _, h⟩ | ⟨-, -, h⟩ | ⟨hs, hid, h⟩
  · exact (Effect.wp_of_error h).mpr (herr _)
  · exact (Effect.wp_of_error h).mpr (herr _)
  · exact (Effect.wp_of_ok h).mpr (hok hs hid)

/-- An event with a free id is stored in the log of an open run. -/
lemma wp_append_of_open {event : RunEvent} {Q : RunEvent → Store → Prop}
    {E : PyError → Store → Prop} {s : Store} (hopen : s.settled event.runId = false)
    (hfresh : s.hasEvent event.id = false) :
    Effect.wp (append event) Q E s ↔ Q (s.stamp event) (s.push (s.stamp event)) := by
  rcases append_cases event s with ⟨hs, -⟩ | ⟨-, hid, -⟩ | ⟨-, -, h⟩
  · exact absurd (hs.symm.trans hopen) (by simp)
  · exact absurd (hid.symm.trans hfresh) (by simp)
  · exact Effect.wp_of_ok h

/-- `append` reads the runs and the events and adds an event: it respects every relation that
fixes the former and is kept by the latter. -/
lemma respects_append {R : Store → Store → Prop} (hruns : ∀ s s', R s s' → s.runs = s'.runs)
    (hevents : ∀ s s', R s s' → s.runEvents = s'.runEvents)
    (hpush : ∀ (e : RunEvent) s s', R s s' → R (s.push e) (s'.push e)) (event : RunEvent) :
    Effect.Respects R (append event) := by
  have hlog : ∀ (runId : String) (s s' : Store), R s s' → s.log runId = s'.log runId := by
    intro runId s s' h
    rw [Store.log, hevents s s' h, Store.log]
  have hinsert : ∀ row : RunEvent, Effect.Respects R (insertRow row) := by
    intro row
    refine (Effect.respects_gets fun s s' h => ?_).bind fun taken => ?_
    · rw [Store.hasEvent, hevents s s' h, Store.hasEvent]
    · cases taken with
      | true => exact Effect.respects_raise _
      | false =>
          refine (Effect.respects_gets fun s s' h => ?_).bind fun numbered => ?_
          · rw [hlog row.runId s s' h]
          · cases numbered with
            | true => exact Effect.respects_raise _
            | false => exact Effect.respects_modify (hpush row)
  refine (Effect.respects_gets fun s s' h => ?_).bind fun latestState => ?_
  · rw [Store.run?, hruns s s' h, Store.run?]
  · cases latestState.filter RunState.isTerminal with
    | some state => exact Effect.respects_raise _
    | none =>
        refine (Effect.respects_gets fun s s' h => ?_).bind fun nextSeq => ?_
        · simp only [Store.latestSeq, hlog event.runId s s' h]
        · exact (hinsert _).bind fun _ => Effect.respects_pure _

end Waywarden.RunEventRepository
