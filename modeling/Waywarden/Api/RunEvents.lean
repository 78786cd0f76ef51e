import Waywarden.Infra.RunEventRepository

/-!
# `GET /runs/{run_id}/events`

`waywarden.api.routers.run_events` and the in-process notifications of
`waywarden.api.streaming.sse`: the endpoint checks the client's position and starts a coroutine,
which replays the events after that position and then waits for notifications, each followed by
another reading of the log.

The coroutine gives control away at its `await`s and its `yield`s only, so its state between two
of them is a `Phase`, and `resume` is everything it does from one to the next.  Its subscriber is
part of that state: whether it is registered, and whether its event is set.
-/

namespace Waywarden.RunEvents

/-- `_terminal_states`. -/
def terminalStates : List String := ["completed", "failed", "cancelled"]

/-- Where the coroutine gave control away. -/
inductive Phase
  /-- before the first reading of the log -/
  | opening
  /-- in the first loop, with these events still to go -/
  | replaying (batch : List RunEvent)
  /-- in `_Subscriber.wait` -/
  | waiting
  /-- notified, before another reading of the log -/
  | requerying
  /-- in the second loop, with these events still to go -/
  | draining (batch : List RunEvent)
  /-- at the `yield` of an event that closes the stream -/
  | closing
  | returned

/-- The coroutine of one client. -/
structure Stream where
  runId : String
  lastSeenSeq : ℤ
  phase : Phase
  /-- the frames sent so far, by the events in them -/
  frames : List RunEvent
  /-- whether the subscriber is registered -/
  subscribed : Bool
  /-- whether the subscriber's event is set -/
  eventSet : Bool

namespace Stream

variable (st : Stream)

/-- Whether a number is in `emitted_seqs`. -/
def emitted (seq : ℕ) : Bool := st.frames.any fun ev => ev.seq = seq

/-- `cutoff`. -/
def cutoff : ℤ :=
  if st.frames.isEmpty then 0 else max st.lastSeenSeq (SeqLog.maxSeq RunEvent.seq st.frames)

/-- The end of the coroutine, by itself, by an exception or by the client going away: the
subscriber is removed. -/
def close : Stream := { st with phase := .returned, subscribed := false }

/-- What ends both loops: a subscriber, registered by now, is given a new event and waited for. -/
def block : Stream := { st with phase := .waiting, subscribed := true, eventSet := false }

/-- A reading of the log, followed by one of the loops. -/
def query (store : Store) (since : ℤ) (loop : List RunEvent → Phase) : Stream :=
  match RunEventRepository.list st.runId since.toNat none store with
  | (.ok events, _) =>
      { st with phase := loop (events.insertionSort fun a b => a.seq ≤ b.seq) }
  | (.error _, _) => st.close

/-- A loop from one `yield` to the next: the events sent before are skipped. -/
def step (batch : List RunEvent) (loop : List RunEvent → Phase) : Option RunEvent × Stream :=
  match batch.dropWhile fun ev => st.emitted ev.seq with
  | [] => (none, st.block)
  | ev :: rest =>
      (some ev, { st with
        frames := st.frames ++ [ev]
        phase := if ev.type.name ∈ terminalStates then .closing else loop rest })

/-- What `_build_stream` does when it is given control: the frame it sends, if any. -/
def resume (store : Store) : Option RunEvent × Stream :=
  match st.phase with
  | .opening => (none, st.query store st.lastSeenSeq .replaying)
  | .replaying batch => st.step batch .replaying
  | .waiting => (none, if st.eventSet then { st with phase := .requerying } else st)
  | .requerying => (none, st.query store st.cutoff .draining)
  | .draining batch => st.step batch .draining
  | .closing => (none, st.close)
  | .returned => (none, st)

/-- `_publish`, as far as this subscriber is concerned. -/
def notify (runId : String) : Stream :=
  if st.subscribed ∧ st.runId = runId then { st with eventSet := true } else st

end Stream

/-- `_latest_seq_safe`. -/
def latestSeqSafe (runId : String) (store : Store) : ℕ :=
  match RunEventRepository.latestSeq runId store with
  | (.ok latest, _) => latest
  | (.error _, _) => 0

@[simp] lemma latestSeqSafe_eq (runId : String) (store : Store) :
    latestSeqSafe runId store = store.latestSeq runId := rfl

/-- `run_events_stream`, with the repository configured or not. -/
def runEventsStream (configured : Bool) (store : Store) (runId : String) (lastSeenSeq : ℤ) :
    Except PyError Stream :=
  if !configured then
    .error ⟨.httpException, "503: event repository not configured", []⟩
  else if lastSeenSeq > latestSeqSafe runId store then
    .error ⟨.httpException, "400: last_seen_seq (%) exceeds latest seq (%)",
      [toString lastSeenSeq, toString (latestSeqSafe runId store)]⟩
  else
    .ok ⟨runId, lastSeenSeq, .opening, [], false, false⟩

/-- No event type is spelled like one of the names that close a stream. -/
lemma name_not_mem_terminalStates (type : RunEventType) : type.name ∉ terminalStates := by
  cases type <;> decide

section

variable {st : Stream} {store : Store}

lemma emitted_iff {seq : ℕ} : st.emitted seq = true ↔ seq ∈ st.frames.map RunEvent.seq := by
  simp [Stream.emitted]

@[simp] lemma runId_block : st.block.runId = st.runId := rfl

@[simp] lemma frames_block : st.block.frames = st.frames := rfl

/-- What a reading of the log leaves. -/
lemma query_spec (st : Stream) (store : Store) (since : ℤ) (loop : List RunEvent → Phase) :
    ∃ batch, st.query store since loop = { st with phase := loop batch } ∧
      batch.Pairwise (fun a b => a.seq ≤ b.seq) ∧
      ∀ e, e ∈ batch ↔ e ∈ store.log st.runId ∧ since < e.seq := by
  obtain ⟨rows, hrows, -, hmem⟩ := RunEventRepository.list_spec st.runId since.toNat store
  refine ⟨rows.insertionSort fun a b => a.seq ≤ b.seq, by rw [Stream.query, hrows],
    List.pairwise_insertionSort _ _, fun e => ?_⟩
  have hpos := e.seq_pos
  rw [(List.perm_insertionSort _ _).mem_iff, hmem]
  refine and_congr_right fun _ => ?_
  omega

/-- A reading of a contiguous log finds its events in order. -/
lemma query_of_contiguous (h : SeqLog.Contiguous RunEvent.seq (store.log st.runId)) (since : ℤ)
    (loop : List RunEvent → Phase) : st.query store since loop =
      { st with phase := loop ((store.log st.runId).drop since.toNat) } := by
  have hlist : RunEventRepository.list st.runId since.toNat none store =
      (.ok ((store.log st.runId).drop since.toNat), store) := by
    rw [← RunEventRepository.insertionSort_drop h]
    rfl
  have hsorted : ((store.log st.runId).drop since.toNat).insertionSort
      (fun a b => a.seq ≤ b.seq) = (store.log st.runId).drop since.toNat :=
    List.Pairwise.insertionSort_eq
      ((h.pairwise_lt.sublist (List.drop_sublist _ _)).imp fun hlt => Nat.le_of_lt hlt)
  rw [Stream.query, hlist, ← hsorted]
  simp only [hsorted]

/-- What a loop does from one `yield` to the next: it comes to its end and waits, or it sends the
first event that was not sent before. -/
lemma step_cases (st : Stream) (batch : List RunEvent) (loop : List RunEvent → Phase) :
    ((∀ e ∈ batch, st.emitted e.seq = true) ∧ st.step batch loop = (none, st.block)) ∨
    ∃ sent ev rest, batch = sent ++ ev :: rest ∧ (∀ e ∈ sent, st.emitted e.seq = true) ∧
      st.emitted ev.seq = false ∧
      st.step batch loop =
        (some ev, { st with frames := st.frames ++ [ev], phase := loop rest }) := by
  have hsplit := List.takeWhile_append_dropWhile (p := fun e => st.emitted e.seq) (l := batch)
  have hsent : ∀ e ∈ batch.takeWhile fun e => st.emitted e.seq, st.emitted e.seq = true :=
    fun _ he => List.mem_takeWhile_imp (p := fun e : RunEvent => st.emitted e.seq) he
  cases hrest : batch.dropWhile fun e => st.emitted e.seq with
  | nil =>
      rw [hrest, List.append_nil] at hsplit
      rw [hsplit] at hsent
      exact Or.inl ⟨hsent, by rw [Stream.step, hrest]⟩
  | cons ev rest =>
      rw [hrest] at hsplit
      refine Or.inr ⟨_, ev, rest, hsplit.symm, hsent, ?_, ?_⟩
      · have hhead := List.head_dropWhile_not (fun e => st.emitted e.seq) (l := batch)
          (by rw [hrest]; simp)
        simpa [hrest] using hhead
      · rw [Stream.step, hrest]
        simp only [name_not_mem_terminalStates, if_false]

/-- A notification changes neither the frames nor what is to come. -/
lemma notify_frame (st : Stream) (runId : String) :
    (st.notify runId).runId = st.runId ∧ (st.notify runId).lastSeenSeq = st.lastSeenSeq ∧
      (st.notify runId).frames = st.frames ∧ (st.notify runId).phase = st.phase := by
  unfold Stream.notify
  split <;> exact ⟨rfl, rfl, rfl, rfl⟩

/-- The run and the client's position stay. -/
lemma resume_frame (st : Stream) (store : Store) :
    (st.resume store).2.runId = st.runId ∧ (st.resume store).2.lastSeenSeq = st.lastSeenSeq := by
  have hquery : ∀ since loop, (st.query store since loop).runId = st.runId ∧
      (st.query store since loop).lastSeenSeq = st.lastSeenSeq := by
    intro since loop
    obtain ⟨batch, hquery, -⟩ := query_spec st store since loop
    rw [hquery]
    exact ⟨rfl, rfl⟩
  have hstep : ∀ batch loop, (st.step batch loop).2.runId = st.runId ∧
      (st.step batch loop).2.lastSeenSeq = st.lastSeenSeq := by
    intro batch loop
    rcases step_cases st batch loop with ⟨-, h⟩ | ⟨_, ev, _, -, -, -, h⟩ <;> rw [h] <;>
      exact ⟨rfl, rfl⟩
  unfold Stream.resume
  cases st.phase with
  | opening => exact hquery _ _
  | replaying batch => exact hstep batch .replaying
  | waiting =>
      simp only
      split <;> exact ⟨rfl, rfl⟩
  | requerying => exact hquery _ _
  | draining batch => exact hstep batch .draining
  | closing => exact ⟨rfl, rfl⟩
  | returned => exact ⟨rfl, rfl⟩

/-- A step records the frame it sends. -/
lemma frames_resume (st : Stream) (store : Store) :
    (st.resume store).2.frames = st.frames ++ (st.resume store).1.toList := by
  have hquery : ∀ since loop, (st.query store since loop).frames = st.frames := by
    intro since loop
    obtain ⟨batch, hquery, -⟩ := query_spec st store since loop
    rw [hquery]
  have hstep : ∀ batch loop,
      (st.step batch loop).2.frames = st.frames ++ (st.step batch loop).1.toList := by
    intro batch loop
    rcases step_cases st batch loop with ⟨-, h⟩ | ⟨_, ev, _, -, -, -, h⟩
    · rw [h]
      simp
    · rw [h]
      simp
  unfold Stream.resume
  cases st.phase with
  | opening => simp [hquery]
  | replaying batch => exact hstep batch .replaying
  | waiting =>
      simp only [Option.toList_none, List.append_nil]
      split <;> rfl
  | requerying => simp [hquery]
  | draining batch => exact hstep batch .draining
  | closing => simp [Stream.close]
  | returned => simp

end

end Waywarden.RunEvents
