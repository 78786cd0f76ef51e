import Waywarden.System.RunMachine
import Waywarden.System.EventStream

/-!
# Where a stream ends

A stream should end with the terminal event of its run, and a client that has seen that event
should not be kept waiting.  `_build_stream` compares the type of each event it sends with the
names of the terminal states, and no event type is spelled like one of them; on the way that sends
nothing it makes no comparison at all.  So no stream ends before its client goes away.
-/

namespace Waywarden.RunEvents

open Machine

/-- The events up to the first terminal one, and that one. -/
def throughTerminal : List RunEvent → List RunEvent
  | [] => []
  | ev :: rest => if ev.type.isTerminal then [ev] else ev :: throughTerminal rest

/-- The events a client is owed, in order. -/
def owed (store : Store) (runId : String) (lastSeen : ℤ) : List RunEvent :=
  throughTerminal (((store.log runId).filter fun ev => lastSeen < ev.seq).insertionSort
    fun a b => a.seq ≤ b.seq)

/-- The stream sends what it owes and returns, with no notification, when a terminal event is ahead
of its client, and returns when one is behind. -/
structure EndsAtTerminal (store : Store) (st : Stream) : Prop where
  unseen : ∀ ev ∈ store.log st.runId, ev.type.isTerminal = true → st.lastSeenSeq < ev.seq →
    ∃ n, (alone store st n).phase = .returned ∧
      (alone store st n).frames = owed store st.runId st.lastSeenSeq
  seen : ∀ ev ∈ store.log st.runId, ev.type.isTerminal = true → (ev.seq : ℤ) ≤ st.lastSeenSeq →
    ∃ n, (alone store st n).phase = .returned

/-- The stream has not ended and is not about to. -/
def Stream.Open (st : Stream) : Prop := st.phase ≠ .returned ∧ st.phase ≠ .closing

lemma open_of_loop {st : Stream} {loop : List RunEvent → Phase} {batch : List RunEvent}
    (hloop : loop = .replaying ∨ loop = .draining) (hphase : st.phase = loop batch) : st.Open := by
  rw [Stream.Open, hphase]
  rcases hloop with rfl | rfl <;> simp

lemma open_waiting {st : Stream} (hphase : st.phase = .waiting) : st.Open := by
  simp [Stream.Open, hphase]

section

variable {st : Stream} {store : Store}

lemma open_query (st : Stream) (store : Store) (since : ℤ) {loop : List RunEvent → Phase}
    (hloop : loop = .replaying ∨ loop = .draining) : (st.query store since loop).Open := by
  obtain ⟨batch, hquery, -⟩ := query_spec st store since loop
  rw [hquery]
  exact open_of_loop hloop rfl

lemma open_step (st : Stream) (batch : List RunEvent) {loop : List RunEvent → Phase}
    (hloop : loop = .replaying ∨ loop = .draining) : (st.step batch loop).2.Open := by
  rcases step_cases st batch loop with ⟨-, hstep⟩ | ⟨_, ev, rest, -, -, -, hstep⟩
  · rw [hstep]
    exact open_waiting rfl
  · rw [hstep]
    exact open_of_loop hloop rfl

/-- **One step.**  An open stream stays open when it is given control. -/
lemma open_resume (h : st.Open) : (st.resume store).2.Open := by
  obtain ⟨hreturned, hclosing⟩ := h
  unfold Stream.resume
  cases hphase : st.phase with
  | opening => exact open_query st store _ (Or.inl rfl)
  | replaying batch => exact open_step st batch (Or.inl rfl)
  | waiting =>
      simp only
      split
      · simp [Stream.Open]
      · exact ⟨hreturned, hclosing⟩
  | requerying => exact open_query st store _ (Or.inr rfl)
  | draining batch => exact open_step st batch (Or.inr rfl)
  | closing => exact absurd hphase hclosing
  | returned => exact absurd hphase hreturned

/-- A notification leaves the phase as it is. -/
lemma open_notify (h : st.Open) (runId : String) : (st.notify runId).Open := by
  unfold Stream.notify
  split <;> exact h

lemma open_alone (h : st.Open) (n : ℕ) : (alone store st n).Open := by
  induction n generalizing st with
  | zero => exact h
  | succ n ih => exact ih (open_resume h)

end

/-- **One action** other than the end of the connection leaves the stream open. -/
lemma open_next {Pid : Type} [DecidableEq Pid] {ch : Channel Pid} {a : Action Pid}
    (h : ch.stream.Open) (ha : a ≠ .disconnect) :
    ((channelMachine Pid).next ch a).stream.Open := by
  cases a with
  | resume => exact open_resume h
  | append producer event =>
      rcases next_append ch producer event with hnext | hnext
      · rw [hnext]
        exact h
      · rw [hnext]
        exact h
  | publish producer =>
      rcases next_publish ch producer with ⟨-, hnext⟩ | ⟨event, -, hnext⟩
      · rw [hnext]
        exact h
      · rw [hnext]
        exact open_notify h event.runId
  | notify runId => exact open_notify h runId
  | writeRuns rows => exact h
  | disconnect => exact absurd rfl ha

/-- **Where a stream ends.**  A stream the endpoint opens ends as it should only when its run has
no terminal event; whatever the run's log holds or comes to hold, no stream returns before its
client goes away. -/
theorem endsAtTerminal_iff {store : Store} {runId : String} {lastSeen : ℤ} {st : Stream}
    (haccepted : runEventsStream true store runId lastSeen = .ok st) :
    (EndsAtTerminal store st ↔ store.ended runId = false) ∧
    ∀ (Pid : Type) [DecidableEq Pid] (ch : Channel Pid) (actions : List (Action Pid)),
      ch.stream = st → .disconnect ∉ actions →
        ((channelMachine Pid).run ch actions).stream.phase ≠ .returned := by
  have hst : st = ⟨runId, lastSeen, .opening, [], false, false⟩ := by
    rw [runEventsStream, if_neg (by simp)] at haccepted
    split at haccepted
    · exact absurd haccepted (by simp)
    · exact (Except.ok.inj haccepted).symm
  have hopen : st.Open := by
    simp [Stream.Open, hst]
  have hrun : st.runId = runId := by rw [hst]
  refine ⟨⟨fun h => ?_, fun hnone => ?_⟩, fun Pid _ ch actions hch hconnected => ?_⟩
  · -- a terminal event is ahead of the client or behind it
    by_contra hended
    rw [Bool.not_eq_false, Store.ended, List.any_eq_true] at hended
    obtain ⟨ev, hev, hterminal⟩ := hended
    rw [← hrun] at hev
    rcases lt_or_ge st.lastSeenSeq ev.seq with hahead | hbehind
    · obtain ⟨n, hreturned, -⟩ := h.unseen ev hev hterminal hahead
      exact (open_alone hopen n).1 hreturned
    · obtain ⟨n, hreturned⟩ := h.seen ev hev hterminal hbehind
      exact (open_alone hopen n).1 hreturned
  · rw [Store.ended, List.any_eq_false, ← hrun] at hnone
    exact ⟨fun ev hev hterminal => absurd hterminal (hnone ev hev),
      fun ev hev hterminal => absurd hterminal (hnone ev hev)⟩
  · have hopen' : ch.stream.Open := by
      rw [hch]
      exact hopen
    have hmeets : (channelMachine Pid).Meets (fun _ a => a ≠ .disconnect) ch actions :=
      (channelMachine Pid).meets_calls.mpr fun a ha hdisconnect => hconnected (hdisconnect ▸ ha)
    exact ((channelMachine Pid).invariant (I := fun ch => ch.stream.Open)
      (fun _ _ h ha => open_next h ha) hopen' hmeets).1

/-- The started run, completed. -/
def completedStore : Store :=
  startedStore.push (startedStore.stamp (OrchestrationService.completedEvent sampleRun 1 0))

/-- The stream of a client that has seen nothing of the started run returns no sooner than its
client goes away. -/
theorem endsAtTerminal_started :
    EndsAtTerminal startedStore ⟨"run-t1", 0, .opening, [], false, false⟩ ∧
      ((channelMachine Unit).run
        (Channel.start startedStore "run-t1" 0) [.resume, .resume, .resume]).stream.phase ≠
          .returned := by
  have haccepted : runEventsStream true startedStore "run-t1" 0 =
      .ok ⟨"run-t1", 0, .opening, [], false, false⟩ := rfl
  obtain ⟨hiff, hruns⟩ := endsAtTerminal_iff haccepted
  exact ⟨hiff.mpr (by decide), hruns Unit _ _ rfl (by simp)⟩

/-- Neither a client of the completed run that has seen nothing nor one that has seen everything
comes to the end of its stream. -/
theorem not_endsAtTerminal_completed :
    (∃ ev ∈ completedStore.log "run-t1", ev.type = .runCompleted ∧ ev.seq = 2) ∧
    (∃ st, runEventsStream true completedStore "run-t1" 0 = .ok st ∧
      ¬ EndsAtTerminal completedStore st) ∧
    ∃ st, runEventsStream true completedStore "run-t1" 2 = .ok st ∧
      ¬ EndsAtTerminal completedStore st := by
  have hev : ∃ ev ∈ completedStore.log "run-t1", ev.type = .runCompleted ∧ ev.seq = 2 := by
    decide
  have hopen : ∀ lastSeen : ℤ, Stream.Open ⟨"run-t1", lastSeen, .opening, [], false, false⟩ :=
    fun _ => by simp [Stream.Open]
  refine ⟨hev, ⟨_, rfl, fun h => ?_⟩, ⟨_, rfl, fun h => ?_⟩⟩
  · obtain ⟨ev, hmem, htype, hseq⟩ := hev
    obtain ⟨n, hreturned, -⟩ := h.unseen ev hmem (by rw [htype]; rfl) (by rw [hseq]; decide)
    exact (open_alone (hopen 0) n).1 hreturned
  · obtain ⟨ev, hmem, htype, hseq⟩ := hev
    obtain ⟨n, hreturned⟩ := h.seen ev hmem (by rw [htype]; rfl) (by rw [hseq]; decide)
    exact (open_alone (hopen 2) n).1 hreturned

end Waywarden.RunEvents
