import Waywarden.System.RunMachine
import Waywarden.System.EventStream

/-!
# What a reconnecting client is sent

A client that has seen the events up to `last_seen_seq` should be sent the ones after it, each once
and in order.  The replay does so, and so does every later reading that starts from what was sent;
but when nothing was sent the cut-off falls back to `0` instead of the client's position, and a
client at the head of the log is sent the whole of it with the first notification.

`Aligned` is the invariant that holds as long as no reading of that kind is sent, `Rewinds` the
step that sends it.
-/

namespace Waywarden.RunEvents

open Machine

/-- The frames are numbered from the client's position on, without a gap. -/
def InOrder (lastSeen : ℕ) (frames : List RunEvent) : Prop :=
  frames.map RunEvent.seq = List.range' (lastSeen + 1) frames.length

/-- The events a loop still has to go are numbered from what was sent, or, when nothing was, from
the client's position in the first loop and from `0` in the second. -/
def Expects (lastSeen : ℕ) (st : Stream) : Prop :=
  match st.phase with
  | .opening => st.frames = []
  | .replaying batch =>
      batch.map RunEvent.seq = List.range' (lastSeen + st.frames.length + 1) batch.length
  | .draining batch =>
      batch.map RunEvent.seq =
        List.range' ((if st.frames.isEmpty then 0 else lastSeen + st.frames.length) + 1)
          batch.length
  | _ => True

/-- The frames are in order, and so is what is to come. -/
structure Aligned {Pid : Type} (lastSeen : ℕ) (ch : Channel Pid) : Prop where
  log : SeqLog.Contiguous RunEvent.seq (ch.store.log ch.stream.runId)
  position : ch.stream.lastSeenSeq = lastSeen
  inOrder : InOrder lastSeen ch.stream.frames
  expects : Expects lastSeen ch.stream

/-- The step sends the first event of a reading that started from `0`, to a client with a position
of its own. -/
def Rewinds {Pid : Type} (ch : Channel Pid) (a : Action Pid) : Prop :=
  a = .resume ∧ ch.stream.frames = [] ∧ 0 < ch.stream.lastSeenSeq ∧
    ∃ ev rest, ch.stream.phase = .draining (ev :: rest)

/-! ## One step -/

section

variable {lastSeen : ℕ} {st : Stream}

lemma InOrder.seq_le {frames : List RunEvent} (h : InOrder lastSeen frames) {n : ℕ}
    (hn : n ∈ frames.map RunEvent.seq) : n ≤ lastSeen + frames.length := by
  rw [h, List.mem_range'_1] at hn
  omega

/-- The cut-off of a later reading is the last number sent, once something was. -/
lemma InOrder.cutoff_eq (h : InOrder lastSeen st.frames) (hposition : st.lastSeenSeq = lastSeen)
    (hne : st.frames.isEmpty = false) : st.cutoff = (lastSeen + st.frames.length : ℕ) := by
  have hmax := SeqLog.max_maxSeq h
  rw [Stream.cutoff, hne, hposition, if_neg (by simp)]
  omega

/-- A loop whose events follow the frames sends the next one, or comes to its end. -/
lemma step_of_inOrder {batch : List RunEvent} (loop : List RunEvent → Phase)
    (hframes : InOrder lastSeen st.frames)
    (hbatch : batch.map RunEvent.seq =
      List.range' (lastSeen + st.frames.length + 1) batch.length) :
    (batch = [] ∧ st.step batch loop = (none, st.block)) ∨
    ∃ ev rest, st.step batch loop =
        (some ev, { st with frames := st.frames ++ [ev], phase := loop rest }) ∧
      InOrder lastSeen (st.frames ++ [ev]) ∧
      rest.map RunEvent.seq =
        List.range' (lastSeen + (st.frames ++ [ev]).length + 1) rest.length := by
  -- nothing that is still to go was sent before
  have hnew : ∀ e ∈ batch, st.emitted e.seq ≠ true := by
    intro e he hsent
    have hle := hframes.seq_le (emitted_iff.mp hsent)
    have hlt : e.seq ∈ batch.map RunEvent.seq := List.mem_map.mpr ⟨e, he, rfl⟩
    rw [hbatch, List.mem_range'_1] at hlt
    omega
  rcases step_cases st batch loop with ⟨hsent, h⟩ | ⟨sent, ev, rest, rfl, hsent, -, h⟩
  · refine Or.inl ⟨List.eq_nil_iff_forall_not_mem.mpr fun e he => ?_, h⟩
    exact hnew e he (hsent e he)
  · cases sent with
    | cons e sent => exact absurd (hsent e List.mem_cons_self) (hnew e List.mem_cons_self)
    | nil =>
        rw [List.nil_append, List.map_cons, List.length_cons, List.range'_succ,
          List.cons.injEq] at hbatch
        refine Or.inr ⟨ev, rest, h, ?_, ?_⟩
        · rw [InOrder, List.map_append, hframes, List.map_singleton, hbatch.1, List.length_append,
            List.length_singleton, List.range'_concat]
          simp only [Nat.one_mul, List.append_cancel_left_eq, List.cons.injEq, and_true]
          omega
        · rw [hbatch.2, List.length_append, List.length_singleton]
          rfl

end

section

variable {Pid : Type} {lastSeen : ℕ} {ch : Channel Pid}

lemma Aligned.notify (h : Aligned lastSeen ch) (runId : String) {ch' : Channel Pid}
    (hstore : ch'.store = ch.store) (hstream : ch'.stream = ch.stream.notify runId) :
    Aligned lastSeen ch' := by
  obtain ⟨hrun, hposition, hframes, hphase⟩ := notify_frame ch.stream runId
  have hexpects : Expects lastSeen ch'.stream := by
    rw [Expects, hstream, hphase, hframes]
    exact h.expects
  refine ⟨?_, ?_, ?_, hexpects⟩
  · rw [hstore, hstream, hrun]
    exact h.log
  · rw [hstream, hposition]
    exact h.position
  · rw [hstream, hframes]
    exact h.inOrder

/-- A loop keeps the stream aligned, when its events follow the frames. -/
lemma Aligned.step (h : Aligned lastSeen ch) {batch : List RunEvent}
    {loop : List RunEvent → Phase} (hloop : loop = .replaying ∨ loop = .draining)
    (hbatch : batch.map RunEvent.seq =
      List.range' (lastSeen + ch.stream.frames.length + 1) batch.length) :
    Aligned lastSeen { ch with stream := (ch.stream.step batch loop).2 } := by
  rcases step_of_inOrder loop h.inOrder hbatch with ⟨-, hstep⟩ | ⟨ev, rest, hstep, hframes, hrest⟩
  · rw [hstep]
    exact ⟨h.log, h.position, h.inOrder, trivial⟩
  · rw [hstep]
    refine ⟨h.log, h.position, hframes, ?_⟩
    rcases hloop with rfl | rfl
    · exact hrest
    · have hsent : (ch.stream.frames ++ [ev]).isEmpty = false := by simp
      simp only [Expects, hsent]
      exact hrest

/-- A reading of the log keeps the stream aligned. -/
lemma Aligned.query (h : Aligned lastSeen ch) {since : ℤ} {loop : List RunEvent → Phase}
    (hexpects : Expects lastSeen
      { ch.stream with phase := loop ((ch.store.log ch.stream.runId).drop since.toNat) }) :
    Aligned lastSeen { ch with stream := ch.stream.query ch.store since loop } := by
  rw [query_of_contiguous h.log]
  exact ⟨h.log, h.position, h.inOrder, hexpects⟩

/-- The events of a later reading follow the frames, unless the step rewinds. -/
lemma Aligned.follows (h : Aligned lastSeen ch) {batch : List RunEvent}
    (hphase : ch.stream.phase = .draining batch) (hgood : ¬ Rewinds ch (.resume : Action Pid)) :
    batch.map RunEvent.seq =
      List.range' (lastSeen + ch.stream.frames.length + 1) batch.length := by
  have hexpects := h.expects
  simp only [Expects, hphase] at hexpects
  cases batch with
  | nil => rfl
  | cons ev rest =>
      rw [hexpects]
      cases hframes : ch.stream.frames with
      | cons e frames => rfl
      | nil =>
          have hzero : lastSeen = 0 := by
            by_contra hpos
            refine hgood ⟨rfl, hframes, ?_, ev, rest, hphase⟩
            rw [h.position]
            omega
          simp [hzero]

variable [DecidableEq Pid]

/-- **One step.**  Every step but a rewinding one keeps the stream aligned. -/
lemma Aligned.next (h : Aligned lastSeen ch) {a : Action Pid} (ha : ¬ Rewinds ch a) :
    Aligned lastSeen ((channelMachine Pid).next ch a) := by
  cases a with
  | append producer event =>
      rcases next_append ch producer event with hnext | hnext
      · rw [hnext]
        exact h
      · rw [hnext]
        exact ⟨Store.contiguous_push_stamp h.log event, h.position, h.inOrder, h.expects⟩
  | publish producer =>
      rcases next_publish ch producer with ⟨-, hnext⟩ | ⟨event, -, hnext⟩
      · rw [hnext]
        exact h
      · rw [hnext]
        exact h.notify event.runId rfl rfl
  | notify runId => exact h.notify runId rfl rfl
  | writeRuns rows => exact ⟨h.log, h.position, h.inOrder, h.expects⟩
  | disconnect => exact ⟨h.log, h.position, h.inOrder, trivial⟩
  | resume =>
      have hexpects := h.expects
      rw [next_resume, Stream.resume]
      cases hphase : ch.stream.phase with
      | opening =>
          simp only [Expects, hphase] at hexpects
          apply h.query
          rw [h.position, Int.toNat_natCast]
          simp only [Expects, hexpects, List.length_nil, Nat.add_zero]
          exact h.log.map_drop lastSeen
      | replaying batch =>
          simp only [Expects, hphase] at hexpects
          exact h.step (Or.inl rfl) hexpects
      | waiting =>
          simp only
          split
          · exact ⟨h.log, h.position, h.inOrder, trivial⟩
          · exact h
      | requerying =>
          apply h.query
          cases hempty : ch.stream.frames.isEmpty with
          | true =>
              rw [Stream.cutoff, hempty, if_pos rfl]
              simp only [Expects, hempty, if_true]
              exact h.log.map_drop 0
          | false =>
              rw [h.inOrder.cutoff_eq h.position hempty, Int.toNat_natCast]
              simp only [Expects, hempty]
              exact h.log.map_drop _
      | draining batch => exact h.step (Or.inr rfl) (h.follows hphase ha)
      | closing => exact ⟨h.log, h.position, h.inOrder, trivial⟩
      | returned => exact h

/-- A rewinding step sends the first event of the log. -/
lemma Aligned.rewound (h : Aligned lastSeen ch) {a : Action Pid} (ha : Rewinds ch a) :
    ¬ InOrder lastSeen ((channelMachine Pid).next ch a).stream.frames := by
  obtain ⟨rfl, hframes, hpos, ev, rest, hphase⟩ := ha
  have hexpects := h.expects
  simp only [Expects, hphase, hframes, List.isEmpty_nil, if_true, List.map_cons,
    List.length_cons, List.range'_succ, List.cons.injEq] at hexpects
  rw [h.position] at hpos
  have hnone : ∀ n, ch.stream.emitted n ≠ true := by
    intro n hn
    rw [emitted_iff, hframes] at hn
    exact absurd hn List.not_mem_nil
  rw [next_resume, Stream.resume, hphase]
  rcases step_cases ch.stream (ev :: rest) .draining with ⟨hsent, -⟩ | ⟨sent, e, later, hsplit,
    hsent, -, hstep⟩
  · exact absurd (hsent ev List.mem_cons_self) (hnone _)
  · simp only [hstep, hframes, List.nil_append]
    cases sent with
    | cons x sent => exact absurd (hsent x List.mem_cons_self) (hnone _)
    | nil =>
        obtain rfl : ev = e := (List.cons_eq_cons.mp hsplit).1
        intro hin
        have hseq : ev.seq = lastSeen + 1 := by simpa [InOrder] using hin
        omega

end

/-! ## A client that starts behind the head -/

section

variable {Pid : Type} {lastSeen : ℕ} {ch : Channel Pid}

/-- Something was sent by the time a notification is waited for. -/
def Moving (ch : Channel Pid) : Prop :=
  match ch.stream.phase with
  | .opening => ch.stream.lastSeenSeq.toNat < (ch.store.log ch.stream.runId).length
  | .replaying batch => ch.stream.frames ≠ [] ∨ batch ≠ []
  | .waiting | .requerying | .draining _ => ch.stream.frames ≠ []
  | _ => True

lemma Moving.not_rewinds (h : Moving ch) (a : Action Pid) : ¬ Rewinds ch a := by
  rintro ⟨-, hframes, -, ev, rest, hphase⟩
  simp only [Moving, hphase] at h
  exact h hframes

lemma Moving.notify (h : Moving ch) (runId : String) {ch' : Channel Pid}
    (hstore : ch'.store = ch.store) (hstream : ch'.stream = ch.stream.notify runId) :
    Moving ch' := by
  obtain ⟨hrun, hposition, hframes, hphase⟩ := notify_frame ch.stream runId
  rw [Moving, hstream, hphase, hframes, hposition, hrun, hstore]
  exact h

lemma Moving.push (h : Moving ch) (e : RunEvent) {ch' : Channel Pid}
    (hstore : ch'.store = ch.store.push e) (hstream : ch'.stream = ch.stream) : Moving ch' := by
  have hgrows : (ch.store.log ch.stream.runId).length ≤
      ((ch.store.push e).log ch.stream.runId).length := by
    rw [Store.log_push]
    split
    · rw [List.length_append]
      omega
    · exact le_refl _
  rw [Moving, hstream, hstore]
  rw [Moving] at h
  cases hphase : ch.stream.phase with
  | opening =>
      rw [hphase] at h
      exact lt_of_lt_of_le h hgrows
  | _ =>
      rw [hphase] at h
      exact h

/-- A stream just opened is aligned with its log. -/
lemma aligned_start {store : Store} {runId : String}
    (hlog : SeqLog.Contiguous RunEvent.seq (store.log runId)) :
    Aligned lastSeen (Channel.start store runId lastSeen : Channel Pid) :=
  ⟨hlog, rfl, rfl, rfl⟩

variable [DecidableEq Pid]

/-- A turn of a client that starts behind the head: it has frames to send, or it goes on to them. -/
lemma Moving.resume (h : Moving ch) (haligned : Aligned lastSeen ch) :
    Moving ((channelMachine Pid).next ch .resume) := by
  have hmoving := h
  rw [next_resume, Stream.resume]
  cases hphase : ch.stream.phase with
  | opening =>
      simp only [Moving, hphase] at hmoving
      simp only [query_of_contiguous haligned.log]
      refine Or.inr fun hnil => ?_
      have hlength := List.drop_eq_nil_iff.mp hnil
      omega
  | replaying batch =>
      simp only [Moving, hphase] at hmoving
      have hexpects := haligned.expects
      simp only [Expects, hphase] at hexpects
      rcases step_of_inOrder .replaying haligned.inOrder hexpects with
        ⟨rfl, hstep⟩ | ⟨ev, rest, hstep, -, -⟩
      · simp only [hstep]
        exact hmoving.resolve_right fun hne => hne rfl
      · simp only [hstep]
        exact Or.inl (by simp)
  | waiting =>
      simp only [Moving, hphase] at hmoving
      simp only
      split
      · exact hmoving
      · exact h
  | requerying =>
      simp only [Moving, hphase] at hmoving
      simp only [query_of_contiguous haligned.log]
      exact hmoving
  | draining batch =>
      simp only [Moving, hphase] at hmoving
      rcases step_cases ch.stream batch .draining with
        ⟨-, hstep⟩ | ⟨_, ev, rest, -, -, -, hstep⟩
      · simp only [hstep]
        exact hmoving
      · simp only [hstep]
        exact fun hnil => absurd hnil (by simp)
  | closing => trivial
  | returned => exact h

/-- **One step** of a client that starts behind the head. -/
lemma Moving.next (h : Moving ch) (haligned : Aligned lastSeen ch) (a : Action Pid) :
    Moving ((channelMachine Pid).next ch a) := by
  cases a with
  | append producer event =>
      rcases next_append ch producer event with hnext | hnext
      · rw [hnext]
        exact h
      · rw [hnext]
        exact h.push _ rfl rfl
  | publish producer =>
      rcases next_publish ch producer with ⟨-, hnext⟩ | ⟨event, -, hnext⟩
      · rw [hnext]
        exact h
      · rw [hnext]
        exact h.notify event.runId rfl rfl
  | notify runId => exact h.notify runId rfl rfl
  | writeRuns rows => exact h
  | disconnect => trivial
  | resume => exact h.resume haligned

end

/-! ## A client at the head of the log -/

section

variable {Pid : Type} {store : Store} {runId : String} {lastSeen : ℕ}

/-- A stream that has sent nothing, among producers that hold nothing. -/
def unsent (store : Store) (runId : String) (lastSeen : ℕ) (phase : Phase)
    (subscribed eventSet : Bool) : Channel Pid :=
  ⟨store, ⟨runId, lastSeen, phase, [], subscribed, eventSet⟩, fun _ => none, store.log runId⟩

lemma unsent_query (hlog : SeqLog.Contiguous RunEvent.seq (store.log runId)) (phase : Phase)
    (subscribed eventSet : Bool) (since : ℤ) (loop : List RunEvent → Phase) :
    { (unsent store runId lastSeen phase subscribed eventSet : Channel Pid) with
      stream := Stream.query ⟨runId, lastSeen, phase, [], subscribed, eventSet⟩ store since loop } =
      unsent store runId lastSeen (loop ((store.log runId).drop since.toNat)) subscribed
        eventSet := by
  rw [query_of_contiguous hlog]
  rfl

variable [DecidableEq Pid]

lemma unsent_opening (hlog : SeqLog.Contiguous RunEvent.seq (store.log runId)) :
    (channelMachine Pid).next (unsent store runId lastSeen .opening false false) .resume =
      unsent store runId lastSeen (.replaying ((store.log runId).drop lastSeen)) false false := by
  have h := @unsent_query Pid store runId lastSeen hlog .opening false false lastSeen .replaying
  rw [Int.toNat_natCast] at h
  exact h

lemma unsent_notify :
    (channelMachine Pid).next (unsent store runId lastSeen .waiting true false)
      (.notify runId) = unsent store runId lastSeen .waiting true true := by
  show { (unsent store runId lastSeen .waiting true false : Channel Pid) with
    stream := Stream.notify ⟨runId, lastSeen, .waiting, [], true, false⟩ runId } = _
  rw [Stream.notify, if_pos ⟨rfl, rfl⟩]
  rfl

/-- The reading after a notification finds the stream with nothing sent, and starts from `0`. -/
lemma rewinds_at_head (hlog : SeqLog.Contiguous RunEvent.seq (store.log runId))
    (hpos : 0 < lastSeen) (hhead : lastSeen = (store.log runId).length) :
    ¬ (channelMachine Pid).Meets (fun ch a => ¬ Rewinds ch a)
      (Channel.start store runId lastSeen)
      [.resume, .resume, .notify runId, .resume, .resume, .resume] := by
  have hstart : (Channel.start store runId lastSeen : Channel Pid) =
      unsent store runId lastSeen .opening false false := rfl
  have hblocked : (channelMachine Pid).next
      (unsent store runId lastSeen (.replaying []) false false) .resume =
        unsent store runId lastSeen .waiting true false := rfl
  have hwoken : (channelMachine Pid).next
      (unsent store runId lastSeen .waiting true true) .resume =
        unsent store runId lastSeen .requerying true true := rfl
  have hread : (channelMachine Pid).next
      (unsent store runId lastSeen .requerying true true) .resume =
        unsent store runId lastSeen (.draining (store.log runId)) true true :=
    unsent_query hlog .requerying true true 0 .draining
  simp only [Meets, hstart, unsent_opening hlog, List.drop_eq_nil_of_le (le_of_eq hhead.symm),
    hblocked, unsent_notify, hwoken, hread]
  rintro ⟨-, -, -, -, -, hgood, -⟩
  cases hrows : store.log runId with
  | nil =>
      rw [hrows] at hhead
      exact absurd hhead (by simpa using Nat.ne_of_gt hpos)
  | cons ev rest =>
      refine hgood ⟨rfl, rfl, Int.natCast_pos.mpr hpos, ev, rest, ?_⟩
      rw [hrows]
      rfl

/-- **What a reconnecting client is sent.**  Along a run, the frames are numbered from the client's
position on exactly when no step rewinds; and that is so along every run exactly when the client
starts at `0` or behind the head of the log. -/
theorem framesInOrder_iff (hlog : SeqLog.Contiguous RunEvent.seq (store.log runId))
    (hseen : lastSeen ≤ latestSeqSafe runId store) :
    (∀ actions : List (Action Pid),
      (∀ t ∈ (channelMachine Pid).trace (Channel.start store runId lastSeen) actions,
        InOrder lastSeen t.after.stream.frames) ↔
      (channelMachine Pid).Meets (fun ch a => ¬ Rewinds ch a)
        (Channel.start store runId lastSeen) actions) ∧
    ((∀ actions : List (Action Pid),
      ∀ t ∈ (channelMachine Pid).trace (Channel.start store runId lastSeen) actions,
        InOrder lastSeen t.after.stream.frames) ↔
      lastSeen = 0 ∨ lastSeen < latestSeqSafe runId store) := by
  have hiff : ∀ actions : List (Action Pid),
      (∀ t ∈ (channelMachine Pid).trace (Channel.start store runId lastSeen) actions,
        InOrder lastSeen t.after.stream.frames) ↔
      (channelMachine Pid).Meets (fun ch a => ¬ Rewinds ch a)
        (Channel.start store runId lastSeen) actions := fun actions =>
    (channelMachine Pid).forall_iff_meets (I := Aligned lastSeen) (fun _ _ h ha => h.next ha)
      (fun _ h => h.inOrder) (fun _ _ h ha => h.rewound (not_not.mp ha)) (aligned_start hlog)
  have hlatest : latestSeqSafe runId store = (store.log runId).length := hlog.maxSeq_eq
  refine ⟨hiff, fun hall => ?_, fun hbehind actions => (hiff actions).mpr ?_⟩
  · by_contra hnot
    have hmeets := (hiff _).mp (hall [.resume, .resume, .notify runId, .resume, .resume, .resume])
    exact rewinds_at_head hlog (by omega) (by omega) hmeets
  · rcases hbehind with rfl | hbehind
    · -- a client at `0` has no position to fall behind
      have hgood : ∀ (ch : Channel Pid) a, Aligned 0 ch → ¬ Rewinds ch a := by
        rintro ch a h ⟨-, -, hpos, -⟩
        rw [h.position] at hpos
        exact absurd hpos (by simp)
      exact (channelMachine Pid).meets_of_invariant (fun ch a h => h.next (hgood ch a h)) hgood
        actions (aligned_start hlog)
    · refine (channelMachine Pid).meets_of_invariant
        (I := fun ch => Moving ch ∧ ∃ n, Aligned n ch) ?_ (fun _ _ h => h.1.not_rewinds _) actions
        ⟨?_, lastSeen, aligned_start hlog⟩
      · rintro ch a ⟨hmoving, n, haligned⟩
        exact ⟨hmoving.next haligned a, n, haligned.next (hmoving.not_rewinds a)⟩
      · show (lastSeen : ℤ).toNat < (store.log runId).length
        omega

end

lemma contiguous_startedStore :
    SeqLog.Contiguous RunEvent.seq (startedStore.log "run-t1") := by
  unfold SeqLog.Contiguous
  decide

/-- A client of the started run that has seen nothing is sent the log in order. -/
theorem framesInOrder_from_zero :
    startedStore.latestSeq "run-t1" = 1 ∧ ∀ actions : List (Action Unit),
      ∀ t ∈ (channelMachine Unit).trace (Channel.start startedStore "run-t1" 0) actions,
        InOrder 0 t.after.stream.frames := by
  have hseen : 0 ≤ latestSeqSafe "run-t1" startedStore := Nat.zero_le _
  exact ⟨by decide, (framesInOrder_iff contiguous_startedStore hseen).2.mpr (Or.inl rfl)⟩

/-- A client at the head waits; a producer appends the second event and publishes the run; the
client is sent the first event again. -/
theorem not_framesInOrder_at_head :
    runEventsStream true startedStore "run-t1" 1 =
        .ok (Channel.start startedStore "run-t1" 1 : Channel Unit).stream ∧
      ¬ ∀ t ∈ (channelMachine Unit).trace (Channel.start startedStore "run-t1" 1)
          [.resume, .resume,
            .append () (RunLifecycleService.resumedEvent "run-t1" "worker_restart" 1 0),
            .publish (), .resume, .resume, .resume],
        InOrder 1 t.after.stream.frames := by
  refine ⟨rfl, fun h => ?_⟩
  have hlast := h _ (List.mem_of_getElem? (i := 6) rfl)
  exact absurd hlast (by unfold InOrder; decide)

end Waywarden.RunEvents
