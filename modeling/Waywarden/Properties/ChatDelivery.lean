import Waywarden.Properties.ChatDecoding
import Waywarden.Properties.HarnessRuns
import Waywarden.Properties.StreamWakeUp

/-!
# From the log to the terminal

Three parts of the program have a share in what the chat command prints: the services write the log,
the stream reads it and sends frames, the command reads lines.  Here they are put together.  The
store is written to one write of a repository at a time, by any number of calls at once, and between
any two writes the stream may take a turn, be notified, or lose its client.

For a client without a position, and for one behind the last event of the run, what was sent is at
every moment a first part of what the log has after the client's position (`Sends`), with nothing
left out and nothing twice.  So a command that reads what was sent prints the lines of the log in
order, and leaves with the exit code of an event that the log really has (`chat_follows`).  A stream
that waits needs one notification to send all there is (`chat_catchesUp`).  A client that has seen
the last event already is the exception: its second reading of the log begins at the first event.
-/

namespace Waywarden.RunEvents

open Relation

/-- One write to the store, or one turn of the stream. -/
inductive Turn : Store × Stream → Store × Stream → Prop
  | write {s t : Store} (st : Stream) (h : StoreWrite s t) : Turn (s, st) (t, st)
  | resume (s : Store) (st : Stream) : Turn (s, st) (s, (st.resume s).2)
  | notify (s : Store) (st : Stream) (runId : String) : Turn (s, st) (s, st.notify runId)
  | disconnect (s : Store) (st : Stream) : Turn (s, st) (s, st.close)

/-- Any number of them, in any order. -/
abbrev Turns : Store × Stream → Store × Stream → Prop := ReflTransGen Turn

/-- A call of the harness is some writes. -/
lemma turns_call (T : Lowercase.CaseTable) (R : Rendering) (fmt : DateFormat)
    (sha256 : ByteArray → String) (s : Store) (st : Stream) (c : HarnessCall) :
    Turns (s, st) ((harness T R fmt sha256).next s c, st) :=
  (journals_next T R fmt sha256 s c).lift (fun t => (t, st)) fun _ _ h => .write st h

/-! ## What was sent -/

/-- The events sent and the ones still to go are the first ones after the client's position.  A
client of a position of its own has some when the log has been read. -/
structure Sends (position : ℕ) (p : Store × Stream) : Prop where
  numbered : p.1.Numbered
  lastSeen : p.2.lastSeenSeq = position
  unread : p.2.phase = .opening →
    p.2.frames = [] ∧ (position = 0 ∨ position < (p.1.log p.2.runId).length)
  sent : p.2.frames ++ p.2.phase.batch <+: (p.1.log p.2.runId).drop position
  begun : p.2.phase ≠ .opening → p.2.phase ≠ .returned →
    position = 0 ∨ p.2.frames ++ p.2.phase.batch ≠ []
  listening : p.2.phase = .waiting → p.2.subscribed = true

section

variable {k : ℕ} {s t : Store} {st : Stream}

/-- The log may grow. -/
lemma Sends.write (h : Sends k (s, st)) (hwrite : StoreWrite s t) : Sends k (t, st) := by
  have hgrows : s.log st.runId <+: t.log st.runId := hwrite.extension.log_prefix st.runId
  refine ⟨hwrite.numbered h.numbered, h.lastSeen, fun hopening => ?_, ?_, h.begun, h.listening⟩
  · obtain ⟨hnone, hbehind⟩ := h.unread hopening
    have hlength := hgrows.length_le
    exact ⟨hnone, hbehind.imp_right fun hlt => lt_of_lt_of_le hlt hlength⟩
  · exact h.sent.trans (hgrows.drop k)

lemma Sends.notify (h : Sends k (s, st)) (runId : String) : Sends k (s, st.notify runId) := by
  obtain ⟨hrun, hposition, hframes, hphase⟩ := notify_frame st runId
  have hsubscribed : (st.notify runId).subscribed = st.subscribed := by
    unfold Stream.notify
    split <;> rfl
  refine ⟨h.numbered, ?_, ?_, ?_, ?_, ?_⟩
  · rw [hposition]
    exact h.lastSeen
  · rw [hphase, hframes, hrun]
    exact h.unread
  · rw [hphase, hframes, hrun]
    exact h.sent
  · rw [hphase, hframes]
    exact h.begun
  · rw [hphase, hsubscribed]
    exact h.listening

lemma Sends.close (h : Sends k (s, st)) : Sends k (s, st.close) := by
  refine ⟨h.numbered, h.lastSeen, fun hopening => absurd hopening (by simp [Stream.close]), ?_,
    fun _ hlive => absurd rfl hlive, fun hwaiting => absurd hwaiting (by simp [Stream.close])⟩
  show st.frames ++ [] <+: _
  rw [List.append_nil]
  exact (List.prefix_append _ _).trans h.sent

/-- Nothing that is still to go was sent before. -/
lemma Sends.not_emitted (h : Sends k (s, st)) {e : RunEvent} (he : e ∈ st.phase.batch) :
    st.emitted e.seq = false := by
  have hordered : (st.frames ++ st.phase.batch).Pairwise fun a b => a.seq < b.seq :=
    ((h.numbered.contiguous st.runId).pairwise_lt.sublist (List.drop_sublist k _)).sublist
      h.sent.sublist
  rw [← Bool.not_eq_true, emitted_iff]
  intro hsent
  obtain ⟨f, hf, hseq⟩ := List.mem_map.mp hsent
  have hlt : f.seq < e.seq := (List.pairwise_append.mp hordered).2.2 f hf e he
  omega

/-- A loop sends the next of its events, or comes to its end. -/
lemma Sends.step_eq (h : Sends k (s, st)) {batch : List RunEvent}
    {loop : List RunEvent → Phase} (hloop : loop = .replaying ∨ loop = .draining)
    (hphase : st.phase = loop batch) :
    (batch = [] ∧ st.step batch loop = (none, st.block)) ∨
    ∃ ev rest, batch = ev :: rest ∧ st.step batch loop =
      (some ev, { st with frames := st.frames ++ [ev], phase := loop rest }) := by
  have hbatch : st.phase.batch = batch := by
    rw [hphase]
    exact (batch_of_loop hloop batch).1
  have hnew : ∀ e ∈ batch, st.emitted e.seq ≠ true := by
    intro e he
    rw [h.not_emitted (hbatch.symm ▸ he)]
    exact Bool.false_ne_true
  rcases step_cases st batch loop with ⟨hsent, hstep⟩ | ⟨sent, ev, rest, rfl, hsent, -, hstep⟩
  · refine Or.inl ⟨List.eq_nil_iff_forall_not_mem.mpr fun e he => ?_, hstep⟩
    exact hnew e he (hsent e he)
  · cases sent with
    | nil => exact Or.inr ⟨ev, rest, rfl, hstep⟩
    | cons e sent => exact absurd (hsent e List.mem_cons_self) (hnew e List.mem_cons_self)

lemma Sends.step (h : Sends k (s, st)) {batch : List RunEvent}
    {loop : List RunEvent → Phase} (hloop : loop = .replaying ∨ loop = .draining)
    (hphase : st.phase = loop batch) : Sends k (s, (st.step batch loop).2) := by
  obtain ⟨hbatch, hopening, -, hreturned⟩ := batch_of_loop hloop batch
  have hsent := h.sent
  have hbegun := h.begun (by rw [hphase]; exact hopening) (by rw [hphase]; exact hreturned)
  rw [hphase, hbatch] at hsent hbegun
  rcases h.step_eq hloop hphase with ⟨rfl, hstep⟩ | ⟨ev, rest, rfl, hstep⟩
  · rw [hstep]
    exact ⟨h.numbered, h.lastSeen, fun hopening => absurd hopening (by simp [Stream.block]),
      hsent, fun _ _ => hbegun, fun _ => rfl⟩
  · obtain ⟨hrest, hopening', hwaiting, -⟩ := batch_of_loop hloop rest
    rw [hstep]
    refine ⟨h.numbered, h.lastSeen, fun hopening => absurd hopening hopening', ?_, fun _ _ => ?_,
      fun hwaits => absurd hwaits hwaiting⟩
    · simp only [hrest, List.append_assoc, List.singleton_append]
      exact hsent
    · simp only [hrest, List.append_assoc, List.singleton_append]
      exact hbegun

/-- A reading of the log from where the frames stop finds the rest of it. -/
lemma Sends.query_eq (h : Sends k (s, st)) (loop : List RunEvent → Phase)
    (hidle : st.phase.batch = []) {since : ℤ} (hsince : since.toNat = k + st.frames.length) :
    ∃ rest, st.query s since loop = { st with phase := loop rest } ∧
      st.frames ++ rest = (s.log st.runId).drop k := by
  have hsent := h.sent
  rw [hidle, List.append_nil] at hsent
  obtain ⟨rest, hrest⟩ := hsent
  refine ⟨(s.log st.runId).drop (k + st.frames.length), ?_, ?_⟩
  · rw [query_of_contiguous (h.numbered.contiguous st.runId), hsince]
  · rw [← List.drop_drop, ← hrest, List.drop_left]

lemma Sends.query (h : Sends k (s, st)) {loop : List RunEvent → Phase}
    (hloop : loop = .replaying ∨ loop = .draining) (hidle : st.phase.batch = [])
    (hbegun : k = 0 ∨ st.frames ≠ [] ∨ k < (s.log st.runId).length) {since : ℤ}
    (hsince : since.toNat = k + st.frames.length) :
    Sends k (s, st.query s since loop) := by
  obtain ⟨rest, hquery, hall⟩ := h.query_eq loop hidle hsince
  obtain ⟨hbatch, hopening, hwaiting, -⟩ := batch_of_loop hloop rest
  rw [hquery]
  refine ⟨h.numbered, h.lastSeen, fun hop => absurd hop hopening, ?_, fun _ _ => ?_,
    fun hwaits => absurd hwaits hwaiting⟩
  · simp only [hbatch, hall]
    exact List.prefix_refl _
  · simp only [hbatch]
    rcases hbegun with hzero | hframes | hbehind
    · exact Or.inl hzero
    · exact Or.inr fun hnil => hframes (List.append_eq_nil_iff.mp hnil).1
    · refine Or.inr fun hnil => ?_
      rw [hall] at hnil
      have hlength := List.drop_eq_nil_iff.mp hnil
      omega

/-- The cut-off of a later reading is where the frames stop. -/
lemma Sends.cutoff_eq (h : Sends k (s, st)) (hidle : st.phase.batch = [])
    (hbegun : k = 0 ∨ st.frames ≠ []) : st.cutoff.toNat = k + st.frames.length := by
  have hsent := h.sent
  rw [hidle, List.append_nil] at hsent
  by_cases hempty : st.frames = []
  · have hzero : k = 0 := hbegun.resolve_right fun hne => hne hempty
    rw [Stream.cutoff, hempty, hzero]
    rfl
  · have hnumbers : st.frames.map RunEvent.seq = List.range' (k + 1) st.frames.length := by
      have hlength := hsent.length_le
      have hfirst := (hsent.map RunEvent.seq)
      rw [(h.numbered.contiguous st.runId).map_drop k, List.prefix_iff_eq_take,
        List.length_map, List.take_range'_of_length_ge hlength] at hfirst
      exact hfirst
    have hmax := SeqLog.max_maxSeq hnumbers
    have hsome : st.frames.isEmpty = false := by rwa [List.isEmpty_eq_false_iff]
    rw [Stream.cutoff, hsome, if_neg Bool.false_ne_true, h.lastSeen]
    omega

/-- **A turn of the stream.** -/
lemma Sends.resume (h : Sends k (s, st)) : Sends k (s, (st.resume s).2) := by
  unfold Stream.resume
  cases hphase : st.phase with
  | opening =>
      obtain ⟨hnone, hbehind⟩ := h.unread hphase
      refine h.query (Or.inl rfl) (by rw [hphase]; rfl) (hbehind.imp_right Or.inr) ?_
      rw [h.lastSeen, hnone]
      rfl
  | replaying batch => exact h.step (Or.inl rfl) hphase
  | waiting =>
      simp only
      split
      · refine ⟨h.numbered, h.lastSeen, fun hopening => absurd hopening (by simp), ?_,
          fun _ _ => ?_, fun hwaits => absurd hwaits (by simp)⟩
        · have hsent := h.sent
          rw [hphase] at hsent
          exact hsent
        · have hbegun := h.begun (by simp [hphase]) (by simp [hphase])
          rw [hphase] at hbegun
          exact hbegun
      · exact h
  | requerying =>
      have hidle : st.phase.batch = [] := by rw [hphase]; rfl
      have hbegun := h.begun (by simp [hphase]) (by simp [hphase])
      rw [hidle, List.append_nil] at hbegun
      exact h.query (Or.inr rfl) hidle (hbegun.imp_right Or.inl) (h.cutoff_eq hidle hbegun)
  | draining batch => exact h.step (Or.inr rfl) hphase
  | closing => exact h.close
  | returned => exact h

lemma Sends.turn {p q : Store × Stream} (h : Sends k p) (hturn : Turn p q) : Sends k q := by
  cases hturn with
  | write st hwrite => exact h.write hwrite
  | resume s st => exact h.resume
  | notify s st runId => exact h.notify runId
  | disconnect s st => exact h.close

lemma Sends.turns {p q : Store × Stream} (h : Sends k p) (hturns : Turns p q) : Sends k q := by
  induction hturns with
  | refl => exact h
  | tail _ hturn ih => exact ih.turn hturn

/-- The stream of a client that has just come. -/
def freshStream (runId : String) (lastSeen : ℤ) : Stream :=
  ⟨runId, lastSeen, .opening, [], false, false⟩

lemma runEventsStream_of_le {runId : String} {lastSeen : ℤ}
    (h : lastSeen ≤ s.latestSeq runId) :
    runEventsStream true s runId lastSeen = .ok (freshStream runId lastSeen) := by
  have hsafe : latestSeqSafe runId s = s.latestSeq runId := rfl
  rw [runEventsStream, if_neg (by simp), if_neg (by rw [hsafe]; omega)]
  rfl

/-- What the endpoint returns. -/
lemma eq_fresh_of_opened {runId : String} {lastSeen : ℤ}
    (h : runEventsStream true s runId lastSeen = .ok st) : st = freshStream runId lastSeen := by
  rw [runEventsStream, if_neg (by simp)] at h
  split at h
  · exact absurd h (by simp)
  · exact (Except.ok.inj h).symm

/-- A stream just opened, for a client behind the head of the log. -/
lemma sends_opened (hs : s.Numbered) {runId : String}
    (hopened : runEventsStream true s runId k = .ok st)
    (hbehind : k = 0 ∨ k < s.latestSeq runId) : Sends k (s, st) ∧ st.runId = runId := by
  have hlatest : s.latestSeq runId = (s.log runId).length := (hs.contiguous runId).maxSeq_eq
  obtain rfl := eq_fresh_of_opened hopened
  refine ⟨⟨hs, rfl, fun _ => ⟨rfl, ?_⟩, List.nil_prefix, fun hne => absurd rfl hne,
    fun hwaits => absurd hwaits (by simp [freshStream])⟩, rfl⟩
  rw [hlatest] at hbehind
  exact hbehind

/-- What was sent stays sent, and the run and the client's position stay the same. -/
lemma frames_turns {p q : Store × Stream} (h : Turns p q) :
    p.2.frames <+: q.2.frames ∧ q.2.runId = p.2.runId ∧ q.2.lastSeenSeq = p.2.lastSeenSeq := by
  induction h with
  | refl => exact ⟨List.prefix_refl _, rfl, rfl⟩
  | @tail r q _ hturn ih =>
      obtain ⟨hframes, hrun, hposition⟩ := ih
      cases hturn with
      | write st hwrite => exact ⟨hframes, hrun, hposition⟩
      | resume s st =>
          obtain ⟨hsame, hstays⟩ := resume_frame st s
          refine ⟨hframes.trans ?_, hsame.trans hrun, hstays.trans hposition⟩
          rw [frames_resume]
          exact List.prefix_append _ _
      | notify s st runId =>
          obtain ⟨hsame, hstays, hkept, -⟩ := notify_frame st runId
          exact ⟨by rw [hkept]; exact hframes, hsame.trans hrun, hstays.trans hposition⟩
      | disconnect s st => exact ⟨hframes, hrun, hposition⟩

lemma turns_alone (s : Store) (st : Stream) (n : ℕ) : Turns (s, st) (s, alone s st n) := by
  induction n generalizing st with
  | zero => exact .refl
  | succ n ih => exact .head (.resume s st) (ih _)

/-! ## A notification is enough -/

lemma alone_add (s : Store) (st : Stream) (n m : ℕ) :
    alone s st (n + m) = alone s (alone s st n) m := by
  induction n generalizing st with
  | zero => rw [Nat.zero_add]; rfl
  | succ n ih =>
      rw [Nat.succ_add]
      exact ih (st.resume s).2

/-- A stream that waits for nothing new stays as it is. -/
lemma alone_waiting (hwaits : st.phase = .waiting) (hunset : st.eventSet = false) (m : ℕ) :
    alone s st m = st := by
  have hstays : (st.resume s).2 = st := by
    unfold Stream.resume
    rw [hwaits]
    simp only [hunset, Bool.false_eq_true, if_false]
  induction m with
  | zero => rfl
  | succ m ih => rw [alone, hstays, ih]

/-- A loop, given control often enough, sends all its events and waits. -/
lemma Sends.alone_loop (h : Sends k (s, st)) {batch : List RunEvent}
    {loop : List RunEvent → Phase} (hloop : loop = .replaying ∨ loop = .draining)
    (hphase : st.phase = loop batch) :
    ∃ n, alone s st n = { st with
      frames := st.frames ++ batch, phase := .waiting, subscribed := true, eventSet := false } := by
  have hresume : st.resume s = st.step batch loop := by
    rw [Stream.resume, hphase]
    rcases hloop with rfl | rfl <;> rfl
  induction batch generalizing st with
  | nil =>
      rcases h.step_eq hloop hphase with ⟨-, hstep⟩ | ⟨ev, rest, hnil, -⟩
      · refine ⟨1, ?_⟩
        rw [alone, hresume, hstep, List.append_nil]
        rfl
      · exact absurd hnil (by simp)
  | cons e batch ih =>
      have hkeeps := h.step hloop hphase
      rcases h.step_eq hloop hphase with ⟨hnil, -⟩ | ⟨ev, rest, hcons, hstep⟩
      · exact absurd hnil (by simp)
      · obtain ⟨rfl, rfl⟩ := List.cons_eq_cons.mp hcons
        rw [hstep] at hkeeps
        obtain ⟨n, hn⟩ := ih hkeeps rfl (by
          rw [Stream.resume]
          rcases hloop with rfl | rfl <;> rfl)
        refine ⟨n + 1, ?_⟩
        rw [alone, hresume, hstep, hn]
        simp only [List.append_assoc, List.singleton_append]

/-- So does a stream that is about to read the log. -/
lemma Sends.alone_reading (h : Sends k (s, st)) {loop : List RunEvent → Phase} {since : ℤ}
    (hloop : loop = .replaying ∨ loop = .draining) (hidle : st.phase.batch = [])
    (hbegun : k = 0 ∨ st.frames ≠ [] ∨ k < (s.log st.runId).length)
    (hsince : since.toNat = k + st.frames.length)
    (hresume : (st.resume s).2 = st.query s since loop) :
    ∃ n, ∀ m ≥ n, (alone s st m).frames = (s.log st.runId).drop k := by
  obtain ⟨rest, hquery, hall⟩ := h.query_eq loop hidle hsince
  have hkeeps := h.query hloop hidle hbegun hsince
  rw [hquery] at hkeeps
  obtain ⟨n, hn⟩ := hkeeps.alone_loop hloop rfl
  refine ⟨n + 1, fun m hm => ?_⟩
  obtain ⟨d, rfl⟩ := Nat.exists_eq_add_of_le hm
  rw [Nat.add_right_comm, alone, hresume, hquery, alone_add, hn, alone_waiting rfl rfl]
  exact hall

end

end Waywarden.RunEvents

/-! ## What is printed -/

namespace Waywarden.EventFrames

open Cli Lines

section

variable (str : Value → String)

/-- What the command makes of the frames of some events. -/
def reading (sent : List RunEvent) : Reading := readLoop (splitLines (frames str sent).toList)

/-- The line of an event. -/
def lineOf (e : RunEvent) : Printed := printed (frameMembers str e)

/-- **The loop on any frames**: the lines through the first terminal event, and its code. -/
lemma reading_eq (sent : List RunEvent) :
    reading str sent =
      ⟨(throughTerminal sent).map (lineOf str), exitCode sent⟩ := by
  unfold reading
  induction sent with
  | nil => rfl
  | cons e sent ih =>
      rw [toList_frames_cons]
      cases hcode : exitCodeOf e.type with
      | none =>
          have hgoes : e.type.isTerminal = false := by rw [isTerminal_eq, hcode]; rfl
          rw [readLoop_frame str hcode, ih, throughTerminal, if_neg (by simp [hgoes]), exitCode,
            exitCode, List.find?_cons, hgoes]
          rfl
      | some code =>
          have hends : e.type.isTerminal = true := by rw [isTerminal_eq, hcode]; rfl
          rw [readLoop_terminalFrame str hcode, throughTerminal, if_pos hends, exitCode,
            List.find?_cons, hends]
          simp [hcode, lineOf]

end

/-- Without a terminal event all is read, and what comes after it. -/
lemma throughTerminal_append_of_open {l : List RunEvent}
    (h : ∀ e ∈ l, e.type.isTerminal = false) (more : List RunEvent) :
    throughTerminal (l ++ more) = l ++ throughTerminal more := by
  induction l with
  | nil => rfl
  | cons e l ih =>
      obtain ⟨he, hl⟩ := List.forall_mem_cons.mp h
      rw [List.cons_append, throughTerminal, if_neg (by simp [he]), ih hl, List.cons_append]

/-- What comes after a terminal event is not read. -/
lemma throughTerminal_append_of_mem {l : List RunEvent} {e : RunEvent} (he : e ∈ l)
    (hends : e.type.isTerminal = true) (more : List RunEvent) :
    throughTerminal (l ++ more) = throughTerminal l ∧
      exitCode (l ++ more) = exitCode l := by
  have hfound : (l.find? fun e => e.type.isTerminal).isSome = true :=
    List.find?_isSome.mpr ⟨e, he, hends⟩
  refine ⟨?_, by rw [exitCode, List.find?_append, Option.or_of_isSome hfound, exitCode]⟩
  clear hfound
  induction l with
  | nil => exact absurd he List.not_mem_nil
  | cons x l ih =>
      rw [List.cons_append, throughTerminal, throughTerminal]
      by_cases hx : x.type.isTerminal = true
      · rw [if_pos hx, if_pos hx]
      · rw [if_neg hx, if_neg hx]
        rcases List.mem_cons.mp he with rfl | he
        · exact absurd hends hx
        · rw [ih he]

lemma exitCodeOf_ne_errorCode (type : RunEventType) : exitCodeOf type ≠ some 3 := by
  cases type <;> decide

/-- The code of an error says that no terminal event was read. -/
lemma exitCode_eq_three_iff {l : List RunEvent} :
    exitCode l = errorCode ↔ ∀ e ∈ l, e.type.isTerminal = false := by
  unfold exitCode errorCode
  cases hfound : l.find? fun e => e.type.isTerminal with
  | none =>
      rw [List.find?_eq_none] at hfound
      exact iff_of_true rfl fun e he => Bool.eq_false_iff.mpr (hfound e he)
  | some e =>
      have hends : e.type.isTerminal = true :=
        @List.find?_some _ (fun e : RunEvent => e.type.isTerminal) _ _ hfound
      refine iff_of_false ?_ fun hall => ?_
      · rw [isTerminal_eq] at hends
        obtain ⟨code, hcode⟩ := Option.isSome_iff_exists.mp hends
        rw [Option.bind_some, hcode, Option.getD_some]
        rintro rfl
        exact exitCodeOf_ne_errorCode e.type hcode
      · rw [hall e (List.mem_of_find?_eq_some hfound)] at hends
        exact absurd hends (by simp)

/-- What the command prints that reads the events sent so far, beside those of the log. -/
structure Follows (str : Value → String) (log sent : List RunEvent) : Prop where
  /-- the lines are a first part of the log's, through its first terminal event -/
  lines : (reading str sent).lines <+: (throughTerminal log).map (lineOf str)
  /-- as long as the command does not know how the run ended, it has printed all it was sent -/
  unended : (reading str sent).exitCode = errorCode →
    (reading str sent).lines = sent.map (lineOf str)
  /-- and when it knows, it is right, and has printed all there is to print -/
  ended : (reading str sent).exitCode ≠ errorCode → reading str sent = reading str log

/-- A client that was sent a first part of the log follows it. -/
lemma follows_of_prefix (str : Value → String) {log sent : List RunEvent} (h : sent <+: log) :
    Follows str log sent := by
  obtain ⟨more, rfl⟩ := h
  by_cases hends : ∃ e ∈ sent, e.type.isTerminal = true
  · obtain ⟨e, he, hends⟩ := hends
    obtain ⟨hlines, hcode⟩ := throughTerminal_append_of_mem he hends more
    refine ⟨?_, fun hopen => ?_, fun _ => ?_⟩
    · rw [reading_eq, hlines]
    · rw [reading_eq] at hopen
      rw [exitCode_eq_three_iff.mp hopen e he] at hends
      exact absurd hends (by simp)
    · rw [reading_eq, reading_eq, hlines, hcode]
  · have hgoes : ∀ e ∈ sent, e.type.isTerminal = false := fun e he =>
      Bool.eq_false_iff.mpr fun hends' => hends ⟨e, he, hends'⟩
    have hself : throughTerminal sent = sent := by
      have h := throughTerminal_append_of_open hgoes []
      rwa [throughTerminal, List.append_nil] at h
    refine ⟨?_, fun _ => by rw [reading_eq, hself], fun hended => absurd ?_ hended⟩
    · rw [reading_eq, hself, throughTerminal_append_of_open hgoes, List.map_append]
      exact List.prefix_append _ _
    · rw [reading_eq]
      exact exitCode_eq_three_iff.mpr hgoes

end Waywarden.EventFrames

/-! ## Every interleaving -/

namespace Waywarden.RunEvents

open EventFrames

section

variable (T : Lowercase.CaseTable) (R : Rendering) (fmt : DateFormat)
  (sha256 : ByteArray → String) (str : Value → String) (calls : List HarnessCall)
  (runId : String) (k : ℕ) (opened : Stream) (s : Store) (st : Stream)

lemma sends_turns
    (hopened : runEventsStream true (afterCalls T R fmt sha256 calls) runId k = .ok opened)
    (hbehind : k = 0 ∨ k < (afterCalls T R fmt sha256 calls).latestSeq runId)
    (hturns : Turns (afterCalls T R fmt sha256 calls, opened) (s, st)) :
    Sends k (s, st) ∧ st.runId = runId := by
  obtain ⟨hsends, hrun⟩ := sends_opened (numbered_afterCalls T R fmt sha256 calls) hopened hbehind
  exact ⟨hsends.turns hturns, (frames_turns hturns).2.1.trans hrun⟩

/-- **The chat command follows its run.**  Whatever was called before the stream was opened, by a
client at position zero or before the last event, and whatever is written, notified or cut off
afterwards: a command that reads what was sent prints a first part of what the log has after the
client's position, and it goes on from there. -/
theorem chat_follows
    (hopened : runEventsStream true (afterCalls T R fmt sha256 calls) runId k = .ok opened)
    (hbehind : k = 0 ∨ k < (afterCalls T R fmt sha256 calls).latestSeq runId)
    (hturns : Turns (afterCalls T R fmt sha256 calls, opened) (s, st))
    (t : Store) (st' : Stream) (hlater : Turns (s, st) (t, st')) :
    st.frames <+: (s.log runId).drop k ∧ Follows str ((s.log runId).drop k) st.frames ∧
      st.frames <+: st'.frames ∧ Follows str st'.frames st.frames := by
  obtain ⟨hsends, hrun⟩ :=
    sends_turns T R fmt sha256 calls runId k opened s st hopened hbehind hturns
  have hsent : st.frames <+: (s.log runId).drop k := by
    have h := (List.prefix_append _ _).trans hsends.sent
    rwa [hrun] at h
  have hgrows := (frames_turns hlater).1
  exact ⟨hsent, follows_of_prefix str hsent, hgrows, follows_of_prefix str hgrows⟩

/-- A command that reads what was sent prints the first line of a started run. -/
theorem chat_follows_first_run :
    (alone (afterPlainCalls [.run (.start stillEnv sampleTask .api)])
        (freshStream "run-t1" 0) 2).frames.length = 1 ∧
      Follows (fun _ => "")
        (((afterPlainCalls [.run (.start stillEnv sampleTask .api)]).log "run-t1").drop 0)
        (alone (afterPlainCalls [.run (.start stillEnv sampleTask .api)])
          (freshStream "run-t1" 0) 2).frames :=
  ⟨by decide +kernel, (chat_follows _ _ _ _ _ [.run (.start stillEnv sampleTask .api)] "run-t1" 0
    (freshStream "run-t1" 0) _ _ (runEventsStream_of_le (Int.natCast_nonneg _)) (Or.inl rfl)
    (turns_alone _ _ 2) _ _ .refl).2.1⟩

/-- **A notification is enough.**  For such a client, a stream just opened, and one that waits and
is notified, sends all the log has after the client's position, if it is given control often
enough. -/
theorem chat_catchesUp
    (hopened : runEventsStream true (afterCalls T R fmt sha256 calls) runId k = .ok opened)
    (hbehind : k = 0 ∨ k < (afterCalls T R fmt sha256 calls).latestSeq runId)
    (hturns : Turns (afterCalls T R fmt sha256 calls, opened) (s, st))
    (hidle : st.phase = .opening ∨ st.phase = .waiting) :
    ∃ n, ∀ m ≥ n, (alone s (st.notify runId) m).frames = (s.log runId).drop k := by
  obtain ⟨hsends, hrun⟩ :=
    sends_turns T R fmt sha256 calls runId k opened s st hopened hbehind hturns
  have hnotified := hsends.notify runId
  obtain ⟨hsame, hposition, hframes, hphase⟩ := notify_frame st runId
  rcases hidle with hopening | hwaits
  · obtain ⟨hnone, hfront⟩ := hnotified.unread (hphase.trans hopening)
    have hturn : ((st.notify runId).resume s).2 = (st.notify runId).query s k .replaying := by
      rw [Stream.resume, hphase, hopening, hnotified.lastSeen]
    have h := hnotified.alone_reading (Or.inl rfl) (by rw [hphase, hopening]; rfl)
      (hfront.imp_right Or.inr) (by rw [hnone]; rfl) hturn
    rwa [hsame, hrun] at h
  · have hset : st.notify runId = { st with eventSet := true } := by
      rw [Stream.notify, if_pos ⟨hsends.listening hwaits, hrun⟩]
    -- one turn later it is about to read the log
    have hturn : ((st.notify runId).resume s).2 =
        { st with eventSet := true, phase := .requerying } := by
      rw [hset]
      unfold Stream.resume
      simp only [hwaits, if_true]
    have hready := hnotified.resume
    rw [hturn] at hready
    have hbegun := hready.begun (by simp) (by simp)
    rw [show (Phase.requerying).batch = [] from rfl, List.append_nil] at hbegun
    obtain ⟨n, hn⟩ := hready.alone_reading (Or.inr rfl) rfl (hbegun.imp_right Or.inl)
      (hready.cutoff_eq rfl hbegun) rfl
    refine ⟨n + 1, fun m hm => ?_⟩
    obtain ⟨d, rfl⟩ := Nat.exists_eq_add_of_le hm
    rw [Nat.add_right_comm, alone, hturn, hn _ (Nat.le_add_right n d), hrun]

end

/-- The stream of a run that is cancelled while it waits. -/
theorem chat_catchesUp_cancelled_run :
    ((afterPlainCalls [.run (.start stillEnv sampleTask .api),
      .run (.cancel stillEnv "run-t1" "done" none)]).log "run-t1").length = 2 ∧
    ∃ n, ∀ m ≥ n, (alone (afterPlainCalls [.run (.start stillEnv sampleTask .api),
        .run (.cancel stillEnv "run-t1" "done" none)])
      ((alone (afterPlainCalls [.run (.start stillEnv sampleTask .api)])
        (freshStream "run-t1" 0) 3).notify "run-t1") m).frames =
      ((afterPlainCalls [.run (.start stillEnv sampleTask .api),
        .run (.cancel stillEnv "run-t1" "done" none)]).log "run-t1").drop 0 :=
  ⟨by decide +kernel, chat_catchesUp _ _ _ _ [.run (.start stillEnv sampleTask .api)] "run-t1" 0
    (freshStream "run-t1" 0) _ _ (runEventsStream_of_le (Int.natCast_nonneg _)) (Or.inl rfl)
    ((turns_alone _ _ 3).trans (turns_call _ _ _ _ _ _ _)) (Or.inr rfl)⟩

end Waywarden.RunEvents
