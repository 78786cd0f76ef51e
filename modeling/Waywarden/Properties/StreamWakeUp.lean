import Waywarden.System.RunMachine
import Waywarden.System.EventStream

/-!
# Lost wake-ups

When the stream waits and its event is not set, every event that was published should have been
sent.  The subscription comes after the first reading of the log, and each wait starts with a new
event, so what is published between a reading and the wait that follows it leaves no trace.

`Tracks` is what holds of a stream over its log in every run, `Heard` what holds of a published
event unless its publication `Drowns`; and a publication that does leaves the stream waiting, one
turn of its loop later, with the event unsent.
-/

namespace Waywarden.RunEvents

open Machine

/-- The events a loop still has to go. -/
def Phase.batch : Phase → List RunEvent
  | .replaying batch | .draining batch => batch
  | _ => []

/-- Whether the coroutine is in one of its loops. -/
def Phase.looping : Phase → Bool
  | .replaying _ | .draining _ => true
  | _ => false

lemma batch_of_loop {loop : List RunEvent → Phase}
    (hloop : loop = .replaying ∨ loop = .draining) (batch : List RunEvent) :
    (loop batch).batch = batch ∧ loop batch ≠ .opening ∧ loop batch ≠ .waiting ∧
      loop batch ≠ .returned := by
  rcases hloop with rfl | rfl <;> simp [Phase.batch]

/-- The event is of the stream's run and ahead of its client. -/
def Stream.Concerns (st : Stream) (e : RunEvent) : Prop :=
  e.runId = st.runId ∧ st.lastSeenSeq < e.seq

/-- The event, known by its number, was sent, or it is still to go. -/
def Stream.Carries (st : Stream) (e : RunEvent) : Prop :=
  st.emitted e.seq = true ∨ e ∈ st.phase.batch

/-- No reading of the log is to come before the next wait, or, when the stream waits, before the
next notification. -/
def Stream.Deaf (st : Stream) : Prop :=
  st.phase.looping = true ∨ st.phase = .waiting ∧ st.eventSet = false

/-- While the stream waits and its event is not set, every published event was sent. -/
def NoLostWakeUp {Pid : Type} (ch : Channel Pid) : Prop :=
  ch.stream.phase = .waiting → ch.stream.eventSet = false →
    ∀ e ∈ ch.published, ch.stream.Concerns e → ch.stream.emitted e.seq = true

/-- The step publishes an event that was appended after the reading whose loop the stream is in. -/
def Drowns {Pid : Type} (ch : Channel Pid) (a : Action Pid) : Prop :=
  ∃ producer e, a = .publish producer ∧ ch.appended producer = some e ∧ ch.stream.Concerns e ∧
    ch.stream.phase.looping = true ∧ ¬ ch.stream.Carries e

/-- A stream over its log: what it sent and what is still to go are events of the log in order,
and an event of the log that is neither was appended after them. -/
structure Tracks (store : Store) (st : Stream) : Prop where
  known : ∀ f ∈ st.frames ++ st.phase.batch, f ∈ store.log st.runId
  ordered : (st.frames ++ st.phase.batch).Pairwise fun a b => a.seq ≤ b.seq
  covered : st.phase ≠ .returned → ∀ e ∈ store.log st.runId, st.lastSeenSeq < e.seq →
    st.Carries e ∨ ∀ f ∈ st.frames ++ st.phase.batch, f.seq < e.seq
  unopened : st.phase = .opening → st.frames = []
  listening : st.phase = .waiting → st.subscribed = true

/-- The stream knows of the event, or will read the log again before it waits. -/
def Heard (st : Stream) (e : RunEvent) : Prop := st.Deaf → st.Carries e

/-! ## The stream -/

section

variable {st : Stream} {store : Store}

/-- Every number sent is within the cut-off of the next reading. -/
lemma le_cutoff {f : RunEvent} (hf : f ∈ st.frames) : (f.seq : ℤ) ≤ st.cutoff := by
  have hle : f.seq ≤ SeqLog.maxSeq RunEvent.seq st.frames := SeqLog.le_maxSeq hf
  have hne : st.frames.isEmpty = false := by
    rw [List.isEmpty_eq_false_iff]
    exact List.ne_nil_of_mem hf
  rw [Stream.cutoff, hne, if_neg (by simp)]
  omega

/-- An event ahead of the client and of everything sent is ahead of the cut-off. -/
lemma cutoff_lt {e : RunEvent} (hseen : st.lastSeenSeq < e.seq)
    (hframes : ∀ f ∈ st.frames, f.seq < e.seq) : st.cutoff < e.seq := by
  have hpos := e.seq_pos
  have hmax : SeqLog.maxSeq RunEvent.seq st.frames < e.seq := SeqLog.maxSeq_lt hpos hframes
  unfold Stream.cutoff
  split
  · omega
  · omega

/-- After a reading that leaves out nothing ahead of what was sent, the stream carries every event
of the log ahead of its client. -/
lemma Tracks.query (h : Tracks store st) (hlive : st.phase ≠ .returned)
    (hbatch : st.phase.batch = []) (since : ℤ) {loop : List RunEvent → Phase}
    (hloop : loop = .replaying ∨ loop = .draining)
    (hsent : ∀ f ∈ st.frames, (f.seq : ℤ) ≤ since)
    (hsince : ∀ e : RunEvent, st.lastSeenSeq < e.seq → (∀ f ∈ st.frames, f.seq < e.seq) →
      since < e.seq) :
    Tracks store (st.query store since loop) ∧
      ∀ e ∈ store.log st.runId, st.lastSeenSeq < e.seq → (st.query store since loop).Carries e := by
  obtain ⟨batch, hquery, hsorted, hmem⟩ := query_spec st store since loop
  obtain ⟨hphase, hnot⟩ := batch_of_loop hloop batch
  have hknown := h.known
  have hordered := h.ordered
  rw [hbatch, List.append_nil] at hknown hordered
  have hcarries : ∀ e ∈ store.log st.runId, st.lastSeenSeq < e.seq →
      (st.query store since loop).Carries e := by
    intro e he hseen
    rw [hquery]
    rcases h.covered hlive e he hseen with (hemitted | hpending) | hahead
    · exact Or.inl hemitted
    · rw [hbatch] at hpending
      exact absurd hpending List.not_mem_nil
    · rw [hbatch, List.append_nil] at hahead
      apply Or.inr
      simp only [hphase]
      exact (hmem e).mpr ⟨he, hsince e hseen hahead⟩
  refine ⟨?_, hcarries⟩
  rw [hquery] at hcarries ⊢
  refine ⟨?_, ?_, fun _ e he hseen => Or.inl (hcarries e he hseen),
    fun hopening => absurd hopening hnot.1, fun hwaiting => absurd hwaiting hnot.2.1⟩
  · intro f hf
    simp only [hphase] at hf
    rcases List.mem_append.mp hf with hf | hf
    · exact hknown f hf
    · exact ((hmem f).mp hf).1
  · simp only [hphase]
    refine List.pairwise_append.mpr ⟨hordered, hsorted, fun f hf e he => ?_⟩
    have hle := hsent f hf
    have hlt := ((hmem e).mp he).2
    omega

/-- A stream that keeps to what it was over goes on to track its log. -/
lemma Tracks.of_sublist (h : Tracks store st) (hlive : st.phase ≠ .returned) {st' : Stream}
    (hrun : st'.runId = st.runId) (hposition : st'.lastSeenSeq = st.lastSeenSeq)
    (hsub : (st'.frames ++ st'.phase.batch).Sublist (st.frames ++ st.phase.batch))
    (hcarries : ∀ e, st.Carries e → st'.Carries e) (hopening : st'.phase ≠ .opening)
    (hlistening : st'.phase = .waiting → st'.subscribed = true) : Tracks store st' := by
  refine ⟨fun f hf => ?_, h.ordered.sublist hsub, fun _ e he hseen => ?_,
    fun h => absurd h hopening, hlistening⟩
  · rw [hrun]
    exact h.known f (hsub.subset hf)
  · rw [hrun] at he
    rw [hposition] at hseen
    exact (h.covered hlive e he hseen).imp (hcarries e)
      fun hahead f hf => hahead f (hsub.subset hf)

lemma Tracks.close (h : Tracks store st) : Tracks store st.close := by
  have hsub : (st.close.frames ++ st.close.phase.batch).Sublist
      (st.frames ++ st.phase.batch) := by
    show (st.frames ++ []).Sublist _
    exact List.Sublist.append_left (List.nil_sublist _) st.frames
  exact ⟨fun f hf => h.known f (hsub.subset hf), h.ordered.sublist hsub,
    fun hlive => absurd rfl hlive, by simp [Stream.close], by simp [Stream.close]⟩

lemma not_deaf_close (st : Stream) : ¬ st.close.Deaf := by
  simp [Stream.Deaf, Stream.close, Phase.looping]

/-- A loop carries on what it carried, up to the next `yield` or the wait. -/
lemma Tracks.step (h : Tracks store st) (hlive : st.phase ≠ .returned) {batch : List RunEvent}
    (hbatch : st.phase.batch = batch) {loop : List RunEvent → Phase}
    (hloop : loop = .replaying ∨ loop = .draining) :
    Tracks store (st.step batch loop).2 ∧
      ∀ e, st.Carries e → (st.step batch loop).2.Carries e := by
  rcases step_cases st batch loop with ⟨hsent, hstep⟩ | ⟨sent, ev, rest, hsplit, hsent, -, hstep⟩
  · have hcarries : ∀ e, st.Carries e → st.block.Carries e := by
      rintro e (hemitted | hpending)
      · exact Or.inl hemitted
      · rw [hbatch] at hpending
        exact Or.inl (hsent e hpending)
    rw [hstep]
    exact ⟨h.of_sublist hlive rfl rfl (List.Sublist.append_left (List.nil_sublist _) st.frames)
      hcarries (by simp [Stream.block]) fun _ => rfl, hcarries⟩
  · obtain ⟨hphase, hnot⟩ := batch_of_loop hloop rest
    rw [hstep]
    have hcarries : ∀ e, st.Carries e →
        Stream.Carries { st with frames := st.frames ++ [ev], phase := loop rest } e := by
      have hkept : ∀ e : RunEvent, st.emitted e.seq = true →
          Stream.Carries { st with frames := st.frames ++ [ev], phase := loop rest } e := by
        intro e hemitted
        refine Or.inl (emitted_iff.mpr ?_)
        rw [List.map_append]
        exact List.mem_append_left _ (emitted_iff.mp hemitted)
      rintro e (hemitted | hpending)
      · exact hkept e hemitted
      · rw [hbatch, hsplit] at hpending
        rcases List.mem_append.mp hpending with hpending | hpending
        · exact hkept e (hsent e hpending)
        · rcases List.mem_cons.mp hpending with rfl | hpending
          · refine Or.inl (emitted_iff.mpr ?_)
            simp
          · apply Or.inr
            simp only [hphase]
            exact hpending
    refine ⟨h.of_sublist hlive rfl rfl ?_ hcarries hnot.1
      fun hwaiting => absurd hwaiting hnot.2.1, hcarries⟩
    simp only [hphase, hbatch, hsplit, List.append_assoc, List.singleton_append]
    exact List.Sublist.append_left (List.sublist_append_right sent (ev :: rest)) st.frames

/-- **One step of the stream.**  It goes on to track its log, and it goes on to know of the events
of the log it knew of. -/
lemma Tracks.resume (h : Tracks store st) :
    Tracks store (st.resume store).2 ∧ ∀ e ∈ store.log st.runId, st.lastSeenSeq < e.seq →
      Heard st e → Heard (st.resume store).2 e := by
  unfold Stream.resume
  cases hphase : st.phase with
  | opening =>
      have hframes := h.unopened hphase
      obtain ⟨htracks, hcarries⟩ := h.query (by simp [hphase]) (congrArg Phase.batch hphase)
        st.lastSeenSeq (Or.inl rfl) (by simp [hframes]) (fun e hseen _ => hseen)
      exact ⟨htracks, fun e he hseen _ _ => hcarries e he hseen⟩
  | replaying batch =>
      obtain ⟨htracks, hcarries⟩ := h.step (by simp [hphase]) (congrArg Phase.batch hphase)
        (Or.inl rfl)
      exact ⟨htracks, fun e _ _ hheard _ =>
        hcarries e (hheard (Or.inl (congrArg Phase.looping hphase)))⟩
  | waiting =>
      simp only
      split
      · refine ⟨h.of_sublist (by simp [hphase]) rfl rfl ?_ ?_ (by simp) (by simp), ?_⟩
        · rw [hphase]
          exact List.Sublist.refl _
        · rintro e (hemitted | hpending)
          · exact Or.inl hemitted
          · rw [hphase] at hpending
            exact absurd hpending List.not_mem_nil
        · rintro e - - - (hlooping | ⟨hwaiting, -⟩)
          · exact absurd hlooping (by simp [Phase.looping])
          · exact absurd hwaiting (by simp)
      · exact ⟨h, fun _ _ _ hheard => hheard⟩
  | requerying =>
      obtain ⟨htracks, hcarries⟩ := h.query (by simp [hphase]) (congrArg Phase.batch hphase)
        st.cutoff (Or.inr rfl)
        (fun f hf => le_cutoff hf) (fun e hseen hframes => cutoff_lt hseen hframes)
      exact ⟨htracks, fun e he hseen _ _ => hcarries e he hseen⟩
  | draining batch =>
      obtain ⟨htracks, hcarries⟩ := h.step (by simp [hphase]) (congrArg Phase.batch hphase)
        (Or.inr rfl)
      exact ⟨htracks, fun e _ _ hheard _ =>
        hcarries e (hheard (Or.inl (congrArg Phase.looping hphase)))⟩
  | closing => exact ⟨h.close, fun _ _ _ _ hdeaf => absurd hdeaf (not_deaf_close st)⟩
  | returned => exact ⟨h, fun _ _ _ hheard => hheard⟩

/-! ## Notifications -/

lemma Tracks.notify (h : Tracks store st) (runId : String) : Tracks store (st.notify runId) := by
  unfold Stream.notify
  split
  · exact ⟨h.known, h.ordered, h.covered, h.unopened, h.listening⟩
  · exact h

lemma concerns_notify (st : Stream) (runId : String) (e : RunEvent) :
    (st.notify runId).Concerns e ↔ st.Concerns e := by
  unfold Stream.notify
  split <;> exact Iff.rfl

/-- A notification only makes the stream read the log sooner. -/
lemma Heard.notify {e : RunEvent} (h : Heard st e) (runId : String) :
    Heard (st.notify runId) e := by
  unfold Stream.notify
  split
  · rintro (hlooping | ⟨-, hset⟩)
    · exact h (Or.inl hlooping)
    · exact absurd hset (by simp)
  · exact h

/-- The stream hears of a publication of its run, unless it is in a loop that does not carry the
event. -/
lemma Tracks.hears (h : Tracks store st) {e : RunEvent} (hrun : e.runId = st.runId)
    (hcarries : st.phase.looping = true → st.Carries e) : Heard (st.notify e.runId) e := by
  unfold Stream.notify
  split
  · rintro (hlooping | ⟨-, hset⟩)
    · exact hcarries hlooping
    · exact absurd hset (by simp)
  · rename_i hdeaf
    rintro (hlooping | ⟨hwaiting, -⟩)
    · exact hcarries hlooping
    · exact absurd ⟨h.listening hwaiting, hrun.symm⟩ hdeaf

/-! ## Producers -/

lemma mem_log_push {e : RunEvent} {runId : String} (he : e ∈ store.log runId) (new : RunEvent) :
    e ∈ (store.push new).log runId := by
  rw [Store.log_push]
  split
  · exact List.mem_append_left _ he
  · exact he

/-- What is appended later is numbered above everything in the log. -/
lemma Tracks.push (h : Tracks store st) (new : RunEvent) :
    Tracks (store.push (store.stamp new)) st := by
  refine ⟨fun f hf => mem_log_push (h.known f hf) _, h.ordered, fun hlive e he hseen => ?_,
    h.unopened, h.listening⟩
  rw [Store.log_push] at he
  split at he
  · rename_i hrun
    rcases List.mem_append.mp he with he | he
    · exact h.covered hlive e he hseen
    · obtain rfl := List.mem_singleton.mp he
      refine Or.inr fun f hf => ?_
      have hle : f.seq ≤ store.latestSeq st.runId := SeqLog.le_maxSeq (h.known f hf)
      rw [Store.stamp_runId] at hrun
      rw [Store.stamp_seq, hrun]
      omega
  · exact h.covered hlive e he hseen

end

/-! ## The stream among its producers -/

section

variable {Pid : Type}

/-- The stream tracks its log, which holds every event a producer holds or has published, and it
heard of the published ones. -/
structure Attentive (ch : Channel Pid) : Prop where
  tracks : Tracks ch.store ch.stream
  held : ∀ producer e, ch.appended producer = some e → e ∈ ch.store.log e.runId
  logged : ∀ e ∈ ch.published, e ∈ ch.store.log e.runId
  heard : ∀ e ∈ ch.published, ch.stream.Concerns e → Heard ch.stream e

lemma runId_of_mem_log {store : Store} {runId : String} {e : RunEvent}
    (he : e ∈ store.log runId) : e.runId = runId :=
  of_decide_eq_true (List.mem_filter.mp he).2

lemma attentive_start (store : Store) (runId : String) (lastSeen : ℤ) :
    Attentive (Channel.start store runId lastSeen : Channel Pid) := by
  have hnothing : ∀ f, f ∉ (Channel.start store runId lastSeen : Channel Pid).stream.frames ++
      (Channel.start store runId lastSeen : Channel Pid).stream.phase.batch :=
    fun _ => List.not_mem_nil
  refine ⟨⟨fun f hf => absurd hf (hnothing f), List.Pairwise.nil,
    fun _ e _ _ => Or.inr fun f hf => absurd hf (hnothing f), fun _ => rfl, ?_⟩, ?_, ?_, ?_⟩
  · intro hwaiting
    exact absurd hwaiting (by simp [Channel.start])
  · intro producer e hheld
    exact absurd hheld (by simp [Channel.start])
  · intro e he
    rw [runId_of_mem_log he]
    exact he
  · rintro e - - (hlooping | ⟨hwaiting, -⟩)
    · exact absurd hlooping (by simp [Channel.start, Phase.looping])
    · exact absurd hwaiting (by simp [Channel.start])

lemma Attentive.noLostWakeUp {ch : Channel Pid} (h : Attentive ch) : NoLostWakeUp ch := by
  intro hwaiting hset e he hconcerns
  rcases h.heard e he hconcerns (Or.inr ⟨hwaiting, hset⟩) with hemitted | hpending
  · exact hemitted
  · rw [hwaiting] at hpending
    exact absurd hpending List.not_mem_nil

variable [DecidableEq Pid] {ch : Channel Pid}

/-- **One action** that drowns no publication. -/
lemma Attentive.next (h : Attentive ch) {a : Action Pid} (ha : ¬ Drowns ch a) :
    Attentive ((channelMachine Pid).next ch a) := by
  cases a with
  | resume =>
      obtain ⟨htracks, hheard⟩ := h.tracks.resume
      obtain ⟨hrun, hposition⟩ := resume_frame ch.stream ch.store
      refine ⟨htracks, h.held, h.logged, fun e he hconcerns => ?_⟩
      have hbefore : ch.stream.Concerns e :=
        ⟨hconcerns.1.trans hrun, lt_of_eq_of_lt hposition.symm hconcerns.2⟩
      have hlogged : e ∈ ch.store.log ch.stream.runId := hbefore.1 ▸ h.logged e he
      exact hheard e hlogged hbefore.2 (h.heard e he hbefore)
  | append producer event =>
      rcases next_append ch producer event with hnext | hnext
      · rw [hnext]
        exact h
      · rw [hnext]
        refine ⟨h.tracks.push event, fun p e hp => ?_,
          fun e he => mem_log_push (h.logged e he) _, h.heard⟩
        simp only [Function.update_apply] at hp
        split at hp
        · obtain rfl := Option.some.inj hp
          rw [Store.log_push, if_pos rfl]
          exact List.mem_append_right _ (List.mem_singleton.mpr rfl)
        · exact mem_log_push (h.held p e hp) _
  | publish producer =>
      rcases next_publish ch producer with ⟨-, hnext⟩ | ⟨event, hheld, hnext⟩
      · rw [hnext]
        exact h
      · rw [hnext]
        refine ⟨h.tracks.notify _, fun p e hp => ?_, fun e he => ?_, fun e he hconcerns => ?_⟩
        · simp only [Function.update_apply] at hp
          split at hp
          · exact absurd hp (by simp)
          · exact h.held p e hp
        · rcases List.mem_append.mp he with he | he
          · exact h.logged e he
          · obtain rfl := List.mem_singleton.mp he
            exact h.held producer e hheld
        · have hbefore := (concerns_notify _ _ e).mp hconcerns
          rcases List.mem_append.mp he with he | he
          · exact (h.heard e he hbefore).notify _
          · obtain rfl := List.mem_singleton.mp he
            refine h.tracks.hears hbefore.1 fun hlooping => ?_
            by_contra hmissed
            exact ha ⟨producer, e, rfl, hheld, hbefore, hlooping, hmissed⟩
  | notify runId =>
      exact ⟨h.tracks.notify runId, h.held, h.logged, fun e he hconcerns =>
        (h.heard e he ((concerns_notify _ runId e).mp hconcerns)).notify runId⟩
  | writeRuns rows =>
      exact ⟨⟨h.tracks.known, h.tracks.ordered, h.tracks.covered, h.tracks.unopened,
        h.tracks.listening⟩, h.held, h.logged, h.heard⟩
  | disconnect =>
      exact ⟨h.tracks.close, h.held, h.logged,
        fun e _ _ hdeaf => absurd hdeaf (not_deaf_close ch.stream)⟩

end

/-! ## A publication that drowns -/

/-- In a loop, the stream goes on to its end and waits, with nothing sent that was appended after
the reading of the log. -/
lemma waits_unsent (store : Store) (e : RunEvent) (st : Stream) {batch : List RunEvent}
    {loop : List RunEvent → Phase} (hloop : loop = .replaying ∨ loop = .draining)
    (hphase : st.phase = loop batch) (hahead : ∀ f ∈ st.frames ++ batch, f.seq < e.seq) :
    ∃ n, (alone store st n).phase = .waiting ∧ (alone store st n).eventSet = false ∧
      (alone store st n).runId = st.runId ∧ (alone store st n).lastSeenSeq = st.lastSeenSeq ∧
      (alone store st n).emitted e.seq = false := by
  induction hlength : batch.length using Nat.strong_induction_on generalizing st batch with
  | _ length ih =>
      have hresume : st.resume store = st.step batch loop := by
        rw [Stream.resume, hphase]
        rcases hloop with rfl | rfl <;> rfl
      rcases step_cases st batch loop with ⟨-, hstep⟩ | ⟨sent, ev, rest, rfl, -, -, hstep⟩
      · -- the loop is at its end
        have halone : alone store st 1 = st.block := by
          rw [alone, hresume, hstep]
          rfl
        refine ⟨1, ?_⟩
        rw [halone]
        refine ⟨rfl, rfl, rfl, rfl, ?_⟩
        rw [← Bool.not_eq_true, emitted_iff]
        rintro hemitted
        obtain ⟨f, hf, hseq⟩ := List.mem_map.mp hemitted
        exact absurd (hahead f (List.mem_append_left _ hf)) (by omega)
      · have hshorter : rest.length < length := by
          rw [← hlength, List.length_append, List.length_cons]
          omega
        have hrest : ∀ f ∈ (st.frames ++ [ev]) ++ rest, f.seq < e.seq := by
          intro f hf
          apply hahead f
          simp only [List.mem_append, List.mem_cons] at hf ⊢
          tauto
        obtain ⟨n, hn⟩ := ih rest.length hshorter
          { st with frames := st.frames ++ [ev], phase := loop rest } rfl hrest rfl
        refine ⟨n + 1, ?_⟩
        rw [alone, hresume, hstep]
        exact hn

section

variable {Pid : Type} [DecidableEq Pid] {ch : Channel Pid}

/-- A publication that drowns leaves the stream, one turn of its loop later, waiting with a
published event unsent. -/
lemma Attentive.drowned (h : Attentive ch) {a : Action Pid} (ha : Drowns ch a) :
    ∃ n, ¬ NoLostWakeUp ((channelMachine Pid).run ((channelMachine Pid).next ch a)
      (List.replicate n .resume)) := by
  obtain ⟨producer, e, rfl, hheld, hconcerns, hlooping, hmissed⟩ := ha
  have hnext : (channelMachine Pid).next ch (.publish producer) =
      { ch with
        stream := ch.stream.notify e.runId
        appended := Function.update ch.appended producer none
        published := ch.published ++ [e] } := by
    rcases next_publish ch producer with ⟨hnone, -⟩ | ⟨event, hsome, hnext⟩
    · exact absurd (hheld.symm.trans hnone) (by simp)
    · obtain rfl := Option.some.inj (hheld.symm.trans hsome)
      exact hnext
  have hloop : ∃ loop, (loop = Phase.replaying ∨ loop = Phase.draining) ∧
      ch.stream.phase = loop ch.stream.phase.batch := by
    cases hphase : ch.stream.phase with
    | replaying batch => exact ⟨_, Or.inl rfl, rfl⟩
    | draining batch => exact ⟨_, Or.inr rfl, rfl⟩
    | _ => exact absurd hlooping (by simp [hphase, Phase.looping])
  obtain ⟨loop, hloop, hphase⟩ := hloop
  have hlive : ch.stream.phase ≠ .returned := by
    rw [hphase]
    exact (batch_of_loop hloop _).2.2.2
  have hahead : ∀ f ∈ ch.stream.frames ++ ch.stream.phase.batch, f.seq < e.seq :=
    (h.tracks.covered hlive e (hconcerns.1 ▸ h.held producer e hheld) hconcerns.2).resolve_left
      hmissed
  obtain ⟨hrun, hposition, hframes, hsame⟩ := notify_frame ch.stream e.runId
  obtain ⟨n, hwaiting, hset, hrun', hposition', hemitted⟩ :=
    waits_unsent ch.store e (ch.stream.notify e.runId) hloop (hsame.trans hphase)
      (by rw [hframes]; exact hahead)
  refine ⟨n, fun hsafe => ?_⟩
  rw [hnext, run_resumes] at hsafe
  have hsent := hsafe hwaiting hset e (List.mem_append_right _ (List.mem_singleton.mpr rfl))
    ⟨hconcerns.1.trans (hrun'.trans hrun).symm, ?_⟩
  · exact absurd (hsent.symm.trans hemitted) (by simp)
  · show (alone ch.store (ch.stream.notify e.runId) n).lastSeenSeq < _
    rw [hposition', hposition]
    exact hconcerns.2

/-- **Lost wake-ups.**  A run in which no publication drowns loses no wake-up, in any state; in a
run in which one does, the stream needs only be given control to wait with a published event
unsent. -/
theorem noLostWakeUp_iff (store : Store) (runId : String) (lastSeen : ℤ)
    (actions : List (Action Pid)) :
    ((channelMachine Pid).Meets (fun ch a => ¬ Drowns ch a) (Channel.start store runId lastSeen)
        actions →
      ∀ t ∈ (channelMachine Pid).trace (Channel.start store runId lastSeen) actions,
        NoLostWakeUp t.after) ∧
    (¬ (channelMachine Pid).Meets (fun ch a => ¬ Drowns ch a) (Channel.start store runId lastSeen)
        actions →
      ∃ t ∈ (channelMachine Pid).trace (Channel.start store runId lastSeen) actions, ∃ n,
        ¬ NoLostWakeUp ((channelMachine Pid).run t.after (List.replicate n .resume))) := by
  have hquiet : ∀ (ch : Channel Pid) (n : ℕ), Attentive ch →
      Attentive ((channelMachine Pid).run ch (List.replicate n .resume)) := by
    intro ch n h
    have hresumes : (channelMachine Pid).Meets (fun _ a => a = .resume) ch
        (List.replicate n .resume) :=
      (channelMachine Pid).meets_calls.mpr fun a ha => List.eq_of_mem_replicate ha
    refine (channelMachine Pid).invariant (fun _ _ h ha => h.next ?_) h hresumes
    rintro ⟨_, _, hpublish, -⟩
    exact absurd (ha.symm.trans hpublish) (by simp)
  have hiff : (∀ t ∈ (channelMachine Pid).trace (Channel.start store runId lastSeen) actions, ∀ n,
      NoLostWakeUp ((channelMachine Pid).run t.after (List.replicate n .resume))) ↔
      (channelMachine Pid).Meets (fun ch a => ¬ Drowns ch a) (Channel.start store runId lastSeen)
        actions :=
    (channelMachine Pid).forall_iff_meets (I := Attentive)
      (P := fun ch => ∀ n, NoLostWakeUp ((channelMachine Pid).run ch (List.replicate n .resume)))
      (fun _ _ h ha => h.next ha) (fun ch h n => (hquiet ch n h).noLostWakeUp)
      (fun _ _ h ha hsafe => (h.drowned (not_not.mp ha)).elim fun n hn => hn (hsafe n))
      (attentive_start store runId lastSeen)
  refine ⟨fun hmeets t ht => hiff.mpr hmeets t ht 0, fun hdrowns => ?_⟩
  by_contra hnone
  refine hdrowns (hiff.mp fun t ht n => ?_)
  by_contra hlost
  exact hnone ⟨t, ht, n, hlost⟩

end

/-- The second event of the started run is appended and published between the first reading of the
log and the subscription; the stream sends the first event and waits. -/
theorem not_noLostWakeUp_during_replay :
    ¬ ∀ t ∈ (channelMachine Unit).trace (Channel.start startedStore "run-t1" 0)
        [.resume, .append () (RunLifecycleService.resumedEvent "run-t1" "worker_restart" 1 0),
          .publish (), .resume, .resume],
      NoLostWakeUp t.after := by
  intro h
  have hlast := h _ (List.mem_of_getElem? (i := 4) rfl)
  have hsent := hlast rfl rfl _ (List.mem_of_getElem? (i := 1) rfl) ⟨rfl, by decide⟩
  exact absurd hsent (by decide)

end Waywarden.RunEvents
