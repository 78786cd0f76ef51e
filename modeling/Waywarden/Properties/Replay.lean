import Waywarden.System.RunMachine

/-!
# Run state and the replay of the log

RT-002 gives every event type the run state after it; replaying a run's log through that column
should give the state stored in the run's row.  `Replays` says so of a store.

The services do not keep it.  `resume`, `cancel`, `request` and `resolve` append an event that
changes the replayed state and leave the row alone; the pipeline writes `planning` and
`executing` with no event for them and completes without a terminal sequence number; and `start`
adds a row even when the log it finds is not empty.  `Drifts` names these calls, in the stores
where they get as far as that, and `replays_of_meets` is the property for the runs without them:
there every stored run is the one `start` left.
-/

namespace Waywarden

open Machine

/-- The column `Run State After Event` of RT-002. -/
def stateAfter (state : Option RunState) : RunEventType → Option RunState
  | .runCreated => some .created
  | .runPlanReady => some .planning
  | .runExecutionStarted => some .executing
  | .runProgress => state
  | .runApprovalWaiting => some .waitingApproval
  | .runResumed => some .executing
  | .runArtifactCreated => state
  | .runCompleted => some .completed
  | .runFailed => some .failed
  | .runCancelled => some .cancelled

/-- The state a sequence of events replays to; before the first event a run has none. -/
def replay (events : List RunEvent) : Option RunState :=
  events.foldl (fun state e => stateAfter state e.type) none

/-- The sequence number of the terminal event, if there is one. -/
def terminalSeqOf (events : List RunEvent) : Option ℕ :=
  (events.find? fun e => e.type.isTerminal).map RunEvent.seq

/-- A run's events in ascending sequence. -/
def Store.orderedLog (s : Store) (runId : String) : List RunEvent :=
  (s.log runId).insertionSort fun a b => a.seq ≤ b.seq

/-- Every stored run carries the state and the terminal sequence number its log replays to. -/
def Replays (s : Store) : Prop :=
  ∀ runId row, s.run? runId = some row →
    replay (s.orderedLog runId) = some row.state ∧
      row.terminalSeq = terminalSeqOf (s.orderedLog runId)

namespace RunCall

/-- The call gets as far as writing to a stored run, or adds a row beside events that are there
already. -/
def Drifts (s : Store) : RunCall → Prop
  | .start _ task _ =>
      let runId := (RunLifecycleService.runIdOf task).val
      s.run? runId = none ∧
        (s.log runId ≠ [] ∨ s.hasEvent ("evt-" ++ runId ++ "-created") = true)
  | .resume _ runId kind =>
      kind ∈ RunLifecycleService.validResumeKinds ∧
        ∃ run : Run, s.run? runId = some run.toRunRow ∧ s.settled runId = false ∧
          s.hasEvent ("evt-" ++ runId ++ "-resumed") = false
  | .cancel _ runId _ _ =>
      ∃ run : Run, s.run? runId = some run.toRunRow ∧ s.settled runId = false ∧
        s.hasEvent ("evt-" ++ runId ++ "-cancelled") = false
  | .request env runId kind summary cap expiresAt _ =>
      (s.run? runId).isSome = true ∧ s.settled runId = false ∧
        ∃ a, ApprovalEngine.buildRequest runId kind summary cap expiresAt (env.now 0) = .ok a ∧
          s.hasEvent (ApprovalEngine.waitingEventId a.id) = false
  | .resolve env id decision =>
      ∃ a, s.approval? id = some a ∧ a.state = .pending ∧ a.requestedAt ≤ env.now 0 ∧
        (s.run? a.runId).isSome = true ∧ s.settled a.runId = false ∧
        s.hasEvent ("evt-" ++ id ++ ApprovalEngine.decisionTag decision) = false
  | .orchestrate _ run =>
      run.state = .created ∧ (s.run? run.id).isSome = true ∧ s.settled run.id = false ∧
        s.hasEvent (OrchestrationService.progressEventId run.id "intake" "received") = false

end RunCall

/-! ## Calls that leave the stored runs alone -/

/-- The rows are untouched, and so is the log of every run that has one. -/
structure Aside (s s' : Store) : Prop where
  rows : ∀ runId, s'.run? runId = s.run? runId
  logs : ∀ runId, (s.run? runId).isSome = true → s'.log runId = s.log runId

lemma Aside.refl (s : Store) : Aside s s := ⟨fun _ => rfl, fun _ _ => rfl⟩

/-- An event of a run without a row is beside the stored runs. -/
lemma Aside.push {s s' : Store} (h : Aside s s') {e : RunEvent} (hnone : s.run? e.runId = none) :
    Aside s (s'.push e) := by
  refine ⟨h.rows, fun r hr => ?_⟩
  have hne : e.runId ≠ r := by
    rintro rfl
    rw [hnone] at hr
    exact absurd hr (by simp)
  rw [Store.log_push_ne s' e hne]
  exact h.logs r hr

lemma Aside.putApproval {s s' : Store} (h : Aside s s') (a : Approval) :
    Aside s (s'.putApproval a) := ⟨h.rows, h.logs⟩

lemma Aside.setRunState {s s' : Store} (h : Aside s s') {runId : String}
    (hnone : s.run? runId = none) (st : RunState) (now : Timestamp) (n : Option ℕ) :
    Aside s (s'.setRunState runId st now n) := by
  refine ⟨fun r => ?_, h.logs⟩
  by_cases hr : r = runId
  · rw [hr, Store.run?_setRunState_self, h.rows, hnone, Option.map_none]
  · rw [Store.run?_setRunState_ne _ _ _ _ _ hr, h.rows]

/-- The pipeline on a run without a row writes beside the stored runs. -/
lemma keeps_aside {s : Store} {runId : String} (hnone : s.run? runId = none) :
    OrchestrationService.Keeps runId (Aside s) where
  push s' e h _ hrun _ := h.push (by rw [Store.stamp_runId, hrun]; exact hnone)
  setState s' st now h _ _ := h.setRunState hnone st now none
  complete s' e now h _ hrow _ _ := by
    rw [h.rows, hnone] at hrow
    exact absurd hrow (by simp)

/-! ## Stored runs as `start` left them -/

/-- Every stored run is in the state `created`, and its log is the one `run.created` event. -/
def AsStarted (s : Store) : Prop :=
  ∀ runId row, s.run? runId = some row →
    row.state = .created ∧ row.terminalSeq = none ∧
      ∃ e, s.log runId = [e] ∧ e.type = .runCreated

lemma asStarted_empty : AsStarted Store.empty := fun _ _ h => absurd h nofun

lemma AsStarted.replays {s : Store} (h : AsStarted s) : Replays s := by
  intro runId row hrow
  obtain ⟨hstate, hseq, e, hlog, htype⟩ := h runId row hrow
  have hordered : s.orderedLog runId = [e] := by
    rw [Store.orderedLog, hlog]
    rfl
  rw [hordered, hstate, hseq]
  simp [replay, terminalSeqOf, stateAfter, htype, RunEventType.isTerminal]

lemma AsStarted.of_aside {s s' : Store} (hs : AsStarted s) (h : Aside s s') : AsStarted s' := by
  intro runId row hrow
  rw [h.rows] at hrow
  obtain ⟨hstate, hseq, e, hlog, htype⟩ := hs runId row hrow
  exact ⟨hstate, hseq, e, by rw [h.logs runId (by rw [hrow]; rfl), hlog], htype⟩

/-- A new row with its `run.created` event on an empty log is as started. -/
lemma AsStarted.addRun_push {s : Store} (hs : AsStarted s) {row : RunRow} {e : RunEvent}
    (hnone : s.run? row.id = none) (hstate : row.state = .created) (hseq : row.terminalSeq = none)
    (hlog : s.log row.id = []) (hrun : e.runId = row.id) (htype : e.type = .runCreated) :
    AsStarted ((s.addRun row).push e) := by
  intro r row' hrow'
  rw [Store.run?_push] at hrow'
  by_cases hr : r = row.id.val
  · subst hr
    rw [Store.run?_addRun_self s row hnone] at hrow'
    obtain rfl := Option.some.inj hrow'
    exact ⟨hstate, hseq, e, by rw [Store.log_push, if_pos hrun, Store.log_addRun, hlog]; rfl,
      htype⟩
  · rw [Store.run?_addRun_ne s row hr] at hrow'
    obtain ⟨hstate', hseq', e', hlog', htype'⟩ := hs r row' hrow'
    refine ⟨hstate', hseq', e', ?_, htype'⟩
    rw [Store.log_push_ne _ _ (by rw [hrun]; exact Ne.symm hr), Store.log_addRun, hlog']

/-- **One step.**  A call that does not drift leaves every stored run as `start` left it. -/
lemma asStarted_next {s : Store} {c : RunCall} (hs : AsStarted s) (hc : ¬ c.Drifts s) :
    AsStarted (runMachine.next s c) := by
  suffices h : Effect.wp c.perform (fun _ => AsStarted) (fun _ => AsStarted) s from h.state
  have aside : ∀ s', Aside s s' → AsStarted s' := fun _ => hs.of_aside
  cases c with
  | start env task entrypoint =>
      rw [RunCall.perform, Effect.wp_map]
      refine RunLifecycleService.wp_start (fun _ => hs) (fun run _ hid _ _ hnone htaken => ?_)
        (fun run hid hstate hseq hnone hlatest _ => ?_)
      · rw [RunLifecycleService.createdEvent, hid] at htaken
        rw [hid] at hnone
        refine absurd ⟨hnone, htaken.imp_left fun hlatest hlog => hlatest ?_⟩ hc
        rw [Store.latestSeq, hlog]
        rfl
      · exact hs.addRun_push hnone hstate hseq (Store.log_eq_nil_of_latestSeq hlatest) rfl rfl
  | resume env runId kind =>
      rw [RunCall.perform, Effect.wp_map]
      exact RunLifecycleService.wp_resume (fun _ => hs) fun run hkind hrow hopen hfresh =>
        absurd ⟨hkind, run, hrow, hopen, hfresh⟩ hc
  | cancel env runId reason who =>
      rw [RunCall.perform, Effect.wp_map]
      exact RunLifecycleService.wp_cancel (fun _ => hs) fun run hrow hopen hfresh =>
        absurd ⟨run, hrow, hopen, hfresh⟩ hc
  | request env runId kind summary cap expiresAt ref =>
      rw [RunCall.perform, Effect.wp_map]
      refine ApprovalEngine.wp_request (fun _ _ => hs)
        (fun a _ _ _ => aside _ ((Aside.refl s).putApproval a)) (fun a ha hopen hfresh => ?_)
      have hnone : s.run? runId = none := Option.not_isSome_iff_eq_none.mp fun hrow =>
        hc ⟨hrow, hopen, a, ha, hfresh⟩
      exact aside _ (((Aside.refl s).putApproval a).push hnone)
  | resolve env id decision =>
      rw [RunCall.perform, Effect.wp_map]
      refine ApprovalEngine.wp_resolve (fun _ _ => hs)
        (fun _ a _ _ _ _ _ => aside _ ((Aside.refl s).putApproval a))
        (fun existing a hrow hpending ha hopen hfresh => ?_)
      have hnone : s.run? existing.runId = none := Option.not_isSome_iff_eq_none.mp fun hrun =>
        hc ⟨existing, hrow, hpending, Approval.requestedAt_le_of_decide ha, hrun, hopen, hfresh⟩
      exact aside _ (((Aside.refl s).putApproval a).push
        (by rw [Store.stamp_runId, ApprovalEngine.eventOf_runId]; exact hnone))
  | orchestrate env run =>
      rw [RunCall.perform, Effect.wp_map]
      cases hrow : s.run? run.id with
      | none =>
          exact ((keeps_aside hrow).wp_run (Aside.refl s) rfl).mono (fun _ => aside)
            (fun _ => aside)
      | some row =>
          have hblocked : run.state ≠ .created ∨ s.settled run.id = true ∨
              s.hasEvent (OrchestrationService.progressEventId run.id "intake" "received") =
                true := by
            by_contra hnot
            simp only [not_or, Bool.not_eq_true, not_not] at hnot
            exact hc ⟨hnot.1, by rw [hrow]; rfl, hnot.2.1, hnot.2.2⟩
          exact (OrchestrationService.run_of_blocked hblocked).mono (fun _ _ h => h.elim)
            fun _ _ h => h ▸ hs

/-- **Replay.**  In every run from the empty store without a drifting call, the stored state and
terminal sequence number of every run are those its log replays to, in every store reached. -/
theorem replays_of_meets {calls : List RunCall}
    (h : runMachine.Meets (fun s c => ¬ c.Drifts s) Store.empty calls) :
    ∀ pre, pre <+: calls → Replays (runMachine.run Store.empty pre) := by
  rintro pre ⟨post, rfl⟩
  have hpre := (runMachine.meets_append.mp h).1
  exact (runMachine.invariant (fun _ _ hs hc => asStarted_next hs hc) asStarted_empty
    hpre).replays

/-- A started run beside a request for a run that has no row, and a resume of a kind the
lifecycle service does not own. -/
theorem replays_started_run :
    Replays (runMachine.run Store.empty
      [.start stillEnv sampleTask .api, .request stillEnv "ghost" "deploy" "Deploy?" none none none,
        .resume stillEnv "run-t1" "approval_granted"]) := by
  refine replays_of_meets ?_ _ List.prefix_rfl
  refine ⟨?_, ?_, ?_, trivial⟩
  · rintro ⟨-, hlog | htaken⟩
    · exact hlog rfl
    · exact absurd htaken (by decide)
  · rintro ⟨hrow, -⟩
    exact absurd hrow (by decide)
  · rintro ⟨hkind, -⟩
    exact absurd hkind (by decide)

/-- After one approval request the log replays to `waiting_approval` and the row says `created`;
a completed pipeline leaves the terminal sequence number unset. -/
theorem not_replays_requested_or_completed_run :
    ¬ Replays (runMachine.run Store.empty
        [.start stillEnv sampleTask .api,
          .request stillEnv "run-t1" "deploy" "Deploy?" none none none]) ∧
      ¬ Replays (runMachine.run Store.empty
        [.start stillEnv sampleTask .api, .orchestrate stillEnv sampleRun]) := by
  constructor
  · intro h
    exact absurd (h "run-t1" sampleRun.toRunRow (by decide)).1 (by decide)
  · intro h
    have hrow : (runMachine.run Store.empty [.start stillEnv sampleTask .api,
        .orchestrate stillEnv sampleRun]).run? "run-t1" =
          some { sampleRun.toRunRow with state := .completed } := by decide
    exact absurd (h "run-t1" _ hrow).2 (by decide)

end Waywarden
