import Waywarden.System.RunMachine

/-!
# Terminal immutability of the run event log

A terminal event should close its run's log.  The guard that closes it, in
`RunEventRepositoryImpl.append`, reads the `state` column of the run's row, not the log: what the
code keeps for every call is that the log of a run in a terminal *state* never changes
(`frozen_of_writes`).

The two notions of "terminal" agree as long as every terminal event comes with the state that
goes with it, `InStep`.  The pipeline's completion keeps them in step; a lifecycle cancel and a
run-ending approval decision append the event and leave the row as it is, so after them the log
still grows.  `terminalImmutable_of_meets` is the property for the runs without such calls.
-/

namespace Waywarden

open Machine

/-- A transition of the run services. -/
abbrev RunTransition : Type := Transition Store RunCall (Except PyError RunReply)

/-- Once a log holds a terminal event, no transition changes it, and a call addressed to its run
raises; no log holds two terminal events. -/
def TerminalImmutable (trace : List RunTransition) : Prop :=
  ∀ t ∈ trace, ∀ runId,
    (t.before.ended runId = true →
      t.after.log runId = t.before.log runId ∧
        (t.call.addressee t.before = some runId → ∃ e, t.reply = .error e)) ∧
    ((t.after.log runId).filter fun e => e.type.isTerminal).length ≤ 1

/-! ## A settled run is frozen -/

/-- A run in a terminal state stays in one, and its log stays as it is. -/
def Frozen (s s' : Store) : Prop :=
  ∀ runId, s.settled runId = true →
    s'.settled runId = true ∧ s'.log runId = s.log runId

lemma Frozen.refl (s : Store) : Frozen s s := fun _ h => ⟨h, rfl⟩

lemma Frozen.trans {s₁ s₂ s₃ : Store} (h : Frozen s₁ s₂) (h' : Frozen s₂ s₃) : Frozen s₁ s₃ := by
  intro runId hs
  obtain ⟨hs₂, hlog⟩ := h runId hs
  obtain ⟨hs₃, hlog'⟩ := h' runId hs₂
  exact ⟨hs₃, hlog'.trans hlog⟩

/-- An open run is not a settled one. -/
lemma ne_of_settled {s : Store} {r runId : String} (hs : s.settled r = true)
    (hopen : s.settled runId = false) : r ≠ runId := by
  rintro rfl
  exact absurd (hs.symm.trans hopen) (by simp)

lemma settled_addRun_of_settled {s : Store} {row : RunRow} {r : String}
    (hnone : s.run? row.id = none) (hs : s.settled r = true) :
    (s.addRun row).settled r = true := by
  have hne : r ≠ row.id.val := by
    rintro rfl
    obtain ⟨row', hrow', -⟩ := Store.settled_iff.mp hs
    exact absurd (hnone.symm.trans hrow') (by simp)
  rw [Store.settled, Store.run?_addRun_ne s row hne]
  exact hs

lemma settled_setRunState_ne {s : Store} {r runId : String} {st : RunState} {now : Timestamp}
    {n : Option ℕ} (h : r ≠ runId) : (s.setRunState runId st now n).settled r = s.settled r := by
  rw [Store.settled, Store.run?_setRunState_ne s runId st now n h, Store.settled]

/-- Every write respects frozen logs. -/
lemma Write.frozen {strands : Prop} {s s' : Store} (h : Write strands s s') : Frozen s s' := by
  intro r hs
  cases h with
  | addRun row fresh _ => exact ⟨settled_addRun_of_settled fresh hs, rfl⟩
  | saveApproval a => exact ⟨hs, rfl⟩
  | append e isOpen _ =>
      exact ⟨hs, Store.log_push_ne s (s.stamp e) (ne_of_settled hs isOpen).symm⟩
  | setState runId st now isOpen _ =>
      exact ⟨by rw [settled_setRunState_ne (ne_of_settled hs isOpen)]; exact hs, rfl⟩
  | complete e now isOpen _ _ =>
      have hne := ne_of_settled hs isOpen
      refine ⟨by rw [settled_setRunState_ne hne]; exact hs, ?_⟩
      rw [Store.log_setRunState]
      exact Store.log_push_ne s (s.stamp e) hne.symm

/-- **What the guard gives.**  Whatever is called, a run in a terminal state keeps its log. -/
theorem frozen_of_writes {strands : Prop} {s s' : Store} (h : Writes strands s s') :
    Frozen s s' := by
  induction h with
  | refl => exact Frozen.refl s
  | tail _ hw ih => exact ih.trans hw.frozen

/-! ## Log and state in step -/

/-- Every run whose log holds a terminal event is in a terminal state, and holds one such event
at most. -/
structure InStep (s : Store) : Prop where
  settled_of_ended : ∀ runId, s.ended runId = true → s.settled runId = true
  one_ending : ∀ runId, ((s.log runId).filter fun e => e.type.isTerminal).length ≤ 1

lemma inStep_empty : InStep Store.empty where
  settled_of_ended runId h := absurd h (by simp [Store.empty, Store.ended, Store.log])
  one_ending runId := by simp [Store.empty, Store.log]

/-- The log of a run that has not ended holds no terminal event. -/
lemma filter_isTerminal_of_not_ended {s : Store} {runId : String} (h : s.ended runId = false) :
    (s.log runId).filter (fun e => e.type.isTerminal) = [] := by
  rw [List.filter_eq_nil_iff]
  intro e he hterm
  have : s.ended runId = true := List.any_eq_true.mpr ⟨e, he, hterm⟩
  exact absurd (this.symm.trans h) (by simp)

/-- Pushing an event on a log in step leaves at most one terminal event in every log, provided
the run it goes to is open. -/
lemma InStep.one_ending_push {s : Store} (h : InStep s) {e : RunEvent}
    (hopen : s.settled e.runId = false) (runId : String) :
    (((s.push (s.stamp e)).log runId).filter fun e => e.type.isTerminal).length ≤ 1 := by
  rw [Store.log_push]
  by_cases hrun : e.runId = runId
  · subst hrun
    have hgoes : s.ended e.runId = false := by
      rw [← Bool.not_eq_true]
      intro hends
      exact absurd ((h.settled_of_ended _ hends).symm.trans hopen) (by simp)
    rw [if_pos (Store.stamp_runId s e), List.filter_append, filter_isTerminal_of_not_ended hgoes]
    exact (List.length_filter_le _ _)
  · rw [if_neg (by rw [Store.stamp_runId]; exact hrun)]
    exact h.one_ending runId

/-- Every write that strands nothing keeps log and state in step. -/
lemma Write.inStep {s s' : Store} (h : Write False s s') (hs : InStep s) : InStep s' := by
  cases h with
  | addRun row fresh _ =>
      exact ⟨fun r hr => settled_addRun_of_settled fresh (hs.settled_of_ended r hr),
        hs.one_ending⟩
  | saveApproval a => exact ⟨hs.settled_of_ended, hs.one_ending⟩
  | append e isOpen ends =>
      refine ⟨fun r hr => ?_, hs.one_ending_push isOpen⟩
      rw [Store.ended_push, Bool.or_eq_true] at hr
      rcases hr with hr | hr
      · exact hs.settled_of_ended r hr
      · exact (ends (Bool.and_eq_true_iff.mp hr).2).elim
  | setState runId st now isOpen _ =>
      refine ⟨fun r hr => ?_, hs.one_ending⟩
      have hsettled := hs.settled_of_ended r hr
      rw [settled_setRunState_ne (ne_of_settled hsettled isOpen)]
      exact hsettled
  | complete e now isOpen stored _ =>
      refine ⟨fun r hr => ?_, hs.one_ending_push isOpen⟩
      by_cases hrun : r = e.runId
      · subst hrun
        obtain ⟨row, hrow⟩ := Option.isSome_iff_exists.mp stored
        refine Store.settled_iff.mpr ⟨RunRow.setState .completed now none row, ?_, rfl⟩
        rw [Store.run?_setRunState_self, Store.run?_push, hrow]
        rfl
      · rw [Store.ended_setRunState, Store.ended_push, Bool.or_eq_true] at hr
        rw [settled_setRunState_ne hrun]
        rcases hr with hr | hr
        · exact hs.settled_of_ended r hr
        · exact absurd (of_decide_eq_true (Bool.and_eq_true_iff.mp hr).1).symm hrun

lemma inStep_of_writes {s s' : Store} (h : Writes False s s') (hs : InStep s) : InStep s' := by
  induction h with
  | refl => exact hs
  | tail _ hw ih => exact hw.inStep ih

/-! ## Runs -/

/-- A call that strands nothing keeps log and state in step. -/
lemma inStep_next {s : Store} {c : RunCall} (hs : InStep s) (hc : ¬ c.Strands s) :
    InStep (runMachine.next s c) :=
  inStep_of_writes (writes_of_next c hc) hs

/-- A stranding call leaves a run whose log has ended and whose row is open. -/
lemma not_inStep_of_strands {s : Store} {c : RunCall} (hc : c.Strands s) :
    ¬ InStep (runMachine.next s c) := by
  suffices h : Effect.wp c.perform (fun _ s' => ¬ InStep s') (fun _ s' => ¬ InStep s') s from
    h.state
  -- the log just written has ended, and the row it belongs to is the one found open
  have broken : ∀ (s' : Store) (e : RunEvent), s'.settled e.runId = false →
      e.type.isTerminal = true → ¬ InStep (s'.push e) := by
    intro s' e hopen hterm hin
    have hended : (s'.push e).ended e.runId = true := by
      rw [Store.ended_push]
      simp [hterm]
    exact absurd ((hin.settled_of_ended _ hended).symm.trans hopen) (by simp)
  cases c with
  | cancel env runId reason who =>
      obtain ⟨run, hrow, hopen, hfresh⟩ := hc
      rw [RunCall.perform, Effect.wp_map,
        RunLifecycleService.wp_cancel_of_open hrow hopen hfresh]
      exact broken s _ hopen rfl
  | resolve env id decision =>
      obtain ⟨hends, existing, hrow, hpending, hnow, hopen, hfresh⟩ := hc
      obtain ⟨a, -, hwp⟩ := ApprovalEngine.wp_resolve_of_pending hrow hpending hnow hopen hfresh
      rw [RunCall.perform, Effect.wp_map, hwp]
      exact broken (s.putApproval a) _
        (by rw [Store.stamp_runId, ApprovalEngine.eventOf_runId]; exact hopen)
        (by rw [Store.stamp_type, ApprovalEngine.isTerminal_eventOf]; exact hends)
  | start | resume | request | orchestrate => exact hc.elim

/-- **The stranding calls are exactly the ones that break the agreement** of log and state. -/
theorem inStep_next_iff {s : Store} {c : RunCall} (hs : InStep s) :
    InStep (runMachine.next s c) ↔ ¬ c.Strands s :=
  ⟨fun h hc => not_inStep_of_strands hc h, inStep_next hs⟩

/-- **Terminal immutability.**  From a store whose logs and states are in step, in every run
without a stranding call a log that holds a terminal event never changes, the calls addressed to
its run raise, and no log holds two terminal events. -/
theorem terminalImmutable_of_meets {s : Store} {calls : List RunCall} (hs : InStep s)
    (h : runMachine.Meets (fun s c => ¬ c.Strands s) s calls) :
    TerminalImmutable (runMachine.trace s calls) := by
  intro t ht runId
  obtain ⟨pre, post, hsplit⟩ := List.append_of_mem ht
  obtain ⟨cs₁, c, cs₂, rfl, -, rfl, -⟩ := runMachine.trace_mid hsplit
  obtain ⟨hpre, hc, -⟩ := runMachine.meets_append.mp h
  have hbefore : InStep (runMachine.run s cs₁) :=
    runMachine.invariant (fun _ _ hs hc => inStep_next hs hc) hs hpre
  refine ⟨fun hended => ?_, (inStep_next hbefore hc).one_ending runId⟩
  have hsettled := hbefore.settled_of_ended runId hended
  have hwrites : Writes False (runMachine.run s cs₁) (runMachine.next (runMachine.run s cs₁) c) :=
    writes_of_next c hc
  exact ⟨(frozen_of_writes hwrites runId hsettled).2,
    fun haddr => refused_of_settled haddr hsettled⟩

/-- A run that is started, completed by the pipeline, and then refuses to be cancelled. -/
theorem terminalImmutable_completed_run :
    TerminalImmutable (runMachine.trace Store.empty
      [.start stillEnv sampleTask .api, .orchestrate stillEnv sampleRun,
        .cancel stillEnv "run-t1" "too late" none]) := by
  refine terminalImmutable_of_meets inStep_empty ⟨id, id, ?_, trivial⟩
  rintro ⟨run, -, hopen, -⟩
  exact absurd hopen (by decide)

/-- The run is cancelled, its row stays in the state `created`, and the log grows again. -/
theorem not_terminalImmutable_cancelled_run :
    ¬ TerminalImmutable (runMachine.trace Store.empty
      [.start stillEnv sampleTask .api, .cancel stillEnv "run-t1" "stop" none,
        .resume stillEnv "run-t1" "operator_resume"]) := by
  intro h
  have hsame := ((h _ (List.mem_cons_of_mem _ (List.mem_cons_of_mem _ List.mem_cons_self))
    "run-t1").1 (by decide)).1
  exact absurd (congrArg List.length hsame) (by decide)

end Waywarden
