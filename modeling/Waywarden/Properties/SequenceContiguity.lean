import Waywarden.Lib.Machine
import Waywarden.Infra.RunEventRepository

/-!
# Sequence contiguity and lossless paging

`append` numbers an event one past the latest of its run, whatever number the caller put in it,
and a refused append changes nothing.  So after any sequence of appends, to any runs and with any
rows in `runs` from one append to the next, every log is numbered `1, …, n` in the order its
appends succeeded.  What `latest_seq` and `list` return follows from the numbering alone, and so
does reading a log page by page.
-/

namespace Waywarden

open Machine

/-- A call on the event repository, or a write of the `runs` table by somebody else. -/
inductive LogCall
  | append (event : RunEvent)
  | writeRuns (rows : List RunRow)

/-- The computation a call runs. -/
def LogCall.perform : LogCall → Session (Option RunEvent)
  | .append event => do
      let stored ← RunEventRepository.append event
      pure (some stored)
  | .writeRuns rows => do
      Effect.modify fun s => { s with runs := rows }
      pure none

/-- The event repository under appends that come one after another. -/
def logMachine : Machine Store LogCall (Except PyError (Option RunEvent)) :=
  ⟨fun s c => c.perform s⟩

/-- A transition of the event repository. -/
abbrev LogTransition : Type := Transition Store LogCall (Except PyError (Option RunEvent))

/-- The event a successful append returned. -/
def appended (t : LogTransition) : Option RunEvent :=
  match t.reply with
  | .ok event => event
  | .error _ => none

/-! ## One step -/

/-- **One step of the log.**  A call changes no log, or it is a successful append: it returns the
caller's event numbered anew and adds it to the log of its run. -/
lemma log_next (s : Store) (c : LogCall) :
    (appended (logMachine.transition s c) = none ∧
      ∀ runId, (logMachine.next s c).log runId = s.log runId) ∨
    ∃ event, c = .append event ∧
      appended (logMachine.transition s c) = some (s.stamp event) ∧
      ∀ runId, (logMachine.next s c).log runId = (s.push (s.stamp event)).log runId := by
  cases c with
  | writeRuns rows => exact Or.inl ⟨rfl, fun _ => rfl⟩
  | append event =>
      -- whichever way it is refused, the store stays as it is
      have refused : ∀ e, RunEventRepository.append event s = (.error e, s) →
          appended (logMachine.transition s (.append event)) = none ∧
            ∀ runId, (logMachine.next s (.append event)).log runId = s.log runId := by
        intro e h
        have hstep : logMachine.step s (.append event) = (.error e, s) := Effect.bind_of_error h
        exact ⟨by rw [appended, transition, hstep], fun _ => by rw [next, hstep]⟩
      rcases RunEventRepository.append_cases event s with ⟨-, _, h⟩ | ⟨-, -, h⟩ | ⟨-, -, h⟩
      · exact Or.inl (refused _ h)
      · exact Or.inl (refused _ h)
      · have hstep : logMachine.step s (.append event) =
            (.ok (some (s.stamp event)), s.push (s.stamp event)) := Effect.bind_of_ok h
        exact Or.inr ⟨event, rfl, by rw [appended, transition, hstep],
          fun _ => by rw [next, hstep]⟩

/-- One step keeps every log contiguous. -/
lemma contiguous_next {s : Store} {c : LogCall}
    (h : ∀ runId, SeqLog.Contiguous RunEvent.seq (s.log runId)) (runId : String) :
    SeqLog.Contiguous RunEvent.seq ((logMachine.next s c).log runId) := by
  rcases log_next s c with ⟨-, hlog⟩ | ⟨event, -, -, hlog⟩
  · rw [hlog]
    exact h runId
  · rw [hlog]
    exact Store.contiguous_push_stamp (h runId) event

/-- One step adds to a log what it returns for its run. -/
lemma log_next_eq (s : Store) (c : LogCall) (runId : String) :
    (logMachine.next s c).log runId = s.log runId ++
      (appended (logMachine.transition s c)).toList.filter fun e => e.runId = runId := by
  rcases log_next s c with ⟨hnone, hlog⟩ | ⟨event, -, hsome, hlog⟩
  · rw [hlog, hnone]
    exact (List.append_nil _).symm
  · rw [hlog, hsome, Store.log_push, Store.stamp_runId]
    by_cases hrun : event.runId = runId
    · simp [hrun]
    · simp [hrun]

/-! ## Reading a contiguous log -/

/-- What the repository's readers return for a run, when its log is numbered `1, …, n`. -/
structure ReadsBack (s : Store) (runId : String) : Prop where
  contiguous : SeqLog.Contiguous RunEvent.seq (s.log runId)
  latest : RunEventRepository.latestSeq runId s = (.ok (s.log runId).length, s)
  tail : ∀ k, RunEventRepository.list runId k none s =
    (.ok ((s.log runId).filter fun e => k < e.seq), s)
  paged : ∀ limit, 1 ≤ limit → ∃ fetch pages,
    (∀ k, RunEventRepository.list runId k (some limit) s = (.ok (fetch k), s)) ∧
      SeqLog.pages RunEvent.seq fetch ((s.log runId).length + 1) 0 = some pages ∧
      pages.flatten = s.log runId

lemma readsBack_of_contiguous {s : Store} {runId : String}
    (h : SeqLog.Contiguous RunEvent.seq (s.log runId)) : ReadsBack s runId := by
  refine ⟨h, ?_, fun k => ?_, fun limit hlimit => ?_⟩
  · rw [← h.maxSeq_eq]
    rfl
  · rw [h.filter_lt_eq_drop, ← RunEventRepository.insertionSort_drop h]
    rfl
  · have hfetch : ∀ k, RunEventRepository.list runId k (some limit) s =
        (.ok (((s.log runId).drop k).take limit), s) := by
      intro k
      rw [← RunEventRepository.insertionSort_drop h]
      rfl
    have hfuel : (s.log runId).length - 0 < (s.log runId).length + 1 := Nat.lt_succ_self _
    obtain ⟨pages, hpages, hflat⟩ := h.pages_flatten
      (fun k => (rfl : ((s.log runId).drop k).take limit = _)) hlimit hfuel
    exact ⟨_, pages, hfetch, hpages, hflat⟩

/-! ## Runs -/

/-- The appends of a run number every log `1, …, n`. -/
lemma contiguous_run (calls : List LogCall) (runId : String) :
    SeqLog.Contiguous RunEvent.seq ((logMachine.run Store.empty calls).log runId) :=
  logMachine.invariant_all
    (I := fun s => ∀ runId, SeqLog.Contiguous RunEvent.seq (s.log runId))
    (fun _ _ h => contiguous_next h) calls (fun _ => SeqLog.contiguous_nil) runId

/-- **Contiguity and paging.**  After any sequence of appends and writes elsewhere, the log of a
run holds the events its successful appends returned, in that order and numbered anew, and its
readers read it back. -/
theorem log_of_appends (calls : List LogCall) (runId : String) :
    ReadsBack (logMachine.run Store.empty calls) runId ∧
      (logMachine.run Store.empty calls).log runId =
        ((logMachine.trace Store.empty calls).filterMap appended).filter
          (fun e => e.runId = runId) ∧
      ∀ t ∈ logMachine.trace Store.empty calls, ∀ e, appended t = some e →
        ∃ event, t.call = .append event ∧ e = t.before.stamp event := by
  refine ⟨readsBack_of_contiguous (contiguous_run calls runId), ?_, ?_⟩
  · induction calls using List.reverseRecOn with
    | nil => rfl
    | append_singleton calls c ih =>
        rw [logMachine.run_append, logMachine.trace_append, List.filterMap_append,
          List.filter_append, ← ih]
        exact log_next_eq _ c runId
  · intro t ht e he
    obtain ⟨pre, post, hsplit⟩ := List.append_of_mem ht
    obtain ⟨cs₁, c, cs₂, -, -, rfl, -⟩ := logMachine.trace_mid hsplit
    rcases log_next (logMachine.run Store.empty cs₁) c with ⟨hnone, -⟩ | ⟨event, hc, hsome, -⟩
    · exact absurd (he.symm.trans hnone) (by simp)
    · exact ⟨event, hc, Option.some.inj (he.symm.trans hsome)⟩

end Waywarden
