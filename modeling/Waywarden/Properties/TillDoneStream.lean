import Waywarden.Services.TillDone

/-!
# The stream of the till-done loop

The loop documents what each iteration emits, and that the stream ends with its outcome.
`WellFormed` is that grammar together with the numbering of the events; the loop keeps it in the
runs that come to no second iteration only (`stream_wellFormed_iff`).  The ids are made of the
milestone's name, so the second `code.iteration_started` repeats the id of the first.

The grammar fails there too: `code.check_failed` is emitted nowhere, and an iteration that revises
the plan emits neither a check nor `code.iteration_complete`.
-/

namespace Waywarden.TillDone

/-! ## The grammar -/

/-- The phase and the milestone a progress event reports. -/
def milestoneOf (e : RunEvent) : Option (String × String) :=
  match e.type, e.payload.get "phase", e.payload.get "milestone" with
  | .runProgress, some (.str phase), some (.str milestone) => some (phase, milestone)
  | _, _, _ => none

/-- A milestone of the code phase. -/
def code (milestone : String) : Option (String × String) := some ("code", milestone)

/-- A milestone of the plan phase. -/
def plan (milestone : String) : Option (String × String) := some ("plan", milestone)

/-- Whether a milestone is of the code phase. -/
def isCode (milestone : Option (String × String)) : Bool := milestone.any fun m => m.1 == "code"

/-- The milestones of an iteration with a given result.  After the changes, what the plan phase
reports besides is left open. -/
def IsIteration (r : IterationResult) (ms : List (Option (String × String))) : Prop :=
  ∃ rest, ms = [code "iteration_started", plan "drafted", plan "approval_requested", plan "ready",
      code "changes_applied"] ++ rest ∧
    rest.filter isCode = [code (if r.checkPassed then "check_passed" else "check_failed")] ++
      (if r.planRevised then [code "plan_revised"] else []) ++ [code "iteration_complete"]

/-- The milestone that ends a run with an outcome. -/
def closing : LoopOutcome → Option (String × String)
  | .completed => code "terminal"
  | .escalated => code "loop_escalated"

/-- The stream of a run: its events are numbered and told apart by their ids, there is a piece for
each iteration carried out, perhaps an iteration started at the limit, and the outcome, reported
once and last. -/
structure WellFormed (E : Emitter) (cfg : LoopConfig) (iterationResultFn : ℕ → IterationResult)
    (outcome : LoopOutcome) (events : List RunEvent) : Prop where
  returned : runTillDone E cfg iterationResultFn [] = (.ok outcome, events)
  numbered : events.map RunEvent.seq = List.range' 1 events.length
  distinct : (events.map RunEvent.id).Nodup
  iterations : ∃ pieces started, events.map milestoneOf =
      pieces.flatten ++ started ++ [closing outcome] ∧
    List.Forall₂ (fun i ms => IsIteration (iterationResultFn i) ms)
      (carriedOut cfg iterationResultFn) pieces ∧
    (started = [] ∨ started = [code "iteration_started"])
  once : ∀ ms last, events.map milestoneOf = ms ++ [last] →
    code "terminal" ∉ ms ∧ code "loop_escalated" ∉ ms

/-! ## The events of a list of emissions -/

/-- The milestone an emission reports. -/
def Emission.word : Emission → Option (String × String)
  | .milestone phase step _ => some (phase, step)
  | .revision _ => none

/-- The id of an emission's event, after the run. -/
def Emission.suffix : Emission → String
  | .milestone phase step _ => ".prog." ++ phase ++ "." ++ step
  | .revision r => ".artifact." ++ Emitter.revisionLabel r.iterationCount

section

variable {E : Emitter}

lemma milestoneOf_event (n : ℕ) (m : Emission) : milestoneOf (m.event E n) = m.word := by
  cases m <;> rfl

lemma id_event (n : ℕ) (m : Emission) : (m.event E n).id = E.runId ++ m.suffix := by
  cases m with
  | milestone phase step payload =>
      show E.runId ++ ".prog." ++ phase ++ "." ++ step = _
      simp only [Emission.suffix, String.append_assoc]
  | revision r =>
      show E.runId ++ ".artifact." ++ _ = _
      simp only [Emission.suffix, String.append_assoc]

lemma seq_event (n : ℕ) (m : Emission) : (m.event E n).seq = n + 1 := by
  cases m <;> rfl

lemma map_milestoneOf_eventsFrom (n : ℕ) (ms : List Emission) :
    (eventsFrom E n ms).map milestoneOf = ms.map Emission.word :=
  map_eventsFrom milestoneOf_event n ms

lemma map_seq_eventsFrom (ms : List Emission) :
    (eventsFrom E 0 ms).map RunEvent.seq = List.range' 1 (eventsFrom E 0 ms).length := by
  refine List.ext_getElem (by simp) fun i _ _ => ?_
  simp only [eventsFrom, List.getElem_map, List.getElem_mapIdx, seq_event, List.getElem_range']
  omega

/-- The ids are distinct when what follows the run in them is. -/
lemma nodup_id_eventsFrom {n : ℕ} {ms : List Emission} :
    ((eventsFrom E n ms).map RunEvent.id).Nodup ↔ (ms.map Emission.suffix).Nodup := by
  have hids : (eventsFrom E n ms).map RunEvent.id =
      (ms.map Emission.suffix).map (E.runId ++ ·) := by
    rw [List.map_map]
    exact map_eventsFrom id_event n ms
  rw [hids]
  exact List.nodup_map_iff fun _ _ h => (String.append_right_inj _).mp h

end

section

variable {E : Emitter} {cfg : LoopConfig} {iterationResultFn : ℕ → IterationResult}

/-- An iteration started after another repeats an id. -/
lemma not_nodup_of_second {first ms : List Emission}
    (h : .milestone "code" "iteration_started" [] ∈ ms) :
    ¬ ((.milestone "code" "iteration_started" [] :: first ++ ms).map Emission.suffix).Nodup := by
  rw [List.cons_append, List.map_cons, List.nodup_cons]
  rintro ⟨hnot, -⟩
  exact hnot (List.mem_map_of_mem (List.mem_append_right first h))

/-- An iteration is started first. -/
lemma emissions_succ (cfg : LoopConfig) (iterationResultFn : ℕ → IterationResult) (left i : ℕ) :
    ∃ ms, (emissions cfg iterationResultFn (left + 1) i).2 =
      .milestone "code" "iteration_started" [] :: ms := by
  unfold emissions
  split
  · exact ⟨_, rfl⟩
  · split
    · exact ⟨_, rfl⟩
    · exact ⟨_, rfl⟩

/-- **A run that comes to a second iteration has two events with one id.** -/
lemma not_nodup_id (hmax : 2 ≤ cfg.maxIterations)
    (hdone : ¬ (iterationResultFn 1).done = true) :
    ¬ ((eventsFrom E 0 (emissions cfg iterationResultFn cfg.maxIterations.toNat 0).2).map
      RunEvent.id).Nodup := by
  obtain ⟨left, hleft⟩ : ∃ n, cfg.maxIterations.toNat = n + 1 + 1 :=
    ⟨cfg.maxIterations.toNat - 2, by omega⟩
  rw [nodup_id_eventsFrom, hleft, emissions, if_neg (by omega), if_neg hdone]
  obtain ⟨ms, hms⟩ := emissions_succ cfg iterationResultFn left 1
  exact not_nodup_of_second (hms ▸ List.mem_cons_self)

/-- What a run emits that escalates in its first iteration. -/
lemma emissions_limit (h : cfg.maxIterations = 1) :
    emissions cfg iterationResultFn cfg.maxIterations.toNat 0 =
      (.escalated, [.milestone "code" "iteration_started" [],
        .milestone "code" "loop_escalated" []]) := by
  rw [h]
  show emissions cfg iterationResultFn (0 + 1) 0 = _
  rw [emissions, if_pos (by omega)]

/-- What a run emits that is done with its first iteration. -/
lemma emissions_done (hmax : 2 ≤ cfg.maxIterations) (hdone : (iterationResultFn 1).done = true) :
    emissions cfg iterationResultFn cfg.maxIterations.toNat 0 =
      (.completed, [.milestone "code" "iteration_started" [], .milestone "plan" "drafted" [],
        .milestone "plan" "approval_requested" [], .milestone "plan" "ready" [],
        .milestone "code" "changes_applied"
          [("artifact_id", .str (iterationResultFn 1).planArtifactId)],
        .milestone "code" "check_passed" [], .milestone "code" "iteration_complete" [],
        .milestone "code" "terminal" []]) := by
  obtain ⟨left, hleft⟩ : ∃ n, cfg.maxIterations.toNat = n + 1 :=
    ⟨cfg.maxIterations.toNat - 1, by omega⟩
  have hflags := hdone
  unfold IterationResult.done at hflags
  rw [Bool.and_eq_true, Bool.not_eq_true'] at hflags
  have hpassed : (numbered iterationResultFn 1).checkPassed = true := hflags.1
  have hrevised : (numbered iterationResultFn 1).planRevised = false := hflags.2
  rw [hleft, emissions, if_neg (by omega), if_pos hdone, carried, hpassed, hrevised]
  rfl

/-- A stream is well formed when its emissions are. -/
lemma wellFormed_of {outcome : LoopOutcome} {ms : List Emission}
    (hrun : emissions cfg iterationResultFn cfg.maxIterations.toNat 0 = (outcome, ms))
    (hids : (ms.map Emission.suffix).Nodup)
    (hiterations : ∃ pieces started,
      ms.map Emission.word = pieces.flatten ++ started ++ [closing outcome] ∧
      List.Forall₂ (fun i ms => IsIteration (iterationResultFn i) ms)
        (carriedOut cfg iterationResultFn) pieces ∧
      (started = [] ∨ started = [code "iteration_started"]))
    (honce : ∀ w ∈ (ms.map Emission.word).dropLast,
      w ≠ code "terminal" ∧ w ≠ code "loop_escalated") :
    WellFormed E cfg iterationResultFn outcome (eventsFrom E 0 ms) where
  returned := by
    rw [runTillDone_eq, hrun]
    rfl
  numbered := map_seq_eventsFrom ms
  distinct := nodup_id_eventsFrom.mpr hids
  iterations := by
    rw [map_milestoneOf_eventsFrom]
    exact hiterations
  once := by
    intro init last h
    rw [map_milestoneOf_eventsFrom] at h
    rw [h, List.dropLast_concat] at honce
    exact ⟨fun hmem => (honce _ hmem).1 rfl, fun hmem => (honce _ hmem).2 rfl⟩

/-- No iteration is carried out before a limit of one. -/
lemma carriedOut_of_limit (hmax : cfg.maxIterations ≤ 1) :
    carriedOut cfg iterationResultFn = [] := by
  unfold carriedOut
  rw [show cfg.maxIterations.toNat - 1 = 0 by omega, throughDone]

/-- Nor a second one after a first that is done. -/
lemma carriedOut_of_done (hmax : 2 ≤ cfg.maxIterations)
    (hdone : (iterationResultFn 1).done = true) : carriedOut cfg iterationResultFn = [1] := by
  unfold carriedOut
  obtain ⟨n, hn⟩ : ∃ n, cfg.maxIterations.toNat - 1 = n + 1 :=
    ⟨cfg.maxIterations.toNat - 2, by omega⟩
  rw [hn, throughDone, if_pos hdone]

/-- A run that escalates at once, or after it started its first iteration. -/
lemma exists_wellFormed_of_limit (hmax : cfg.maxIterations ≤ 1) :
    ∃ outcome events, WellFormed E cfg iterationResultFn outcome events := by
  have hpieces : List.Forall₂ (fun i ms => IsIteration (iterationResultFn i) ms)
      (carriedOut cfg iterationResultFn) [] := by
    rw [carriedOut_of_limit hmax]
    exact .nil
  rcases Int.lt_or_le cfg.maxIterations 1 with hzero | hone
  · have hrun : emissions cfg iterationResultFn cfg.maxIterations.toNat 0 =
        (.escalated, [.milestone "code" "loop_escalated" []]) := by
      rw [Int.toNat_of_nonpos (by omega), emissions]
    exact ⟨_, _, wellFormed_of hrun (by decide) ⟨[], [], rfl, hpieces, Or.inl rfl⟩ (by decide)⟩
  · exact ⟨_, _, wellFormed_of (emissions_limit (by omega)) (by decide)
      ⟨[], [code "iteration_started"], rfl, hpieces, Or.inr rfl⟩ (by decide)⟩

/-- A run that is done with its first iteration. -/
lemma exists_wellFormed_of_done (hmax : 2 ≤ cfg.maxIterations)
    (hdone : (iterationResultFn 1).done = true) :
    ∃ outcome events, WellFormed E cfg iterationResultFn outcome events := by
  have hflags := hdone
  unfold IterationResult.done at hflags
  rw [Bool.and_eq_true, Bool.not_eq_true'] at hflags
  refine ⟨_, _, wellFormed_of (emissions_done hmax hdone) ?_
    ⟨[[code "iteration_started", plan "drafted", plan "approval_requested", plan "ready",
      code "changes_applied", code "check_passed", code "iteration_complete"]], [], rfl, ?_,
      Or.inl rfl⟩ ?_⟩
  · simp only [List.map_cons, List.map_nil, Emission.suffix]
    decide
  · rw [carriedOut_of_done hmax hdone]
    refine List.Forall₂.cons ⟨_, rfl, ?_⟩ List.Forall₂.nil
    rw [hflags.1, hflags.2]
    decide
  · simp only [List.map_cons, List.map_nil, Emission.word]
    decide

/-- **When the stream is well formed**: exactly when the run comes to no second iteration. -/
theorem stream_wellFormed_iff (E : Emitter) (cfg : LoopConfig)
    (iterationResultFn : ℕ → IterationResult) :
    (∃ outcome events, WellFormed E cfg iterationResultFn outcome events) ↔
      cfg.maxIterations ≤ 1 ∨ (iterationResultFn 1).done = true := by
  constructor
  · rintro ⟨outcome, events, h⟩
    by_contra hnot
    rw [not_or, not_le] at hnot
    have hrun := h.returned
    rw [runTillDone_eq] at hrun
    have hmax : 2 ≤ cfg.maxIterations := by omega
    refine not_nodup_id (E := E) hmax hnot.2 ?_
    have hevents : eventsFrom E 0 (emissions cfg iterationResultFn cfg.maxIterations.toNat 0).2 =
        events := (Prod.mk.inj hrun).2
    rw [hevents]
    exact h.distinct
  · intro h
    rcases Int.lt_or_le cfg.maxIterations 2 with hmax | hmax
    · exact exists_wellFormed_of_limit (by omega)
    · exact exists_wellFormed_of_done hmax (h.resolve_left (by omega))

/-- The results of two iterations, of which the first fails its check. -/
def failThenPass (i : ℕ) : IterationResult :=
  { planArtifactId := "plan-v1", checkPassed := i != 1 }

/-- A second iteration repeats the ids of the first, and the first reports no failed check. -/
theorem not_wellFormed_second_iteration :
    ¬ ∃ outcome events, WellFormed ⟨"run-1", fun _ => 0, none⟩ {} failThenPass outcome events := by
  rintro ⟨outcome, events, h⟩
  have hrun := h.returned
  have hids := h.distinct
  have hevents : events = (runTillDone ⟨"run-1", fun _ => 0, none⟩ {} failThenPass []).2 := by
    rw [hrun]
  rw [hevents] at hids
  revert hids
  decide +kernel

end

end Waywarden.TillDone
