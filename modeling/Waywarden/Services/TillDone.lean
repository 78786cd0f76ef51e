import Mathlib.Data.List.Basic
import Waywarden.Domain.Durability
import Waywarden.Domain.RunEvent
import Waywarden.Services.Milestones

/-!
# The till-done loop

`waywarden.services.orchestration.tilldone`: a loop over iterations of planning, acting and
checking that ends with the first iteration that leaves nothing to do, or escalates at the limit.
It reports to a stream of events it numbers itself.

`runTillDone_eq` is the loop without its effects: the outcome, and the list of what it emits.
-/

namespace Waywarden.TillDone

/-- `LoopOutcome`. -/
inductive LoopOutcome
  | completed
  | escalated
  deriving DecidableEq, Repr

/-- The outcome as the source spells it. -/
def LoopOutcome.name : LoopOutcome → String
  | .completed => "completed"
  | .escalated => "escalated"

/-- `IterationResult`. -/
structure IterationResult where
  planArtifactId : String
  checkPassed : Bool
  changesApplied : Bool := false
  planRevised : Bool := false
  iterationCount : ℤ := 0
  planBody : String := ""
  planDiffFromPrevious : String := ""
  planRationale : String := ""
  deriving DecidableEq, Repr

/-- `done`. -/
def IterationResult.done (r : IterationResult) : Bool := r.checkPassed && !r.planRevised

/-- `LoopConfig`. -/
structure LoopConfig where
  maxIterations : ℤ := 3
  checkFailureMax : ℤ := 2
  escCheckIfRevised : Bool := true
  deriving DecidableEq, Repr

/-- `_EventStream`, by its events. -/
abbrev EventStream : Type := List RunEvent

/-- What a call emits with: its run, its clock, read once for each event, and its budget. -/
structure Emitter where
  runId : String
  now : ℕ → Timestamp
  tokenBudget : Option TokenBudgetTelemetry := none

namespace Emitter

variable (E : Emitter)

/-- The `token_budget` entry of a payload, if there is a budget. -/
def budgetEntry : Mapping :=
  ((tokenBudgetPayload E.tokenBudget).map fun v => ("token_budget", v)).toList

/-- The event of a milestone, as the `n`-th of the stream. -/
def progressEvent (phase milestone : String) (payload : Mapping) (n : ℕ) : RunEvent where
  id := E.runId ++ ".prog." ++ phase ++ "." ++ milestone
  runId := E.runId
  seq := n + 1
  type := .runProgress
  payload := [("phase", .str phase), ("milestone", .str milestone)] ++ payload ++ E.budgetEntry
  timestamp := E.now n
  causation := some (.ofAction (phase ++ "." ++ milestone))
  actor := some systemActor
  seq_pos := Nat.succ_pos n
  payload_ok := rfl

/-- The label of a revision. -/
def revisionLabel (version : ℤ) : String := "plan-revision-v" ++ toString version

/-- The event of a plan revision, as the `n`-th of the stream. -/
def revisionEvent (version : ℤ) (body diff rationale artifactRef : String) (n : ℕ) : RunEvent where
  id := E.runId ++ ".artifact." ++ revisionLabel version
  runId := E.runId
  seq := n + 1
  type := .runArtifactCreated
  payload :=
    [("artifact_ref", .str artifactRef), ("artifact_kind", .str "plan-revision"),
      ("label", .str (revisionLabel version)), ("version", .int version),
      ("diff_from_previous", .str diff), ("rationale", .str rationale), ("body", .str body)] ++
    E.budgetEntry
  timestamp := E.now n
  causation := some
    { eventId := none, action := some "plan_revision", requestId := some artifactRef }
  actor := some systemActor
  seq_pos := Nat.succ_pos n
  payload_ok := rfl

/-- `_emit_progress`. -/
def emitProgress (phase milestone : String) (payload : Mapping := []) :
    Effect EventStream PyError Unit :=
  if isValidMilestone phase milestone then
    Effect.modify fun stream => stream ++ [E.progressEvent phase milestone payload stream.length]
  else
    Effect.raise ⟨.valueError, "milestone not cataloged: phase=% milestone=%", [phase, milestone]⟩

/-- `_emit_plan_revision_artifact`. -/
def emitPlanRevisionArtifact (version : ℤ) (body diff rationale artifactRef : String) :
    Effect EventStream PyError Unit :=
  Effect.modify fun stream =>
    stream ++ [E.revisionEvent version body diff rationale artifactRef stream.length]

end Emitter

section

variable (E : Emitter) (cfg : LoopConfig) (iterationResultFn : ℕ → IterationResult)

/-- The body of the loop, from the plan phase to the check. -/
def carryOut (result : IterationResult) : Effect EventStream PyError Unit := do
  E.emitProgress "plan" "drafted"
  E.emitProgress "plan" "approval_requested"
  E.emitProgress "plan" "ready"
  E.emitProgress "code" "changes_applied" [("artifact_id", .str result.planArtifactId)]
  if result.planRevised then do
    E.emitProgress "plan" "revision_cataloged"
    E.emitProgress "code" "plan_revised"
    E.emitPlanRevisionArtifact result.iterationCount result.planBody result.planDiffFromPrevious
      result.planRationale result.planArtifactId
    E.emitProgress "plan" "ready"
  else if result.checkPassed then
    E.emitProgress "code" "check_passed"
  else
    E.emitProgress "code" "iteration_complete"

/-- The loop of `run_till_done`, with the number of iterations left before the limit.  The failures
are counted and not looked at. -/
def loop : ℕ → ℕ → ℕ → Effect EventStream PyError LoopOutcome
  | 0, _, _ => do
      E.emitProgress "code" "loop_escalated"
      pure .escalated
  | left + 1, iteration, failures => do
      let iteration := iteration + 1
      let result := { iterationResultFn iteration with iterationCount := iteration }
      E.emitProgress "code" "iteration_started"
      if (iteration : ℤ) ≥ cfg.maxIterations then do
        E.emitProgress "code" "loop_escalated"
        pure .escalated
      else do
        carryOut E result
        let failures := if result.checkPassed then failures else failures + 1
        if result.checkPassed && !result.planRevised then do
          E.emitProgress "code" "iteration_complete"
          E.emitProgress "code" "terminal"
          pure .completed
        else
          loop left iteration failures

/-- `run_till_done`. -/
def runTillDone : Effect EventStream PyError LoopOutcome :=
  loop E cfg iterationResultFn cfg.maxIterations.toNat 0 0

end

/-! ## The emissions of a run -/

/-- What a run emits: a milestone, with what its payload has besides, or the plan revision of an
iteration. -/
inductive Emission
  | milestone (phase milestone : String) (payload : Mapping)
  | revision (result : IterationResult)

/-- The event of an emission, as the `n`-th of the stream. -/
def Emission.event (E : Emitter) (n : ℕ) : Emission → RunEvent
  | .milestone phase step payload => E.progressEvent phase step payload n
  | .revision r =>
      E.revisionEvent r.iterationCount r.planBody r.planDiffFromPrevious r.planRationale
        r.planArtifactId n

/-- The events of a list of emissions, from the `n`-th of the stream on. -/
def eventsFrom (E : Emitter) (n : ℕ) (ms : List Emission) : List RunEvent :=
  ms.mapIdx fun k m => m.event E (n + k)

/-- What an iteration emits once it is started. -/
def carried (r : IterationResult) : List Emission :=
  [.milestone "plan" "drafted" [], .milestone "plan" "approval_requested" [],
    .milestone "plan" "ready" [],
    .milestone "code" "changes_applied" [("artifact_id", .str r.planArtifactId)]] ++
  if r.planRevised then
    [.milestone "plan" "revision_cataloged" [], .milestone "code" "plan_revised" [], .revision r,
      .milestone "plan" "ready" []]
  else if r.checkPassed then [.milestone "code" "check_passed" []]
  else [.milestone "code" "iteration_complete" []]

section

variable (cfg : LoopConfig) (iterationResultFn : ℕ → IterationResult)

/-- The result of an iteration with its number. -/
def numbered (i : ℕ) : IterationResult := { iterationResultFn i with iterationCount := i }

/-- The outcome of a run, and what it emits, from the iteration after the given one on. -/
def emissions : ℕ → ℕ → LoopOutcome × List Emission
  | 0, _ => (.escalated, [.milestone "code" "loop_escalated" []])
  | left + 1, i =>
      if ((i + 1 : ℕ) : ℤ) ≥ cfg.maxIterations then
        (.escalated, [.milestone "code" "iteration_started" [],
          .milestone "code" "loop_escalated" []])
      else if (iterationResultFn (i + 1)).done then
        (.completed,
          .milestone "code" "iteration_started" [] ::
            carried (numbered iterationResultFn (i + 1)) ++
            [.milestone "code" "iteration_complete" [], .milestone "code" "terminal" []])
      else
        let rest := emissions left (i + 1)
        (rest.1, .milestone "code" "iteration_started" [] ::
          carried (numbered iterationResultFn (i + 1)) ++ rest.2)

end

/-- The computation returns the value and emits the list, whatever was emitted before. -/
def Emits {α : Type} (E : Emitter) (x : Effect EventStream PyError α) (a : α)
    (ms : List Emission) : Prop :=
  ∀ stream : EventStream, x stream = (.ok a, stream ++ eventsFrom E stream.length ms)

section

variable {E : Emitter} {cfg : LoopConfig} {iterationResultFn : ℕ → IterationResult}

@[simp] lemma length_eventsFrom (n : ℕ) (ms : List Emission) :
    (eventsFrom E n ms).length = ms.length :=
  List.length_mapIdx

lemma eventsFrom_append (n : ℕ) (ms ms' : List Emission) :
    eventsFrom E n (ms ++ ms') = eventsFrom E n ms ++ eventsFrom E (n + ms.length) ms' := by
  unfold eventsFrom
  rw [List.mapIdx_append]
  have hshift : ∀ i, n + (i + ms.length) = n + ms.length + i := fun i => by omega
  simp only [hshift]

/-- A reading of the events that does not depend on their place in the stream. -/
lemma map_eventsFrom {β : Type} {f : RunEvent → β} {g : Emission → β}
    (h : ∀ n m, f (m.event E n) = g m) (n : ℕ) (ms : List Emission) :
    (eventsFrom E n ms).map f = ms.map g := by
  refine List.ext_getElem (by simp) fun i _ _ => ?_
  simp only [eventsFrom, List.getElem_map, List.getElem_mapIdx, h]

lemma Emits.pure {α : Type} (a : α) : Emits E (pure a) a [] := by
  intro stream
  show (Except.ok a, stream) = (.ok a, stream ++ [])
  rw [List.append_nil]

lemma Emits.bind {α β : Type} {x : Effect EventStream PyError α}
    {f : α → Effect EventStream PyError β} {a : α} {b : β} {ms ms' : List Emission}
    (hx : Emits E x a ms) (hf : Emits E (f a) b ms') : Emits E (x >>= f) b (ms ++ ms') := by
  intro stream
  rw [Effect.bind_of_ok (hx stream), hf, List.length_append, length_eventsFrom,
    eventsFrom_append, List.append_assoc]

lemma emits_progress {phase milestone : String} {payload : Mapping}
    (h : isValidMilestone phase milestone = true) :
    Emits E (E.emitProgress phase milestone payload) ()
      [.milestone phase milestone payload] := by
  intro stream
  unfold Emitter.emitProgress
  rw [if_pos h]
  rfl

lemma emits_revision (r : IterationResult) :
    Emits E (E.emitPlanRevisionArtifact r.iterationCount r.planBody r.planDiffFromPrevious
      r.planRationale r.planArtifactId) () [.revision r] := fun _ => rfl

/-- **What an iteration emits**, from the plan phase to the check. -/
lemma emits_carryOut (r : IterationResult) : Emits E (carryOut E r) () (carried r) := by
  unfold carryOut carried
  refine (emits_progress (by decide)).bind ((emits_progress (by decide)).bind
    ((emits_progress (by decide)).bind ((emits_progress (by decide)).bind ?_)))
  split
  · exact (emits_progress (by decide)).bind ((emits_progress (by decide)).bind
      ((emits_revision r).bind (emits_progress (by decide))))
  · split
    · exact emits_progress (by decide)
    · exact emits_progress (by decide)

/-- **What the loop emits**, by induction on the iterations left. -/
lemma emits_loop (left iteration failures : ℕ) :
    Emits E (loop E cfg iterationResultFn left iteration failures)
      (emissions cfg iterationResultFn left iteration).1
      (emissions cfg iterationResultFn left iteration).2 := by
  induction left generalizing iteration failures with
  | zero => exact (emits_progress (by decide)).bind (.pure _)
  | succ left ih =>
      unfold loop emissions
      by_cases hlimit : ((iteration + 1 : ℕ) : ℤ) ≥ cfg.maxIterations
      · simp only [if_pos hlimit]
        exact (emits_progress (by decide)).bind ((emits_progress (by decide)).bind (.pure _))
      · have hstarted : Emits E (E.emitProgress "code" "iteration_started") ()
            [.milestone "code" "iteration_started" []] := emits_progress (by decide)
        have hcarried := emits_carryOut (E := E) (numbered iterationResultFn (iteration + 1))
        simp only [if_neg hlimit]
        by_cases hdone : (iterationResultFn (iteration + 1)).done = true
        · have hcond := hdone
          unfold IterationResult.done at hcond
          simp only [if_pos hdone, if_pos hcond]
          exact hstarted.bind (hcarried.bind ((emits_progress (by decide)).bind
            ((emits_progress (by decide)).bind (.pure _))))
        · have hcond := hdone
          unfold IterationResult.done at hcond
          simp only [if_neg hdone, if_neg hcond]
          exact hstarted.bind (hcarried.bind (ih _ _))

/-- **A run emits what `emissions` lists.** -/
theorem runTillDone_eq (stream : EventStream) :
    runTillDone E cfg iterationResultFn stream =
      (.ok (emissions cfg iterationResultFn cfg.maxIterations.toNat 0).1,
        stream ++ eventsFrom E stream.length
          (emissions cfg iterationResultFn cfg.maxIterations.toNat 0).2) :=
  emits_loop _ _ _ stream

end

/-! ## The iterations that are carried out -/

section

variable (cfg : LoopConfig) (iterationResultFn : ℕ → IterationResult)

/-- Of the `n` iterations from the given one on, those up to the first that is done. -/
def throughDone : ℕ → ℕ → List ℕ
  | 0, _ => []
  | n + 1, i => if (iterationResultFn i).done then [i] else i :: throughDone n (i + 1)

/-- The iterations a run carries out: below the limit, where the loop escalates as soon as the
iteration is started, and up to the first that is done. -/
def carriedOut : List ℕ := throughDone iterationResultFn (cfg.maxIterations.toNat - 1) 1

/-- What an iteration that is carried out emits. -/
def block (i : ℕ) : List Emission :=
  .milestone "code" "iteration_started" [] :: carried (numbered iterationResultFn i) ++
    if (iterationResultFn i).done then [.milestone "code" "iteration_complete" []] else []

/-- What a run emits after that. -/
def ending : LoopOutcome → List Emission
  | .completed => [.milestone "code" "terminal" []]
  | .escalated =>
      if cfg.maxIterations ≤ 0 then [.milestone "code" "loop_escalated" []]
      else [.milestone "code" "iteration_started" [], .milestone "code" "loop_escalated" []]

variable {cfg iterationResultFn}

/-- What the loop emits from an iteration below the limit on. -/
lemma emissions_of_lt {left i : ℕ} (hleft : (left : ℤ) = cfg.maxIterations - i)
    (hi : (i : ℤ) < cfg.maxIterations) :
    (emissions cfg iterationResultFn left i).2 =
      (throughDone iterationResultFn (left - 1) (i + 1)).flatMap (block iterationResultFn) ++
        ending cfg (emissions cfg iterationResultFn left i).1 := by
  induction left generalizing i with
  | zero => omega
  | succ left ih =>
      unfold emissions
      by_cases hlimit : ((i + 1 : ℕ) : ℤ) ≥ cfg.maxIterations
      · obtain rfl : left = 0 := by omega
        simp only [if_pos hlimit, ending, if_neg (show ¬ cfg.maxIterations ≤ 0 by omega)]
        rfl
      · obtain ⟨left, rfl⟩ : ∃ n, left = n + 1 := Nat.exists_eq_add_one_of_ne_zero (by omega)
        have ih := @ih (i + 1) (by omega) (by omega)
        simp only [if_neg hlimit, Nat.add_sub_cancel] at ih ⊢
        by_cases hdone : (iterationResultFn (i + 1)).done = true
        · simp only [if_pos hdone, throughDone, List.flatMap_cons, List.flatMap_nil, block, ending,
            List.cons_append, List.append_assoc, List.nil_append]
        · simp only [if_neg hdone, throughDone, List.flatMap_cons, block, List.append_nil,
            List.cons_append, List.append_assoc, ih]

/-- **What a run emits**: a block for each iteration it carries out, and the ending. -/
theorem emissions_eq :
    (emissions cfg iterationResultFn cfg.maxIterations.toNat 0).2 =
      (carriedOut cfg iterationResultFn).flatMap (block iterationResultFn) ++
        ending cfg (emissions cfg iterationResultFn cfg.maxIterations.toNat 0).1 := by
  by_cases hmax : cfg.maxIterations ≤ 0
  · unfold carriedOut
    rw [Int.toNat_of_nonpos hmax]
    simp only [emissions, ending, if_pos hmax]
    rfl
  · exact emissions_of_lt (by omega) (by omega)

end

end Waywarden.TillDone
