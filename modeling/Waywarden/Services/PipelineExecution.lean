import Waywarden.Domain.Durability
import Waywarden.Domain.Handoff
import Waywarden.Domain.Pipeline
import Waywarden.Domain.RunEvent
import Waywarden.Lib.Itinerary

/-!
# `PipelineExecutionEngine`

`waywarden.services.orchestration.pipeline`: given an outcome for each node, `execute` follows the
pipeline's routes from its start node and draws up one `run.progress` event for each node on the
way.  The loop is by the number of steps that are left.

What happens at a node is its `decision`: the outcome supplied for it and where the route for that
outcome leads, or the exception of the lookup that fails.  `Pipeline.nextNode` is the walk that the
decisions make, and `loop_eq` says what the loop makes of it.
-/

namespace Waywarden

/-- `PipelineExecutionStatus`. -/
inductive PipelineExecutionStatus
  | completed
  | aborted
  deriving DecidableEq, Repr

/-- The status as the source writes it. -/
def PipelineExecutionStatus.name : PipelineExecutionStatus → String
  | completed => "completed"
  | aborted => "aborted"

/-- `PipelineExecutionResult`. -/
structure PipelineExecutionResult where
  status : PipelineExecutionStatus
  visitedNodeIds : List Text
  events : List RunEvent

namespace PipelineExecutionEngine

/-- The exception for a walk that is cut off. -/
def maxStepsError : PyError := ⟨.valueError, "pipeline execution exceeded max_steps", []⟩

/-- The exception for a node without an outcome. -/
def missingOutcomeError (id : Text) : PyError :=
  ⟨.keyError, "missing outcome for pipeline node %", [id.val]⟩

section

variable (env : Env) (pipeline : Pipeline) (runId : String)
  (outcomes : String → Option PipelineOutcome) (correlation : Option RunCorrelation)
  (tokenBudget : Option TokenBudgetTelemetry)

/-- `_outcome_for`. -/
def outcomeFor (node : PipelineNode) : Except PyError PipelineOutcome :=
  match outcomes node.id.val with
  | some outcome => .ok outcome
  | none => .error (missingOutcomeError node.id)

/-- What an event says of its node. -/
def nodePayload (node : PipelineNode) (outcome : PipelineOutcome)
    (status : PipelineExecutionStatus) : Mapping :=
  [("phase", .str node.phase), ("milestone", .str node.milestone),
    ("milestone_ref", .str (node.phase.val ++ "." ++ node.milestone.val)),
    ("run_id", .str runId), ("pipeline_id", .str pipeline.id), ("node_id", .str node.id),
    ("node_kind", .str node.kind.name), ("ref_id", .str node.refId),
    ("input_artifact_kind", .str node.inputArtifactKind),
    ("output_artifact_kind", .str node.outputArtifactKind), ("outcome", .str outcome.name),
    ("status", .str status.name)]

/-- A payload with what the caller adds to it. -/
def withCallerMetadata (payload : Mapping) : Mapping :=
  let payload := match correlation with
    | none => payload
    | some correlation => payload.update correlation.asPayload
  match tokenBudgetPayload tokenBudget with
  | none => payload
  | some budget => payload.update [("token_budget", budget)]

/-- The id of a node's event. -/
def progressEventId (id : Text) (uuid : String) : String :=
  "evt-" ++ runId ++ "-" ++ pipeline.id.val ++ "-" ++ id.val ++ "-" ++ uuid

/-- `_make_progress_event`. -/
def makeProgressEvent (node : PipelineNode) (seq : ℕ) (outcome : PipelineOutcome)
    (status : PipelineExecutionStatus) (uuid : String) (timestamp : Timestamp) :
    Except PyError RunEvent :=
  if !isValidMilestone node.phase node.milestone then
    .error ⟨.valueError, "milestone not cataloged: phase=% milestone=%",
      [node.phase.val, node.milestone.val]⟩
  else
    RunEvent.new (progressEventId pipeline runId node.id uuid) runId seq .runProgress
      (withCallerMetadata correlation tokenBudget
        (nodePayload pipeline runId node outcome status))
      (.aware timestamp)
      (some
        { eventId := none, action := some ("pipeline." ++ node.kind.name ++ "." ++ outcome.name),
          requestId := some pipeline.id.val })
      (some ⟨.system, some pipeline.id.val, some pipeline.id.val⟩)

/-- A node is aborted when it fails and its route leads nowhere. -/
def nodeStatus (outcome : PipelineOutcome) (nextId : Option Text) : PipelineExecutionStatus :=
  if outcome = .failure ∧ nextId = none then .aborted else .completed

/-- The `while` loop, with the steps that are left. -/
def loop : ℕ → Option Text → List Text → List RunEvent → Except PyError PipelineExecutionResult
  | _, none, visited, events => .ok ⟨.completed, visited, events⟩
  | 0, some _, _, _ => .error maxStepsError
  | steps + 1, some currentId, visited, events => do
      let node ← pipeline.node currentId.val
      let outcome ← outcomeFor outcomes node
      let route ← pipeline.route node.id.val outcome.name
      let status := nodeStatus outcome route.toNode
      let event ← makeProgressEvent pipeline runId correlation tokenBudget node
        (events.length + 1) outcome status (env.uuid4 events.length) (env.now events.length)
      if status = .aborted then .ok ⟨.aborted, visited ++ [node.id], events ++ [event]⟩
      else loop steps route.toNode (visited ++ [node.id]) (events ++ [event])

/-- `max_steps`, or twice the number of nodes. -/
def stepLimit (maxSteps : Option ℤ) : ℤ := maxSteps.getD (max (pipeline.nodes.length * 2) 1)

/-- `execute`. -/
def execute (maxSteps : Option ℤ) : Except PyError PipelineExecutionResult :=
  if stepLimit pipeline maxSteps < 1 then
    .error ⟨.valueError, "max_steps must be greater than zero", []⟩
  else
    loop env pipeline runId outcomes correlation tokenBudget (stepLimit pipeline maxSteps).toNat
      (some pipeline.startNode) [] []

/-! ## What happens at a node -/

/-- The outcome of a node and where its route leads, or what the lookup that fails raises. -/
def decision (id : Text) : Except PyError (PipelineOutcome × Option Text) :=
  match outcomes id.val with
  | none => .error (missingOutcomeError id)
  | some outcome =>
      match pipeline.declaredRoute id outcome with
      | none => .error ⟨.keyError, "no route from % for outcome %", [id.val, outcome.name]⟩
      | some route => .ok (outcome, route.toNode)

/-- Where the walk goes on from a node. -/
def nextNode (id : Text) : Option Text :=
  match decision pipeline outcomes id with
  | .error _ => none
  | .ok (_, nextId) => nextId

/-- **The event of a node**: its number, its ids and what it says of the node. -/
structure RecordsNode (node : PipelineNode) (seq : ℕ) (outcome : PipelineOutcome)
    (status : PipelineExecutionStatus) (uuid : String) (event : RunEvent) : Prop where
  id : event.id = progressEventId pipeline runId node.id uuid
  runId : event.runId = runId
  seq : event.seq = seq
  type : event.type = .runProgress
  phase : event.payload.get "phase" = some (.str node.phase)
  milestone : event.payload.get "milestone" = some (.str node.milestone)
  nodeId : event.payload.get "node_id" = some (.str node.id)
  outcome : event.payload.get "outcome" = some (.str outcome.name)
  status : event.payload.get "status" = some (.str status.name)

/-- The event is that of a node at a position of the walk, counted from 0. -/
def Records (id : Text) (position : ℕ) (event : RunEvent) : Prop :=
  ∃ node ∈ pipeline.nodes, node.id = id ∧ ∃ outcome nextId,
    decision pipeline outcomes id = .ok (outcome, nextId) ∧
    RecordsNode pipeline runId node (position + 1) outcome (nodeStatus outcome nextId)
      (env.uuid4 position) event

/-- What is made of a walk that ends: its last node's failing lookup is raised, or every node of
the walk is visited and recorded and the last one, whose route leads nowhere, says how it ended. -/
def CarriesOut (vs visited : List Text) (events : List RunEvent)
    (result : Except PyError PipelineExecutionResult) : Prop :=
  ∃ last ∈ vs.getLast?,
    match decision pipeline outcomes last with
    | .error e => result = .error e
    | .ok (outcome, nextId) =>
        nextId = none ∧ ∃ recorded,
          result = .ok ⟨nodeStatus outcome none, visited ++ vs, events ++ recorded⟩ ∧
          List.Forall₂ (fun u event => Records env pipeline runId outcomes u.1 u.2 event)
            (vs.zipIdx events.length) recorded

end

section

variable {env : Env} {pipeline : Pipeline} {runId : String}
  {outcomes : String → Option PipelineOutcome} {correlation : Option RunCorrelation}
  {tokenBudget : Option TokenBudgetTelemetry}

/-- A walk goes on to a node by the declared route for the outcome. -/
lemma decision_eq_ok_iff {id : Text} {outcome : PipelineOutcome} {nextId : Option Text} :
    decision pipeline outcomes id = .ok (outcome, nextId) ↔
      outcomes id.val = some outcome ∧
        ∃ q ∈ pipeline.routes, q.fromNode = id ∧ q.outcome = outcome ∧ q.toNode = nextId := by
  unfold decision
  cases houtcome : outcomes id.val with
  | none => exact iff_of_false (by simp) fun h => by simpa using h.1
  | some o =>
      simp only [Option.some.injEq]
      cases hroute : pipeline.declaredRoute id o with
      | none =>
          refine iff_of_false (by simp) ?_
          rintro ⟨rfl, q, hq, hfrom, hout, -⟩
          have hsome := Pipeline.declaredRoute_eq_some_iff.mpr ⟨hq, hfrom, hout⟩
          exact absurd (hroute.symm.trans hsome) (by simp)
      | some route =>
          obtain ⟨hmem, hfrom, hout⟩ := Pipeline.declaredRoute_eq_some_iff.mp hroute
          simp only [Except.ok.injEq, Prod.mk.injEq]
          constructor
          · rintro ⟨rfl, rfl⟩
            exact ⟨rfl, route, hmem, hfrom, hout, rfl⟩
          · rintro ⟨rfl, q, hq, hqfrom, hqout, rfl⟩
            have hsome := Pipeline.declaredRoute_eq_some_iff.mpr ⟨hq, hqfrom, hqout⟩
            obtain rfl := Option.some.inj (hroute.symm.trans hsome)
            exact ⟨rfl, rfl⟩

lemma nextNode_of_decision {id : Text} {outcome : PipelineOutcome} {nextId : Option Text}
    (h : decision pipeline outcomes id = .ok (outcome, nextId)) :
    nextNode pipeline outcomes id = nextId := by
  unfold nextNode
  rw [h]

lemma nextNode_of_error {id : Text} {e : PyError} (h : decision pipeline outcomes id = .error e) :
    nextNode pipeline outcomes id = none := by
  unfold nextNode
  rw [h]

/-- **One step of the walk** is along a declared route for the outcome of its node. -/
lemma nextNode_eq_some_iff {a b : Text} : nextNode pipeline outcomes a = some b ↔
    ∃ q ∈ pipeline.routes, q.fromNode = a ∧ outcomes a.val = some q.outcome ∧
      q.toNode = some b := by
  constructor
  · intro h
    cases hdecision : decision pipeline outcomes a with
    | error e =>
        rw [nextNode_of_error hdecision] at h
        exact absurd h (by simp)
    | ok r =>
        obtain ⟨outcome, nextId⟩ := r
        rw [nextNode_of_decision hdecision] at h
        subst h
        obtain ⟨houtcome, q, hq, hfrom, rfl, hto⟩ := decision_eq_ok_iff.mp hdecision
        exact ⟨q, hq, hfrom, houtcome, hto⟩
  · rintro ⟨q, hq, hfrom, houtcome, hto⟩
    have hdecision := decision_eq_ok_iff.mpr ⟨houtcome, q, hq, hfrom, rfl, rfl⟩
    rw [nextNode_of_decision hdecision, hto]

/-- The walk stays among the nodes of the pipeline. -/
lemma nextNode_mem {a b : Text} (h : nextNode pipeline outcomes a = some b) :
    b ∈ pipeline.nodeIds := by
  obtain ⟨q, hq, -, -, hto⟩ := nextNode_eq_some_iff.mp h
  exact pipeline.checked.routes.target q.edge (List.mem_map_of_mem hq) b hto

lemma stop_mem {id : Text} (hid : id ∈ pipeline.nodeIds) (n : ℕ) (u : Text)
    (h : Itinerary.stop (nextNode pipeline outcomes) id n = some u) : u ∈ pipeline.nodeIds := by
  cases n with
  | zero =>
      obtain rfl := Option.some.inj h
      exact hid
  | succ n =>
      obtain ⟨w, -, hw⟩ := Option.bind_eq_some_iff.mp h
      exact nextNode_mem hw

/-! ## The events -/

/-- The caller's metadata has keys of its own. -/
lemma get_withCallerMetadata (payload : Mapping) {key : String} (hkey : key ∉ correlationKeys)
    (hbudget : key ≠ "token_budget") :
    (withCallerMetadata correlation tokenBudget payload).get key = payload.get key := by
  have hcorrelation : (match correlation with
      | none => payload
      | some correlation => payload.update correlation.asPayload).get key = payload.get key := by
    cases correlation with
    | none => rfl
    | some c => exact c.get_update_asPayload payload hkey
  unfold withCallerMetadata
  cases tokenBudgetPayload tokenBudget with
  | none => exact hcorrelation
  | some budget =>
      have hother : Mapping.get [("token_budget", budget)] key = none := by
        simp [Mapping.get, hbudget.symm]
      show (Mapping.update _ _).get key = _
      rw [Mapping.get_update (by simp), hother, Option.none_or, hcorrelation]

/-- **Every node can be recorded**: its milestone is catalogued. -/
lemma exists_makeProgressEvent (node : PipelineNode) {seq : ℕ} (hseq : 1 ≤ seq)
    (outcome : PipelineOutcome) (status : PipelineExecutionStatus) (uuid : String)
    (timestamp : Timestamp) :
    ∃ event, makeProgressEvent pipeline runId correlation tokenBudget node seq outcome status uuid
        timestamp = .ok event ∧ RecordsNode pipeline runId node seq outcome status uuid event := by
  have hget : ∀ {key : String}, key ∉ correlationKeys → key ≠ "token_budget" →
      (withCallerMetadata correlation tokenBudget
        (nodePayload pipeline runId node outcome status)).get key =
        (nodePayload pipeline runId node outcome status).get key :=
    get_withCallerMetadata _
  have hphase := (@hget "phase" (by decide) (by decide)).trans
    (show _ = some (Value.str node.phase) from rfl)
  have hmilestone := (@hget "milestone" (by decide) (by decide)).trans
    (show _ = some (Value.str node.milestone) from rfl)
  have hpayload : validatePayload .runProgress (withCallerMetadata correlation tokenBudget
      (nodePayload pipeline runId node outcome status)) = true := by
    refine validatePayload_of_get ?_
    intro field hfield
    rcases List.mem_pair.mp hfield with rfl | rfl
    · rw [hphase]
      simp
    · rw [hmilestone]
      simp
  have hcataloged : isValidMilestone node.phase node.milestone = true := node.checked.cataloged
  unfold makeProgressEvent
  rw [hcataloged, RunEvent.new_of_valid _ _ hseq hpayload]
  refine ⟨_, rfl, rfl, rfl, rfl, rfl, hphase, hmilestone, ?_, ?_, ?_⟩
  · exact hget (by decide) (by decide)
  · exact hget (by decide) (by decide)
  · exact hget (by decide) (by decide)

/-! ## The loop -/

section

open Itinerary

variable {id : Text} {steps : ℕ} {visited : List Text} {events : List RunEvent}

/-- What the loop does at a node, by its decision. -/
lemma loop_succ {node : PipelineNode} (hnode : node ∈ pipeline.nodes) :
    loop env pipeline runId outcomes correlation tokenBudget (steps + 1) (some node.id) visited
        events =
      match decision pipeline outcomes node.id with
      | .error e => .error e
      | .ok (outcome, nextId) =>
          makeProgressEvent pipeline runId correlation tokenBudget node (events.length + 1) outcome
              (nodeStatus outcome nextId) (env.uuid4 events.length) (env.now events.length) >>=
            fun event =>
              if nodeStatus outcome nextId = .aborted then
                .ok ⟨.aborted, visited ++ [node.id], events ++ [event]⟩
              else
                loop env pipeline runId outcomes correlation tokenBudget steps nextId
                  (visited ++ [node.id]) (events ++ [event]) := by
  rw [loop, Pipeline.node_of_mem hnode]
  unfold decision outcomeFor
  simp only [Pipeline.route_eq, bind, Except.bind]
  cases outcomes node.id.val with
  | none => rfl
  | some outcome =>
      dsimp only
      cases pipeline.declaredRoute node.id outcome with
      | none => rfl
      | some route => rfl

/-- A lookup that fails ends the loop. -/
lemma loop_of_error {e : PyError} (hid : id ∈ pipeline.nodeIds)
    (h : decision pipeline outcomes id = .error e) :
    loop env pipeline runId outcomes correlation tokenBudget (steps + 1) (some id) visited events =
      .error e := by
  obtain ⟨node, hnode, rfl⟩ := Pipeline.exists_node_of_mem_nodeIds hid
  rw [loop_succ hnode, h]

/-- What the loop does at a node that it can record. -/
lemma exists_loop_eq {outcome : PipelineOutcome} {nextId : Option Text}
    (hid : id ∈ pipeline.nodeIds) (h : decision pipeline outcomes id = .ok (outcome, nextId)) :
    ∃ event, Records env pipeline runId outcomes id events.length event ∧
      loop env pipeline runId outcomes correlation tokenBudget (steps + 1) (some id) visited
          events =
        if nodeStatus outcome nextId = .aborted then
          .ok ⟨.aborted, visited ++ [id], events ++ [event]⟩
        else
          loop env pipeline runId outcomes correlation tokenBudget steps nextId (visited ++ [id])
            (events ++ [event]) := by
  obtain ⟨node, hnode, rfl⟩ := Pipeline.exists_node_of_mem_nodeIds hid
  obtain ⟨event, hmake, hrecords⟩ := @exists_makeProgressEvent pipeline runId correlation
    tokenBudget node (events.length + 1) (Nat.le_add_left 1 _) outcome (nodeStatus outcome nextId)
    (env.uuid4 events.length) (env.now events.length)
  refine ⟨event, ⟨node, hnode, rfl, outcome, nextId, h, hrecords⟩, ?_⟩
  rw [loop_succ hnode, h]
  dsimp only
  rw [hmake]
  rfl

/-- **A step on**: the node is visited and recorded, and the loop goes on where its route leads. -/
lemma exists_loop_next {outcome : PipelineOutcome} {w : Text} (hid : id ∈ pipeline.nodeIds)
    (h : decision pipeline outcomes id = .ok (outcome, some w)) :
    ∃ event, Records env pipeline runId outcomes id events.length event ∧
      loop env pipeline runId outcomes correlation tokenBudget (steps + 1) (some id) visited
          events =
        loop env pipeline runId outcomes correlation tokenBudget steps (some w) (visited ++ [id])
          (events ++ [event]) := by
  obtain ⟨event, hrecords, hloop⟩ := exists_loop_eq hid h
  refine ⟨event, hrecords, hloop.trans (if_neg ?_)⟩
  simp [nodeStatus]

/-- **The last step**: the node's route leads nowhere. -/
lemma exists_loop_last {outcome : PipelineOutcome} (hid : id ∈ pipeline.nodeIds)
    (h : decision pipeline outcomes id = .ok (outcome, none)) :
    ∃ event, Records env pipeline runId outcomes id events.length event ∧
      loop env pipeline runId outcomes correlation tokenBudget (steps + 1) (some id) visited
          events = .ok ⟨nodeStatus outcome none, visited ++ [id], events ++ [event]⟩ := by
  obtain ⟨event, hrecords, hloop⟩ := exists_loop_eq hid h
  refine ⟨event, hrecords, hloop.trans ?_⟩
  cases outcome with
  | success =>
      rw [if_neg (by simp [nodeStatus]), loop]
      rfl
  | failure => rfl

/-- **A walk of more steps than are left is cut off.** -/
lemma loop_of_stop_ne_none (hid : id ∈ pipeline.nodeIds)
    (h : stop (nextNode pipeline outcomes) id steps ≠ none) :
    loop env pipeline runId outcomes correlation tokenBudget steps (some id) visited events =
      .error maxStepsError := by
  induction steps generalizing id visited events with
  | zero => rw [loop]
  | succ steps ih =>
      rw [stop_succ] at h
      cases hdecision : decision pipeline outcomes id with
      | error e =>
          rw [nextNode_of_error hdecision] at h
          exact absurd rfl h
      | ok r =>
          obtain ⟨outcome, nextId⟩ := r
          have hnext := nextNode_of_decision hdecision
          rw [hnext] at h
          cases nextId with
          | none => exact absurd rfl h
          | some w =>
              obtain ⟨event, -, hloop⟩ := exists_loop_next hid hdecision
              rw [hloop]
              exact ih (nextNode_mem hnext) h

/-- A walk is carried out when its first node is recorded and the rest is carried out. -/
lemma CarriesOut.cons {vs : List Text} {event : RunEvent}
    {result : Except PyError PipelineExecutionResult}
    (h : CarriesOut env pipeline runId outcomes vs (visited ++ [id]) (events ++ [event]) result)
    (hrecords : Records env pipeline runId outcomes id events.length event) :
    CarriesOut env pipeline runId outcomes (id :: vs) visited events result := by
  obtain ⟨last, hlast, hend⟩ := h
  refine ⟨last, ?_, ?_⟩
  · rw [List.getLast?_cons, Option.mem_def.mp hlast]
    rfl
  · cases hdecision : decision pipeline outcomes last with
    | error e =>
        rw [hdecision] at hend
        exact hend
    | ok r =>
        rw [hdecision] at hend
        obtain ⟨hnone, recorded, hresult, hrecorded⟩ := hend
        refine ⟨hnone, event :: recorded, ?_, ?_⟩
        · rw [hresult, List.append_assoc, List.append_assoc]
          rfl
        · rw [List.length_append] at hrecorded
          exact List.Forall₂.cons hrecords hrecorded

/-- **Any other walk is carried out.** -/
lemma carriesOut_loop (hid : id ∈ pipeline.nodeIds)
    (h : stop (nextNode pipeline outcomes) id steps = none) :
    CarriesOut env pipeline runId outcomes (upTo (nextNode pipeline outcomes) steps id) visited
      events
      (loop env pipeline runId outcomes correlation tokenBudget steps (some id) visited
        events) := by
  induction steps generalizing id visited events with
  | zero => exact absurd h (by simp [stop])
  | succ steps ih =>
      rw [stop_succ] at h
      cases hdecision : decision pipeline outcomes id with
      | error e =>
          rw [upTo, nextNode_of_error hdecision, loop_of_error hid hdecision]
          refine ⟨id, rfl, ?_⟩
          rw [hdecision]
      | ok r =>
          obtain ⟨outcome, nextId⟩ := r
          have hnext := nextNode_of_decision hdecision
          rw [hnext] at h
          rw [upTo, hnext]
          cases nextId with
          | none =>
              obtain ⟨event, hrecords, hloop⟩ := exists_loop_last hid hdecision
              rw [hloop]
              refine ⟨id, rfl, ?_⟩
              rw [hdecision]
              exact ⟨rfl, [event], rfl, List.Forall₂.cons hrecords List.Forall₂.nil⟩
          | some w =>
              obtain ⟨event, hrecords, hloop⟩ := exists_loop_next hid hdecision
              rw [hloop]
              exact (ih (nextNode_mem hnext) h).cons hrecords

end

end

end PipelineExecutionEngine

end Waywarden
