import Mathlib.Tactic.IntervalCases
import Waywarden.Services.PipelineExecution

/-!
# What a pipeline execution walks

The start node, the routes and the outcomes fix one walk through a pipeline.  It stays among the
nodes, so it goes on for ever exactly when it comes back to a node.  Twice as many steps as there
are nodes are therefore enough for every walk that ends, and the default limit cuts off the others
only (`default_limit_exact`).

Whatever the limit, an execution that returns is that walk (`execute_isDeclaredWalk`).
-/

namespace Waywarden

namespace PipelineExecutionEngine

open Itinerary

variable {env : Env} {pipeline : Pipeline} {runId : String}
  {outcomes : String → Option PipelineOutcome} {correlation : Option RunCorrelation}
  {tokenBudget : Option TokenBudgetTelemetry} {maxSteps : Option ℤ}

/-! ## The default limit -/

lemma startNode_mem (pipeline : Pipeline) : pipeline.startNode ∈ pipeline.nodeIds :=
  pipeline.checked.start

/-- An execution runs the loop for as many steps as its limit says. -/
lemma execute_eq_loop (h : 1 ≤ stepLimit pipeline maxSteps) :
    execute env pipeline runId outcomes correlation tokenBudget maxSteps =
      loop env pipeline runId outcomes correlation tokenBudget (stepLimit pipeline maxSteps).toNat
        (some pipeline.startNode) [] [] := by
  unfold execute
  rw [if_neg (by omega)]

/-- The default limit is positive and no less than the number of nodes. -/
lemma stepLimit_none (pipeline : Pipeline) : 1 ≤ stepLimit pipeline none ∧
    pipeline.nodeIds.length ≤ (stepLimit pipeline none).toNat := by
  have hlength : pipeline.nodeIds.length = pipeline.nodes.length := List.length_map _
  unfold stepLimit
  rw [Option.getD_none, hlength]
  omega

/-- No lookup raises what the limit raises. -/
lemma decision_ne_maxStepsError (id : Text) :
    decision pipeline outcomes id ≠ .error maxStepsError := by
  unfold decision missingOutcomeError maxStepsError
  split
  · simp
  · split <;> simp

/-- A walk that is carried out is not cut off. -/
lemma CarriesOut.ne_maxStepsError {vs visited : List Text} {events : List RunEvent}
    {result : Except PyError PipelineExecutionResult}
    (h : CarriesOut env pipeline runId outcomes vs visited events result) :
    result ≠ .error maxStepsError := by
  intro hresult
  subst hresult
  obtain ⟨last, -, hend⟩ := h
  split at hend
  · rename_i e hdecision
    obtain rfl := Except.error.inj hend
    exact decision_ne_maxStepsError last hdecision
  · obtain ⟨-, recorded, hok, -⟩ := hend
    exact absurd hok (by simp)

variable (env pipeline runId outcomes correlation tokenBudget)

/-- **The default limit cuts off the endless walks only.**  The walk is endless exactly when it
comes back to a node; any other walk visits every node once at most and is carried out. -/
theorem default_limit_exact :
    let next := nextNode pipeline outcomes
    let result := execute env pipeline runId outcomes correlation tokenBudget none
    (result = .error maxStepsError ↔ Endless next pipeline.startNode) ∧
      (Endless next pipeline.startNode ↔ Revisits next pipeline.startNode) ∧
      (¬ Endless next pipeline.startNode → ∃ vs, Lists next pipeline.startNode vs ∧ vs.Nodup ∧
        CarriesOut env pipeline runId outcomes vs [] [] result) := by
  intro next result
  have hstart := startNode_mem pipeline
  have hwithin : ∀ n u, stop next pipeline.startNode n = some u → u ∈ pipeline.nodeIds :=
    stop_mem hstart
  obtain ⟨hpos, hlong⟩ := stepLimit_none pipeline
  have hendless := endless_iff_stop_ne_none hwithin hlong
  have hresult : result = loop env pipeline runId outcomes correlation tokenBudget
      (stepLimit pipeline none).toNat (some pipeline.startNode) [] [] := execute_eq_loop hpos
  have hcarried : ¬ Endless next pipeline.startNode → ∃ vs,
      Lists next pipeline.startNode vs ∧ vs.Nodup ∧
        CarriesOut env pipeline runId outcomes vs [] [] result := by
    intro h
    have hend : stop next pipeline.startNode (stepLimit pipeline none).toNat = none := by
      rwa [hendless, not_not] at h
    refine ⟨_, lists_upTo hend, (lists_upTo hend).nodup, ?_⟩
    rw [hresult]
    exact carriesOut_loop hstart hend
  refine ⟨⟨?_, ?_⟩, endless_iff_revisits hwithin, hcarried⟩
  · intro h
    by_contra hnot
    obtain ⟨vs, -, -, hvs⟩ := hcarried hnot
    exact hvs.ne_maxStepsError h
  · intro h
    rw [hresult]
    exact loop_of_stop_ne_none hstart (h _)

/-! ## Executions that return -/

/-- The nodes visited are a path along declared routes for the outcomes, from the start node to a
route that leads nowhere. -/
structure IsDeclaredPath (visited : List Text) (status : PipelineExecutionStatus) : Prop where
  start : visited.head? = some pipeline.startNode
  follows : ∀ i a b, visited[i]? = some a → visited[i + 1]? = some b →
    ∃ q ∈ pipeline.routes, q.fromNode = a ∧ outcomes a.val = some q.outcome ∧ q.toNode = some b
  ends : ∃ last ∈ visited.getLast?, ∃ q ∈ pipeline.routes, q.fromNode = last ∧
    outcomes last.val = some q.outcome ∧ q.toNode = none ∧
    status = if q.outcome = .failure then .aborted else .completed

/-- The events are those of the nodes visited, one for each, in order. -/
structure RecordsPath (visited : List Text) (events : List RunEvent) : Prop where
  length : events.length = visited.length
  distinct : (events.map RunEvent.id).Nodup
  records : ∀ i id event, visited[i]? = some id → events[i]? = some event →
    event.seq = i + 1 ∧ ∃ node ∈ pipeline.nodes, node.id = id ∧
      event.payload.get "node_id" = some (.str node.id) ∧
      event.payload.get "phase" = some (.str node.phase) ∧
      event.payload.get "milestone" = some (.str node.milestone) ∧
      isValidMilestone node.phase node.milestone = true
  aborted : ∀ i event, events[i]? = some event →
    event.payload.get "status" = some (.str PipelineExecutionStatus.aborted.name) →
    i + 1 = events.length

variable {env pipeline runId outcomes correlation tokenBudget}

/-- An execution that returns carried a walk out. -/
lemma exists_of_execute_eq_ok {result : PipelineExecutionResult}
    (h : execute env pipeline runId outcomes correlation tokenBudget maxSteps = .ok result) :
    ∃ vs, Lists (nextNode pipeline outcomes) pipeline.startNode vs ∧
      CarriesOut env pipeline runId outcomes vs [] [] (.ok result) := by
  have hstart := startNode_mem pipeline
  by_cases hlimit : 1 ≤ stepLimit pipeline maxSteps
  · rw [execute_eq_loop hlimit] at h
    rw [← h]
    cases hend : stop (nextNode pipeline outcomes) pipeline.startNode
        (stepLimit pipeline maxSteps).toNat with
    | none => exact ⟨_, lists_upTo hend, carriesOut_loop hstart hend⟩
    | some u =>
        have hcut : loop env pipeline runId outcomes correlation tokenBudget _ _ [] [] = _ :=
          loop_of_stop_ne_none hstart (by rw [hend]; simp)
        exact absurd (h.symm.trans hcut) (by simp)
  · unfold execute at h
    rw [if_pos (by omega)] at h
    exact absurd h (by simp)

/-- What is related entry by entry has entries related at each position. -/
lemma getElem?_of_forall₂_zipIdx {α β : Type} {R : α × ℕ → β → Prop} {xs : List α} {ys : List β}
    {n : ℕ} (h : List.Forall₂ R (xs.zipIdx n) ys) :
    ys.length = xs.length ∧
      ∀ i x y, xs[i]? = some x → ys[i]? = some y → R (x, n + i) y := by
  induction xs generalizing n ys with
  | nil =>
      obtain rfl := List.forall₂_nil_left_iff.mp h
      exact ⟨rfl, by simp⟩
  | cons x xs ih =>
      rw [List.zipIdx_cons] at h
      obtain ⟨y, ys, hy, hys, rfl⟩ := List.forall₂_cons_left_iff.mp h
      obtain ⟨hlength, hget⟩ := ih hys
      refine ⟨by rw [List.length_cons, List.length_cons, hlength], ?_⟩
      intro i a b ha hb
      cases i with
      | zero =>
          obtain rfl := Option.some.inj ha
          obtain rfl := Option.some.inj hb
          exact hy
      | succ i =>
          have hrel := hget i a b ha hb
          rwa [Nat.add_right_comm, Nat.add_assoc] at hrel

/-- Events with different random identifiers have different ids. -/
lemma progressEventId_inj {a b : Text} {uuid uuid' : String}
    (hlength : uuid.length = uuid'.length)
    (h : progressEventId pipeline runId a uuid = progressEventId pipeline runId b uuid') :
    uuid = uuid' := by
  unfold progressEventId at h
  have htoList := congrArg String.toList h
  simp only [String.toList_append] at htoList
  rw [← String.length_toList, ← String.length_toList] at hlength
  exact String.toList_inj.mp (List.append_inj' htoList hlength).2

/-- **The nodes visited are the declared path.** -/
lemma isDeclaredPath_of_carriesOut {vs : List Text} {result : PipelineExecutionResult}
    (hlists : Lists (nextNode pipeline outcomes) pipeline.startNode vs)
    (hvs : CarriesOut env pipeline runId outcomes vs [] [] (.ok result)) :
    result.visitedNodeIds = vs ∧ IsDeclaredPath pipeline outcomes vs result.status := by
  obtain ⟨last, hlast, hend⟩ := hvs
  split at hend
  · exact absurd hend (by simp)
  · rename_i outcome nextId hdecision
    obtain ⟨rfl, recorded, hresult, -⟩ := hend
    obtain rfl := Except.ok.inj hresult
    refine ⟨rfl, ?_, ?_, ?_⟩
    · rw [List.head?_eq_getElem?, hlists 0]
      rfl
    · intro i a b ha hb
      rw [hlists] at ha hb
      rw [stop, ha] at hb
      exact nextNode_eq_some_iff.mp hb
    · obtain ⟨houtcome, q, hq, hfrom, rfl, hto⟩ := decision_eq_ok_iff.mp hdecision
      refine ⟨last, hlast, q, hq, hfrom, houtcome, hto, ?_⟩
      simp [nodeStatus]

section

variable {vs : List Text} {result : PipelineExecutionResult}

/-- Each event is at the position of its node. -/
lemma records_of_carriesOut (hvs : CarriesOut env pipeline runId outcomes vs [] [] (.ok result)) :
    result.events.length = vs.length ∧ ∀ i event, result.events[i]? = some event →
      ∃ id, vs[i]? = some id ∧ Records env pipeline runId outcomes id i event := by
  obtain ⟨last, hlast, hend⟩ := hvs
  split at hend
  · exact absurd hend (by simp)
  · obtain ⟨-, recorded, hresult, hrecorded⟩ := hend
    obtain rfl := Except.ok.inj hresult
    obtain ⟨hlength, hrecords⟩ := getElem?_of_forall₂_zipIdx hrecorded
    refine ⟨hlength, ?_⟩
    intro i event hevent
    have hevent : recorded[i]? = some event := hevent
    have hi : i < vs.length := by
      rw [← hlength]
      exact (List.getElem?_eq_some_iff.mp hevent).1
    have hrel := hrecords i vs[i] event (List.getElem?_eq_getElem hi) hevent
    rw [List.length_nil, Nat.zero_add] at hrel
    exact ⟨vs[i], List.getElem?_eq_getElem hi, hrel⟩

/-- Different random identifiers make different event ids. -/
lemma nodup_ids_of_carriesOut
    (hvs : CarriesOut env pipeline runId outcomes vs [] [] (.ok result))
    (hhex : ∀ i, (env.uuid4 i).length = 32)
    (hdistinct : Set.InjOn env.uuid4 (Set.Iio result.events.length)) :
    (result.events.map RunEvent.id).Nodup := by
  obtain ⟨-, hrecords⟩ := records_of_carriesOut hvs
  rw [List.nodup_iff_getElem?_ne_getElem?]
  intro i j hij hj heq
  rw [List.length_map] at hj
  have hi : i < result.events.length := by omega
  rw [List.getElem?_map, List.getElem?_map, List.getElem?_eq_getElem hi,
    List.getElem?_eq_getElem hj] at heq
  obtain ⟨_, -, _, -, rfl, _, _, -, ha⟩ := hrecords i _ (List.getElem?_eq_getElem hi)
  obtain ⟨_, -, _, -, rfl, _, _, -, hb⟩ := hrecords j _ (List.getElem?_eq_getElem hj)
  have hids : result.events[i].id = result.events[j].id := Option.some.inj heq
  rw [ha.id, hb.id] at hids
  have huuid := progressEventId_inj ((hhex i).trans (hhex j).symm) hids
  exact absurd (hdistinct hi hj huuid) (Nat.ne_of_lt hij)

/-- An aborted node has no next one, so no event comes after its own. -/
lemma last_of_aborted (hlists : Lists (nextNode pipeline outcomes) pipeline.startNode vs)
    (hvs : CarriesOut env pipeline runId outcomes vs [] [] (.ok result)) {i : ℕ} {event : RunEvent}
    (hevent : result.events[i]? = some event)
    (haborted : event.payload.get "status" = some (.str PipelineExecutionStatus.aborted.name)) :
    i + 1 = result.events.length := by
  obtain ⟨hlength, hrecords⟩ := records_of_carriesOut hvs
  obtain ⟨id, hid, node, -, rfl, outcome, nextId, hdecision, hrecord⟩ := hrecords i event hevent
  have hstatus : (nodeStatus outcome nextId).name = PipelineExecutionStatus.aborted.name := by
    have h := hrecord.status.symm.trans haborted
    simpa using h
  have hnone : nextId = none := by
    cases nextId with
    | none => rfl
    | some w => exact absurd hstatus (by simp [nodeStatus, PipelineExecutionStatus.name])
  have hnext : vs[i + 1]? = none := by
    rw [hlists] at hid ⊢
    rw [stop, hid, Option.bind_some, nextNode_of_decision hdecision, hnone]
  have hle := List.getElem?_eq_none_iff.mp hnext
  have hlt := (List.getElem?_eq_some_iff.mp hevent).1
  omega

/-- **The events are those of the nodes visited.** -/
lemma recordsPath_of_carriesOut
    (hlists : Lists (nextNode pipeline outcomes) pipeline.startNode vs)
    (hvs : CarriesOut env pipeline runId outcomes vs [] [] (.ok result))
    (hhex : ∀ i, (env.uuid4 i).length = 32)
    (hdistinct : Set.InjOn env.uuid4 (Set.Iio result.events.length)) :
    RecordsPath pipeline vs result.events := by
  obtain ⟨hlength, hrecords⟩ := records_of_carriesOut hvs
  refine ⟨hlength, nodup_ids_of_carriesOut hvs hhex hdistinct, ?_,
    fun i event => last_of_aborted hlists hvs⟩
  intro i id event hid hevent
  obtain ⟨id', hid', node, hmem, rfl, _, _, -, hrecord⟩ := hrecords i event hevent
  obtain rfl := Option.some.inj (hid.symm.trans hid')
  exact ⟨hrecord.seq, node, hmem, rfl, hrecord.nodeId, hrecord.phase, hrecord.milestone,
    node.checked.cataloged⟩

end

/-- **An execution that returns is the declared walk**, whatever its limit. -/
theorem execute_isDeclaredWalk {result : PipelineExecutionResult}
    (h : execute env pipeline runId outcomes correlation tokenBudget maxSteps = .ok result)
    (hhex : ∀ i, (env.uuid4 i).length = 32)
    (hdistinct : Set.InjOn env.uuid4 (Set.Iio result.events.length)) :
    IsDeclaredPath pipeline outcomes result.visitedNodeIds result.status ∧
      RecordsPath pipeline result.visitedNodeIds result.events := by
  obtain ⟨vs, hlists, hvs⟩ := exists_of_execute_eq_ok h
  obtain ⟨rfl, hpath⟩ := isDeclaredPath_of_carriesOut hlists hvs
  exact ⟨hpath, recordsPath_of_carriesOut hlists hvs hhex hdistinct⟩

/-! ## A rejected implementation -/

/-- A node that changes the code. -/
def implementNode : PipelineNode where
  id := .lit "implement"
  kind := .team
  refId := .lit "coding-team"
  inputArtifactKind := .lit "plan"
  outputArtifactKind := .lit "change-set"
  phase := .lit "handoff"
  milestone := .lit "team_started"
  reviewCheckpoint := none
  checked := checkNode_eq_ok_iff.mp (by decide +kernel)

/-- A node that reviews the change. -/
def reviewNode : PipelineNode where
  id := .lit "review-gate"
  kind := .reviewCheckpoint
  refId := .lit "adversarial-review"
  inputArtifactKind := .lit "change-set"
  outputArtifactKind := .lit "review-report"
  phase := .lit "review"
  milestone := .lit "findings_recorded"
  reviewCheckpoint := some
    ⟨.lit "change-set", .lit "approved-handoff", .lit "review-findings"⟩
  checked := checkNode_eq_ok_iff.mp (by decide +kernel)

/-- The review comes after the implementation, and a rejection ends the pipeline. -/
def reviewPipeline : Pipeline where
  id := .lit "coding"
  startNode := .lit "implement"
  nodes := [implementNode, reviewNode]
  routes := [⟨.lit "implement", .success, some (.lit "review-gate")⟩,
    ⟨.lit "review-gate", .failure, none⟩]
  checked := checkPipeline_eq_ok_iff.mp (by decide +kernel)

/-- Two random identifiers. -/
def twoUuids : Env :=
  { stillEnv with uuid4 := fun i => if i = 0 then stillEnv.uuid4 0 else "".pushn '1' 32 }

/-- The outcome of each node. -/
def rejection (id : String) : Option PipelineOutcome :=
  if id = "implement" then some .success else some .failure

theorem reviewPipeline_isDeclaredWalk :
    ∃ result, execute twoUuids reviewPipeline "run-1" rejection none none (some 2) = .ok result ∧
      IsDeclaredPath reviewPipeline rejection result.visitedNodeIds result.status ∧
      RecordsPath reviewPipeline result.visitedNodeIds result.events := by
  have hlength : (execute twoUuids reviewPipeline "run-1" rejection none none (some 2)).map
      (fun result => result.events.length) = .ok 2 := by decide +kernel
  cases h : execute twoUuids reviewPipeline "run-1" rejection none none (some 2) with
  | error e =>
      rw [h] at hlength
      exact absurd hlength (by simp [Except.map])
  | ok result =>
      rw [h] at hlength
      refine ⟨result, rfl, execute_isDeclaredWalk h ?_ ?_⟩
      · intro i
        unfold twoUuids
        dsimp only
        split <;> decide +kernel
      · have htwo : result.events.length = 2 := Except.ok.inj hlength
        have hne : twoUuids.uuid4 0 ≠ twoUuids.uuid4 1 := by decide +kernel
        rw [htwo]
        intro i hi j hj huuid
        rw [Set.mem_Iio] at hi hj
        interval_cases i <;> interval_cases j
        · rfl
        · exact absurd huuid hne
        · exact absurd huuid.symm hne
        · rfl

end PipelineExecutionEngine

end Waywarden
