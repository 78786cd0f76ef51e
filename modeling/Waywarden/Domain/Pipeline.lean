import Waywarden.Domain.Basic
import Waywarden.Services.Milestones

/-!
# Pipelines

`waywarden.domain.pipeline`: nodes that run a sub-agent, a team or a review checkpoint, joined by
routes for their two outcomes.  Each record carries the proof that its constructor's checks passed:
a node stands for a catalogued milestone and has a review checkpoint over its own input exactly when
it is a review node, and a pipeline's nodes have different ids, its routes connect them, and no node
has two routes for one outcome.
-/

namespace Waywarden

/-! ## Kinds and outcomes -/

/-- `PipelineNodeKind`. -/
inductive PipelineNodeKind
  | subAgent
  | team
  | reviewCheckpoint
  deriving DecidableEq, Repr

namespace PipelineNodeKind

/-- The kind as the source writes it. -/
def name : PipelineNodeKind → String
  | subAgent => "sub_agent"
  | team => "team"
  | reviewCheckpoint => "review_checkpoint"

/-- The kind with a name. -/
def ofName? (s : String) : Option PipelineNodeKind :=
  [subAgent, team, reviewCheckpoint].find? fun kind => kind.name = s

@[simp] lemma ofName?_name (kind : PipelineNodeKind) : ofName? kind.name = some kind := by
  cases kind <;> decide

@[simp] lemma strip_name (kind : PipelineNodeKind) : strip kind.name = kind.name := by
  cases kind <;> decide +kernel

lemma name_ne_empty (kind : PipelineNodeKind) : kind.name ≠ "" := by
  cases kind <;> decide

/-- The check of a node's kind. -/
def parse (value : String) : Except PyError PipelineNodeKind := do
  let value ← requireNonEmptyText value "kind"
  match ofName? value with
  | some kind => .ok kind
  | none =>
      .error ⟨.valueError, "kind must be one of sub_agent, team, review_checkpoint", []⟩

end PipelineNodeKind

/-- `PipelineOutcome`. -/
inductive PipelineOutcome
  | success
  | failure
  deriving DecidableEq, Repr

namespace PipelineOutcome

/-- The outcome as the source writes it. -/
def name : PipelineOutcome → String
  | success => "success"
  | failure => "failure"

/-- The outcome with a name. -/
def ofName? (s : String) : Option PipelineOutcome :=
  [success, failure].find? fun outcome => outcome.name = s

@[simp] lemma ofName?_name (outcome : PipelineOutcome) : ofName? outcome.name = some outcome := by
  cases outcome <;> decide

@[simp] lemma strip_name (outcome : PipelineOutcome) : strip outcome.name = outcome.name := by
  cases outcome <;> decide +kernel

lemma name_ne_empty (outcome : PipelineOutcome) : outcome.name ≠ "" := by
  cases outcome <;> decide

@[simp] lemma name_inj {a b : PipelineOutcome} : a.name = b.name ↔ a = b := by
  cases a <;> cases b <;> decide

/-- The check of a route's outcome. -/
def parse (value : String) : Except PyError PipelineOutcome := do
  let value ← requireNonEmptyText value "outcome"
  match ofName? value with
  | some outcome => .ok outcome
  | none => .error ⟨.valueError, "outcome must be one of success, failure", []⟩

end PipelineOutcome

/-- A stripped string that is not empty passes as it is. -/
lemma requireNonEmptyText_of_strip {value fieldName : String} (hstrip : strip value = value)
    (hne : value ≠ "") : requireNonEmptyText value fieldName = .ok ⟨value, hstrip, hne⟩ :=
  requireNonEmptyText_val ⟨value, hstrip, hne⟩ fieldName

@[simp] lemma PipelineNodeKind.parse_name (kind : PipelineNodeKind) :
    PipelineNodeKind.parse kind.name = .ok kind := by
  unfold PipelineNodeKind.parse
  rw [requireNonEmptyText_of_strip kind.strip_name kind.name_ne_empty]
  simp [bind, Except.bind]

@[simp] lemma PipelineOutcome.parse_name (outcome : PipelineOutcome) :
    PipelineOutcome.parse outcome.name = .ok outcome := by
  unfold PipelineOutcome.parse
  rw [requireNonEmptyText_of_strip outcome.strip_name outcome.name_ne_empty]
  simp [bind, Except.bind]

/-! ## Nodes -/

/-- `ReviewCheckpoint`. -/
structure ReviewCheckpoint where
  inputArtifactKind : Text
  passedOutputArtifactKind : Text
  failedOutputArtifactKind : Text
  deriving DecidableEq

/-- The constructor `ReviewCheckpoint(…)`. -/
def ReviewCheckpoint.new (inputArtifactKind passedOutputArtifactKind
    failedOutputArtifactKind : String) : Except PyError ReviewCheckpoint := do
  let inputArtifactKind ← requireNonEmptyText inputArtifactKind "input_artifact_kind"
  let passedOutputArtifactKind ←
    requireNonEmptyText passedOutputArtifactKind "passed_output_artifact_kind"
  let failedOutputArtifactKind ←
    requireNonEmptyText failedOutputArtifactKind "failed_output_artifact_kind"
  .ok ⟨inputArtifactKind, passedOutputArtifactKind, failedOutputArtifactKind⟩

/-- The checks of the milestone and the checkpoint in `PipelineNode.__post_init__`.  The input kind
is compared before it is stripped. -/
def checkNode (kind : PipelineNodeKind) (inputArtifactKind : String) (phase milestone : Text)
    (reviewCheckpoint : Option ReviewCheckpoint) : Except PyError Unit :=
  if isValidMilestone phase milestone then
    match kind, reviewCheckpoint with
    | .reviewCheckpoint, none =>
        .error ⟨.valueError, "review_checkpoint nodes require review_checkpoint", []⟩
    | .reviewCheckpoint, some checkpoint =>
        if checkpoint.inputArtifactKind.val = inputArtifactKind then .ok ()
        else
          .error ⟨.valueError, "review checkpoint input must match node input_artifact_kind", []⟩
    | _, some _ =>
        .error ⟨.valueError, "review_checkpoint is only valid for review_checkpoint nodes", []⟩
    | _, none => .ok ()
  else
    .error ⟨.valueError, "milestone not cataloged: phase=% milestone=%", [phase, milestone]⟩

/-- What the constructor asks of a node. -/
structure NodeChecked (kind : PipelineNodeKind) (inputArtifactKind : String)
    (phase milestone : Text) (reviewCheckpoint : Option ReviewCheckpoint) : Prop where
  cataloged : isValidMilestone phase milestone = true
  present : kind = .reviewCheckpoint → reviewCheckpoint ≠ none
  absent : kind ≠ .reviewCheckpoint → reviewCheckpoint = none
  input : ∀ checkpoint ∈ reviewCheckpoint, checkpoint.inputArtifactKind.val = inputArtifactKind

/-- **What the checks of a node ask.** -/
lemma checkNode_eq_ok_iff {kind : PipelineNodeKind} {inputArtifactKind : String}
    {phase milestone : Text} {reviewCheckpoint : Option ReviewCheckpoint} :
    checkNode kind inputArtifactKind phase milestone reviewCheckpoint = .ok () ↔
      NodeChecked kind inputArtifactKind phase milestone reviewCheckpoint := by
  unfold checkNode
  cases hvalid : isValidMilestone phase milestone with
  | false => exact iff_of_false (by simp) fun h => by simp [h.cataloged] at hvalid
  | true =>
      rw [if_pos rfl]
      split
      · exact iff_of_false (by simp) fun h => h.present rfl rfl
      · split
        · rename_i checkpoint hinput
          refine iff_of_true rfl ⟨hvalid, fun _ => by simp, fun h => absurd rfl h, ?_⟩
          rintro _ ⟨⟩
          exact hinput
        · rename_i hinput
          exact iff_of_false (by simp) fun h => hinput (h.input _ rfl)
      · rename_i hkind
        exact iff_of_false (by simp) fun h => by simpa using h.absent hkind
      · rename_i hkind
        exact iff_of_true rfl ⟨hvalid, fun h => absurd h hkind, fun _ => rfl, by simp⟩

/-- A checked input kind is stripped already: it is that of the checkpoint, or none is compared. -/
lemma NodeChecked.of_requireNonEmptyText {kind : PipelineNodeKind} {value fieldName : String}
    {phase milestone inputArtifactKind : Text} {reviewCheckpoint : Option ReviewCheckpoint}
    (h : NodeChecked kind value phase milestone reviewCheckpoint)
    (hinput : requireNonEmptyText value fieldName = .ok inputArtifactKind) :
    NodeChecked kind inputArtifactKind phase milestone reviewCheckpoint := by
  refine ⟨h.cataloged, h.present, h.absent, fun checkpoint hcheckpoint => ?_⟩
  have heq := h.input checkpoint hcheckpoint
  rw [← heq, requireNonEmptyText_val] at hinput
  rw [Except.ok.inj hinput]

/-- `PipelineNode`. -/
structure PipelineNode where
  id : Text
  kind : PipelineNodeKind
  refId : Text
  inputArtifactKind : Text
  outputArtifactKind : Text
  phase : Text
  milestone : Text
  reviewCheckpoint : Option ReviewCheckpoint
  checked : NodeChecked kind inputArtifactKind phase milestone reviewCheckpoint

namespace PipelineNode

/-- The constructor `PipelineNode(…)`. -/
def new (id kind refId inputArtifactKind outputArtifactKind phase milestone : String)
    (reviewCheckpoint : Option ReviewCheckpoint) : Except PyError PipelineNode := do
  let id ← requireNonEmptyText id "id"
  let kind ← PipelineNodeKind.parse kind
  let phase ← requireNonEmptyText phase "phase"
  let milestone ← requireNonEmptyText milestone "milestone"
  match hcheck : checkNode kind inputArtifactKind phase milestone reviewCheckpoint with
  | .error e => .error e
  | .ok () =>
      let refId ← requireNonEmptyText refId "ref_id"
      match hinput : requireNonEmptyText inputArtifactKind "input_artifact_kind" with
      | .error e => .error e
      | .ok inputArtifactKind =>
          let outputArtifactKind ← requireNonEmptyText outputArtifactKind "output_artifact_kind"
          .ok ⟨id, kind, refId, inputArtifactKind, outputArtifactKind, phase, milestone,
            reviewCheckpoint, (checkNode_eq_ok_iff.mp hcheck).of_requireNonEmptyText hinput⟩

variable {id refId inputArtifactKind outputArtifactKind phase milestone : Text}
  {kind : PipelineNodeKind} {reviewCheckpoint : Option ReviewCheckpoint}

/-- A node whose fields are clean is built as it is. -/
lemma new_val (h : NodeChecked kind inputArtifactKind phase milestone reviewCheckpoint) :
    new id kind.name refId inputArtifactKind outputArtifactKind phase milestone reviewCheckpoint =
      .ok ⟨id, kind, refId, inputArtifactKind, outputArtifactKind, phase, milestone,
        reviewCheckpoint, h⟩ := by
  have hcheck := checkNode_eq_ok_iff.mpr h
  unfold new
  simp only [requireNonEmptyText_val, PipelineNodeKind.parse_name, bind, Except.bind]
  split
  · rename_i herror
    exact absurd (herror.symm.trans hcheck) (by simp)
  · split
    · rename_i herror
      simp at herror
    · rename_i hinput
      rw [requireNonEmptyText_val] at hinput
      obtain rfl := Except.ok.inj hinput
      rfl

/-- **Which clean fields make a node.** -/
lemma exists_new_iff :
    (∃ node, new id kind.name refId inputArtifactKind outputArtifactKind phase milestone
        reviewCheckpoint = .ok node) ↔
      NodeChecked kind inputArtifactKind phase milestone reviewCheckpoint := by
  refine ⟨?_, fun h => ⟨_, new_val h⟩⟩
  rintro ⟨node, h⟩
  rw [← checkNode_eq_ok_iff]
  unfold new at h
  simp only [requireNonEmptyText_val, PipelineNodeKind.parse_name, bind, Except.bind] at h
  split at h
  · exact absurd h (by simp)
  · assumption

end PipelineNode

/-! ## Routes -/

/-- `PipelineRoute`. -/
structure PipelineRoute where
  fromNode : Text
  outcome : PipelineOutcome
  toNode : Option Text
  deriving DecidableEq

/-- The constructor `PipelineRoute(…)`. -/
def PipelineRoute.new (fromNode outcome : String) (toNode : Option String) :
    Except PyError PipelineRoute := do
  let outcome ← PipelineOutcome.parse outcome
  let fromNode ← requireNonEmptyText fromNode "from_node"
  let toNode ← requireOptionalText toNode "to_node"
  .ok ⟨fromNode, outcome, toNode⟩

/-- A route as an edge: the node and outcome it is for, and where it leads. -/
abbrev OutcomeEdge : Type := (Text × PipelineOutcome) × Option Text

/-- The edge of a route. -/
def PipelineRoute.edge (r : PipelineRoute) : OutcomeEdge := ((r.fromNode, r.outcome), r.toNode)

/-- What can be wrong with a route. -/
inductive RouteFault
  | unknownFromNode
  | unknownToNode
  | duplicateOutcome

/-- The loop over the routes, here and in the asset schema, which differ in what they raise. -/
def checkOutcomeRoutes (raised : ℕ → RouteFault → PyError) (nodeIds : List Text) :
    ℕ → List (Text × PipelineOutcome) → List OutcomeEdge → Except PyError Unit
  | _, _, [] => .ok ()
  | idx, routeKeys, (key, toNode) :: edges =>
      if key.1 ∉ nodeIds then .error (raised idx .unknownFromNode)
      else if ∃ n ∈ toNode, n ∉ nodeIds then .error (raised idx .unknownToNode)
      else if key ∈ routeKeys then .error (raised idx .duplicateOutcome)
      else checkOutcomeRoutes raised nodeIds (idx + 1) (key :: routeKeys) edges

/-- The routes connect known nodes, one for each outcome at most. -/
structure KnownRoutes (nodeIds : List Text) (edges : List OutcomeEdge) : Prop where
  source : ∀ e ∈ edges, e.1.1 ∈ nodeIds
  target : ∀ e ∈ edges, ∀ n ∈ e.2, n ∈ nodeIds
  distinct : (edges.map Prod.fst).Nodup

lemma knownRoutes_cons_iff {nodeIds : List Text} {key : Text × PipelineOutcome}
    {toNode : Option Text} {edges : List OutcomeEdge} :
    KnownRoutes nodeIds ((key, toNode) :: edges) ↔
      key.1 ∈ nodeIds ∧ (∀ n ∈ toNode, n ∈ nodeIds) ∧ key ∉ edges.map Prod.fst ∧
        KnownRoutes nodeIds edges := by
  constructor
  · rintro ⟨hsource, htarget, hdistinct⟩
    rw [List.forall_mem_cons] at hsource htarget
    rw [List.map_cons, List.nodup_cons] at hdistinct
    exact ⟨hsource.1, htarget.1, hdistinct.1, hsource.2, htarget.2, hdistinct.2⟩
  · rintro ⟨hsource, htarget, hkey, h⟩
    refine ⟨List.forall_mem_cons.mpr ⟨hsource, h.source⟩,
      List.forall_mem_cons.mpr ⟨htarget, h.target⟩, ?_⟩
    rw [List.map_cons, List.nodup_cons]
    exact ⟨hkey, h.distinct⟩

/-- **What the loop over the routes asks.** -/
lemma checkOutcomeRoutes_eq_ok_iff {raised : ℕ → RouteFault → PyError} {nodeIds : List Text}
    {idx : ℕ} {routeKeys : List (Text × PipelineOutcome)} {edges : List OutcomeEdge} :
    checkOutcomeRoutes raised nodeIds idx routeKeys edges = .ok () ↔
      KnownRoutes nodeIds edges ∧ ∀ key ∈ edges.map Prod.fst, key ∉ routeKeys := by
  induction edges generalizing idx routeKeys with
  | nil => exact iff_of_true rfl ⟨⟨by simp, by simp, List.nodup_nil⟩, by simp⟩
  | cons e edges ih =>
      obtain ⟨key, toNode⟩ := e
      unfold checkOutcomeRoutes
      rw [knownRoutes_cons_iff, List.map_cons, List.forall_mem_cons]
      split_ifs with hsource htarget hkey
      · obtain ⟨n, hn, hunknown⟩ := htarget
        exact iff_of_false (by simp) fun h => hunknown (h.1.2.1 n hn)
      · exact iff_of_false (by simp) fun h => h.2.1 hkey
      · rw [ih]
        push Not at htarget
        constructor
        · rintro ⟨hknown, hnew⟩
          refine ⟨⟨hsource, htarget, ?_, hknown⟩, hkey, ?_⟩
          · exact fun hmem => hnew key hmem List.mem_cons_self
          · exact fun k hk hmem => hnew k hk (List.mem_cons_of_mem key hmem)
        · rintro ⟨⟨-, -, hfirst, hknown⟩, -, hnew⟩
          refine ⟨hknown, fun k hk hmem => ?_⟩
          rcases List.mem_cons.mp hmem with rfl | hmem
          · exact hfirst hk
          · exact hnew k hk hmem
      · exact iff_of_false (by simp) fun h => hsource h.1.1

/-! ## Pipelines -/

/-- What a pipeline raises about a route. -/
def pipelineRouteError (_ : ℕ) : RouteFault → PyError
  | .unknownFromNode => ⟨.valueError, "route references unknown from_node", []⟩
  | .unknownToNode => ⟨.valueError, "route references unknown to_node", []⟩
  | .duplicateOutcome => ⟨.valueError, "duplicate route for node outcome", []⟩

/-- `Pipeline.__post_init__`, after the texts. -/
def checkPipeline (startNode : Text) (nodes : List PipelineNode) (routes : List PipelineRoute) :
    Except PyError Unit := do
  if nodes.isEmpty then .error ⟨.valueError, "nodes must not be empty", []⟩
  match KeyedTable.firstDuplicate [] (nodes.map PipelineNode.id) with
  | some id => .error ⟨.valueError, "duplicate pipeline node %", [id.val]⟩
  | none => .ok ()
  if startNode ∉ nodes.map PipelineNode.id then
    .error ⟨.valueError, "start_node references unknown node", []⟩
  checkOutcomeRoutes pipelineRouteError (nodes.map PipelineNode.id) 0 []
    (routes.map PipelineRoute.edge)

/-- What the constructor asks of a pipeline. -/
structure PipelineChecked (startNode : Text) (nodes : List PipelineNode)
    (routes : List PipelineRoute) : Prop where
  distinct : (nodes.map PipelineNode.id).Nodup
  start : startNode ∈ nodes.map PipelineNode.id
  routes : KnownRoutes (nodes.map PipelineNode.id) (routes.map PipelineRoute.edge)

/-- **What the checks of a pipeline ask.** -/
theorem checkPipeline_eq_ok_iff {startNode : Text} {nodes : List PipelineNode}
    {routes : List PipelineRoute} :
    checkPipeline startNode nodes routes = .ok () ↔ PipelineChecked startNode nodes routes := by
  unfold checkPipeline
  cases nodes with
  | nil => exact iff_of_false (by simp [bind, Except.bind]) fun h => List.not_mem_nil h.start
  | cons node nodes =>
      cases hduplicate :
          KeyedTable.firstDuplicate [] ((node :: nodes).map PipelineNode.id) with
      | some id =>
          refine iff_of_false (by simp [bind, Except.bind]) fun h => ?_
          have hnone := KeyedTable.firstDuplicate_eq_none_iff.mpr
            ⟨h.distinct, fun _ _ => List.not_mem_nil⟩
          exact absurd (hduplicate.symm.trans hnone) (by simp)
      | none =>
          have hdistinct := (KeyedTable.firstDuplicate_eq_none_iff.mp hduplicate).1
          by_cases hstart : startNode ∈ (node :: nodes).map PipelineNode.id
          · simp only [List.isEmpty_cons, Bool.false_eq_true, if_false, hstart, not_true_eq_false,
              bind, Except.bind]
            rw [checkOutcomeRoutes_eq_ok_iff]
            exact ⟨fun h => ⟨hdistinct, hstart, h.1⟩,
              fun h => ⟨h.routes, fun _ _ => List.not_mem_nil⟩⟩
          · refine iff_of_false ?_ fun h => hstart h.start
            simp only [List.isEmpty_cons, Bool.false_eq_true, if_false, hstart, not_false_eq_true,
              if_true, bind, Except.bind, reduceCtorEq]

/-- `Pipeline`. -/
structure Pipeline where
  id : Text
  startNode : Text
  nodes : List PipelineNode
  routes : List PipelineRoute
  checked : PipelineChecked startNode nodes routes

/-- The constructor `Pipeline(…)`. -/
def Pipeline.new (id startNode : String) (nodes : List PipelineNode)
    (routes : List PipelineRoute) : Except PyError Pipeline := do
  let id ← requireNonEmptyText id "id"
  let startNode ← requireNonEmptyText startNode "start_node"
  match h : checkPipeline startNode nodes routes with
  | .error e => .error e
  | .ok () => .ok ⟨id, startNode, nodes, routes, checkPipeline_eq_ok_iff.mp h⟩

/-- A pipeline that passes the checks is built as it is. -/
lemma Pipeline.new_val {id startNode : Text} {nodes : List PipelineNode}
    {routes : List PipelineRoute} (h : PipelineChecked startNode nodes routes) :
    Pipeline.new id startNode nodes routes = .ok ⟨id, startNode, nodes, routes, h⟩ := by
  have hcheck := checkPipeline_eq_ok_iff.mpr h
  unfold Pipeline.new
  simp only [requireNonEmptyText_val, bind, Except.bind]
  split
  · rename_i herror
    exact absurd (herror.symm.trans hcheck) (by simp)
  · rfl

/-! ## Lookups -/

namespace Pipeline

variable (pipeline : Pipeline)

/-- The ids of the nodes. -/
def nodeIds : List Text := pipeline.nodes.map PipelineNode.id

/-- `node`: the first node with an id. -/
def node (nodeId : String) : Except PyError PipelineNode := do
  let key ← requireNonEmptyText nodeId "node_id"
  match pipeline.nodes.find? fun n => n.id = key with
  | some node => .ok node
  | none => .error ⟨.keyError, "unknown pipeline node %", [key.val]⟩

/-- `route`: the first route for a node and an outcome. -/
def route (fromNode outcome : String) : Except PyError PipelineRoute := do
  let cleanFromNode ← requireNonEmptyText fromNode "from_node"
  let cleanOutcome ← requireNonEmptyText outcome "outcome"
  match pipeline.routes.find? fun r =>
      r.fromNode = cleanFromNode && r.outcome.name = cleanOutcome.val with
  | some route => .ok route
  | none =>
      .error ⟨.keyError, "no route from % for outcome %", [cleanFromNode.val, cleanOutcome.val]⟩

/-- The declared route for a node and an outcome. -/
def declaredRoute (fromNode : Text) (outcome : PipelineOutcome) : Option PipelineRoute :=
  pipeline.routes.find? fun r => r.fromNode = fromNode && r.outcome = outcome

variable {pipeline}

/-- **The lookup of a node finds it**: ids are clean, and no two nodes share one. -/
lemma node_of_mem {n : PipelineNode} (hn : n ∈ pipeline.nodes) :
    pipeline.node n.id.val = .ok n := by
  have hfind := KeyedTable.get_of_mem pipeline.checked.distinct hn
  unfold KeyedTable.get at hfind
  unfold node
  simp only [requireNonEmptyText_val, bind, Except.bind, hfind]

/-- A known id belongs to a node. -/
lemma exists_node_of_mem_nodeIds {id : Text} (h : id ∈ pipeline.nodeIds) :
    ∃ n ∈ pipeline.nodes, n.id = id := List.mem_map.mp h

/-- **The lookup of a route finds the declared one.** -/
lemma route_eq (fromNode : Text) (outcome : PipelineOutcome) :
    pipeline.route fromNode.val outcome.name =
      match pipeline.declaredRoute fromNode outcome with
      | some route => .ok route
      | none => .error ⟨.keyError, "no route from % for outcome %",
          [fromNode.val, outcome.name]⟩ := by
  unfold route declaredRoute
  rw [requireNonEmptyText_val,
    requireNonEmptyText_of_strip outcome.strip_name outcome.name_ne_empty]
  simp only [bind, Except.bind, PipelineOutcome.name_inj]

/-- **A declared route is found**: no two routes share a node and an outcome. -/
lemma declaredRoute_eq_some_iff {fromNode : Text} {outcome : PipelineOutcome}
    {q : PipelineRoute} : pipeline.declaredRoute fromNode outcome = some q ↔
      q ∈ pipeline.routes ∧ q.fromNode = fromNode ∧ q.outcome = outcome := by
  constructor
  · intro h
    have hmatch := List.find?_some h
    rw [Bool.and_eq_true, decide_eq_true_eq, decide_eq_true_eq] at hmatch
    exact ⟨List.mem_of_find?_eq_some h, hmatch.1, hmatch.2⟩
  · rintro ⟨hq, rfl, rfl⟩
    have hdistinct : (pipeline.routes.map fun r => (r.fromNode, r.outcome)).Nodup := by
      have h := pipeline.checked.routes.distinct
      rwa [List.map_map] at h
    have hfind := KeyedTable.get_of_mem hdistinct hq
    unfold KeyedTable.get at hfind
    unfold declaredRoute
    rw [← hfind]
    congr 1
    funext r
    rw [← Bool.decide_and]
    simp only [Prod.mk.injEq]

end Pipeline

end Waywarden
