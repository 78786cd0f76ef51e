import Waywarden.Domain.Pipeline

/-!
# Asset metadata

`waywarden.assets.schema`: the team and pipeline metadata read from `asset.yaml`.  A field comes as
any value; its validator cleans it or raises, and a last validator checks that the fields fit
together.  `TeamMetadata` and `PipelineMetadata` are the values the validators accept, with the
proof of what the last one checks.

Of the base class only the id is kept.  Pydantic reports the `ValueError`s of all fields together;
here the first one is raised.  Where the source goes through a set of keys, which has no order, the
keys come in the order they are written.
-/

namespace Waywarden

/-! ## Ids -/

/-- `[a-z0-9_-]`. -/
def isIdChar (c : Char) : Bool := c.isLower || c.isDigit || c == '_' || c == '-'

/-- The pattern `^[a-z][a-z0-9_-]*$` and the length of an id. -/
def isAssetId (s : String) : Bool :=
  s.toList.head?.any Char.isLower && s.toList.all isIdChar && s.length ≤ 128

/-- The id of an asset. -/
def AssetId : Type := {s : String // isAssetId s = true}

lemma toNat_of_isIdChar {c : Char} (h : isIdChar c = true) : 45 ≤ c.toNat ∧ c.toNat ≤ 122 := by
  unfold isIdChar Char.isLower Char.isDigit at h
  simp only [Bool.or_eq_true, Bool.and_eq_true, decide_eq_true_eq, beq_iff_eq, ge_iff_le,
    UInt32.le_iff_toNat_le] at h
  obtain ((h | h) | rfl) | rfl := h
  · exact ⟨le_trans (by decide) h.1, le_trans h.2 (by decide)⟩
  · exact ⟨le_trans (by decide) h.1, le_trans h.2 (by decide)⟩
  · decide
  · decide

lemma isSpace_eq_false_of_isIdChar {c : Char} (h : isIdChar c = true) : isSpace c = false := by
  have hrange := toNat_of_isIdChar h
  unfold isSpace
  simp only [List.contains_eq_mem, decide_eq_false_iff_not, List.mem_cons, List.not_mem_nil,
    or_false]
  omega

/-- A character of an id is an ASCII one, and no capital. -/
lemma ascii_of_isIdChar {c : Char} (h : isIdChar c = true) : c.toNat < 128 ∧ c.toLower = c := by
  have hrange := toNat_of_isIdChar h
  refine ⟨by omega, ?_⟩
  rcases toLower_eq_or c with hlower | ⟨hleast, hmost, -⟩
  · exact hlower
  · unfold isIdChar Char.isLower Char.isDigit at h
    simp only [Bool.or_eq_true, Bool.and_eq_true, decide_eq_true_eq, beq_iff_eq, ge_iff_le,
      UInt32.le_iff_toNat_le] at h
    obtain ((h | h) | rfl) | rfl := h
    · have hlower : 97 ≤ c.toNat := h.1
      omega
    · have hdigit : c.toNat ≤ 57 := h.2
      omega
    · exact absurd hmost (by decide)
    · exact absurd hleast (by decide)

/-- An id is clean already. -/
def AssetId.text (id : AssetId) : Text := by
  refine ⟨id.val, ?_, ?_⟩
  · have hall : ∀ c ∈ id.val.toList, isSpace c = false := by
      have h := id.property
      unfold isAssetId at h
      rw [Bool.and_eq_true, Bool.and_eq_true, List.all_eq_true] at h
      exact fun c hc => isSpace_eq_false_of_isIdChar (h.1.2 c hc)
    exact strip_of_forall hall
  · intro hempty
    have h := id.property
    rw [hempty] at h
    exact absurd h (by decide)

/-- `_normalize_id` and the constraints on the field, for a given `str.lower`. -/
def normalizeId (lower : String → String) : Value → Except PyError AssetId
  | .str raw =>
      if lower (strip raw) = "" then .error ⟨.valueError, "id must not be blank", []⟩
      else if h : isAssetId (lower (strip raw)) = true then .ok ⟨lower (strip raw), h⟩
      else .error ⟨.valueError, "String should match pattern %", ["^[a-z][a-z0-9_-]*$"]⟩
  | _ => .error ⟨.typeError, "id must be a string", []⟩

/-! ## Fields -/

/-- The value of a required field. -/
def requiredField (data : Mapping) (field : String) : Except PyError Value :=
  match data.get field with
  | some value => .ok value
  | none => .error ⟨.valueError, "% Field required", [field]⟩

lemma strip_clean (raw : String) (h : strip raw ≠ "") : strip (strip raw) = strip raw ∧
    strip raw ≠ "" := ⟨strip_strip raw, h⟩

/-- A stripped text; `field` and `place` say what is called by its name when it is none. -/
def normalizeText (field : String) (place : List String) : Value → Except PyError Text
  | .str raw =>
      if h : strip raw = "" then .error ⟨.valueError, field ++ " must not be blank", place⟩
      else .ok ⟨strip raw, strip_clean raw h⟩
  | _ => .error ⟨.typeError, field ++ " must be a string", place⟩

/-- `normalizeText` under a key of an item; the required keys are there. -/
def normalizeTextAt (field : String) (place : List String) (item : Mapping) (key : String) :
    Except PyError Text :=
  match item.get key with
  | some raw => normalizeText field (place ++ [key]) raw
  | none => .error ⟨.keyError, "%", [key]⟩

/-- The check that an item has its required keys. -/
def checkRequired (field : String) (place required : List String) (item : Mapping) :
    Except PyError Unit :=
  let missing := required.filter fun key => (item.get key).isNone
  if missing = [] then .ok ()
  else
    .error ⟨.valueError, field ++ " missing required fields: %", place ++ [formatSorted missing]⟩

/-- The mapping that an item has to be. -/
def requireMapping (field : String) (idx : ℕ) : Value → Except PyError Mapping
  | .dict item => .ok item
  | _ => .error ⟨.typeError, field ++ "[%] must be a mapping", [toString idx]⟩

/-- The loop over an optional sequence of mappings. -/
def normalizeItems {α : Type} (field : String) (normalize : Mapping → ℕ → Except PyError α) :
    Option Value → Except PyError (List α)
  | none | some .null => .ok []
  | some (.list items) | some (.tuple items) =>
      items.zipIdx.mapM fun (item, idx) => do normalize (← requireMapping field idx item) idx
  | some _ => .error ⟨.typeError, field ++ " must be a sequence of mappings", []⟩

/-! ## Teams -/

/-- A mapping in `handoff_routes`. -/
structure HandoffEntry where
  fromAgent : Text
  outputName : Text
  toAgent : Text
  artifactKind : Text
  deriving DecidableEq

/-- `_normalize_handoff_routes`, one item. -/
def normalizeHandoffRoute (item : Mapping) (idx : ℕ) : Except PyError HandoffEntry := do
  checkRequired "handoff_routes[%]" [toString idx]
    ["from_agent", "output_name", "to_agent", "artifact_kind"] item
  let field := normalizeTextAt "handoff_routes[%].%" [toString idx] item
  let fromAgent ← field "from_agent"
  let outputName ← field "output_name"
  let toAgent ← field "to_agent"
  let artifactKind ← field "artifact_kind"
  .ok ⟨fromAgent, outputName, toAgent, artifactKind⟩

/-- `_normalize_specialists`. -/
def normalizeSpecialists : Value →
    Except PyError {specialists : List Text // specialists ≠ [] ∧ specialists.Nodup}
  | .list items | .tuple items => do
      let result ← items.zipIdx.mapM fun (item, idx) =>
        normalizeText "specialists[%]" [toString idx] item
      if hne : result = [] then .error ⟨.valueError, "specialists must not be empty", []⟩
      else if hnodup : result.Nodup then .ok ⟨result, hne, hnodup⟩
      else .error ⟨.valueError, "specialists must not contain duplicates", []⟩
  | .str _ => .error ⟨.typeError, "specialists must be a sequence of strings, not a string", []⟩
  | _ => .error ⟨.typeError, "specialists must be a sequence of strings", []⟩

/-- `_normalize_fallback_agent`. -/
def normalizeFallbackAgent : Option Value → Except PyError (Option Text)
  | none | some .null => .ok none
  | some (.str raw) => (normalizeText "fallback_agent" [] (.str raw)).map some
  | some _ => .error ⟨.typeError, "fallback_agent must be a string or null", []⟩

/-- The references of one route in `_validate_team_references`. -/
def checkMemberRoute (memberIds : List Text) (idx : ℕ) (route : HandoffEntry) :
    Except PyError Unit :=
  if route.fromAgent ∉ memberIds then
    .error ⟨.valueError, "handoff_routes[%].from_agent references unknown member", [toString idx]⟩
  else if route.toAgent ∉ memberIds then
    .error ⟨.valueError, "handoff_routes[%].to_agent references unknown member", [toString idx]⟩
  else .ok ()

/-- `_validate_team_references`. -/
def validateTeamReferences (dispatcher : Text) (specialists : List Text)
    (handoffRoutes : List HandoffEntry) (fallbackAgent : Option Text) : Except PyError Unit :=
  if dispatcher ∈ specialists then
    .error ⟨.valueError, "dispatcher must not also be a specialist", []⟩
  else do
    forM handoffRoutes.zipIdx fun (route, idx) =>
      checkMemberRoute (dispatcher :: specialists) idx route
    if ∃ f ∈ fallbackAgent, f ∉ specialists then
      .error ⟨.valueError, "fallback_agent must reference a specialist", []⟩
    else .ok ()

/-- What `_validate_team_references` demands. -/
structure TeamReferences (dispatcher : Text) (specialists : List Text)
    (handoffRoutes : List HandoffEntry) (fallbackAgent : Option Text) : Prop where
  dispatcher_not_mem : dispatcher ∉ specialists
  source : ∀ route ∈ handoffRoutes, route.fromAgent ∈ dispatcher :: specialists
  target : ∀ route ∈ handoffRoutes, route.toAgent ∈ dispatcher :: specialists
  fallback : ∀ f ∈ fallbackAgent, f ∈ specialists

lemma checkMemberRoute_eq_ok_iff {memberIds : List Text} {idx : ℕ} {route : HandoffEntry} :
    checkMemberRoute memberIds idx route = .ok () ↔
      route.fromAgent ∈ memberIds ∧ route.toAgent ∈ memberIds := by
  unfold checkMemberRoute
  split_ifs with hsource htarget <;> simp [*]

/-- **The last validator is exact** for teams. -/
lemma validateTeamReferences_eq_ok_iff {dispatcher : Text} {specialists : List Text}
    {handoffRoutes : List HandoffEntry} {fallbackAgent : Option Text} :
    validateTeamReferences dispatcher specialists handoffRoutes fallbackAgent = .ok () ↔
      TeamReferences dispatcher specialists handoffRoutes fallbackAgent := by
  have hroutes : forM handoffRoutes.zipIdx (fun (route, idx) =>
      checkMemberRoute (dispatcher :: specialists) idx route) = .ok () ↔
        ∀ route ∈ handoffRoutes, route.fromAgent ∈ dispatcher :: specialists ∧
          route.toAgent ∈ dispatcher :: specialists := by
    rw [Effect.except_forM_eq_ok]
    simp only [checkMemberRoute_eq_ok_iff]
    rw [← List.zipIdx_map_fst 0 handoffRoutes, List.forall_mem_map, List.zipIdx_map_fst]
  unfold validateTeamReferences
  split
  · rename_i hdispatcher
    exact iff_of_false (by simp) fun h => h.dispatcher_not_mem hdispatcher
  · rename_i hdispatcher
    simp only [Effect.except_bind_eq_ok, hroutes, Unique.exists_iff]
    split
    · rename_i hfallback
      obtain ⟨f, hf, hunknown⟩ := hfallback
      exact iff_of_false (by simp) fun h => hunknown (h.fallback f hf)
    · rename_i hfallback
      push Not at hfallback
      constructor
      · rintro ⟨h, -⟩
        exact ⟨hdispatcher, fun route hr => (h route hr).1, fun route hr => (h route hr).2,
          hfallback⟩
      · intro h
        exact ⟨fun route hr => ⟨h.source route hr, h.target route hr⟩, rfl⟩

/-- `TeamMetadata`. -/
structure TeamMetadata where
  id : AssetId
  inputArtifactKind : Text
  outputArtifactKind : Text
  dispatcher : Text
  specialists : List Text
  specialists_ne : specialists ≠ []
  specialists_nodup : specialists.Nodup
  handoffRoutes : List HandoffEntry
  fallbackAgent : Option Text
  references : TeamReferences dispatcher specialists handoffRoutes fallbackAgent

/-- `TeamMetadata.model_validate`. -/
def TeamMetadata.validate (lower : String → String) (data : Mapping) :
    Except PyError TeamMetadata := do
  let id ← normalizeId lower (← requiredField data "id")
  let inputArtifactKind ← normalizeText "%" ["input_artifact_kind"]
    (← requiredField data "input_artifact_kind")
  let outputArtifactKind ← normalizeText "%" ["output_artifact_kind"]
    (← requiredField data "output_artifact_kind")
  let dispatcher ← normalizeText "dispatcher" [] (← requiredField data "dispatcher")
  let specialists ← normalizeSpecialists (← requiredField data "specialists")
  let handoffRoutes ← normalizeItems "handoff_routes" normalizeHandoffRoute
    (data.get "handoff_routes")
  let fallbackAgent ← normalizeFallbackAgent (data.get "fallback_agent")
  match h : validateTeamReferences dispatcher specialists.val handoffRoutes fallbackAgent with
  | .error e => .error e
  | .ok () =>
      .ok ⟨id, inputArtifactKind, outputArtifactKind, dispatcher, specialists.val,
        specialists.property.1, specialists.property.2, handoffRoutes, fallbackAgent,
        validateTeamReferences_eq_ok_iff.mp h⟩

/-! ## Pipelines -/

/-- The mapping in `review_checkpoint`. -/
structure CheckpointEntry where
  inputArtifactKind : Text
  passedOutputArtifactKind : Text
  failedOutputArtifactKind : Text
  deriving DecidableEq

/-- `_normalize_review_checkpoint`. -/
def normalizeReviewCheckpoint (value : Mapping) (index : ℕ) :
    Except PyError CheckpointEntry := do
  checkRequired "nodes[%].review_checkpoint" [toString index]
    ["input_artifact_kind", "passed_output_artifact_kind", "failed_output_artifact_kind"] value
  let field := normalizeTextAt "nodes[%].review_checkpoint.%" [toString index] value
  let inputArtifactKind ← field "input_artifact_kind"
  let passedOutputArtifactKind ← field "passed_output_artifact_kind"
  let failedOutputArtifactKind ← field "failed_output_artifact_kind"
  .ok ⟨inputArtifactKind, passedOutputArtifactKind, failedOutputArtifactKind⟩

/-- A mapping in `nodes`.  Exactly the review nodes have a checkpoint. -/
structure NodeEntry where
  id : Text
  kind : PipelineNodeKind
  refId : Text
  inputArtifactKind : Text
  outputArtifactKind : Text
  phase : Text
  milestone : Text
  reviewCheckpoint : Option CheckpointEntry
  isSome_iff : reviewCheckpoint.isSome ↔ kind = .reviewCheckpoint

/-- `_normalize_nodes`, one item. -/
def normalizeNode (item : Mapping) (idx : ℕ) : Except PyError NodeEntry := do
  checkRequired "nodes[%]" [toString idx]
    ["id", "kind", "ref_id", "input_artifact_kind", "output_artifact_kind", "phase", "milestone"]
    item
  let field := normalizeTextAt "nodes[%].%" [toString idx] item
  let id ← field "id"
  let kind ← field "kind"
  let refId ← field "ref_id"
  let inputArtifactKind ← field "input_artifact_kind"
  let outputArtifactKind ← field "output_artifact_kind"
  let phase ← field "phase"
  let milestone ← field "milestone"
  match PipelineNodeKind.ofName? kind with
  | none =>
      .error ⟨.valueError, "nodes[%].kind must be one of sub_agent, team, review_checkpoint",
        [toString idx]⟩
  | some kind =>
      if hkind : kind = .reviewCheckpoint then
        match item.get "review_checkpoint" with
        | some (.dict checkpoint) =>
            let checkpoint ← normalizeReviewCheckpoint checkpoint idx
            .ok ⟨id, kind, refId, inputArtifactKind, outputArtifactKind, phase, milestone,
              some checkpoint, iff_of_true rfl hkind⟩
        | _ =>
            .error ⟨.typeError,
              "nodes[%].review_checkpoint must be a mapping for review nodes", [toString idx]⟩
      else
        match item.get "review_checkpoint" with
        | none | some .null =>
            .ok ⟨id, kind, refId, inputArtifactKind, outputArtifactKind, phase, milestone, none,
              iff_of_false (by simp) hkind⟩
        | some _ =>
            .error ⟨.valueError,
              "nodes[%].review_checkpoint is only valid for review_checkpoint nodes",
              [toString idx]⟩

/-- A mapping in `routes`. -/
structure RouteEntry where
  fromNode : Text
  outcome : PipelineOutcome
  toNode : Option Text
  deriving DecidableEq

/-- The edge of a route. -/
def RouteEntry.edge (r : RouteEntry) : OutcomeEdge := ((r.fromNode, r.outcome), r.toNode)

/-- The end of a route; a blank one is a `TypeError` here. -/
def normalizeToNode (idx : ℕ) : Value → Except PyError (Option Text)
  | .null => .ok none
  | .str raw =>
      if h : strip raw = "" then
        .error ⟨.typeError, "routes[%].to_node must be a string or null", [toString idx]⟩
      else .ok (some ⟨strip raw, strip_clean raw h⟩)
  | _ => .error ⟨.typeError, "routes[%].to_node must be a string or null", [toString idx]⟩

/-- `_normalize_routes`, one item. -/
def normalizeRoute (item : Mapping) (idx : ℕ) : Except PyError RouteEntry := do
  checkRequired "routes[%]" [toString idx] ["from_node", "outcome", "to_node"] item
  let field := normalizeTextAt "routes[%].%" [toString idx] item
  let fromNode ← field "from_node"
  let outcome ← field "outcome"
  match PipelineOutcome.ofName? outcome, item.get "to_node" with
  | none, _ =>
      .error ⟨.valueError, "routes[%].outcome must be one of success, failure", [toString idx]⟩
  | some _, none => .error ⟨.keyError, "%", ["to_node"]⟩
  | some outcome, some toNode =>
      let toNode ← normalizeToNode idx toNode
      .ok ⟨fromNode, outcome, toNode⟩

/-- `_normalize_start_node`. -/
def normalizeStartNode : Option Value → Except PyError String
  | none | some .null => .ok ""
  | some (.str raw) => .ok (strip raw)
  | some _ => .error ⟨.typeError, "start_node must be a string", []⟩

/-- What `_validate_pipeline_references` raises about a route. -/
def pipelineReferenceError (idx : ℕ) : RouteFault → PyError
  | .unknownFromNode =>
      ⟨.valueError, "routes[%].from_node references unknown node", [toString idx]⟩
  | .unknownToNode => ⟨.valueError, "routes[%].to_node references unknown node", [toString idx]⟩
  | .duplicateOutcome => ⟨.valueError, "routes must not contain duplicate node outcomes", []⟩

/-- `_validate_pipeline_references`. -/
def validatePipelineReferences (startNode : String) (nodes : List NodeEntry)
    (routes : List RouteEntry) : Except PyError Unit :=
  if nodes = [] then .ok ()
  else if startNode = "" then
    .error ⟨.valueError, "start_node is required when nodes are declared", []⟩
  else if ¬ (nodes.map NodeEntry.id).Nodup then
    .error ⟨.valueError, "nodes must not contain duplicate ids", []⟩
  else if startNode ∉ (nodes.map NodeEntry.id).map Subtype.val then
    .error ⟨.valueError, "start_node references unknown node", []⟩
  else
    checkOutcomeRoutes pipelineReferenceError (nodes.map NodeEntry.id) 0 []
      (routes.map RouteEntry.edge)

/-- What `_validate_pipeline_references` demands of a pipeline with nodes. -/
structure PipelineReferences (startNode : String) (nodes : List NodeEntry)
    (routes : List RouteEntry) : Prop where
  distinct : (nodes.map NodeEntry.id).Nodup
  start : ∃ id ∈ nodes.map NodeEntry.id, id.val = startNode
  routes : KnownRoutes (nodes.map NodeEntry.id) (routes.map RouteEntry.edge)

/-- **The last validator is exact** for pipelines. -/
lemma validatePipelineReferences_eq_ok_iff {startNode : String} {nodes : List NodeEntry}
    {routes : List RouteEntry} :
    validatePipelineReferences startNode nodes routes = .ok () ↔
      (nodes ≠ [] → PipelineReferences startNode nodes routes) := by
  unfold validatePipelineReferences
  split_ifs with hnodes hempty hdistinct hstart
  · exact iff_of_true rfl fun hne => absurd hnodes hne
  · refine iff_of_false (by simp) fun h => ?_
    obtain ⟨id, -, hid⟩ := (h hnodes).start
    exact id.property.2 (hid.trans hempty)
  · rw [checkOutcomeRoutes_eq_ok_iff]
    obtain ⟨id, hmem, hid⟩ := List.mem_map.mp hstart
    constructor
    · exact fun h _ => ⟨hdistinct, ⟨id, hmem, hid⟩, h.1⟩
    · exact fun h => ⟨(h hnodes).routes, fun _ _ => List.not_mem_nil⟩
  · refine iff_of_false (by simp) fun h => ?_
    obtain ⟨id, hmem, hid⟩ := (h hnodes).start
    exact hstart (List.mem_map.mpr ⟨id, hmem, hid⟩)
  · exact iff_of_false (by simp) fun h => hdistinct (h hnodes).distinct

/-- `PipelineMetadata`. -/
structure PipelineMetadata where
  id : AssetId
  startNode : String
  nodes : List NodeEntry
  routes : List RouteEntry
  references : nodes ≠ [] → PipelineReferences startNode nodes routes

/-- `PipelineMetadata.model_validate`. -/
def PipelineMetadata.validate (lower : String → String) (data : Mapping) :
    Except PyError PipelineMetadata := do
  let id ← normalizeId lower (← requiredField data "id")
  let startNode ← normalizeStartNode (data.get "start_node")
  let nodes ← normalizeItems "nodes" normalizeNode (data.get "nodes")
  let routes ← normalizeItems "routes" normalizeRoute (data.get "routes")
  match h : validatePipelineReferences startNode nodes routes with
  | .error e => .error e
  | .ok () => .ok ⟨id, startNode, nodes, routes, validatePipelineReferences_eq_ok_iff.mp h⟩

end Waywarden
