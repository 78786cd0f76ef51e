import Waywarden.Assets.Entries

/-!
# The fourteen kinds of assets

`AssetMetadata` and its subclasses in `waywarden.assets.schema`, with `from_dict` and `to_dict`.
`from_dict` picks the class by the kind, reads the fields all kinds share and then the kind's own,
and refuses any other name.

Each class is a `RecordSchema`, so a mapping of an asset's fields reads as that asset
(`fromDict_dict`).  `to_dict` does not return that mapping: it hands the asset to
`dataclasses.asdict`, and an asset is no dataclass.

Pydantic collects the errors of all fields and says where each one is; here the first one is given,
with its message alone.
-/

namespace Waywarden

/-! ## The fields of every kind -/

/-- `AssetMetadata`, with all its fields. -/
structure AssetRecord (E : AssetEnv) extends AssetMetadata where
  version : AssetVersion E
  description : Bounded 1 4096
  profileFilter : List Mapping
  tags_clean : CleanNames stripped tags
  providers_clean : CleanNames E.lowered requiredProviders
  filters_valid : ∀ entry ∈ profileFilter, HasFilterOp entry

variable (E : AssetEnv)

/-- A kind that a class admits: the base class any, and a subclass its own. -/
abbrev AdmittedKind (model : Option AssetKind) : Type := {kind : AssetKind // ∀ k ∈ model, kind = k}

/-- The validation of `kind` in a class; a subclass has its own kind as the default. -/
def readKind (model : Option AssetKind) : Option Value → Except PyError (AdmittedKind model)
  | none =>
      match model with
      | none => .error ⟨.valueError, "% Field required", ["kind"]⟩
      | some k => .ok ⟨k, fun _ h => Option.some.inj h⟩
  | some value => do
      let kind ← normalizeKind E value
      if h : ∀ k ∈ model, kind = k then .ok ⟨kind, h⟩
      else .error ⟨.valueError, "kind: Input should be %", model.toList.map AssetKind.name⟩

lemma readKind_name (model : Option AssetKind) (kind : AdmittedKind model) :
    readKind E model (some (.str kind.val.name)) = .ok kind := by
  unfold readKind
  dsimp only
  rw [normalizeKind_name]
  exact dif_pos kind.property

/-- The description as a string of the right length. -/
def readDescription (value : Value) : Except PyError (Bounded 1 4096) :=
  readStr "description" value >>= checkLength "description" 1 4096

/-- The fields of every kind in a class. -/
abbrev BaseRecord (model : Option AssetKind) : Type :=
  {base : AssetRecord E // ∀ k ∈ model, base.kind = k}

/-- `_validate_profile_filter_ops`, on the fields that are read. -/
def checkBaseRecord (model : Option AssetKind) :
    AssetId × AdmittedKind model × AssetVersion E × Bounded 1 4096 ×
      {tags : List Text // CleanNames stripped tags} ×
      {providers : List Text // CleanNames E.lowered providers} × List Mapping →
    Except PyError (BaseRecord E model)
  | (id, kind, version, description, tags, providers, filters) =>
    match h : validateProfileFilterOps E filters with
    | .error e => .error e
    | .ok () =>
        .ok ⟨⟨⟨id, kind.val, tags.val, providers.val⟩, version, description, filters,
          tags.property, providers.property, (validateProfileFilterOps_eq_ok_iff E).mp h⟩,
          kind.property⟩

/-- The fields every kind has, as they are declared. -/
def baseSchema (model : Option AssetKind) : AssetSchema (BaseRecord E model) :=
  ((RecordSchema.field "id" (required "id" (normalizeId E.lower)) (fun id => .str id.val)
    (required_write (normalizeId_val E))).both <|
  (RecordSchema.field "kind" (readKind E model) (fun kind => .str kind.val.name)
    (readKind_name E model)).both <|
  (RecordSchema.field "version" (required "version" (readVersion E))
    (fun version => .str version.text.val) (required_write (readVersion_val E))).both <|
  (RecordSchema.field "description" (required "description" readDescription)
    (fun description => .str description.val)
    (required_write (checkLength_val "description"))).both <|
  (RecordSchema.field "tags"
    (withDefault ⟨[], List.nodup_nil, fun _ h => absurd h List.not_mem_nil⟩ normalizeTags)
    (fun tags => ofTexts tags.val)
    (withDefault_write (readNames_ofTexts stripped "tags"))).both <|
  (RecordSchema.field "required_providers"
    (withDefault ⟨[], List.nodup_nil, fun _ h => absurd h List.not_mem_nil⟩
      (normalizeRequiredProviders E))
    (fun providers => ofTexts providers.val)
    (withDefault_write (readNames_ofTexts E.lowered "required_providers"))).both <|
  RecordSchema.field "profile_filter" normalizeProfileFilter ofDicts
    normalizeProfileFilter_ofDicts).refine (checkBaseRecord E model)
  (fun base => (base.val.id, ⟨base.val.kind, base.property⟩, base.val.version,
    base.val.description, ⟨base.val.tags, base.val.tags_clean⟩,
    ⟨base.val.requiredProviders, base.val.providers_clean⟩, base.val.profileFilter)) (by
    intro base
    unfold checkBaseRecord
    dsimp only
    split
    · rename_i e h
      rw [(validateProfileFilterOps_eq_ok_iff E).mpr base.val.filters_valid] at h
      cases h
    · rfl)

/-- What the fields of every kind are read from. -/
structure BaseRead (model : Option AssetKind) (get : String → Option Value)
    (base : BaseRecord E model) : Prop where
  id : required "id" (normalizeId E.lower) (get "id") = .ok base.val.id
  kind : readKind E model (get "kind") = .ok ⟨base.val.kind, base.property⟩
  version : required "version" (readVersion E) (get "version") = .ok base.val.version
  description : required "description" readDescription (get "description") =
    .ok base.val.description
  filters : normalizeProfileFilter (get "profile_filter") = .ok base.val.profileFilter

variable {E} in
lemma BaseRead.of_read {model : Option AssetKind} {get : String → Option Value}
    {base : BaseRecord E model} (h : (baseSchema E model).read get = .ok base) :
    BaseRead E model get base := by
  obtain ⟨⟨id, kind, version, description, tags, providers, filters⟩, hread, hcheck⟩ :=
    RecordSchema.read_refine_eq_ok.mp h
  simp only [RecordSchema.read_both_eq_ok] at hread
  obtain ⟨hid, hkind, hversion, hdescription, -, -, hfilters⟩ := hread
  unfold checkBaseRecord at hcheck
  dsimp only at hcheck
  split at hcheck
  · cases hcheck
  · obtain rfl := Except.ok.inj hcheck
    exact ⟨hid, hkind, hversion, hdescription, hfilters⟩

/-! ## The fields of one kind -/

/-- `RoutineMetadata`. -/
structure RoutineFields where
  milestones : List Mapping
  emitsEvents : List String
  documentationRefs : {refs : List Text // refs.Nodup}

/-- `WidgetMetadata`. -/
structure WidgetFields where
  uiSurface : String
  componentId : String

/-- `CommandMetadata`. -/
structure CommandFields where
  trigger : String
  aliases : List String

/-- `PromptMetadata`. -/
structure PromptFields where
  templateFormat : {s : String // s ∈ ["jinja2", "mustache", "plain"]}
  systemMessage : String

/-- `ToolMetadata`. -/
structure ToolFields where
  functionName : String
  parametersSchema : Mapping

/-- `AgentMetadata`. -/
structure AgentFields where
  role : String
  maxToolsPerStep : {n : ℤ // 1 ≤ n}

/-- `TeamMetadata` of the asset with this id. -/
structure TeamFields (id : AssetId) where
  metadata : TeamMetadata
  id_eq : metadata.id = id

/-- `PipelineMetadata` of the asset with this id. -/
structure PipelineFields (id : AssetId) where
  stages : List String
  timeoutSeconds : ℤ
  metadata : PipelineMetadata
  id_eq : metadata.id = id
  start_stripped : strip metadata.startNode = metadata.startNode

/-- `WorkflowMetadata` of the asset with this id. -/
structure WorkflowFields (id : AssetId) where
  workflowType : {s : String // s ∈ ["dispatcher"]}
  dispatcher : Text
  metadata : WorkflowMetadata
  id_eq : metadata.id = id.text

/-- `PolicyMetadata`. -/
structure PolicyFields where
  enforceMode : {s : String // s ∈ ["allow", "block", "audit"]}
  preset : String

/-- `ThemeMetadata`. -/
structure ThemeFields where
  palette : List String
  fontFamily : String

/-! ### Their schemas -/

/-- `_normalize_milestones`. -/
def normalizeMilestones : Option Value → Except PyError (List Mapping) :=
  normalizeItems "milestones" fun item _ => .ok item

lemma normalizeMilestones_ofDicts (dicts : List Mapping) :
    normalizeMilestones (some (ofDicts dicts)) = .ok dicts := by
  have hitems : readItems (fun item idx => requireMapping "milestones" idx item >>= .ok)
      (dicts.map .dict) = .ok dicts := readItems_map (fun _ _ => rfl) dicts
  exact hitems

def routineSchema : AssetSchema RoutineFields :=
  ((RecordSchema.field "milestones" normalizeMilestones ofDicts
    normalizeMilestones_ofDicts).both <|
  (strsField "emits_events").both <|
  RecordSchema.field "documentation_refs" normalizeDocumentationRefs (fun refs => ofTexts refs.val)
    normalizeDocumentationRefs_ofTexts).as
    (fun (milestones, emitsEvents, refs) => ⟨milestones, emitsEvents, refs⟩)
    (fun r => (r.milestones, r.emitsEvents, r.documentationRefs)) fun _ => rfl

def widgetSchema : AssetSchema WidgetFields :=
  ((strField "ui_surface").both (strField "component_id")).as
    (fun (uiSurface, componentId) => ⟨uiSurface, componentId⟩)
    (fun w => (w.uiSurface, w.componentId)) fun _ => rfl

def commandSchema : AssetSchema CommandFields :=
  ((strField "trigger").both (strsField "aliases")).as
    (fun (trigger, aliases) => ⟨trigger, aliases⟩) (fun c => (c.trigger, c.aliases)) fun _ => rfl

def promptSchema : AssetSchema PromptFields :=
  ((literalField "template_format" ["jinja2", "mustache", "plain"] ⟨"plain", by decide⟩).both
    (strField "system_message")).as
    (fun (templateFormat, systemMessage) => ⟨templateFormat, systemMessage⟩)
    (fun p => (p.templateFormat, p.systemMessage)) fun _ => rfl

def toolSchema : AssetSchema ToolFields :=
  ((strField "function_name").both (dictField "parameters_schema")).as
    (fun (functionName, parametersSchema) => ⟨functionName, parametersSchema⟩)
    (fun t => (t.functionName, t.parametersSchema)) fun _ => rfl

/-- The validation of `max_tools_per_step`. -/
def readMaxTools (value : Value) : Except PyError {n : ℤ // 1 ≤ n} := do
  let n ← E.readInt value
  if h : 1 ≤ n then .ok ⟨n, h⟩
  else
    .error ⟨.valueError, "% Input should be greater than or equal to 1", ["max_tools_per_step"]⟩

lemma readMaxTools_int (n : {n : ℤ // 1 ≤ n}) : readMaxTools E (.int n.val) = .ok n := by
  unfold readMaxTools
  rw [E.readInt_int]
  exact dif_pos n.property

def agentSchema : AssetSchema AgentFields :=
  ((strField "role").both <|
  RecordSchema.field "max_tools_per_step" (required "max_tools_per_step" (readMaxTools E))
    (fun n => .int n.val) (readMaxTools_int E)).as
    (fun (role, maxToolsPerStep) => ⟨role, maxToolsPerStep⟩)
    (fun a => (a.role, a.maxToolsPerStep)) fun _ => rfl

def policySchema : AssetSchema PolicyFields :=
  ((literalField "enforce_mode" ["allow", "block", "audit"] ⟨"block", by decide⟩).both
    (strField "preset")).as
    (fun (enforceMode, preset) => ⟨enforceMode, preset⟩)
    (fun p => (p.enforceMode, p.preset)) fun _ => rfl

def themeSchema : AssetSchema ThemeFields :=
  ((strsField "palette").both (strField "font_family")).as
    (fun (palette, fontFamily) => ⟨palette, fontFamily⟩)
    (fun t => (t.palette, t.fontFamily)) fun _ => rfl

section Specialists

variable {specialists : {specialists : List Text // specialists ≠ [] ∧ specialists.Nodup}}

lemma specialists_ne_nil : specialists.val ≠ [] := specialists.property.1

lemma specialists_nodup : specialists.val.Nodup := specialists.property.2

lemma teamReferences_of_valid {dispatcher : Text} {handoffRoutes : List HandoffEntry}
    {fallbackAgent : Option Text}
    (h : validateTeamReferences dispatcher specialists.val handoffRoutes fallbackAgent = .ok ()) :
    TeamReferences dispatcher specialists.val handoffRoutes fallbackAgent :=
  validateTeamReferences_eq_ok_iff.mp h

end Specialists

/-- `_validate_team_references`, on the fields that are read. -/
def checkTeamRecord (id : AssetId) :
    Text × Text × Text × {specialists : List Text // specialists ≠ [] ∧ specialists.Nodup} ×
      List HandoffEntry × Option Text → Except PyError (TeamFields id)
  | (inputArtifactKind, outputArtifactKind, dispatcher, specialists, handoffRoutes,
      fallbackAgent) =>
    match h : validateTeamReferences dispatcher specialists.val handoffRoutes fallbackAgent with
    | .error e => .error e
    | .ok () =>
        .ok ⟨⟨id, inputArtifactKind, outputArtifactKind, dispatcher, specialists.val,
          specialists_ne_nil, specialists_nodup, handoffRoutes, fallbackAgent,
          teamReferences_of_valid h⟩, rfl⟩

def teamSchema (id : AssetId) : AssetSchema (TeamFields id) :=
  ((textField "input_artifact_kind").both <|
  (textField "output_artifact_kind").both <|
  (RecordSchema.field "dispatcher" (required "dispatcher" (normalizeText "dispatcher" []))
    (fun t => .str t.val) (required_write (normalizeText_val "dispatcher" []))).both <|
  (RecordSchema.field "specialists" (required "specialists" normalizeSpecialists)
    (fun specialists => ofTexts specialists.val)
    (required_write normalizeSpecialists_ofTexts)).both <|
  (RecordSchema.field "handoff_routes" (normalizeItems "handoff_routes" normalizeHandoffRoute)
    (fun routes => ofDicts (routes.map HandoffEntry.dict))
    (normalizeItems_ofDicts normalizeHandoffRoute_dict "handoff_routes")).both <|
  RecordSchema.field "fallback_agent" normalizeFallbackAgent ofOptionalText
    normalizeFallbackAgent_val).refine (checkTeamRecord id)
  (fun t => (t.metadata.inputArtifactKind, t.metadata.outputArtifactKind, t.metadata.dispatcher,
    ⟨t.metadata.specialists, t.metadata.specialists_ne, t.metadata.specialists_nodup⟩,
    t.metadata.handoffRoutes, t.metadata.fallbackAgent)) (by
    rintro ⟨metadata, rfl⟩
    unfold checkTeamRecord
    dsimp only
    split
    · rename_i e h
      rw [validateTeamReferences_eq_ok_iff.mpr metadata.references] at h
      cases h
    · rfl)

/-- `_validate_pipeline_references`, on the fields that are read. -/
def checkPipelineRecord (id : AssetId) :
    List String × ℤ × {startNode : String // strip startNode = startNode} × List NodeEntry ×
      List RouteEntry → Except PyError (PipelineFields id)
  | (stages, timeoutSeconds, startNode, nodes, routes) =>
    match h : validatePipelineReferences startNode.val nodes routes with
    | .error e => .error e
    | .ok () =>
        .ok ⟨stages, timeoutSeconds,
          ⟨id, startNode.val, nodes, routes, validatePipelineReferences_eq_ok_iff.mp h⟩, rfl,
          startNode.property⟩

/-- The start node, with the proof that it is stripped. -/
def readStartNode (value : Option Value) :
    Except PyError {startNode : String // strip startNode = startNode} :=
  match h : normalizeStartNode value with
  | .error e => .error e
  | .ok startNode => .ok ⟨startNode, strip_of_normalizeStartNode h⟩

lemma readStartNode_val (startNode : {startNode : String // strip startNode = startNode}) :
    readStartNode (some (.str startNode.val)) = .ok startNode := by
  have hread := normalizeStartNode_val startNode.property
  unfold readStartNode
  split
  · rename_i e h
    rw [hread] at h
    cases h
  · rename_i read h
    exact congrArg Except.ok (Subtype.ext (Except.ok.inj (h.symm.trans hread)))

def pipelineSchema (id : AssetId) : AssetSchema (PipelineFields id) :=
  ((strsField "stages").both <|
  (RecordSchema.field "timeout_seconds" (withDefault 0 E.readInt) .int E.readInt_int).both <|
  (RecordSchema.field "start_node" readStartNode (fun startNode => .str startNode.val)
    readStartNode_val).both <|
  (RecordSchema.field "nodes" (normalizeItems "nodes" normalizeNode)
    (fun nodes => ofDicts (nodes.map NodeEntry.dict))
    (normalizeItems_ofDicts normalizeNode_dict "nodes")).both <|
  RecordSchema.field "routes" (normalizeItems "routes" normalizeRoute)
    (fun routes => ofDicts (routes.map RouteEntry.dict))
    (normalizeItems_ofDicts normalizeRoute_dict "routes")).refine (checkPipelineRecord id)
  (fun p => (p.stages, p.timeoutSeconds, ⟨p.metadata.startNode, p.start_stripped⟩,
    p.metadata.nodes, p.metadata.routes)) (by
    rintro ⟨stages, timeoutSeconds, metadata, rfl, hstart⟩
    unfold checkPipelineRecord
    dsimp only
    split
    · rename_i e h
      rw [validatePipelineReferences_eq_ok_iff.mpr metadata.references] at h
      cases h
    · rfl)

def workflowSchema (id : AssetId) : AssetSchema (WorkflowFields id) :=
  ((literalField "workflow_type" ["dispatcher"] ⟨"dispatcher", by decide⟩).both <|
  (textField "dispatcher").both <|
  (textField "team_ref").both <|
  (textField "pipeline_ref").both <|
  (RecordSchema.field "handoff_artifact" (required "handoff_artifact" readHandoffArtifact)
    (fun handoff => .dict (handoffSchema.write handoff)) readHandoffArtifact_write).both <|
  RecordSchema.field "expected_outputs" (normalizeExpectedOutputs E)
    (fun outputs => ofTexts outputs.val) (normalizeExpectedOutputs_ofTexts E)).as
  (fun (workflowType, dispatcher, teamRef, pipelineRef, handoffArtifact, expectedOutputs) =>
    ⟨workflowType, dispatcher, ⟨id.text, teamRef, pipelineRef, handoffArtifact,
      expectedOutputs.val, expectedOutputs.property⟩, rfl⟩)
  (fun w => (w.workflowType, w.dispatcher, w.metadata.teamRef, w.metadata.pipelineRef,
    w.metadata.handoffArtifact, ⟨w.metadata.expectedOutputs, w.metadata.expectedOutputs_nodup⟩))
  (by
    rintro ⟨workflowType, dispatcher, ⟨wid, teamRef, pipelineRef, handoff, outputs, hnodup⟩, hid⟩
    obtain rfl : wid = id.text := hid
    rfl)

/-! ## Classes -/

/-- The fields a class adds: the base class none, and a subclass those of its kind. -/
def ModelFields (id : AssetId) : Option AssetKind → Type
  | none => Unit
  | some .routine => RoutineFields
  | some .widget => WidgetFields
  | some .command => CommandFields
  | some .prompt => PromptFields
  | some .tool => ToolFields
  | some .skill => List String
  | some .agent => AgentFields
  | some .team => TeamFields id
  | some .pipeline => PipelineFields id
  | some .workflow => WorkflowFields id
  | some .policy => PolicyFields
  | some .theme => ThemeFields
  | some .contextProvider => List String
  | some .profileOverlay => List String

/-- The schema of the fields a class adds. -/
def modelSchema (id : AssetId) : (model : Option AssetKind) → AssetSchema (ModelFields id model)
  | none => .empty
  | some .routine => routineSchema
  | some .widget => widgetSchema
  | some .command => commandSchema
  | some .prompt => promptSchema
  | some .tool => toolSchema
  | some .skill => strsField "trigger_patterns"
  | some .agent => agentSchema E
  | some .team => teamSchema id
  | some .pipeline => pipelineSchema E id
  | some .workflow => workflowSchema E id
  | some .policy => policySchema
  | some .theme => themeSchema
  | some .contextProvider => strsField "inject_keys"
  | some .profileOverlay => strsField "target_profiles"

/-- The names of the fields a class adds. -/
def modelNames : Option AssetKind → List String
  | none => []
  | some .routine => ["milestones", "emits_events", "documentation_refs"]
  | some .widget => ["ui_surface", "component_id"]
  | some .command => ["trigger", "aliases"]
  | some .prompt => ["template_format", "system_message"]
  | some .tool => ["function_name", "parameters_schema"]
  | some .skill => ["trigger_patterns"]
  | some .agent => ["role", "max_tools_per_step"]
  | some .team =>
      ["input_artifact_kind", "output_artifact_kind", "dispatcher", "specialists",
        "handoff_routes", "fallback_agent"]
  | some .pipeline => ["stages", "timeout_seconds", "start_node", "nodes", "routes"]
  | some .workflow =>
      ["workflow_type", "dispatcher", "team_ref", "pipeline_ref", "handoff_artifact",
        "expected_outputs"]
  | some .policy => ["enforce_mode", "preset"]
  | some .theme => ["palette", "font_family"]
  | some .contextProvider => ["inject_keys"]
  | some .profileOverlay => ["target_profiles"]

lemma names_modelSchema (id : AssetId) (model : Option AssetKind) :
    (modelSchema E id model).names = modelNames model := by
  cases model with
  | none => rfl
  | some kind => cases kind <;> rfl

/-- The names of the fields of every kind. -/
def baseNames : List String :=
  ["id", "kind", "version", "description", "tags", "required_providers", "profile_filter"]

/-- The schema of a class. -/
def assetSchema (model : Option AssetKind) :
    AssetSchema ((base : BaseRecord E model) × ModelFields base.val.id model) :=
  (baseSchema E model).andThen (modelNames model) (fun base => modelSchema E base.val.id model)
    fun base => names_modelSchema E base.val.id model

lemma names_assetSchema (model : Option AssetKind) :
    (assetSchema E model).names = baseNames ++ modelNames model := rfl

lemma nodup_names_assetSchema (model : Option AssetKind) : (assetSchema E model).names.Nodup := by
  rw [names_assetSchema]
  cases model with
  | none => decide
  | some kind => cases kind <;> decide

/-- An instance of `AssetMetadata` or of a subclass. -/
structure Asset where
  model : Option AssetKind
  base : AssetRecord E
  kind_eq : ∀ k ∈ model, base.kind = k
  fields : ModelFields base.id model

/-! ## `from_dict` -/

/-- `_asset_model_for_kind`. -/
def assetModelForKind : Option Value → Option AssetKind
  | some (.str kind) => AssetKind.ofName? (E.lower (strip kind))
  | _ => none

namespace Asset

/-- An instance of a class, made from keyword arguments. -/
def new (model : Option AssetKind) (data : Mapping) : Except PyError (Asset E) := do
  let ⟨base, fields⟩ ← (assetSchema E model).parse unknownField data
  .ok ⟨model, base.val, base.property, fields⟩

/-- `from_dict`. -/
def fromDict (data : Mapping) : Except PyError (Asset E) :=
  new E (assetModelForKind E (data.get "kind")) data

variable {E}

/-- The version of an asset. -/
def version (asset : Asset E) : String := asset.base.version.text.val

/-- The fields of an asset under their names. -/
def dict (asset : Asset E) : Mapping :=
  (assetSchema E asset.model).write ⟨⟨asset.base, asset.kind_eq⟩, asset.fields⟩

lemma lookup_eq_get (data : Mapping) (name : String) :
    RecordSchema.lookup data name = data.get name := by
  simp only [RecordSchema.lookup, Mapping.get, KeyedTable.get, beq_eq_decide]

variable {data : Mapping} {asset : Asset E}

/-- What was read when a mapping is accepted. -/
lemma read_of_fromDict (h : fromDict E data = .ok asset) :
    asset.model = assetModelForKind E (data.get "kind") ∧
      (baseSchema E asset.model).read data.get = .ok ⟨asset.base, asset.kind_eq⟩ ∧
      (modelSchema E asset.base.id asset.model).read data.get = .ok asset.fields := by
  obtain ⟨⟨base, fields⟩, hparse, hasset⟩ := Effect.except_bind_eq_ok.mp h
  obtain rfl := Except.ok.inj hasset
  have hget : RecordSchema.lookup data = data.get := funext (lookup_eq_get data)
  have hread := RecordSchema.read_of_parse hparse
  rw [hget] at hread
  obtain ⟨hbase, hfields⟩ := RecordSchema.read_andThen_eq_ok.mp hread
  exact ⟨rfl, hbase, hfields⟩

/-- The class that is picked for a kind admits that kind. -/
lemma eq_some_of_readKind {model : Option AssetKind} {value : Option Value}
    {kind : AdmittedKind model} (h : readKind E model value = .ok kind)
    (hmodel : model = assetModelForKind E value) : model = some kind.val := by
  subst hmodel
  cases value with
  | none => cases h
  | some value =>
      obtain ⟨k, hk, hadmitted⟩ := Effect.except_bind_eq_ok.mp h
      split at hadmitted
      · rw [← Except.ok.inj hadmitted]
        cases value with
        | str raw =>
            unfold normalizeKind at hk
            unfold assetModelForKind
            dsimp only at hk ⊢
            split at hk
            · rename_i k' hname
              rw [hname, Except.ok.inj hk]
            · cases hk
        | _ => cases hk
      · cases hadmitted

/-- **The class is that of the kind.** -/
lemma model_eq_of_fromDict (h : fromDict E data = .ok asset) :
    asset.model = some asset.base.kind := by
  obtain ⟨hmodel, hbase, -⟩ := read_of_fromDict h
  exact eq_some_of_readKind (BaseRead.of_read hbase).kind hmodel

/-- An asset's kind under its name. -/
lemma get_kind (asset : Asset E) : asset.dict.get "kind" = some (.str asset.base.kind.name) := by
  rw [← lookup_eq_get]
  change RecordSchema.lookup asset.dict ("kind", Value.str asset.base.kind.name).1 = _
  apply RecordSchema.lookup_of_mem
  · unfold dict
    rw [RecordSchema.names_write]
    exact nodup_names_assetSchema E asset.model
  · exact List.mem_append_left _ (List.mem_cons_of_mem _ List.mem_cons_self)

/-- **Reading back.**  The mapping of an asset's fields reads as that asset. -/
theorem fromDict_dict (h : asset.model = some asset.base.kind) :
    fromDict E asset.dict = .ok asset := by
  have hmodel : assetModelForKind E (asset.dict.get "kind") = asset.model := by
    rw [get_kind, h]
    unfold assetModelForKind
    dsimp only
    rw [lower_strip_name, AssetKind.ofName?_name]
  unfold fromDict
  rw [hmodel]
  unfold new dict
  rw [RecordSchema.parse_write (nodup_names_assetSchema E asset.model)]
  rfl

end Asset

/-! ### Teams and pipelines on their own -/

variable {data : Mapping} {id : AssetId}

lemma exists_of_required {α : Type} {name : String} {read : Value → Except PyError α} {a : α}
    (h : required name read (data.get name) = .ok a) :
    ∃ value, requiredField data name = .ok value ∧ read value = .ok a := by
  unfold required at h
  unfold requiredField
  split at h
  · cases h
  · rename_i value hget
    rw [hget]
    exact ⟨value, rfl, h⟩

/-- A team is built from the fields when its references are valid. -/
lemma exists_of_checkTeamRecord {inputKind outputKind dispatcher : Text}
    {specialists : {specialists : List Text // specialists ≠ [] ∧ specialists.Nodup}}
    {routes : List HandoffEntry} {fallback : Option Text} {team : TeamFields id}
    (h : checkTeamRecord id (inputKind, outputKind, dispatcher, specialists, routes, fallback) =
      .ok team) :
    ∃ hvalid : validateTeamReferences dispatcher specialists.val routes fallback = .ok (),
      team = ⟨⟨id, inputKind, outputKind, dispatcher, specialists.val, specialists_ne_nil,
        specialists_nodup, routes, fallback, teamReferences_of_valid hvalid⟩, rfl⟩ := by
  unfold checkTeamRecord at h
  dsimp only at h
  split at h
  · cases h
  · rename_i hvalid
    exact ⟨hvalid, (Except.ok.inj h).symm⟩

lemma exists_of_checkPipelineRecord {stages : List String} {timeoutSeconds : ℤ}
    {startNode : {startNode : String // strip startNode = startNode}} {nodes : List NodeEntry}
    {routes : List RouteEntry} {pipeline : PipelineFields id}
    (h : checkPipelineRecord id (stages, timeoutSeconds, startNode, nodes, routes) =
      .ok pipeline) :
    ∃ hvalid : validatePipelineReferences startNode.val nodes routes = .ok (),
      pipeline = ⟨stages, timeoutSeconds, ⟨id, startNode.val, nodes, routes,
        validatePipelineReferences_eq_ok_iff.mp hvalid⟩, rfl, startNode.property⟩ := by
  unfold checkPipelineRecord at h
  dsimp only at h
  split at h
  · cases h
  · rename_i hvalid
    exact ⟨hvalid, (Except.ok.inj h).symm⟩

variable {E} in
/-- The team of an asset is what `TeamMetadata.validate` makes of the mapping. -/
lemma TeamMetadata.validate_of_read {team : TeamFields id}
    (hid : required "id" (normalizeId E.lower) (data.get "id") = .ok id)
    (h : (teamSchema id).read data.get = .ok team) :
    TeamMetadata.validate E.lower data = .ok team.metadata := by
  obtain ⟨⟨inputKind, outputKind, dispatcher, specialists, routes, fallback⟩, hread, hcheck⟩ :=
    RecordSchema.read_refine_eq_ok.mp h
  simp only [RecordSchema.read_both_eq_ok] at hread
  obtain ⟨hinput, houtput, hdispatcher, hspecialists, hroutes, hfallback⟩ := hread
  unfold textField at hinput houtput
  dsimp only [RecordSchema.field] at hinput houtput hdispatcher hspecialists hroutes hfallback
  obtain ⟨_, hgetId, hid⟩ := exists_of_required hid
  obtain ⟨_, hgetInput, hinput⟩ := exists_of_required hinput
  obtain ⟨_, hgetOutput, houtput⟩ := exists_of_required houtput
  obtain ⟨_, hgetDispatcher, hdispatcher⟩ := exists_of_required hdispatcher
  obtain ⟨_, hgetSpecialists, hspecialists⟩ := exists_of_required hspecialists
  unfold TeamMetadata.validate
  simp only [hgetId, hid, hgetInput, hinput, hgetOutput, houtput, hgetDispatcher, hdispatcher,
    hgetSpecialists, hspecialists, hroutes, hfallback, bind, Except.bind]
  obtain ⟨hvalid, rfl⟩ := exists_of_checkTeamRecord hcheck
  split
  · rename_i e he
    rw [hvalid] at he
    cases he
  · rfl

variable {E} in
/-- The pipeline of an asset is what `PipelineMetadata.validate` makes of the mapping. -/
lemma PipelineMetadata.validate_of_read {pipeline : PipelineFields id}
    (hid : required "id" (normalizeId E.lower) (data.get "id") = .ok id)
    (h : (pipelineSchema E id).read data.get = .ok pipeline) :
    PipelineMetadata.validate E.lower data = .ok pipeline.metadata := by
  obtain ⟨⟨stages, timeoutSeconds, startNode, nodes, routes⟩, hread, hcheck⟩ :=
    RecordSchema.read_refine_eq_ok.mp h
  simp only [RecordSchema.read_both_eq_ok] at hread
  obtain ⟨-, -, hstart, hnodes, hroutes⟩ := hread
  dsimp only [RecordSchema.field] at hstart hnodes hroutes
  have hstartNode : normalizeStartNode (data.get "start_node") = .ok startNode.val := by
    unfold readStartNode at hstart
    split at hstart
    · cases hstart
    · rename_i hnormalized
      rw [hnormalized, ← Except.ok.inj hstart]
  obtain ⟨_, hgetId, hid⟩ := exists_of_required hid
  unfold PipelineMetadata.validate
  simp only [hgetId, hid, hstartNode, hnodes, hroutes, bind, Except.bind]
  obtain ⟨hvalid, rfl⟩ := exists_of_checkPipelineRecord hcheck
  split
  · rename_i e he
    rw [hvalid] at he
    cases he
  · rfl

namespace Asset

variable {E} {asset : Asset E}

/-- An accepted team is accepted by `TeamMetadata.validate`. -/
theorem exists_team_of_fromDict (h : fromDict E data = .ok asset)
    (hkind : asset.base.kind = .team) :
    ∃ team, TeamMetadata.validate E.lower data = .ok team ∧ team.id = asset.base.id := by
  have hmodel := model_eq_of_fromDict h
  obtain ⟨-, hbase, hfields⟩ := read_of_fromDict h
  have hid := (BaseRead.of_read hbase).id
  obtain ⟨model, base, kind_eq, fields⟩ := asset
  obtain rfl : model = some .team := hmodel.trans (congrArg some hkind)
  exact ⟨fields.metadata, TeamMetadata.validate_of_read hid hfields, fields.id_eq⟩

/-- An accepted pipeline is accepted by `PipelineMetadata.validate`. -/
theorem exists_pipeline_of_fromDict (h : fromDict E data = .ok asset)
    (hkind : asset.base.kind = .pipeline) :
    ∃ pipeline, PipelineMetadata.validate E.lower data = .ok pipeline ∧
      pipeline.id = asset.base.id := by
  have hmodel := model_eq_of_fromDict h
  obtain ⟨-, hbase, hfields⟩ := read_of_fromDict h
  have hid := (BaseRead.of_read hbase).id
  obtain ⟨model, base, kind_eq, fields⟩ := asset
  obtain rfl : model = some .pipeline := hmodel.trans (congrArg some hkind)
  exact ⟨fields.metadata, PipelineMetadata.validate_of_read hid hfields, fields.id_eq⟩

end Asset

/-! ## `to_dict` -/

/-- An instance of a class, as far as `dataclasses.asdict` looks at it. -/
structure ClassInstance where
  isDataclass : Bool
  fields : Mapping

/-- `dataclasses.asdict`. -/
def asdict (obj : ClassInstance) : Except PyError Mapping :=
  if obj.isDataclass then .ok obj.fields
  else .error ⟨.typeError, "asdict() should be called on dataclass instances", []⟩

/-- An asset as an instance: its class is a pydantic model. -/
def Asset.classInstance (asset : Asset E) : ClassInstance := ⟨false, asset.dict⟩

/-- `to_dict`. -/
def Asset.toDict (asset : Asset E) : Except PyError Mapping := asdict asset.classInstance

end Waywarden
