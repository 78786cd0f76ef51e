import Waywarden.Assets.Fields
import Waywarden.Services.DispatcherWorkflow

/-!
# Nested metadata as values

What the validators of teams, pipelines and workflows make of a mapping, written as a mapping again:
the dictionaries the source keeps in `handoff_routes`, `nodes` and `routes`, and the metadata of a
handoff.  Each is read back as it was.
-/

namespace Waywarden

variable {α : Type}

/-! ## Texts -/

lemma normalizeText_val (field : String) (place : List String) (t : Text) :
    normalizeText field place (.str t.val) = .ok t := by
  have hstrip : strip t.val = t.val := t.property.1
  have hne : strip t.val ≠ "" := by
    rw [hstrip]
    exact t.property.2
  unfold normalizeText
  exact (dif_neg hne).trans (congrArg Except.ok (Subtype.ext hstrip))

lemma normalizeTextAt_of_get {field key : String} {place : List String} {item : Mapping} {t : Text}
    (h : item.get key = some (.str t.val)) : normalizeTextAt field place item key = .ok t := by
  unfold normalizeTextAt
  rw [h]
  exact normalizeText_val field _ t

lemma checkRequired_eq_ok {field : String} {place keys : List String} {item : Mapping}
    (h : ∀ key ∈ keys, (item.get key).isSome = true) :
    checkRequired field place keys item = .ok () := by
  have hmissing : (keys.filter fun key => (item.get key).isNone) = [] := by
    rw [List.filter_eq_nil_iff]
    intro key hkey
    rw [Bool.not_eq_true, Option.isNone_eq_false_iff]
    exact h key hkey
  unfold checkRequired
  simp only [hmissing, if_true]

/-- A text or `None`. -/
def ofOptionalText (o : Option Text) : Value := (o.map fun t => Value.str t.val).getD .null

/-- Mappings that are read back one by one are read back. -/
lemma normalizeItems_ofDicts {normalize : Mapping → ℕ → Except PyError α} {dict : α → Mapping}
    (h : ∀ a idx, normalize (dict a) idx = .ok a) (field : String) (as : List α) :
    normalizeItems field normalize (some (ofDicts (as.map dict))) = .ok as := by
  have hitems : readItems (fun item idx => do normalize (← requireMapping field idx item) idx)
      (as.map fun a => .dict (dict a)) = .ok as := readItems_map h as
  unfold normalizeItems ofDicts
  rw [List.map_map]
  exact hitems

/-! ## Routes of teams -/

/-- A mapping in `handoff_routes`, cleaned. -/
def HandoffEntry.dict (r : HandoffEntry) : Mapping :=
  [("from_agent", .str r.fromAgent), ("output_name", .str r.outputName),
    ("to_agent", .str r.toAgent), ("artifact_kind", .str r.artifactKind)]

lemma normalizeHandoffRoute_dict (r : HandoffEntry) (idx : ℕ) :
    normalizeHandoffRoute r.dict idx = .ok r := by
  have hrequired : checkRequired "handoff_routes[%]" [toString idx]
      ["from_agent", "output_name", "to_agent", "artifact_kind"] r.dict = .ok () := by
    apply checkRequired_eq_ok
    simp [HandoffEntry.dict, Mapping.get]
  unfold normalizeHandoffRoute
  rw [hrequired]
  dsimp only [bind, Except.bind]
  rw [normalizeTextAt_of_get (t := r.fromAgent) (by simp [HandoffEntry.dict, Mapping.get]),
    normalizeTextAt_of_get (t := r.outputName) (by simp [HandoffEntry.dict, Mapping.get]),
    normalizeTextAt_of_get (t := r.toAgent) (by simp [HandoffEntry.dict, Mapping.get]),
    normalizeTextAt_of_get (t := r.artifactKind) (by simp [HandoffEntry.dict, Mapping.get])]

lemma normalizeSpecialists_ofTexts
    (specialists : {specialists : List Text // specialists ≠ [] ∧ specialists.Nodup}) :
    normalizeSpecialists (ofTexts specialists.val) = .ok specialists := by
  have hitems : readItems (fun item idx => normalizeText "specialists[%]" [toString idx] item)
      (specialists.val.map fun t => .str t.val) = .ok specialists.val := by
    apply readItems_map
    intro t idx
    exact normalizeText_val _ _ t
  unfold readItems at hitems
  unfold normalizeSpecialists ofTexts
  dsimp only
  rw [hitems]
  refine (dif_neg specialists.property.1).trans ?_
  exact dif_pos specialists.property.2

lemma normalizeFallbackAgent_val (fallbackAgent : Option Text) :
    normalizeFallbackAgent (some (ofOptionalText fallbackAgent)) = .ok fallbackAgent := by
  cases fallbackAgent with
  | none => rfl
  | some t =>
      unfold normalizeFallbackAgent ofOptionalText
      dsimp only [Option.map_some, Option.getD_some]
      rw [normalizeText_val]
      rfl

/-! ## Nodes and routes of pipelines -/

/-- The mapping in `review_checkpoint`, cleaned. -/
def CheckpointEntry.dict (c : CheckpointEntry) : Mapping :=
  [("input_artifact_kind", .str c.inputArtifactKind),
    ("passed_output_artifact_kind", .str c.passedOutputArtifactKind),
    ("failed_output_artifact_kind", .str c.failedOutputArtifactKind)]

lemma normalizeReviewCheckpoint_dict (c : CheckpointEntry) (idx : ℕ) :
    normalizeReviewCheckpoint c.dict idx = .ok c := by
  have hrequired : checkRequired "nodes[%].review_checkpoint" [toString idx]
      ["input_artifact_kind", "passed_output_artifact_kind", "failed_output_artifact_kind"]
      c.dict = .ok () := by
    apply checkRequired_eq_ok
    simp [CheckpointEntry.dict, Mapping.get]
  unfold normalizeReviewCheckpoint
  rw [hrequired]
  dsimp only [bind, Except.bind]
  rw [normalizeTextAt_of_get (t := c.inputArtifactKind)
      (by simp [CheckpointEntry.dict, Mapping.get]),
    normalizeTextAt_of_get (t := c.passedOutputArtifactKind)
      (by simp [CheckpointEntry.dict, Mapping.get]),
    normalizeTextAt_of_get (t := c.failedOutputArtifactKind)
      (by simp [CheckpointEntry.dict, Mapping.get])]

/-- A mapping in `nodes`, cleaned. -/
def NodeEntry.dict (n : NodeEntry) : Mapping :=
  [("id", .str n.id), ("kind", .str n.kind.name), ("ref_id", .str n.refId),
    ("input_artifact_kind", .str n.inputArtifactKind),
    ("output_artifact_kind", .str n.outputArtifactKind), ("phase", .str n.phase),
    ("milestone", .str n.milestone)] ++
  (n.reviewCheckpoint.toList.map fun c => ("review_checkpoint", .dict c.dict))

/-- The text of a kind. -/
def PipelineNodeKind.text (kind : PipelineNodeKind) : Text :=
  ⟨kind.name, kind.strip_name, kind.name_ne_empty⟩

lemma NodeEntry.get_reviewCheckpoint (n : NodeEntry) :
    n.dict.get "review_checkpoint" = n.reviewCheckpoint.map fun c => .dict c.dict := by
  unfold NodeEntry.dict
  cases n.reviewCheckpoint with
  | none => simp [Mapping.get]
  | some c => simp [Mapping.get]

lemma normalizeNode_dict (n : NodeEntry) (idx : ℕ) : normalizeNode n.dict idx = .ok n := by
  have hrequired : checkRequired "nodes[%]" [toString idx]
      ["id", "kind", "ref_id", "input_artifact_kind", "output_artifact_kind", "phase", "milestone"]
      n.dict = .ok () := by
    apply checkRequired_eq_ok
    simp [NodeEntry.dict, Mapping.get]
  have hname : PipelineNodeKind.ofName? n.kind.text.val = some n.kind :=
    PipelineNodeKind.ofName?_name n.kind
  unfold normalizeNode
  rw [hrequired]
  dsimp only [bind, Except.bind]
  rw [normalizeTextAt_of_get (t := n.id) (by simp [NodeEntry.dict, Mapping.get]),
    normalizeTextAt_of_get (t := n.kind.text)
      (by simp [NodeEntry.dict, Mapping.get, PipelineNodeKind.text]),
    normalizeTextAt_of_get (t := n.refId) (by simp [NodeEntry.dict, Mapping.get]),
    normalizeTextAt_of_get (t := n.inputArtifactKind) (by simp [NodeEntry.dict, Mapping.get]),
    normalizeTextAt_of_get (t := n.outputArtifactKind) (by simp [NodeEntry.dict, Mapping.get]),
    normalizeTextAt_of_get (t := n.phase) (by simp [NodeEntry.dict, Mapping.get]),
    normalizeTextAt_of_get (t := n.milestone) (by simp [NodeEntry.dict, Mapping.get])]
  dsimp only
  rw [hname, n.get_reviewCheckpoint]
  dsimp only
  obtain ⟨id, kind, refId, inputArtifactKind, outputArtifactKind, phase, milestone,
    reviewCheckpoint, hiff⟩ := n
  cases reviewCheckpoint with
  | none =>
      have hkind : kind ≠ .reviewCheckpoint := by
        intro hkind
        exact absurd (hiff.mpr hkind) (by simp)
      exact dif_neg hkind
  | some c =>
      have hkind : kind = .reviewCheckpoint := hiff.mp rfl
      refine (dif_pos hkind).trans ?_
      simp only [Option.map_some, normalizeReviewCheckpoint_dict]

/-- A mapping in `routes`, cleaned. -/
def RouteEntry.dict (r : RouteEntry) : Mapping :=
  [("from_node", .str r.fromNode), ("outcome", .str r.outcome.name),
    ("to_node", ofOptionalText r.toNode)]

/-- The text of an outcome. -/
def PipelineOutcome.text (outcome : PipelineOutcome) : Text :=
  ⟨outcome.name, outcome.strip_name, outcome.name_ne_empty⟩

lemma normalizeToNode_val (idx : ℕ) (toNode : Option Text) :
    normalizeToNode idx (ofOptionalText toNode) = .ok toNode := by
  cases toNode with
  | none => rfl
  | some t =>
      have hstrip : strip t.val = t.val := t.property.1
      have hne : strip t.val ≠ "" := by
        rw [hstrip]
        exact t.property.2
      exact (dif_neg hne).trans (congrArg (fun t => Except.ok (some t)) (Subtype.ext hstrip))

lemma normalizeRoute_dict (r : RouteEntry) (idx : ℕ) : normalizeRoute r.dict idx = .ok r := by
  have hrequired : checkRequired "routes[%]" [toString idx] ["from_node", "outcome", "to_node"]
      r.dict = .ok () := by
    apply checkRequired_eq_ok
    simp [RouteEntry.dict, Mapping.get]
  have hname : PipelineOutcome.ofName? r.outcome.text.val = some r.outcome :=
    PipelineOutcome.ofName?_name r.outcome
  have htoNode : r.dict.get "to_node" = some (ofOptionalText r.toNode) := by
    simp [RouteEntry.dict, Mapping.get]
  unfold normalizeRoute
  rw [hrequired]
  dsimp only [bind, Except.bind]
  rw [normalizeTextAt_of_get (t := r.fromNode) (by simp [RouteEntry.dict, Mapping.get]),
    normalizeTextAt_of_get (t := r.outcome.text)
      (by simp [RouteEntry.dict, Mapping.get, PipelineOutcome.text])]
  dsimp only
  rw [hname, htoNode]
  dsimp only
  rw [normalizeToNode_val]

lemma normalizeStartNode_val {startNode : String} (h : strip startNode = startNode) :
    normalizeStartNode (some (.str startNode)) = .ok startNode := congrArg Except.ok h

/-- A start node is stripped. -/
lemma strip_of_normalizeStartNode {value : Option Value} {startNode : String}
    (h : normalizeStartNode value = .ok startNode) : strip startNode = startNode := by
  unfold normalizeStartNode at h
  split at h
  · rw [← Except.ok.inj h]
    decide +kernel
  · rw [← Except.ok.inj h]
    decide +kernel
  · rw [← Except.ok.inj h]
    exact strip_strip _
  · cases h

/-! ## References of routines and outputs of workflows -/

/-- `_normalize_documentation_refs`. -/
def normalizeDocumentationRefs :
    Option Value → Except PyError {refs : List Text // refs.Nodup}
  | none | some .null => .ok ⟨[], List.nodup_nil⟩
  | some value => do
      let items ← nameItems "documentation_refs" value
      let refs ← readItems
        (fun item idx => normalizeText "documentation_refs[%]" [toString idx] item) items
      .ok (distinct refs)

lemma normalizeDocumentationRefs_ofTexts (refs : {refs : List Text // refs.Nodup}) :
    normalizeDocumentationRefs (some (ofTexts refs.val)) = .ok refs := by
  have hitems : readItems
      (fun item idx => normalizeText "documentation_refs[%]" [toString idx] item)
      (refs.val.map fun t => .str t.val) = .ok refs.val := by
    apply readItems_map
    intro t idx
    exact normalizeText_val _ _ t
  unfold normalizeDocumentationRefs ofTexts nameItems
  dsimp only [bind, Except.bind]
  rw [hitems]
  exact congrArg Except.ok (distinct_val refs)

variable (E : AssetEnv)

/-- One item in `_normalize_expected_outputs`. -/
def addExpectedOutput (outputs : {outputs : List Text // outputs.Nodup}) (item : Value × ℕ) :
    Except PyError {outputs : List Text // outputs.Nodup} := do
  let output ← normalizeText "expected_outputs[%]" [toString item.2] item.1
  if h : output ∈ outputs.val then
    .error ⟨.valueError, "expected_outputs[%] duplicates %",
      [toString item.2, E.repr (.str output)]⟩
  else .ok ⟨outputs.val ++ [output], nodup_append_singleton outputs.property h⟩

/-- `_normalize_expected_outputs`. -/
def normalizeExpectedOutputs :
    Option Value → Except PyError {outputs : List Text // outputs.Nodup}
  | none | some .null => .ok ⟨[], List.nodup_nil⟩
  | some (.list items) | some (.tuple items) =>
      items.zipIdx.foldlM (addExpectedOutput E) ⟨[], List.nodup_nil⟩
  | some _ => .error ⟨.typeError, "expected_outputs must be a sequence of strings", []⟩

lemma addExpectedOutput_of_nodup {outputs : {outputs : List Text // outputs.Nodup}} {t : Text}
    (idx : ℕ) (h : (outputs.val ++ [t]).Nodup) :
    addExpectedOutput E outputs (.str t.val, idx) = .ok ⟨outputs.val ++ [t], h⟩ := by
  have hnot : t ∉ outputs.val := by
    rw [← List.concat_eq_append, List.nodup_concat] at h
    exact h.1
  unfold addExpectedOutput
  rw [normalizeText_val]
  exact dif_neg hnot

lemma normalizeExpectedOutputs_ofTexts (outputs : {outputs : List Text // outputs.Nodup}) :
    normalizeExpectedOutputs E (some (ofTexts outputs.val)) = .ok outputs := by
  have hfold : ∀ (rest : List Text) (first : ℕ) (seen : {outputs : List Text // outputs.Nodup})
      (h : (seen.val ++ rest).Nodup),
      ((rest.map fun t => Value.str t.val).zipIdx first).foldlM (addExpectedOutput E) seen =
        .ok ⟨seen.val ++ rest, h⟩ := by
    intro rest
    induction rest with
    | nil =>
        intro first seen h
        exact congrArg Except.ok (Subtype.ext (List.append_nil seen.val).symm)
    | cons t rest ih =>
        intro first seen h
        have happend : seen.val ++ t :: rest = (seen.val ++ [t]) ++ rest :=
          List.append_cons seen.val t rest
        have hall : ((seen.val ++ [t]) ++ rest).Nodup := happend ▸ h
        rw [List.map_cons, List.zipIdx_cons, List.foldlM_cons,
          addExpectedOutput_of_nodup E first hall.of_append_left]
        exact (ih (first + 1) _ hall).trans (congrArg Except.ok (Subtype.ext happend.symm))
  exact hfold outputs.val 0 ⟨[], List.nodup_nil⟩ outputs.property

/-! ## The handoff of a workflow -/

/-- A name that is not known: `extra="forbid"`. -/
def unknownField (name : String) : PyError :=
  ⟨.valueError, "% Extra inputs are not permitted", [name]⟩

/-- A required text that is called by the name of its field. -/
def textField (name : String) : AssetSchema Text :=
  RecordSchema.field name (required name (normalizeText "%" [name])) (fun t => .str t.val)
    (required_write (normalizeText_val "%" [name]))

/-- `WorkflowHandoffMetadata`. -/
def handoffSchema : AssetSchema WorkflowHandoffMetadata :=
  ((textField "artifact_kind").both ((textField "label").both (textField "output_name"))).as
    (fun (artifactKind, label, outputName) => ⟨artifactKind, label, outputName⟩)
    (fun handoff => (handoff.artifactKind, handoff.label, handoff.outputName)) fun _ => rfl

/-- The nested model. -/
def readHandoffArtifact : Value → Except PyError WorkflowHandoffMetadata
  | .dict items => handoffSchema.parse unknownField items
  | _ =>
      .error ⟨.valueError,
        "% Input should be a valid dictionary or instance of WorkflowHandoffMetadata",
        ["handoff_artifact"]⟩

lemma readHandoffArtifact_write (handoff : WorkflowHandoffMetadata) :
    readHandoffArtifact (.dict (handoffSchema.write handoff)) = .ok handoff :=
  handoffSchema.parse_write (by decide) unknownField handoff

end Waywarden
