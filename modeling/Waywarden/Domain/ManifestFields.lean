import Waywarden.Lib.DataClass
import Waywarden.Domain.Manifest

/-!
# Manifests as dictionaries

The classes of `waywarden.domain.manifest` are dataclasses: their constructors check the names of
their arguments and nothing about the values, and `dataclasses.asdict` lists every field in order.
Each class is presented here as a `DataClass`, with its defaults, and `WorkspaceManifest.asdict`
is the dictionary of a manifest.
-/

namespace Waywarden

/-! ## Enumerated fields -/

@[simp] lemma InputKind.name_inj {a b : InputKind} : a.name = b.name ↔ a = b := by
  cases a <;> cases b <;> decide

@[simp] lemma WritablePurpose.name_inj {a b : WritablePurpose} : a.name = b.name ↔ a = b := by
  cases a <;> cases b <;> decide

@[simp] lemma Retention.name_inj {a b : Retention} : a.name = b.name ↔ a = b := by
  cases a <;> cases b <;> decide

@[simp] lemma OutputKind.name_inj {a b : OutputKind} : a.name = b.name ↔ a = b := by
  cases a <;> cases b <;> decide

@[simp] lemma NetworkMode.name_inj {a b : NetworkMode} : a.name = b.name ↔ a = b := by
  cases a <;> cases b <;> decide

@[simp] lemma NetworkScheme.name_inj {a b : NetworkScheme} : a.name = b.name ↔ a = b := by
  cases a <;> cases b <;> decide

@[simp] lemma ToolDecision.name_inj {a b : ToolDecision} : a.name = b.name ↔ a = b := by
  cases a <;> cases b <;> decide

@[simp] lemma SecretMode.name_inj {a b : SecretMode} : a.name = b.name ↔ a = b := by
  cases a <;> cases b <;> decide

@[simp] lemma RedactionLevel.name_inj {a b : RedactionLevel} : a.name = b.name ↔ a = b := by
  cases a <;> cases b <;> decide

@[simp] lemma PolicyPreset.name_inj {a b : PolicyPreset} : a.name = b.name ↔ a = b := by
  cases a <;> cases b <;> decide

/-- An optional enumerated field. -/
def optName {α : Type} (name : α → String) : Option α → Json := Json.ofOption fun a => .str (name a)

lemma optName_inj {α : Type} {name : α → String} (h : ∀ a b, name a = name b → a = b)
    {o o' : Option α} : optName name o = optName name o' ↔ o = o' :=
  Json.ofOption_inj (fun a b hab => h a b (Json.str.inj hab)) nofun

/-! ## The classes -/

/-- `InputMount`. -/
def inputMount : DataClass InputMount where
  fields := [⟨"name", none⟩, ⟨"kind", none⟩, ⟨"source_ref", none⟩, ⟨"target_path", none⟩,
    ⟨"read_only", some (.bool true)⟩, ⟨"required", some (.bool true)⟩,
    ⟨"description", some .null⟩]
  values x := [.str x.name, .str x.kind.name, .str x.sourceRef, .str x.targetPath,
    .bool x.readOnly, .bool x.required, Json.ofOption .str x.description]
  distinct := by decide
  length_values _ := rfl
  values_injective := by
    rintro ⟨⟩ ⟨⟩ h
    simpa using h

/-- `WritablePath`. -/
def writablePath : DataClass WritablePath where
  fields := [⟨"path", none⟩, ⟨"purpose", none⟩, ⟨"max_size_mb", some .null⟩,
    ⟨"retention", some .null⟩]
  values x := [.str x.path, .str x.purpose.name, Json.ofOption .int x.maxSizeMb,
    optName Retention.name x.retention]
  distinct := by decide
  length_values _ := rfl
  values_injective := by
    rintro ⟨⟩ ⟨⟩ h
    simpa [optName_inj fun _ _ => Retention.name_inj.mp] using h

/-- `OutputContract`. -/
def outputContract : DataClass OutputContract where
  fields := [⟨"name", none⟩, ⟨"path", none⟩, ⟨"kind", none⟩, ⟨"required", none⟩,
    ⟨"promote_to_artifact", some (.bool true)⟩, ⟨"description", some .null⟩]
  values x := [.str x.name, .str x.path, .str x.kind.name, .bool x.required,
    .bool x.promoteToArtifact, Json.ofOption .str x.description]
  distinct := by decide
  length_values _ := rfl
  values_injective := by
    rintro ⟨⟩ ⟨⟩ h
    simpa using h

/-- `NetworkAllowRule`. -/
def networkAllowRule : DataClass NetworkAllowRule where
  fields := [⟨"host_pattern", none⟩, ⟨"purpose", none⟩, ⟨"port", some .null⟩,
    ⟨"scheme", some .null⟩]
  values x := [.str x.hostPattern, .str x.purpose, Json.ofOption .int x.port,
    optName NetworkScheme.name x.scheme]
  distinct := by decide
  length_values _ := rfl
  values_injective := by
    rintro ⟨⟩ ⟨⟩ h
    simpa [optName_inj fun _ _ => NetworkScheme.name_inj.mp] using h

/-- `ToolDecisionRule`. -/
def toolDecisionRule : DataClass ToolDecisionRule where
  fields := [⟨"tool", none⟩, ⟨"action", some .null⟩,
    ⟨"decision", some (.str "approval-required")⟩, ⟨"reason", some .null⟩]
  values x := [.str x.tool, Json.ofOption .str x.action, .str x.decision.name,
    Json.ofOption .str x.reason]
  distinct := by decide
  length_values _ := rfl
  values_injective := by
    rintro ⟨⟩ ⟨⟩ h
    simpa using h

/-- `NetworkPolicy`. -/
def networkPolicy : DataClass NetworkPolicy where
  fields := [⟨"mode", none⟩, ⟨"allow", none⟩, ⟨"deny", none⟩]
  values x := [.str x.mode.name, networkAllowRule.asdicts x.allow, Json.strs x.deny]
  distinct := by decide
  length_values _ := rfl
  values_injective := by
    rintro ⟨⟩ ⟨⟩ h
    simpa [networkAllowRule.asdicts_inj] using h

/-- `ToolPolicy`. -/
def toolPolicy : DataClass ToolPolicy where
  fields := [⟨"preset", none⟩, ⟨"rules", none⟩,
    ⟨"default_decision", some (.str "approval-required")⟩]
  values x := [.str x.preset.name, toolDecisionRule.asdicts x.rules,
    .str x.defaultDecision.name]
  distinct := by decide
  length_values _ := rfl
  values_injective := by
    rintro ⟨⟩ ⟨⟩ h
    simpa [toolDecisionRule.asdicts_inj] using h

/-- `SecretScope`. -/
def secretScope : DataClass SecretScope where
  fields := [⟨"mode", none⟩, ⟨"allowed_secret_refs", none⟩, ⟨"mount_env", none⟩,
    ⟨"redaction_level", some (.str "full")⟩]
  values x := [.str x.mode.name, Json.strs x.allowedSecretRefs, Json.strs x.mountEnv,
    .str x.redactionLevel.name]
  distinct := by decide
  length_values _ := rfl
  values_injective := by
    rintro ⟨⟩ ⟨⟩ h
    simpa using h

/-- `SnapshotPolicy`. -/
def snapshotPolicy : DataClass SnapshotPolicy where
  fields := [⟨"on_start", some (.bool false)⟩, ⟨"on_completion", some (.bool true)⟩,
    ⟨"on_failure", some (.bool true)⟩, ⟨"before_destructive_actions", some (.bool true)⟩,
    ⟨"max_snapshots", some .null⟩, ⟨"include_paths", some (.list [])⟩,
    ⟨"exclude_paths", some (.list [])⟩]
  values x := [.bool x.onStart, .bool x.onCompletion, .bool x.onFailure,
    .bool x.beforeDestructiveActions, Json.ofOption .int x.maxSnapshots,
    Json.strs x.includePaths, Json.strs x.excludePaths]
  distinct := by decide
  length_values _ := rfl
  values_injective := by
    rintro ⟨⟩ ⟨⟩ h
    simpa using h

/-- `WorkspaceManifest`. -/
def workspaceManifest : DataClass WorkspaceManifest where
  fields := [⟨"run_id", none⟩, ⟨"inputs", none⟩, ⟨"writable_paths", none⟩, ⟨"outputs", none⟩,
    ⟨"network_policy", none⟩, ⟨"tool_policy", none⟩, ⟨"secret_scope", none⟩,
    ⟨"snapshot_policy", none⟩]
  values x := [.str x.runId, inputMount.asdicts x.inputs, writablePath.asdicts x.writablePaths,
    outputContract.asdicts x.outputs, networkPolicy.asdict x.networkPolicy,
    toolPolicy.asdict x.toolPolicy, secretScope.asdict x.secretScope,
    snapshotPolicy.asdict x.snapshotPolicy]
  distinct := by decide
  length_values _ := rfl
  values_injective := by
    rintro ⟨⟩ ⟨⟩ h
    simpa [inputMount.asdicts_inj, writablePath.asdicts_inj, outputContract.asdicts_inj,
      networkPolicy.asdict_injective.eq_iff, toolPolicy.asdict_injective.eq_iff,
      secretScope.asdict_injective.eq_iff, snapshotPolicy.asdict_injective.eq_iff] using h

/-- `dataclasses.asdict` of a manifest. -/
def WorkspaceManifest.asdict (m : WorkspaceManifest) : Json := workspaceManifest.asdict m

/-- A manifest is known by its dictionary. -/
theorem WorkspaceManifest.asdict_injective : Function.Injective WorkspaceManifest.asdict :=
  workspaceManifest.asdict_injective

/-! ## Fields without dictionaries -/

@[simp] lemma flat_optName {α : Type} (name : α → String) (o : Option α) :
    Json.Flat (optName name o) := by
  cases o <;> trivial

lemma flat_inputMount (x : InputMount) : ∀ v ∈ inputMount.values x, Json.Flat v := by
  simp [inputMount, Json.Flat]

lemma flat_writablePath (x : WritablePath) : ∀ v ∈ writablePath.values x, Json.Flat v := by
  simp [writablePath, Json.Flat]

lemma flat_outputContract (x : OutputContract) : ∀ v ∈ outputContract.values x, Json.Flat v := by
  simp [outputContract, Json.Flat]

lemma flat_networkAllowRule (x : NetworkAllowRule) :
    ∀ v ∈ networkAllowRule.values x, Json.Flat v := by
  simp [networkAllowRule, Json.Flat]

lemma flat_toolDecisionRule (x : ToolDecisionRule) :
    ∀ v ∈ toolDecisionRule.values x, Json.Flat v := by
  simp [toolDecisionRule, Json.Flat]

lemma flat_secretScope (x : SecretScope) : ∀ v ∈ secretScope.values x, Json.Flat v := by
  simp [secretScope, Json.Flat]

lemma flat_snapshotPolicy (x : SnapshotPolicy) : ∀ v ∈ snapshotPolicy.values x, Json.Flat v := by
  simp [snapshotPolicy, Json.Flat]

end Waywarden
