import Waywarden.Lib.Effect
import Waywarden.Domain.Manifest

/-!
# Delegation widening validation

`waywarden.domain.delegation.narrowing`: `narrow_manifest` compares a child manifest with its
parent field by field and raises for the first field that widens.  `Checked` is what it looks at,
and `narrowManifest_eq_ok_iff` says that it looks at nothing else.
-/

namespace Waywarden

/-- `DelegationWideningError` on a field. -/
def delegationWideningError (field : String) : PyError :=
  ⟨.delegationWideningError,
    "child manifest widens authority on % — narrowing validation required", [field]⟩

namespace Delegation

/-- Raise for a field when the child has a name the parent does not have. -/
def refuseNew (field : String) (parent child : List String) : Except PyError Unit :=
  let extra := child.filter fun name => name ∉ parent
  if extra ≠ [] then .error (delegationWideningError field) else .ok ()

/-- `_narrow_writable_paths`. -/
def narrowWritablePaths (parent child : WorkspaceManifest) : Except PyError Unit :=
  refuseNew "writable_paths" (parent.writablePaths.map WritablePath.path)
    (child.writablePaths.map WritablePath.path)

/-- `_narrow_network_policy`: hosts are compared only under a parent in `allowlist` mode. -/
def narrowNetworkPolicy (parent child : WorkspaceManifest) : Except PyError Unit :=
  if parent.networkPolicy.mode = .allowlist then
    refuseNew "network_policy" (parent.networkPolicy.allow.map NetworkAllowRule.hostPattern)
      (child.networkPolicy.allow.map NetworkAllowRule.hostPattern)
  else
    .ok ()

/-- `_preset_order`. -/
def presetOrder : PolicyPreset → ℕ
  | .yolo => 3
  | .ask => 2
  | .allowlist => 1
  | .custom => 0

/-- `_narrow_tool_policy`. -/
def narrowToolPolicy (parent child : WorkspaceManifest) : Except PyError Unit :=
  let parentLevel := presetOrder parent.toolPolicy.preset
  let childLevel := presetOrder child.toolPolicy.preset
  if childLevel > parentLevel then .error (delegationWideningError "tool_policy") else .ok ()

/-- `_narrow_secret_scope`. -/
def narrowSecretScope (parent child : WorkspaceManifest) : Except PyError Unit :=
  refuseNew "secret_scope" parent.secretScope.allowedSecretRefs
    child.secretScope.allowedSecretRefs

/-- `narrow_manifest`. -/
def narrowManifest (parent child : WorkspaceManifest) : Except PyError Unit := do
  narrowWritablePaths parent child
  narrowNetworkPolicy parent child
  narrowToolPolicy parent child
  narrowSecretScope parent child

/-! ## What is checked -/

variable {parent child : WorkspaceManifest}

lemma refuseNew_eq_ok_iff {field : String} {wide narrow : List String} :
    refuseNew field wide narrow = .ok () ↔ narrow ⊆ wide := by
  simp [refuseNew, List.filter_eq_nil_iff, List.subset_def]

/-- The host patterns of a manifest's allow rules. -/
def hosts (m : WorkspaceManifest) : List String :=
  m.networkPolicy.allow.map NetworkAllowRule.hostPattern

/-- What `narrow_manifest` looks at. -/
structure Checked (parent child : WorkspaceManifest) : Prop where
  paths : child.writablePaths.map WritablePath.path ⊆ parent.writablePaths.map WritablePath.path
  network : parent.networkPolicy.mode = .allowlist → hosts child ⊆ hosts parent
  preset : presetOrder child.toolPolicy.preset ≤ presetOrder parent.toolPolicy.preset
  secrets : child.secretScope.allowedSecretRefs ⊆ parent.secretScope.allowedSecretRefs

lemma narrowNetworkPolicy_eq_ok_iff : narrowNetworkPolicy parent child = .ok () ↔
    (parent.networkPolicy.mode = .allowlist → hosts child ⊆ hosts parent) := by
  rw [narrowNetworkPolicy]
  split
  · rename_i hmode
    rw [refuseNew_eq_ok_iff]
    exact ⟨fun h _ => h, fun h => h hmode⟩
  · rename_i hmode
    exact iff_of_true rfl fun h => absurd h hmode

lemma narrowToolPolicy_eq_ok_iff : narrowToolPolicy parent child = .ok () ↔
    presetOrder child.toolPolicy.preset ≤ presetOrder parent.toolPolicy.preset := by
  simp [narrowToolPolicy]

/-- **Acceptance.**  `narrow_manifest` returns exactly when its four checks hold. -/
theorem narrowManifest_eq_ok_iff : narrowManifest parent child = .ok () ↔ Checked parent child := by
  have hseq : narrowManifest parent child = .ok () ↔ narrowWritablePaths parent child = .ok () ∧
      narrowNetworkPolicy parent child = .ok () ∧ narrowToolPolicy parent child = .ok () ∧
      narrowSecretScope parent child = .ok () := by
    simp only [narrowManifest, Effect.except_bind_eq_ok, Unique.exists_iff]
  rw [hseq, narrowWritablePaths, refuseNew_eq_ok_iff, narrowNetworkPolicy_eq_ok_iff,
    narrowToolPolicy_eq_ok_iff, narrowSecretScope, refuseNew_eq_ok_iff]
  exact ⟨fun ⟨hpaths, hnetwork, hpreset, hsecrets⟩ => ⟨hpaths, hnetwork, hpreset, hsecrets⟩,
    fun h => ⟨h.paths, h.network, h.preset, h.secrets⟩⟩

lemma error_of_refuseNew {field : String} {wide narrow : List String} {e : PyError}
    (h : refuseNew field wide narrow = .error e) : e = delegationWideningError field :=
  Effect.eq_of_when_eq_error h

/-- The fields `narrow_manifest` guards. -/
def guardedFields : List String :=
  ["writable_paths", "network_policy", "tool_policy", "secret_scope"]

/-- **Refusal.**  The error names one of the guarded fields. -/
theorem field_of_refused {e : PyError} (h : narrowManifest parent child = .error e) :
    ∃ field ∈ guardedFields, e = delegationWideningError field := by
  simp only [narrowManifest, Effect.except_bind_eq_error] at h
  rcases h with h | ⟨-, -, h | ⟨-, -, h | ⟨-, -, h⟩⟩⟩
  · exact ⟨"writable_paths", by decide, error_of_refuseNew h⟩
  · rw [narrowNetworkPolicy] at h
    split at h
    · exact ⟨"network_policy", by decide, error_of_refuseNew h⟩
    · exact absurd h (by simp)
  · exact ⟨"tool_policy", by decide, Effect.eq_of_when_eq_error h⟩
  · exact ⟨"secret_scope", by decide, error_of_refuseNew h⟩

end Delegation

end Waywarden
