import Mathlib.Data.List.Dedup
import Waywarden.Domain.Delegation

/-!
# `CodingHandoffRoutine`

`waywarden.services.orchestration.coding_handoff`, as far as its envelopes go: the child manifest
has the parent's grants, and every expected output has to be one of its outputs.
-/

namespace Waywarden

/-- `CodingHandoffRoutine`. -/
structure CodingHandoffRoutine where
  parentRunId : String
  envelope : Option DelegationEnvelope := none

namespace CodingHandoffRoutine

/-- `DEFAULT_EXPECTED_OUTPUTS`. -/
def defaultExpectedOutputs : List String := ["plan", "patch", "review"]

/-- The run id of the child: `f"{parent.run_id}-coding-child"`. -/
def childRunId (parentRunId : String) : String := parentRunId ++ "-coding-child"

/-- `_narrow_child_manifest`. -/
def narrowChildManifest (parent : WorkspaceManifest) : WorkspaceManifest :=
  { parent with runId := childRunId parent.runId }

/-- `_validate_expected_outputs`. -/
def validateExpectedOutputs (childManifest : WorkspaceManifest) (expectedOutputs : List String) :
    Except PyError Unit :=
  let outputNames := childManifest.outputs.map OutputContract.name
  let missing := (expectedOutputs.dedup.filter fun out => out ∉ outputNames).insertionSort (· ≤ ·)
  if missing ≠ [] then
    .error ⟨.valueError, "expected_outputs must reference child manifest outputs; missing: %",
      [", ".intercalate missing]⟩
  else .ok ()

/-- `create_envelope`: the context holds the arguments other than the last two. -/
def createEnvelope (env : HandoffEnv) (ctx : HandoffContext) (parentManifest : WorkspaceManifest)
    (expectedOutputs : List String := defaultExpectedOutputs) :
    Effect CodingHandoffRoutine PyError DelegationEnvelope := do
  let childManifest := narrowChildManifest parentManifest
  Effect.ofExcept (Delegation.narrowManifest parentManifest childManifest)
  Effect.ofExcept (validateExpectedOutputs childManifest expectedOutputs)
  let routine ← Effect.gets id
  let envelope := makeEnvelope env routine.parentRunId childManifest
    (formatBrief "Coding handoff: " ctx) expectedOutputs
  Effect.modify fun routine => { routine with envelope := some envelope }
  pure envelope

/-! ## What the routine builds -/

/-- The expected outputs pass exactly when each is the name of an output. -/
lemma validateExpectedOutputs_eq_ok_iff {m : WorkspaceManifest} {expectedOutputs : List String} :
    validateExpectedOutputs m expectedOutputs = .ok () ↔
      ∀ out ∈ expectedOutputs, out ∈ m.outputs.map OutputContract.name := by
  have hmissing : (expectedOutputs.dedup.filter fun out =>
      out ∉ m.outputs.map OutputContract.name).insertionSort (· ≤ ·) = [] ↔
      ∀ out ∈ expectedOutputs, out ∈ m.outputs.map OutputContract.name := by
    rw [← List.length_eq_zero_iff, List.length_insertionSort, List.length_eq_zero_iff,
      List.filter_eq_nil_iff]
    simp only [List.mem_dedup, decide_eq_true_eq, not_not]
  unfold validateExpectedOutputs
  rw [← hmissing]
  dsimp only
  split <;> simp_all

/-- The envelope for a context. -/
def envelopeFor (env : HandoffEnv) (routine : CodingHandoffRoutine) (ctx : HandoffContext)
    (parentManifest : WorkspaceManifest) (expectedOutputs : List String) : DelegationEnvelope :=
  makeEnvelope env routine.parentRunId (narrowChildManifest parentManifest)
    (formatBrief "Coding handoff: " ctx) expectedOutputs

/-- `create_envelope` returns the envelope for its arguments, whose expected outputs are outputs
of the parent. -/
lemma of_createEnvelope {env : HandoffEnv} {ctx : HandoffContext}
    {parentManifest : WorkspaceManifest} {expectedOutputs : List String}
    {routine : CodingHandoffRoutine} {e : DelegationEnvelope}
    (h : (createEnvelope env ctx parentManifest expectedOutputs routine).1 = .ok e) :
    e = envelopeFor env routine ctx parentManifest expectedOutputs ∧
      ∀ out ∈ expectedOutputs, out ∈ parentManifest.outputs.map OutputContract.name := by
  have hcreate : Effect.wp (createEnvelope env ctx parentManifest expectedOutputs)
      (fun e _ => e = envelopeFor env routine ctx parentManifest expectedOutputs ∧
        ∀ out ∈ expectedOutputs, out ∈ parentManifest.outputs.map OutputContract.name)
      (fun _ _ => True) routine := by
    unfold createEnvelope
    rw [Effect.wp_bind, Effect.wp_ofExcept]
    refine ⟨fun _ _ => ?_, fun _ _ => trivial⟩
    rw [Effect.wp_bind, Effect.wp_ofExcept]
    refine ⟨fun _ hvalid => ?_, fun _ _ => trivial⟩
    rw [Effect.wp_bind, Effect.wp_gets, Effect.wp_bind, Effect.wp_modify, Effect.wp_pure]
    exact ⟨rfl, validateExpectedOutputs_eq_ok_iff.mp hvalid⟩
  exact hcreate.of_ok (Prod.ext h rfl)

end CodingHandoffRoutine

end Waywarden
