import Waywarden.Properties.ManifestSchema
import Waywarden.Services.DispatcherWorkflow

/-!
# Which outputs a dispatcher selects

`_narrow_child_manifest` compares the number of outputs it selected with the number of names it
expected.  Names of a manifest's outputs may repeat, and a repeated name makes up for a missing one
in the count: the call then returns a child without an expected output, and where no name is missing
it raises an error that names none.  `selectsExactly_iff` says when the counts do tell.
-/

namespace Waywarden

open DispatcherWorkflowPackager

/-- The expected names that no output of the parent has. -/
def missingNames (parentManifest : WorkspaceManifest) (expectedOutputs : List String) :
    List String :=
  expectedOutputs.dedup.filter fun out => out ∉ parentManifest.outputs.map OutputContract.name

/-- How many outputs with an expected name come after the first of that name. -/
def surplus (parentManifest : WorkspaceManifest) (expectedOutputs : List String) : ℕ :=
  let names := (selected parentManifest expectedOutputs).map OutputContract.name
  names.length - names.dedup.length

/-- The exception for missing names. -/
def missingOutputsError (missing : List String) : PyError :=
  ⟨.valueError, "expected_outputs must reference parent manifest outputs; missing: %",
    [", ".intercalate (missing.insertionSort (· ≤ ·))]⟩

/-- The selection raises when a name is missing and only then, it lists the missing names, and
otherwise the child has the parent's outputs with an expected name and nothing else changed. -/
structure SelectsExactly (parentManifest : WorkspaceManifest) (childRunId : String)
    (expectedOutputs : List String) : Prop where
  raises : (∃ e, narrowChildManifest parentManifest childRunId expectedOutputs = .error e) ↔
    ∃ out ∈ expectedOutputs, out ∉ parentManifest.outputs.map OutputContract.name
  lists : ∀ e, narrowChildManifest parentManifest childRunId expectedOutputs = .error e →
    e = missingOutputsError (missingNames parentManifest expectedOutputs)
  selects : ∀ child, narrowChildManifest parentManifest childRunId expectedOutputs = .ok child →
    child = { parentManifest with
      runId := childRunId
      outputs := parentManifest.outputs.filter fun output => output.name ∈ expectedOutputs }

variable {parentManifest : WorkspaceManifest} {childRunId : String} {expectedOutputs : List String}

/-- An expected name is selected exactly when it is the parent's. -/
lemma mem_selected_names {out : String} (hout : out ∈ expectedOutputs) :
    out ∈ (selected parentManifest expectedOutputs).map OutputContract.name ↔
      out ∈ parentManifest.outputs.map OutputContract.name := by
  unfold selected
  simp only [List.mem_map, List.mem_filter, decide_eq_true_eq]
  constructor
  · rintro ⟨output, ⟨houtput, -⟩, rfl⟩
    exact ⟨output, houtput, rfl⟩
  · rintro ⟨output, houtput, rfl⟩
    exact ⟨output, ⟨houtput, hout⟩, rfl⟩

lemma exists_missing_iff :
    (∃ out ∈ expectedOutputs, out ∉ parentManifest.outputs.map OutputContract.name) ↔
      missingNames parentManifest expectedOutputs ≠ [] := by
  unfold missingNames
  rw [Ne, List.filter_eq_nil_iff]
  simp only [List.mem_dedup, decide_eq_true_eq, not_forall, not_not, exists_prop]

/-- The parent's outputs with an expected name, as the call selects them. -/
lemma filter_mem_dedup :
    parentManifest.outputs.filter (fun output => output.name ∈ expectedOutputs.dedup) =
      selected parentManifest expectedOutputs := by
  unfold selected
  simp only [List.mem_dedup]

/-- **What the call raises and returns.** -/
lemma narrowChildManifest_eq :
    narrowChildManifest parentManifest childRunId expectedOutputs =
      if (selected parentManifest expectedOutputs).length ≠ expectedOutputs.dedup.length then
        .error (missingOutputsError (missingNames parentManifest expectedOutputs))
      else .ok (childOf parentManifest childRunId expectedOutputs) := by
  have hmissing : (expectedOutputs.dedup.filter fun out =>
      out ∉ (selected parentManifest expectedOutputs).map OutputContract.name) =
      missingNames parentManifest expectedOutputs := by
    unfold missingNames
    apply List.filter_congr
    intro out hout
    simp only [mem_selected_names (List.mem_dedup.mp hout)]
  unfold narrowChildManifest
  simp only [filter_mem_dedup, hmissing]
  rfl

/-- The names selected are the expected names that are not missing. -/
lemma length_dedup_names :
    ((selected parentManifest expectedOutputs).map OutputContract.name).dedup.length +
      (missingNames parentManifest expectedOutputs).length = expectedOutputs.dedup.length := by
  have hfound : ((selected parentManifest expectedOutputs).map OutputContract.name).dedup.Perm
      (expectedOutputs.dedup.filter fun out =>
        out ∈ parentManifest.outputs.map OutputContract.name) := by
    rw [List.perm_ext_iff_of_nodup (List.nodup_dedup _) ((List.nodup_dedup _).filter _)]
    intro out
    rw [List.mem_dedup, List.mem_filter, List.mem_dedup, decide_eq_true_eq]
    constructor
    · intro hmem
      obtain ⟨output, houtput, rfl⟩ := List.mem_map.mp hmem
      have hexpected := of_decide_eq_true (List.mem_filter.mp houtput).2
      exact ⟨hexpected, (mem_selected_names hexpected).mp hmem⟩
    · rintro ⟨hexpected, hmem⟩
      exact (mem_selected_names hexpected).mpr hmem
  rw [hfound.length_eq]
  unfold missingNames
  rw [List.length_eq_length_filter_add (l := expectedOutputs.dedup)
    fun out => out ∈ parentManifest.outputs.map OutputContract.name]
  simp only [decide_not]

/-- **The outputs selected, counted**: each expected name that is not missing, and the surplus. -/
lemma length_selected_add : (selected parentManifest expectedOutputs).length +
      (missingNames parentManifest expectedOutputs).length =
    expectedOutputs.dedup.length + surplus parentManifest expectedOutputs := by
  have hnames := @length_dedup_names parentManifest expectedOutputs
  have hle := (List.dedup_sublist
    ((selected parentManifest expectedOutputs).map OutputContract.name)).length_le
  rw [List.length_map] at hle
  unfold surplus
  dsimp only
  rw [List.length_map]
  omega

/-- **When the count of the outputs tells of the missing names**: no output selected is surplus, or
a name is missing and there are not as many surplus outputs as missing names. -/
theorem selectsExactly_iff : SelectsExactly parentManifest childRunId expectedOutputs ↔
    surplus parentManifest expectedOutputs = 0 ∨
      (missingNames parentManifest expectedOutputs ≠ [] ∧
        surplus parentManifest expectedOutputs ≠
          (missingNames parentManifest expectedOutputs).length) := by
  have hcount := @length_selected_add parentManifest expectedOutputs
  have hempty : missingNames parentManifest expectedOutputs ≠ [] ↔
      (missingNames parentManifest expectedOutputs).length ≠ 0 := by
    rw [Ne, Ne, List.length_eq_zero_iff]
  have hraises : (∃ e, narrowChildManifest parentManifest childRunId expectedOutputs = .error e) ↔
      (selected parentManifest expectedOutputs).length ≠ expectedOutputs.dedup.length := by
    rw [narrowChildManifest_eq]
    split
    · rename_i hne
      exact iff_of_true ⟨_, rfl⟩ hne
    · rename_i heq
      exact iff_of_false (by simp) heq
  constructor
  · intro h
    have hexact := h.raises
    rw [hraises, exists_missing_iff, hempty] at hexact
    rw [hempty]
    omega
  · intro h
    rw [hempty] at h
    refine ⟨?_, ?_, ?_⟩
    · rw [hraises, exists_missing_iff, hempty]
      omega
    · intro e he
      rw [narrowChildManifest_eq] at he
      exact Effect.eq_of_when_eq_error he
    · intro child hchild
      exact (narrowChildManifest_eq_ok_iff.mp hchild).2

/-- A parent with two reports: none is missing, and the selection raises an error that names
none. -/
theorem not_selectsExactly_two_reports :
    let parent := reportManifest "/work" "/work/report" ["report", "report"]
    validateManifest parent = .ok () ∧
      narrowChildManifest parent "run-2" ["report"] =
        .error ⟨.valueError,
          "expected_outputs must reference parent manifest outputs; missing: %", [""]⟩ ∧
      ¬ SelectsExactly parent "run-2" ["report"] := by
  have hraises : narrowChildManifest (reportManifest "/work" "/work/report" ["report", "report"])
      "run-2" ["report"] = .error ⟨.valueError,
        "expected_outputs must reference parent manifest outputs; missing: %", [""]⟩ := by
    decide +kernel
  refine ⟨by decide +kernel, hraises, fun h => ?_⟩
  obtain ⟨out, hout, hmissing⟩ := h.raises.mp ⟨_, hraises⟩
  obtain rfl := List.mem_singleton.mp hout
  exact hmissing (by decide +kernel)

end Waywarden
