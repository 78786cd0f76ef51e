import Waywarden.Domain.Validation

/-!
# Validation against the RT-001 schema

`Schema` is what `docs/specs/runtime/workspace-manifest.md` asks of one manifest.  Validation
enforces all of it but three things (`schema_iff`): it takes a path with two slashes in front for
a normalized one, because `os.path.normpath` keeps exactly two, and it does not look at the names
of the inputs and of the outputs, which are to be unique.  Overlapping grants play no part on
either side.
-/

namespace Waywarden

open PosixPath

/-- The schema rules of RT-001 on one manifest. -/
structure Schema (m : WorkspaceManifest) : Prop where
  paths : ∀ path ∈ m.declaredPaths, Canonical path.toList
  targets : (m.inputs.map InputMount.targetPath).Nodup
  inputNames : (m.inputs.map InputMount.name).Nodup
  outputNames : (m.outputs.map OutputContract.name).Nodup
  outputs : ∀ out ∈ m.outputs, ∃ wp ∈ m.writablePaths, Below out.path.toList wp.path.toList
  network : m.networkPolicy.mode ≠ .profileDefault ∧
    ¬ (m.networkPolicy.mode = .allowlist ∧ m.networkPolicy.allow = [])

/-- What validation does not see: a path with two slashes in front, a repeated input name, a
repeated output name. -/
def Unseen (m : WorkspaceManifest) : Prop :=
  (∃ path ∈ m.declaredPaths, ['/', '/'] <+: path.toList) ∨
    ¬ (m.inputs.map InputMount.name).Nodup ∨ ¬ (m.outputs.map OutputContract.name).Nodup

instance (m : WorkspaceManifest) : Decidable (Unseen m) :=
  inferInstanceAs (Decidable (_ ∨ ¬ _ ∨ ¬ _))

variable {m : WorkspaceManifest}

/-- The schema is what validation enforces and what it does not see. -/
lemma schema_iff : Schema m ↔ Enforced m ∧ ¬ Unseen m := by
  constructor
  · rintro ⟨hpaths, htargets, hinputs, hnames, houtputs, hnetwork⟩
    refine ⟨⟨fun path h => (hpaths path h).rooted, htargets, houtputs, hnetwork.symm⟩, ?_⟩
    rintro (⟨path, hpath, hslashes⟩ | h | h)
    · exact (hpaths path hpath).rooted.canonical_iff.mp (hpaths path hpath) hslashes
    · exact h hinputs
    · exact h hnames
  · rintro ⟨henforced, hseen⟩
    obtain ⟨hslashes, hinputs, hnames⟩ := not_or.mp hseen |>.imp_right not_or.mp
    refine ⟨fun path h => (henforced.paths path h).canonical_iff.mpr fun hslash =>
      hslashes ⟨path, h, hslash⟩, henforced.targets, not_not.mp hinputs, not_not.mp hnames,
      henforced.outputs, henforced.network.symm⟩

/-- Validation accepts the manifest exactly when the schema does. -/
def FollowsSchema (m : WorkspaceManifest) : Prop := validateManifest m = .ok () ↔ Schema m

/-- **Validation against the schema, exactly.**  They agree on every manifest but those that
meet all that is enforced and have something that is not seen. -/
theorem followsSchema_iff (m : WorkspaceManifest) :
    FollowsSchema m ↔ ¬ (Enforced m ∧ Unseen m) := by
  unfold FollowsSchema
  rw [validateManifest_eq_ok_iff, schema_iff]
  tauto

/-- A manifest whose one output lies in its one writable path. -/
def reportManifest (root path : String) (names : List String) : WorkspaceManifest where
  runId := "run-1"
  inputs := []
  writablePaths := [{ path := root, purpose := .declaredOutput }]
  outputs := names.map fun name => { name, path, kind := .report, required := true }
  networkPolicy := ⟨.deny, [], []⟩
  toolPolicy := { preset := .ask, rules := [] }
  secretScope := { mode := .none, allowedSecretRefs := [], mountEnv := [] }
  snapshotPolicy := {}

/-- Accepted against the schema: two outputs of one name, and a path with two slashes. -/
theorem not_followsSchema_report :
    ¬ FollowsSchema (reportManifest "/work" "/work/report" ["report", "report"]) ∧
      ¬ FollowsSchema (reportManifest "//work" "//work/report" ["report"]) := by
  constructor
  · intro h
    exact (schema_iff.mp (h.mp (by decide +kernel))).2 (by decide +kernel)
  · intro h
    exact (schema_iff.mp (h.mp (by decide +kernel))).2 (by decide +kernel)

end Waywarden
