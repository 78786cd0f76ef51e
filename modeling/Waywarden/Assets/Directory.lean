import Waywarden.Assets.Metadata
import Waywarden.Lib.Collect
import Waywarden.Lib.Effect
import Waywarden.Lib.KeyedTable

/-!
# Loading assets

The registry of `waywarden.assets.loader` over a directory: `load_from_dir`, `load_and_filter` and
the lookups.  The files are read one after the other.  A file that is not accepted leaves its errors
and is passed over, and so does one whose key is taken.

A registry is valid when it has no errors.  After a load into an empty registry this means that
there were files, that every one of them was accepted, and that no key came twice
(`loadFromDir_valid_iff`).
-/

namespace Waywarden

open KeyedTable

/-- The directory of the assets; the files come in the order of their paths. -/
inductive AssetsDir
  | notADirectory
  | files (files : List (String × YamlFile))

/-- `AssetLoadError`, or what a filter raises. -/
inductive AssetFailure
  | load (errors : List (String × List String))
  | raised (e : PyError)

namespace AssetRegistry

/-- What a registry reads a mapping with: it gives an asset or some errors. -/
structure AssetReader where
  fromDict : Mapping → Except (List (String × List String)) AssetMetadata
  errors_ne_nil : ∀ content errors, fromDict content = .error errors → errors ≠ []

/-- `AssetMetadata.from_dict`; of the asset the registry and the filters see the metadata. -/
def assetReader (E : AssetEnv) : AssetReader where
  fromDict content :=
    match Asset.fromDict E content with
    | .ok asset => .ok asset.base.toAssetMetadata
    | .error e => .error [(e.text, e.values)]
  errors_ne_nil content errors h := by
    split at h
    · exact absurd h (by simp)
    · rw [← Except.error.inj h]
      exact List.cons_ne_nil _ _

variable (reader : AssetReader)

/-- The loop of `load_from_dir`. -/
def loadFiles : AssetRegistry → List (String × YamlFile) → AssetRegistry
  | registry, [] => registry
  | registry, file :: files =>
      loadFiles (registry.loadSingle reader.fromDict file.1 file.2) files

/-- `load_from_dir`, for a directory at a path. -/
def loadFromDir (registry : AssetRegistry) (root : String) : AssetsDir → AssetRegistry
  | .notADirectory =>
      { registry with errors := registry.errors ++ [("%: not a directory", [root])] }
  | .files [] =>
      { registry with errors := registry.errors ++ [("%: no asset.yaml files found", [root])] }
  | .files files => loadFiles reader registry files

/-- `is_valid`. -/
def isValid (registry : AssetRegistry) : Bool := registry.errors.isEmpty

/-- `get`, without the error for an asset that is not there. -/
def get? (registry : AssetRegistry) (id : AssetId) (kind : AssetKind) : Option AssetMetadata :=
  KeyedTable.get AssetMetadata.key (id, kind) registry.assets

/-- `load_and_filter`. -/
def loadAndFilter (registry : AssetRegistry) (root : String) (content : AssetsDir)
    (filters : List Mapping) : Except AssetFailure (List AssetMetadata) :=
  let registry := registry.loadFromDir reader root content
  if registry.isValid then (registry.applyFilters filters).mapError .raised
  else .error (.load registry.errors)

/-! ## One file -/

/-- What a file is read as. -/
def readAsset (file : String × YamlFile) : Except (List (String × List String)) AssetMetadata :=
  match file.2 with
  | .unreadable reason => .error [("%: unable to read: %", [file.1, reason])]
  | .malformed reason => .error [("%: YAML parse error: %", [file.1, reason])]
  | .parsed (.dict content) => reader.fromDict content
  | .parsed _ => .error [("%: expected a mapping of asset settings", [file.1])]

variable {reader} {registry : AssetRegistry} {file : String × YamlFile} {asset : AssetMetadata}

lemma loadSingle_of_error {errors : List (String × List String)}
    (h : readAsset reader file = .error errors) :
    registry.loadSingle reader.fromDict file.1 file.2 =
      { registry with errors := registry.errors ++ errors } := by
  unfold readAsset at h
  split at h
  · rename_i hfile
    unfold loadSingle
    rw [hfile, ← Except.error.inj h]
  · rename_i hfile
    unfold loadSingle
    rw [hfile, ← Except.error.inj h]
  · rename_i hfile
    unfold loadSingle
    rw [hfile]
    dsimp only
    rw [h]
  · rename_i content hnone hfile
    unfold loadSingle
    rw [hfile, ← Except.error.inj h]
    cases content with
    | dict items => exact absurd rfl (hnone items)
    | _ => rfl

lemma loadSingle_of_ok (h : readAsset reader file = .ok asset) :
    registry.loadSingle reader.fromDict file.1 file.2 = registry.register asset file.1 := by
  unfold readAsset at h
  split at h
  · exact absurd h (by simp)
  · exact absurd h (by simp)
  · rename_i hfile
    unfold loadSingle
    rw [hfile]
    dsimp only
    rw [h]
  · exact absurd h (by simp)

lemma readAsset_ne_nil {errors : List (String × List String)}
    (h : readAsset reader file = .error errors) : errors ≠ [] := by
  unfold readAsset at h
  split at h
  · rw [← Except.error.inj h]
    exact List.cons_ne_nil _ _
  · rw [← Except.error.inj h]
    exact List.cons_ne_nil _ _
  · exact reader.errors_ne_nil _ _ h
  · rw [← Except.error.inj h]
    exact List.cons_ne_nil _ _

/-- **What a file declares**: it is a mapping, and that is an asset. -/
lemma readAsset_eq_ok_iff {E : AssetEnv} : readAsset (assetReader E) file = .ok asset ↔
    ∃ data full, file.2 = .parsed (.dict data) ∧ Asset.fromDict E data = .ok full ∧
      full.base.toAssetMetadata = asset := by
  unfold readAsset
  constructor
  · intro h
    split at h
    · exact absurd h (by simp)
    · exact absurd h (by simp)
    · rename_i data hfile
      unfold assetReader at h
      dsimp only at h
      split at h
      · rename_i full hfull
        exact ⟨data, full, hfile, hfull, Except.ok.inj h⟩
      · exact absurd h (by simp)
    · exact absurd h (by simp)
  · rintro ⟨data, full, hfile, hfull, rfl⟩
    rw [hfile]
    unfold assetReader
    dsimp only
    rw [hfull]

/-- An asset with a free key is added without an error. -/
lemma register_of_new (h : asset.key ∉ registry.assets.map AssetMetadata.key) (path : String) :
    (registry.register asset path).assets = registry.assets ++ [asset] ∧
      (registry.register asset path).errors = registry.errors := by
  unfold register
  rw [dif_neg h]
  exact ⟨rfl, rfl⟩

/-- One whose key is taken leaves an error. -/
lemma errors_register_of_taken (h : asset.key ∈ registry.assets.map AssetMetadata.key)
    (path : String) : (registry.register asset path).errors ≠ [] := by
  unfold register
  rw [dif_pos h]
  simp

/-! ## All files -/

variable {files : List (String × YamlFile)} {assets : List AssetMetadata}

/-- Errors stay. -/
lemma errors_loadFiles_ne_nil (h : registry.errors ≠ []) :
    (loadFiles reader registry files).errors ≠ [] := by
  induction files generalizing registry with
  | nil => exact h
  | cons file files ih =>
      refine ih ?_
      rcases hread : readAsset reader file with errors | asset
      · rw [loadSingle_of_error hread]
        exact fun hnil => h (List.append_eq_nil_iff.mp hnil).1
      · rw [loadSingle_of_ok hread]
        by_cases hkey : asset.key ∈ registry.assets.map AssetMetadata.key
        · exact errors_register_of_taken hkey file.1
        · rw [(register_of_new hkey file.1).2]
          exact h

/-- The key of an asset that comes first is free, if no key comes twice. -/
lemma key_notMem_of_nodup
    (h : ((registry.assets ++ asset :: assets).map AssetMetadata.key).Nodup) :
    asset.key ∉ registry.assets.map AssetMetadata.key := by
  rw [List.map_append, List.nodup_append] at h
  exact fun hmem => h.2.2 _ hmem _ (List.mem_map_of_mem List.mem_cons_self) rfl

/-- Accepted files with different keys are added, in their order. -/
lemma loadFiles_of_accepted
    (hread : List.Forall₂ (fun file asset => readAsset reader file = .ok asset) files assets)
    (hnodup : ((registry.assets ++ assets).map AssetMetadata.key).Nodup) :
    (loadFiles reader registry files).assets = registry.assets ++ assets ∧
      (loadFiles reader registry files).errors = registry.errors := by
  induction hread generalizing registry with
  | nil => exact ⟨(List.append_nil _).symm, rfl⟩
  | @cons file asset files assets hfile _ ih =>
      obtain ⟨hassets, herrors⟩ := register_of_new (key_notMem_of_nodup hnodup) file.1
      rw [← List.singleton_append, ← List.append_assoc, ← hassets] at hnodup
      obtain ⟨hall, hnone⟩ := ih hnodup
      unfold loadFiles
      rw [loadSingle_of_ok hfile]
      exact ⟨by rw [hall, hassets, List.append_assoc, List.singleton_append],
        hnone.trans herrors⟩

/-- **When a load goes through**: every file is accepted, and with what was there no key comes
twice. -/
lemma loadFiles_valid_iff : (loadFiles reader registry files).errors = [] ↔
    registry.errors = [] ∧ ∃ assets,
      List.Forall₂ (fun file asset => readAsset reader file = .ok asset) files assets ∧
      ((registry.assets ++ assets).map AssetMetadata.key).Nodup := by
  constructor
  · intro h
    induction files generalizing registry with
    | nil =>
        refine ⟨h, [], .nil, ?_⟩
        rw [List.append_nil]
        exact registry.keys_nodup
    | cons file files ih =>
        unfold loadFiles at h
        rcases hread : readAsset reader file with errors | asset
        · -- what a refused file leaves stays
          rw [loadSingle_of_error hread] at h
          refine absurd h (errors_loadFiles_ne_nil fun hnil => ?_)
          exact readAsset_ne_nil hread (List.append_eq_nil_iff.mp hnil).2
        · rw [loadSingle_of_ok hread] at h
          by_cases hkey : asset.key ∈ registry.assets.map AssetMetadata.key
          · exact absurd h (errors_loadFiles_ne_nil (errors_register_of_taken hkey file.1))
          · obtain ⟨hassets, herrors⟩ := register_of_new hkey file.1
            obtain ⟨hnone, assets, hrest, hnodup⟩ := ih h
            refine ⟨herrors.symm.trans hnone, asset :: assets, .cons hread hrest, ?_⟩
            rw [hassets, List.append_assoc, List.singleton_append] at hnodup
            exact hnodup
  · rintro ⟨hnone, assets, hread, hnodup⟩
    exact (loadFiles_of_accepted hread hnodup).2.trans hnone

/-- **A valid registry after a load from nothing**: there are files, each of them is accepted, no
key comes twice, and the registry has the assets of the files in their order. -/
lemma loadFromDir_valid_iff {root : String} {content : AssetsDir} :
    (loadFromDir reader {} root content).isValid = true ↔
      ∃ files assets, content = .files files ∧ files ≠ [] ∧
        List.Forall₂ (fun file asset => readAsset reader file = .ok asset) files assets ∧
        (assets.map AssetMetadata.key).Nodup ∧
        (loadFromDir reader {} root content).allAssets = assets := by
  unfold isValid
  rw [List.isEmpty_iff]
  constructor
  · intro h
    cases content with
    | notADirectory => exact absurd h (by simp [loadFromDir])
    | files files =>
        cases files with
        | nil => exact absurd h (by simp [loadFromDir])
        | cons file files =>
            obtain ⟨-, assets, hread, hnodup⟩ := loadFiles_valid_iff.mp h
            exact ⟨file :: files, assets, rfl, List.cons_ne_nil _ _, hread, hnodup,
              (loadFiles_of_accepted hread hnodup).1⟩
  · rintro ⟨files, assets, rfl, hne, hread, hnodup, -⟩
    cases files with
    | nil => exact absurd rfl hne
    | cons file files => exact loadFiles_valid_iff.mpr ⟨rfl, assets, hread, hnodup⟩

end AssetRegistry

end Waywarden
