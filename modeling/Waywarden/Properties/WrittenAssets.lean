import Waywarden.Assets.Directory
import Waywarden.Properties.AssetFilters

/-!
# Assets can be written to files and loaded

A directory in which every file has the fields of an asset, no two the same kind and id, is loaded
as it is: the registry has these assets in the order of the files, finds each under its kind and its
id, and a load with filters returns the ones they keep (`written_assets_load`).
-/

namespace Waywarden

open AssetRegistry (assetReader loadFromDir readAsset)

variable {E : AssetEnv}

/-- An asset of one of the kinds, written to a file. -/
structure WrittenAsset (E : AssetEnv) where
  path : String
  asset : Asset E
  classed : asset.model = some asset.base.kind

/-- What the registry sees of it. -/
def WrittenAsset.metadata (written : WrittenAsset E) : AssetMetadata :=
  written.asset.base.toAssetMetadata

/-- The file. -/
def WrittenAsset.file (written : WrittenAsset E) : String × YamlFile :=
  (written.path, .parsed (.dict written.asset.dict))

/-- Every file is read as its asset. -/
lemma readAsset_written (written : List (WrittenAsset E)) :
    List.Forall₂ (fun file asset => readAsset (assetReader E) file = .ok asset)
      (written.map WrittenAsset.file) (written.map WrittenAsset.metadata) := by
  rw [List.forall₂_map_left_iff, List.forall₂_map_right_iff, List.forall₂_same]
  intro item _
  exact AssetRegistry.readAsset_eq_ok_iff.mpr
    ⟨item.asset.dict, item.asset, rfl, Asset.fromDict_dict item.classed, rfl⟩

/-- A directory of such files. -/
def WrittenAsset.dir (written : List (WrittenAsset E)) : AssetsDir :=
  .files (written.map WrittenAsset.file)

/-- What is loaded from it. -/
def WrittenAsset.registry (root : String) (written : List (WrittenAsset E)) : AssetRegistry :=
  loadFromDir (assetReader E) {} root (WrittenAsset.dir written)

/-- **Assets in files of their own are loaded**, in whatever order the files come, and filtered. -/
theorem written_assets_load {written : List (WrittenAsset E)} (hne : written ≠ [])
    (hnodup : (written.map fun item => item.metadata.key).Nodup) (root : String)
    {filters : List Mapping} (hfilters : ∀ filter ∈ filters, Accepted filter) :
    ∀ order : List (WrittenAsset E), order.Perm written →
      (WrittenAsset.registry root order).isValid = true ∧
      (WrittenAsset.registry root order).allAssets = order.map WrittenAsset.metadata ∧
      (∀ item ∈ written, (WrittenAsset.registry root order).get? item.metadata.id
        item.metadata.kind = some item.metadata) ∧
      AssetRegistry.loadAndFilter (assetReader E) {} root (WrittenAsset.dir order) filters =
        .ok ((order.map WrittenAsset.metadata).filter fun asset =>
          filters.all (keptBy · asset)) := by
  intro order hperm
  have hkeys : (([] ++ order.map WrittenAsset.metadata).map AssetMetadata.key).Nodup := by
    rw [List.nil_append, List.map_map]
    exact (hperm.map _).nodup_iff.mpr hnodup
  obtain ⟨first, rest, horder⟩ := List.exists_cons_of_ne_nil
    (fun hnil => hne (List.perm_nil.mp (hnil ▸ hperm.symm)) : order ≠ [])
  have hloaded : (AssetRegistry.loadFiles (assetReader E) {} (order.map WrittenAsset.file)).assets =
      [] ++ order.map WrittenAsset.metadata ∧
      (AssetRegistry.loadFiles (assetReader E) {} (order.map WrittenAsset.file)).errors = [] :=
    AssetRegistry.loadFiles_of_accepted (readAsset_written order) hkeys
  have hregistry : WrittenAsset.registry root order =
      AssetRegistry.loadFiles (assetReader E) {} (order.map WrittenAsset.file) := by
    unfold WrittenAsset.registry WrittenAsset.dir
    rw [horder]
    rfl
  have hassets : (WrittenAsset.registry root order).allAssets =
      order.map WrittenAsset.metadata := by
    rw [hregistry]
    exact hloaded.1
  have hvalid : (WrittenAsset.registry root order).isValid = true := by
    rw [hregistry, AssetRegistry.isValid, hloaded.2]
    rfl
  refine ⟨hvalid, hassets, fun item hitem => ?_, ?_⟩
  · have hmem : item.metadata ∈ (WrittenAsset.registry root order).allAssets := by
      rw [hassets]
      exact List.mem_map_of_mem (hperm.mem_iff.mpr hitem)
    exact KeyedTable.get_of_mem (WrittenAsset.registry root order).keys_nodup hmem
  · have hload : AssetRegistry.loadAndFilter (assetReader E) {} root (WrittenAsset.dir order)
        filters = if (WrittenAsset.registry root order).isValid = true then
          ((WrittenAsset.registry root order).applyFilters filters).mapError AssetFailure.raised
        else .error (.load (WrittenAsset.registry root order).errors) := rfl
    rw [hload, if_pos hvalid, applyFilters_eq _ hfilters, hassets]
    rfl

/-- A declaration that reads as an asset of some metadata, in a file. -/
lemma exists_item (path : String) (data : Mapping) (metadata : AssetMetadata)
    (h : (Asset.fromDict .ascii data).toOption.map (·.base.toAssetMetadata) = some metadata) :
    ∃ item : WrittenAsset .ascii, item.path = path ∧ item.metadata = metadata := by
  obtain ⟨asset, hasset, hmetadata⟩ := Option.map_eq_some_iff.mp h
  have hread := Effect.except_toOption_eq_some.mp hasset
  exact ⟨⟨path, asset, Asset.model_eq_of_fromDict hread⟩, rfl, hmetadata⟩

/-- A routine as it is declared. -/
def briefingData : Mapping :=
  [("id", .str "ea-briefing"), ("kind", .str "routine"), ("version", .str "1.0.0"),
    ("description", .str "The morning briefing."), ("tags", .list [.str "ea"])]

/-- An asset that is shown, of a kind. -/
def shownData (kind : String) : Mapping :=
  [("id", .str "task-flow"), ("kind", .str kind), ("version", .str "1.0.0"),
    ("description", .str "The tasks."), ("tags", .list [.str "ui"])]

lemma isAssetId_written : isAssetId "ea-briefing" = true ∧ isAssetId "task-flow" = true := by
  decide

lemma strip_ui : strip "ui" = "ui" ∧ "ui" ≠ "" := ⟨by decide +kernel, by decide⟩

lemma strip_eaTag : strip "ea" = "ea" ∧ "ea" ≠ "" := ⟨by decide +kernel, by decide⟩

/-- What the registry sees of the routine. -/
def briefingAsset : AssetMetadata :=
  ⟨⟨"ea-briefing", isAssetId_written.1⟩, .routine, [Text.lit "ea" strip_eaTag], []⟩

/-- And of the others. -/
def shown (kind : AssetKind) : AssetMetadata :=
  ⟨⟨"task-flow", isAssetId_written.2⟩, kind, [Text.lit "ui" strip_ui], []⟩

/-- Three assets, two of one id, in two orders: of the ones that are shown a load under the filters
of the coding profile returns first the one whose file comes first. -/
theorem written_assets_load_briefing :
    ∃ routine widget theme : WrittenAsset AssetEnv.ascii,
      routine.metadata = briefingAsset ∧ widget.metadata = shown .widget ∧
      theme.metadata = shown .theme ∧
      (WrittenAsset.registry "assets" [routine, widget, theme]).allAssets =
        [briefingAsset, shown .widget, shown .theme] ∧
      (WrittenAsset.registry "assets" [theme, widget, routine]).allAssets =
        [shown .theme, shown .widget, briefingAsset] ∧
      (WrittenAsset.registry "assets" [theme, widget, routine]).get? briefingAsset.id .routine =
        some briefingAsset ∧
      AssetRegistry.loadAndFilter (assetReader .ascii) {} "assets"
        (WrittenAsset.dir [routine, widget, theme]) codingFilters =
          .ok [shown .widget, shown .theme] ∧
      AssetRegistry.loadAndFilter (assetReader .ascii) {} "assets"
        (WrittenAsset.dir [theme, widget, routine]) codingFilters =
          .ok [shown .theme, shown .widget] := by
  obtain ⟨routine, -, hroutine⟩ := exists_item "assets/routines/ea-briefing/asset.yaml"
    briefingData briefingAsset (by decide +kernel)
  obtain ⟨widget, -, hwidget⟩ := exists_item "assets/widgets/task-flow/asset.yaml"
    (shownData "widget") (shown .widget) (by decide +kernel)
  obtain ⟨theme, -, htheme⟩ := exists_item "assets/themes/task-flow/asset.yaml"
    (shownData "theme") (shown .theme) (by decide +kernel)
  have hnodup : ([routine, widget, theme].map fun item => item.metadata.key).Nodup := by
    simp only [List.map_cons, List.map_nil, hroutine, hwidget, htheme]
    decide
  have hload := written_assets_load (List.cons_ne_nil _ _) hnodup "assets" accepted_codingFilters
  obtain ⟨-, hfirst, -, hkept⟩ := hload _ (.refl _)
  obtain ⟨-, hlast, hfinds, hkept'⟩ := hload [theme, widget, routine]
    (List.reverse_perm [routine, widget, theme])
  have hget := hfinds routine List.mem_cons_self
  simp only [List.map_cons, List.map_nil, hroutine, hwidget, htheme] at hfirst hkept
  simp only [List.map_cons, List.map_nil, hroutine, hwidget, htheme] at hlast hget hkept'
  refine ⟨routine, widget, theme, hroutine, hwidget, htheme, hfirst, hlast, hget, ?_, ?_⟩
  · rw [hkept]
    exact congrArg Except.ok (by decide +kernel)
  · rw [hkept']
    exact congrArg Except.ok (by decide +kernel)

end Waywarden
