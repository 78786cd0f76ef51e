import Mathlib.Data.List.Lattice
import Waywarden.Assets.Loader

/-!
# Asset filters are a commutative selection

A list of plain filters keeps the assets that each of them keeps, in the order of the registry:
neither the order of the filters nor their number counts, and one more filter keeps fewer assets.
Under the same conditions `include` and `exclude` part the assets between them.
-/

namespace Waywarden

open FilterExpression

/-- A mapping that parses to an expression whose values are strings or sequences of strings. -/
def Accepted (filter : Mapping) : Prop :=
  ∃ expr, FilterExpression.fromDict filter = .ok expr ∧ Plain expr.select

/-- The filter keeps the asset. -/
def keptBy (filter : Mapping) (asset : AssetMetadata) : Bool :=
  match FilterExpression.fromDict filter with
  | .ok expr => expr.keeps asset
  | .error _ => false

/-- What a list of filters selects from a registry. -/
structure Selection (registry : AssetRegistry) (filters : List Mapping)
    (kept : List AssetMetadata) : Prop where
  returned : registry.applyFilters filters = .ok kept
  sublist : kept.Sublist registry.allAssets
  nodup : kept.Nodup
  mem_iff : ∀ asset, asset ∈ kept ↔ asset ∈ registry.allAssets ∧ ∀ filter ∈ filters,
    ∃ alone, registry.applyFilters [filter] = .ok alone ∧ asset ∈ alone
  kept_iff : ∀ asset, asset ∈ kept ↔
    asset ∈ registry.allAssets ∧ ∀ filter ∈ filters, keptBy filter asset = true
  reordered : ∀ filters', (∀ filter, filter ∈ filters' ↔ filter ∈ filters) →
    registry.applyFilters filters' = .ok kept
  appended : ∀ filter, Accepted filter → ∃ fewer,
    registry.applyFilters (filters ++ [filter]) = .ok fewer ∧ fewer.Sublist kept

/-- Two parts of a list that have every item between them and none in common. -/
structure Parts {α : Type} (xs included excluded : List α) : Prop where
  included_sublist : included.Sublist xs
  excluded_sublist : excluded.Sublist xs
  disjoint : included.Disjoint excluded
  complementary : (included ++ excluded).Perm xs

/-! ## A list of filters -/

/-- The assets of a registry are distinct. -/
lemma AssetRegistry.nodup_allAssets (registry : AssetRegistry) : registry.allAssets.Nodup :=
  registry.keys_nodup.of_map _

lemma Accepted.evaluate_eq {filter : Mapping} (h : Accepted filter) (assets : List AssetMetadata) :
    (do (← FilterExpression.fromDict filter).evaluate assets) =
      .ok (assets.filter (keptBy filter)) := by
  obtain ⟨expr, hexpr, hplain⟩ := h
  have hkept : keptBy filter = expr.keeps := by
    funext asset
    unfold keptBy
    rw [hexpr]
  rw [hexpr, hkept]
  exact FilterExpression.evaluate_eq hplain assets

/-- **What the filters keep together** is what each of them keeps. -/
lemma applyFilters_eq (registry : AssetRegistry) {filters : List Mapping}
    (h : ∀ filter ∈ filters, Accepted filter) :
    registry.applyFilters filters =
      .ok (registry.allAssets.filter fun asset => filters.all (keptBy · asset)) := by
  unfold AssetRegistry.applyFilters
  generalize registry.allAssets = assets
  induction filters generalizing assets with
  | nil => simp [pure, Except.pure]
  | cons filter filters ih =>
      obtain ⟨hfilter, hfilters⟩ := List.forall_mem_cons.mp h
      rw [List.foldlM_cons, hfilter.evaluate_eq]
      refine (ih hfilters _).trans ?_
      rw [List.filter_filter]
      simp only [List.all_cons, Bool.and_comm]

variable {registry : AssetRegistry} {filters : List Mapping}

/-- One filter keeps an asset of the registry exactly when it keeps the asset. -/
lemma mem_alone_iff {filter : Mapping} (hfilter : Accepted filter) {asset : AssetMetadata}
    (hasset : asset ∈ registry.allAssets) :
    (∃ alone, registry.applyFilters [filter] = .ok alone ∧ asset ∈ alone) ↔
      keptBy filter asset = true := by
  rw [applyFilters_eq registry (List.forall_mem_singleton.mpr hfilter)]
  simp only [Except.ok.injEq, exists_eq_left', List.mem_filter, List.all_cons, List.all_nil,
    Bool.and_true, hasset, true_and]

/-- A list of accepted filters is a selection. -/
lemma selection_of_accepted (h : ∀ filter ∈ filters, Accepted filter) :
    Selection registry filters
      (registry.allAssets.filter fun asset => filters.all (keptBy · asset)) where
  returned := applyFilters_eq registry h
  sublist := List.filter_sublist
  nodup := registry.nodup_allAssets.filter _
  mem_iff asset := by
    rw [List.mem_filter, List.all_eq_true]
    apply and_congr_right
    intro hasset
    apply forall₂_congr
    intro filter hfilter
    exact (mem_alone_iff (h filter hfilter) hasset).symm
  kept_iff asset := by rw [List.mem_filter, List.all_eq_true]
  reordered filters' hsame := by
    have h' : ∀ filter ∈ filters', Accepted filter := fun filter hfilter =>
      h filter ((hsame filter).mp hfilter)
    rw [applyFilters_eq registry h']
    congr 2
    funext asset
    rw [Bool.eq_iff_iff, List.all_eq_true, List.all_eq_true]
    simp only [hsame]
  appended filter hfilter := by
    have h' : ∀ f ∈ filters ++ [filter], Accepted f :=
      List.forall_mem_append.mpr ⟨h, List.forall_mem_singleton.mpr hfilter⟩
    refine ⟨_, applyFilters_eq registry h', ?_⟩
    apply List.monotone_filter_right
    intro asset hall
    rw [List.all_append, Bool.and_eq_true] at hall
    exact hall.1

/-! ## Include and exclude -/

/-- The expression that keeps what matches `select`. -/
def including (select : Mapping) : FilterExpression := .new "include" (some select)

/-- The expression that removes what matches `select`. -/
def excluding (select : Mapping) : FilterExpression := .new "exclude" (some select)

lemma including_eq (select : Mapping) : including select = ⟨.includes, select⟩ :=
  new_of_mem (by decide) select

lemma excluding_eq (select : Mapping) : excluding select = ⟨.excludes, select⟩ :=
  new_of_mem (by decide) select

variable {select : Mapping}

/-- What `exclude` keeps is what `include` leaves. -/
lemma keeps_excluding (hselect : Plain select) (asset : AssetMetadata) :
    (excluding select).keeps asset = !(including select).keeps asset := by
  rw [excluding_eq, including_eq]
  have hinclude : Plain (⟨.includes, select⟩ : FilterExpression).select := hselect
  obtain ⟨b, hb⟩ := exists_matchesAsset hinclude asset
  have hexclude : (⟨.excludes, select⟩ : FilterExpression).matchesAsset asset = .ok b := hb
  unfold keeps
  rw [hb, hexclude]

/-- The two expressions part every list. -/
lemma exists_parts (hselect : Plain select) (assets : List AssetMetadata) :
    ∃ included excluded, (including select).evaluate assets = .ok included ∧
      (excluding select).evaluate assets = .ok excluded ∧ Parts assets included excluded := by
  have hinclude : Plain (including select).select := by
    rw [including_eq]
    exact hselect
  have hexclude : Plain (excluding select).select := by
    rw [excluding_eq]
    exact hselect
  have hrest : assets.filter (excluding select).keeps =
      assets.filter fun asset => !(including select).keeps asset :=
    List.filter_congr fun asset _ => keeps_excluding hselect asset
  refine ⟨_, _, evaluate_eq hinclude assets, evaluate_eq hexclude assets, ?_⟩
  rw [hrest]
  refine ⟨List.filter_sublist, List.filter_sublist, ?_, List.filter_append_perm _ _⟩
  intro asset hincluded hexcluded
  rw [List.mem_filter] at hincluded hexcluded
  rw [hincluded.2] at hexcluded
  cases hexcluded.2

/-- **Asset filters are a commutative selection**, and `include` and `exclude` complement each
other. -/
theorem applyFilters_selection (registry : AssetRegistry) {filters : List Mapping}
    (h : ∀ filter ∈ filters, Accepted filter) :
    (∃ kept, Selection registry filters kept) ∧
      ∀ select, select ≠ [] → Plain select → ∀ assets, ∃ included excluded,
        (including select).evaluate assets = .ok included ∧
        (excluding select).evaluate assets = .ok excluded ∧ Parts assets included excluded :=
  ⟨⟨_, selection_of_accepted h⟩, fun _ _ hselect assets => exists_parts hselect assets⟩

/-- A registry of two widgets. -/
def widgetRegistry : AssetRegistry where
  assets := [⟨⟨"dashboard-widget", by decide⟩, .widget, [.lit "ea", .lit "ui"], []⟩,
    ⟨⟨"task-flow-widget", by decide⟩, .widget, [.lit "developer", .lit "ui"], [.lit "model"]⟩]
  keys_nodup := by decide

/-- The widgets without the ones of the assistant. -/
def codingFilters : List Mapping :=
  [[("op", .str " Include "), ("tags", .list [.str "ui"]), ("providers", .null)],
    [("op", .str "exclude"), ("tags", .str "ea")]]

lemma accepted_codingFilters : ∀ filter ∈ codingFilters, Accepted filter := by
  unfold codingFilters
  refine List.forall_mem_cons.mpr ⟨⟨_, fromDict_eq_ok_iff.mpr ⟨" Include ", rfl, ?_, rfl⟩, ?_⟩,
    List.forall_mem_singleton.mpr ⟨_, fromDict_eq_ok_iff.mpr ⟨"exclude", rfl, ?_, rfl⟩, ?_⟩⟩
  · decide +kernel
  · exact List.forall_mem_singleton.mpr (List.forall_mem_singleton.mpr ⟨"ui", rfl⟩)
  · decide +kernel
  · exact List.forall_mem_singleton.mpr trivial

theorem widgetRegistry_selection :
    (∃ kept, Selection widgetRegistry codingFilters kept) ∧
      ∀ select, select ≠ [] → Plain select → ∀ assets, ∃ included excluded,
        (including select).evaluate assets = .ok included ∧
        (excluding select).evaluate assets = .ok excluded ∧ Parts assets included excluded :=
  applyFilters_selection widgetRegistry accepted_codingFilters

end Waywarden
