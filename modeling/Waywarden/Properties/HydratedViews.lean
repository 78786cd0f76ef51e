import Waywarden.Profiles.Hydrate
import Waywarden.Properties.ProfileStartup

/-!
# What a hydrated view vouches for

The two hydrations go through exactly for the files that describe the profile of the right id, over
a valid registry of assets; the view has the assets that pass all filters of the file, each judged
on its own (`hydrated_views`).  A profile that a start-up has loaded is hydrated in the same way
from its own file and from the registry of the start-up (`hydration_after_startup`).  A routine that
a view lets run is declared by an asset file, the only one with its id, and has passed every filter
(`routine_of_files`).

Of a file whose required providers are not accepted the two hydrations make different things: one
reports what is wrong, the other raises an error about blank names, whatever was wrong
(`refused_providers`).
-/

namespace Waywarden

variable {T : DigitKinds}

/-! ## What the filters keep -/

namespace FilterExpression

/-- What an expression says of one asset. -/
def judge (expr : FilterExpression) (asset : AssetMetadata) : Except PyError Bool :=
  match expr.op with
  | .includes | .byTag | .byRequiredProvider => expr.matchesAsset asset
  | .excludes => (!·) <$> expr.matchesAsset asset
  | .other _ => .ok true

/-- An expression judges every asset on its own. -/
lemma evaluate_eq_filterM (expr : FilterExpression) (assets : List AssetMetadata) :
    expr.evaluate assets = assets.filterM expr.judge := by
  unfold evaluate judge
  cases expr.op with
  | other text =>
      have hall : assets.filter (fun _ => true) = assets := List.filter_eq_self.mpr fun _ _ => rfl
      refine (Effect.except_filterM_eq_ok_iff.mpr ⟨fun _ => true, fun _ _ => rfl, ?_⟩).symm
      exact hall.symm
  | _ => rfl

/-- What some expressions say of one asset, up to the first that does not keep it. -/
def passes : List FilterExpression → AssetMetadata → Except PyError Bool
  | [], _ => .ok true
  | expr :: exprs, asset => do if ← expr.judge asset then passes exprs asset else .ok false

end FilterExpression

/-- The expressions of the filters of a file. -/
def Expressions (filters : Value) (exprs : List FilterExpression) : Prop :=
  ∃ items, iterItems filters = .ok items ∧
    List.Forall₂ (fun item expr => filterOfValue item = .ok expr) items exprs

/-- Some filters, one after the other. -/
lemma foldlM_evaluate_eq_ok_iff {items : List Value} {assets kept : List AssetMetadata} :
    items.foldlM (fun assets item => do (← filterOfValue item).evaluate assets) assets = .ok kept ↔
      ∃ exprs, List.Forall₂ (fun item expr => filterOfValue item = .ok expr) items exprs ∧
        assets.filterM (FilterExpression.passes exprs) = .ok kept := by
  induction items generalizing assets with
  | nil =>
      have hpass : assets.filterM (FilterExpression.passes []) = .ok assets :=
        Effect.except_filterM_eq_ok_iff.mpr
          ⟨fun _ => true, fun _ _ => rfl, (List.filter_eq_self.mpr fun _ _ => rfl).symm⟩
      constructor
      · intro h
        obtain rfl := Except.ok.inj h
        exact ⟨[], .nil, hpass⟩
      · rintro ⟨exprs, hexprs, h⟩
        obtain rfl := List.forall₂_nil_left_iff.mp hexprs
        exact hpass.symm.trans h
  | cons item items ih =>
      rw [List.foldlM_cons, Effect.except_bind_eq_ok]
      constructor
      · rintro ⟨middle, hmiddle, hrest⟩
        obtain ⟨expr, hexpr, heval⟩ := Effect.except_bind_eq_ok.mp hmiddle
        obtain ⟨exprs, hexprs, hkept⟩ := ih.mp hrest
        rw [FilterExpression.evaluate_eq_filterM] at heval
        exact ⟨expr :: exprs, .cons hexpr hexprs,
          Effect.except_filterM_and_eq_ok_iff.mpr ⟨middle, heval, hkept⟩⟩
      · rintro ⟨exprs, hexprs, h⟩
        obtain ⟨expr, rest, hexpr, hrest, rfl⟩ := List.forall₂_cons_left_iff.mp hexprs
        obtain ⟨middle, heval, hkept⟩ := Effect.except_filterM_and_eq_ok_iff.mp h
        rw [← FilterExpression.evaluate_eq_filterM] at heval
        exact ⟨middle, Effect.except_bind_eq_ok.mpr ⟨expr, hexpr, heval⟩,
          ih.mpr ⟨rest, hrest, hkept⟩⟩

/-- **What filters keep**: every asset is judged on its own. -/
lemma applyFilterValues_eq_ok_iff {registry : AssetRegistry} {filters : Value}
    {kept : List AssetMetadata} : applyFilterValues registry filters = .ok kept ↔
      ∃ exprs, Expressions filters exprs ∧
        registry.allAssets.filterM (FilterExpression.passes exprs) = .ok kept := by
  unfold applyFilterValues Expressions
  rw [Effect.except_bind_eq_ok]
  constructor
  · rintro ⟨items, hitems, h⟩
    obtain ⟨exprs, hexprs, hkept⟩ := foldlM_evaluate_eq_ok_iff.mp h
    exact ⟨exprs, ⟨items, hitems, hexprs⟩, hkept⟩
  · rintro ⟨exprs, ⟨items, hitems, hexprs⟩, hkept⟩
    exact ⟨items, hitems, foldlM_evaluate_eq_ok_iff.mpr ⟨exprs, hexprs, hkept⟩⟩

/-- The assets of a view: of a valid registry those that pass the filters, and none if there are no
filters. -/
def Selects (filters : Value) (registry : AssetRegistry) (view : ProfileView T) : Prop :=
  registry.isValid = true ∧
    (filters.truthy = true → view.assetFilters = filters ∧ ∃ exprs, Expressions filters exprs ∧
      registry.allAssets.filterM (FilterExpression.passes exprs) = .ok view.resolvedAssets) ∧
    (filters.truthy = false → view.assetFilters = .list [] ∧ view.resolvedAssets = [])

lemma selects_iff {filters : Value} {registry : AssetRegistry} {view : ProfileView T} :
    Selects filters registry view ↔ registry.errors = [] ∧
      resolveAssets registry filters = .ok view.resolvedAssets ∧
      viewFilters filters = view.assetFilters := by
  unfold Selects resolveAssets viewFilters AssetRegistry.isValid
  rw [List.isEmpty_iff]
  refine and_congr_right fun hvalid => ?_
  rw [hvalid, List.isEmpty_nil, Bool.and_true]
  by_cases hfilters : filters.truthy = true
  · rw [hfilters, if_pos rfl, if_pos rfl, applyFilterValues_eq_ok_iff]
    simp only [forall_const, Bool.true_eq_false, false_imp_iff, and_true]
    rw [and_comm, eq_comm]
  · rw [Bool.not_eq_true] at hfilters
    rw [hfilters, if_neg Bool.false_ne_true, if_neg Bool.false_ne_true, Except.ok.injEq]
    simp only [forall_const, Bool.false_eq_true, false_imp_iff, true_and]
    rw [and_comm, eq_comm (a := view.assetFilters), eq_comm (a := view.resolvedAssets)]

/-! ## The profile of a hydration -/

/-- The file describes the profile; what it does not say is a default. -/
def Describes (raw : Mapping) (defaultId defaultName : String) (profile : ProfileDescriptor T) :
    Prop :=
  ∃ providers, rawProviders raw = .ok providers ∧
    rawDescriptor T raw defaultId defaultName (setting raw "supported_extensions" (.list []))
      providers = .ok profile

/-- The id of the executive assistant. -/
def eaId : Text := Text.lit "ea" strip_ea

/-- The id of the coding profile. -/
def codingId : Text := Text.lit "coding" strip_coding

/-- The profile of a name: that of the registry that is given, and else the one that the file
describes. -/
def Profiled (given : Option (ProfileRegistry T)) (raw : Mapping)
    (defaultId defaultName name : String) (profile : ProfileDescriptor T) : Prop :=
  match given with
  | some registry => registry.getItem name = .ok profile
  | none => Describes raw defaultId defaultName profile ∧ profile.id.val = name

lemma exists_singleRegistry (profile : ProfileDescriptor T) :
    ∃ registry, singleRegistry T profile = .ok registry ∧ registry.descriptors = [profile] := by
  have hnodup : ([profile].map ProfileDescriptor.id).Nodup := List.nodup_singleton _
  exact ProfileRegistry.new_of_nodup hnodup

/-- The registry of one profile. -/
lemma singleRegistry_eq_ok_iff {profile : ProfileDescriptor T} {registry : ProfileRegistry T} :
    singleRegistry T profile = .ok registry ↔ registry.descriptors = [profile] := by
  obtain ⟨made, hmade, hdescriptors⟩ := exists_singleRegistry profile
  rw [hmade, Except.ok.injEq]
  constructor
  · rintro rfl
    exact hdescriptors
  · intro h
    exact ProfileRegistry.eq_of_descriptors (hdescriptors.trans h.symm)

/-- The end of both builds. -/
lemma registered_eq_ok_iff {descriptor : Except PyError (ProfileDescriptor T)}
    {errors errors' : List ErrorLine} {registry : ProfileRegistry T} :
    (do
      let descriptor ← descriptor
      let registry ← singleRegistry T descriptor
      pure (registry, errors)) = Except.ok (registry, errors') ↔
      errors = errors' ∧
        ∃ profile, descriptor = .ok profile ∧ registry.descriptors = [profile] := by
  rw [Effect.except_bind_eq_ok]
  constructor
  · rintro ⟨profile, hprofile, h⟩
    obtain ⟨made, hmade, hlast⟩ := Effect.except_bind_eq_ok.mp h
    obtain ⟨rfl, rfl⟩ := Prod.mk.inj (Except.ok.inj hlast)
    exact ⟨rfl, profile, hprofile, singleRegistry_eq_ok_iff.mp hmade⟩
  · rintro ⟨rfl, profile, hprofile, hdescriptors⟩
    exact ⟨profile, hprofile,
      Effect.except_bind_eq_ok.mpr ⟨registry, singleRegistry_eq_ok_iff.mpr hdescriptors, rfl⟩⟩

lemma new_blank : RequiredProviders.new (.str "") (.str "") (.str "") (.tuple []) (.tuple [])
    (.str "") = .error ⟨.valueError, "% must not be blank", ["required_providers.model"]⟩ := rfl

lemma buildEaRegistry_eq_ok_iff {raw : Mapping} {registry : ProfileRegistry T} :
    buildEaRegistry T raw = .ok (registry, []) ↔
      ∃ profile, Describes raw "ea-noop" "EA No-Op" profile ∧ registry.descriptors = [profile] := by
  unfold buildEaRegistry Describes
  rcases hproviders : rawProviders raw with e | providers
  · refine iff_of_false ?_ ?_
    · dsimp only
      rw [new_blank]
      split
      · exact fun h => absurd h (by simp [bind, Except.bind])
      · exact fun h => absurd h (by simp)
    · rintro ⟨profile, ⟨providers, hok, -⟩, -⟩
      exact absurd hok (by simp)
  · refine registered_eq_ok_iff.trans ?_
    simp

lemma buildCodingRegistry_eq_ok_iff {raw : Mapping} {registry : ProfileRegistry T} :
    buildCodingRegistry T raw = .ok (registry, []) ↔
      ∃ profile, Describes raw "coding-noop" "Coding No-Op" profile ∧
        registry.descriptors = [profile] := by
  unfold buildCodingRegistry Describes
  rcases hproviders : rawProviders raw with e | providers
  · refine iff_of_false ?_ ?_
    · dsimp only
      split
      · exact fun h => absurd (registered_eq_ok_iff.mp h).1 (by simp)
      · exact fun h => absurd h (by simp)
    · rintro ⟨profile, ⟨providers, hok, -⟩, -⟩
      exact absurd hok (by simp)
  · refine registered_eq_ok_iff.trans ?_
    simp

lemma ProfileRegistry.getItem_eq_ok_iff {registry : ProfileRegistry T} {name : Text}
    {profile : ProfileDescriptor T} :
    registry.getItem name.val = .ok profile ↔ registry.get? name = some profile := by
  unfold getItem
  rw [requireNonEmptyText_val]
  simp only [bind, Except.bind]
  cases registry.get? name <;> simp

lemma getItem_eq_ok_iff_of_single {registry : ProfileRegistry T} {name : Text}
    {profile found : ProfileDescriptor T} (h : registry.descriptors = [profile]) :
    registry.getItem name.val = .ok found ↔ found = profile ∧ profile.id.val = name.val := by
  rw [ProfileRegistry.getItem_eq_ok_iff]
  unfold ProfileRegistry.get?
  rw [h, KeyedTable.get_cons]
  by_cases hid : profile.id = name
  · rw [if_pos hid, Option.some.injEq, hid]
    simp [eq_comm]
  · rw [if_neg hid]
    have hval : profile.id.val ≠ name.val := fun heq => hid (Subtype.ext heq)
    simp [hval]

lemma loadRawProfile_eq_ok_iff {path : String} {file : YamlFile} {raw : Mapping} :
    loadRawProfile path file = .ok (raw, []) ↔ file = .parsed (.dict raw) := by
  unfold loadRawProfile
  split
  · simp
  · simp
  · simp
  · rename_i value hvalue
    refine iff_of_false (by simp) ?_
    rintro h
    exact hvalue raw (YamlFile.parsed.inj h)

lemma chooseRegistry_eq_ok_iff {given : Option (ProfileRegistry T)} {errors : List ErrorLine}
    {build : Except PyError (ProfileRegistry T × List ErrorLine)} {registry : ProfileRegistry T} :
    chooseRegistry given errors build = .ok (registry, []) ↔
      errors = [] ∧ (given = some registry ∨ given = none ∧ build = .ok (registry, [])) := by
  cases given with
  | some found =>
      have hchoose : chooseRegistry (some found) errors build = .ok (found, errors) := rfl
      rw [hchoose, Except.ok.injEq, Prod.mk.injEq, and_comm]
      simp
  | none =>
      have hchoose : chooseRegistry none errors build = (do
          let built ← build.mapError .raised
          pure (built.1, errors ++ built.2)) := rfl
      rw [hchoose, Effect.except_bind_eq_ok]
      constructor
      · rintro ⟨⟨built, lines⟩, hbuilt, h⟩
        obtain ⟨rfl, hnil⟩ := Prod.mk.inj (Except.ok.inj h)
        obtain ⟨rfl, rfl⟩ := List.append_eq_nil_iff.mp hnil
        exact ⟨rfl, .inr ⟨rfl, mapError_eq_ok_iff.mp hbuilt⟩⟩
      · rintro ⟨rfl, hgiven | ⟨-, hbuilt⟩⟩
        · exact absurd hgiven (by simp)
        · exact ⟨(registry, []), mapError_eq_ok_iff.mpr hbuilt, rfl⟩

/-- The profile of the registry that is chosen. -/
lemma profiled_iff {given : Option (ProfileRegistry T)} {raw : Mapping}
    {build : Except PyError (ProfileRegistry T × List ErrorLine)} {defaultId defaultName : String}
    (name : Text) {profile : ProfileDescriptor T}
    (hbuild : ∀ registry, build = .ok (registry, []) ↔
      ∃ described, Describes raw defaultId defaultName described ∧
        registry.descriptors = [described]) :
    (∃ registry, (given = some registry ∨ given = none ∧ build = .ok (registry, [])) ∧
        registry.getItem name.val = .ok profile) ↔
      Profiled given raw defaultId defaultName name.val profile := by
  cases given with
  | some found => simp [Profiled]
  | none =>
      constructor
      · rintro ⟨registry, hgiven | ⟨-, hbuilt⟩, hitem⟩
        · exact absurd hgiven (by simp)
        · obtain ⟨described, hdescribes, hdescriptors⟩ := (hbuild registry).mp hbuilt
          obtain ⟨rfl, hid⟩ := (getItem_eq_ok_iff_of_single hdescriptors).mp hitem
          exact ⟨hdescribes, hid⟩
      · rintro ⟨hdescribes, hid⟩
        obtain ⟨registry, -, hdescriptors⟩ := exists_singleRegistry profile
        exact ⟨registry, .inr ⟨rfl, (hbuild registry).mpr ⟨profile, hdescribes, hdescriptors⟩⟩,
          (getItem_eq_ok_iff_of_single hdescriptors).mpr ⟨rfl, hid⟩⟩

lemma getDescriptor_eq_ok_iff {name title : String} {registry : ProfileRegistry T}
    {errors : List ErrorLine} {profile : ProfileDescriptor T} :
    getDescriptor name title registry errors = .ok profile ↔
      registry.getItem name = .ok profile := by
  unfold getDescriptor
  cases registry.getItem name <;> simp

/-- A profile has the id it goes by. -/
lemma Profiled.id_eq {given : Option (ProfileRegistry T)} {raw : Mapping}
    {defaultId defaultName : String} {name : Text} {profile : ProfileDescriptor T}
    (h : Profiled given raw defaultId defaultName name.val profile) : profile.id = name := by
  cases given with
  | some registry => exact KeyedTable.key_of_get (ProfileRegistry.getItem_eq_ok_iff.mp h)
  | none => exact Subtype.ext h.2

/-- **The validation of a hydration**: nothing is reported exactly when every requirement is
supplied. -/
lemma startupErrors_eq_ok_nil_iff {profile : ProfileDescriptor T}
    {extensions : Option ExtensionRegistry} :
    startupErrors profile.id.val profile extensions = .ok [] ↔
      ∀ registry ∈ extensions, ∀ need ∈ profile.requiredProviders.needs,
        Supplies registry need := by
  cases extensions with
  | none => simp [startupErrors]
  | some registry =>
      obtain ⟨single, hsingle, hdescriptors⟩ := exists_singleRegistry profile
      have hnew : ProfileRegistry.new [(profile.id.val, profile)] = .ok single := hsingle
      obtain ⟨lines, hlines, hnil⟩ := validateProfileStartup_spec single registry
      unfold startupErrors
      rw [hnew]
      simp only [bind, Except.bind, hlines, Except.ok.injEq, hnil]
      unfold AllSupplied
      rw [hdescriptors]
      simp

lemma missingAssets_eq_nil_iff {filters : Value} {resolved : List AssetMetadata} :
    missingAssets filters resolved [] = [] ↔ filters.truthy = true ∧ resolved ≠ [] := by
  unfold missingAssets
  rw [List.isEmpty_nil, Bool.and_true, Bool.and_true]
  cases filters.truthy with
  | false => simp
  | true =>
      cases resolved with
      | nil => simp
      | cons asset assets => simp

/-! ## The hydrations -/

/-- The filters of a file. -/
def filtersOf (raw : Mapping) : Value := setting raw "asset_filters" (.list [])

/-- The view of the executive assistant, over what it was made from. -/
def IsEaView (file : YamlFile) (given : Option (ProfileRegistry T)) (assets : AssetRegistry)
    (extensions : Option ExtensionRegistry) (view : ProfileView T) : Prop :=
  ∃ raw, file = .parsed (.dict raw) ∧
    Profiled given raw "ea-noop" "EA No-Op" "ea" view.descriptor ∧
    Selects (filtersOf raw) assets view ∧ view.resolvedAssets ≠ [] ∧
    ∀ registry ∈ extensions, ∀ need ∈ view.descriptor.requiredProviders.needs,
      Supplies registry need

/-- The view of the coding profile. -/
def IsCodingView (file : YamlFile) (given : Option (ProfileRegistry T)) (assets : AssetRegistry)
    (view : ProfileView T) : Prop :=
  ∃ raw, file = .parsed (.dict raw) ∧
    Profiled given raw "coding-noop" "Coding No-Op" "coding" view.descriptor ∧
    Selects (filtersOf raw) assets view

variable {path : String} {file : YamlFile} {given : Option (ProfileRegistry T)}
  {assets : AssetRegistry} {extensions : Option ExtensionRegistry} {view : ProfileView T}

/-- A view has an asset only if there are filters. -/
lemma Selects.truthy {filters : Value} (h : Selects filters assets view)
    (hne : view.resolvedAssets ≠ []) : filters.truthy = true := by
  by_contra hfalse
  exact hne (h.2.2 (by simpa using hfalse)).2

/-- The beginning of a hydration, without an error. -/
lemma profile_of_clean {raw : Mapping} {lines errors : List ErrorLine}
    {registry : ProfileRegistry T} {profile : ProfileDescriptor T} (name : Text)
    {title defaultId defaultName : String}
    {build : Except PyError (ProfileRegistry T × List ErrorLine)}
    (hbuild : ∀ registry, build = .ok (registry, []) ↔
      ∃ described, Describes raw defaultId defaultName described ∧
        registry.descriptors = [described])
    (hraw : loadRawProfile path file = .ok (raw, lines))
    (hchosen : chooseRegistry given lines build = .ok (registry, errors))
    (hdescriptor : getDescriptor name.val title registry errors = .ok profile)
    (hclean : errors = []) :
    file = .parsed (.dict raw) ∧ Profiled given raw defaultId defaultName name.val profile := by
  subst hclean
  obtain ⟨rfl, hgiven⟩ := chooseRegistry_eq_ok_iff.mp hchosen
  exact ⟨loadRawProfile_eq_ok_iff.mp hraw,
    (profiled_iff name hbuild).mp ⟨registry, hgiven, getDescriptor_eq_ok_iff.mp hdescriptor⟩⟩

/-- **When the hydration of the executive assistant goes through**, and the view it makes. -/
lemma hydrateEaProfile_eq_ok_iff :
    hydrateEaProfile T path file given assets extensions = .ok view ↔
      IsEaView file given assets extensions view := by
  have hname : eaId.val = "ea" := rfl
  constructor
  · intro h
    obtain ⟨⟨raw, lines⟩, hraw, h⟩ := Effect.except_bind_eq_ok.mp h
    obtain ⟨⟨registry, errors⟩, hchosen, h⟩ := Effect.except_bind_eq_ok.mp h
    obtain ⟨profile, hdescriptor, h⟩ := Effect.except_bind_eq_ok.mp h
    obtain ⟨startup, hstartup, h⟩ := Effect.except_bind_eq_ok.mp h
    obtain ⟨resolved, hresolved, h⟩ := Effect.except_bind_eq_ok.mp h
    rw [mapError_eq_ok_iff] at hstartup hresolved
    dsimp only at *
    generalize hall : errors ++ startup ++ assets.errors = reported at h
    by_cases hclean : reported ++
        missingAssets (setting raw "asset_filters" (.list [])) resolved reported = []
    · rw [if_neg (not_not_intro hclean)] at h
      obtain rfl := Except.ok.inj h
      obtain ⟨rfl, hmissing⟩ := List.append_eq_nil_iff.mp hclean
      obtain ⟨herrors, hassets⟩ := List.append_eq_nil_iff.mp hall
      obtain ⟨rfl, rfl⟩ := List.append_eq_nil_iff.mp herrors
      obtain ⟨hfile, hprofiled⟩ := profile_of_clean eaId
        (fun _ => buildEaRegistry_eq_ok_iff) hraw hchosen hdescriptor rfl
      have hid := hprofiled.id_eq
      rw [← hname, ← hid, startupErrors_eq_ok_nil_iff] at hstartup
      exact ⟨raw, hfile, hprofiled, selects_iff.mpr ⟨hassets, hresolved, rfl⟩,
        (missingAssets_eq_nil_iff.mp hmissing).2, hstartup⟩
    · rw [if_pos hclean] at h
      exact absurd h (by simp)
  · rintro ⟨raw, rfl, hprofiled, hselects, hne, hsupplied⟩
    obtain ⟨registry, hgiven, hitem⟩ :=
      (profiled_iff eaId fun _ => buildEaRegistry_eq_ok_iff).mpr hprofiled
    have hid : view.descriptor.id = eaId := Profiled.id_eq hprofiled
    have hstartup := startupErrors_eq_ok_nil_iff.mpr hsupplied
    rw [hid, hname] at hstartup
    have htruthy := hselects.truthy hne
    obtain ⟨hassets, hresolved, hfilters⟩ := selects_iff.mp hselects
    refine Effect.except_bind_eq_ok.mpr ⟨(raw, []), rfl, ?_⟩
    refine Effect.except_bind_eq_ok.mpr ⟨(registry, []),
      chooseRegistry_eq_ok_iff.mpr ⟨rfl, hgiven⟩, ?_⟩
    refine Effect.except_bind_eq_ok.mpr ⟨view.descriptor, getDescriptor_eq_ok_iff.mpr hitem, ?_⟩
    refine Effect.except_bind_eq_ok.mpr ⟨[], mapError_eq_ok_iff.mpr hstartup, ?_⟩
    refine Effect.except_bind_eq_ok.mpr ⟨_, mapError_eq_ok_iff.mpr hresolved, ?_⟩
    have hmissing := missingAssets_eq_nil_iff.mpr ⟨htruthy, hne⟩
    dsimp only
    rw [hassets, List.append_nil, List.append_nil, List.nil_append]
    unfold filtersOf at hmissing hfilters
    rw [hmissing, if_neg (not_not_intro rfl), hfilters]
    rfl

/-- **When the hydration of the coding profile goes through.** -/
lemma hydrateCodingProfile_eq_ok_iff :
    hydrateCodingProfile T path file given assets = .ok view ↔
      IsCodingView file given assets view := by
  constructor
  · intro h
    obtain ⟨⟨raw, lines⟩, hraw, h⟩ := Effect.except_bind_eq_ok.mp h
    obtain ⟨⟨registry, errors⟩, hchosen, h⟩ := Effect.except_bind_eq_ok.mp h
    obtain ⟨profile, hdescriptor, h⟩ := Effect.except_bind_eq_ok.mp h
    obtain ⟨resolved, hresolved, h⟩ := Effect.except_bind_eq_ok.mp h
    rw [mapError_eq_ok_iff] at hresolved
    dsimp only at *
    by_cases hclean : errors ++ assets.errors = []
    · rw [if_neg (not_not_intro hclean)] at h
      obtain rfl := Except.ok.inj h
      obtain ⟨rfl, hassets⟩ := List.append_eq_nil_iff.mp hclean
      obtain ⟨hfile, hprofiled⟩ := profile_of_clean codingId
        (fun _ => buildCodingRegistry_eq_ok_iff) hraw hchosen hdescriptor rfl
      exact ⟨raw, hfile, hprofiled, selects_iff.mpr ⟨hassets, hresolved, rfl⟩⟩
    · rw [if_pos hclean] at h
      exact absurd h (by simp)
  · rintro ⟨raw, rfl, hprofiled, hselects⟩
    obtain ⟨registry, hgiven, hitem⟩ :=
      (profiled_iff codingId fun _ => buildCodingRegistry_eq_ok_iff).mpr
        hprofiled
    obtain ⟨hassets, hresolved, hfilters⟩ := selects_iff.mp hselects
    refine Effect.except_bind_eq_ok.mpr ⟨(raw, []), rfl, ?_⟩
    refine Effect.except_bind_eq_ok.mpr ⟨(registry, []),
      chooseRegistry_eq_ok_iff.mpr ⟨rfl, hgiven⟩, ?_⟩
    refine Effect.except_bind_eq_ok.mpr ⟨view.descriptor, getDescriptor_eq_ok_iff.mpr hitem, ?_⟩
    refine Effect.except_bind_eq_ok.mpr ⟨_, mapError_eq_ok_iff.mpr hresolved, ?_⟩
    dsimp only
    unfold filtersOf at hfilters
    rw [hassets, List.append_nil, if_neg (not_not_intro rfl), hfilters]
    rfl

/-- **The views of the two hydrations**, for any file and any registries. -/
theorem hydrated_views (path : String) (file : YamlFile) (given : Option (ProfileRegistry T))
    (assets : AssetRegistry) (extensions : Option ExtensionRegistry) (view : ProfileView T) :
    (hydrateEaProfile T path file given assets extensions = .ok view ↔
      IsEaView file given assets extensions view) ∧
    (hydrateCodingProfile T path file given assets = .ok view ↔
      IsCodingView file given assets view) :=
  ⟨hydrateEaProfile_eq_ok_iff, hydrateCodingProfile_eq_ok_iff⟩

/-! ## After a start-up -/

lemma get_filter_ne {content : Mapping} {key dropped : String} (h : key ≠ dropped) :
    Mapping.get (content.filter fun item => item.1 != dropped) key = content.get key := by
  unfold Mapping.get
  rw [List.find?_filter]
  congr 2
  funext item
  by_cases hkey : item.1 = key
  · simp [hkey, h]
  · simp [hkey]

lemma isSome_of_bindKeywords {cls : String} {required optional : List String} {kwargs : Mapping}
    (h : bindKeywords cls required optional kwargs = .ok ()) :
    ∀ name ∈ required, ∃ value, kwargs.get name = some value := by
  unfold bindKeywords at h
  intro name hname
  by_contra hnone
  have hmissing : name ∈ required.filter fun name => (kwargs.get name).isNone := by
    refine List.mem_filter.mpr ⟨hname, ?_⟩
    rw [Option.isNone_iff_eq_none]
    exact Option.eq_none_iff_forall_ne_some.mpr fun value hvalue => hnone ⟨value, hvalue⟩
  split at h
  · exact absurd h (by simp)
  · split at h
    · rename_i hnil
      rw [hnil] at hmissing
      exact absurd hmissing List.not_mem_nil
    · exact absurd h (by simp)
    · exact absurd h (by simp)

/-- A setting that is there is the argument the loader binds. -/
lemma setting_eq_argument {content : Mapping} {key : String} (hkey : key ≠ "asset_filters")
    (h : ∃ value, Mapping.get (content.filter fun item => item.1 != "asset_filters") key =
      some value) (default : Value) :
    setting content key default =
      argument (content.filter fun item => item.1 != "asset_filters") key := by
  obtain ⟨value, hvalue⟩ := h
  unfold argument setting
  rw [hvalue, ← get_filter_ne hkey, hvalue]
  rfl

/-- The extensions of a descriptor are a tuple by the time it is made. -/
lemma new_eq_ok_tuple {id displayName version supported : Value} {providers : RequiredProviders}
    {profile : ProfileDescriptor T}
    (h : ProfileDescriptor.new T id displayName version supported providers = .ok profile) :
    ∃ items, iterItems supported = .ok items ∧
      ProfileDescriptor.new T id displayName version (.tuple items) providers = .ok profile := by
  obtain ⟨foundId, hid, h⟩ := Effect.except_bind_eq_ok.mp h
  obtain ⟨foundName, hname, h⟩ := Effect.except_bind_eq_ok.mp h
  obtain ⟨foundVersion, hversion, h⟩ := Effect.except_bind_eq_ok.mp h
  obtain ⟨extensions, hextensions, h⟩ := Effect.except_bind_eq_ok.mp h
  obtain ⟨items, hitems, hnormal⟩ := Effect.except_bind_eq_ok.mp hextensions
  exact ⟨items, hitems, Effect.except_bind_eq_ok.mpr ⟨foundId, hid,
    Effect.except_bind_eq_ok.mpr ⟨foundName, hname, Effect.except_bind_eq_ok.mpr ⟨foundVersion,
      hversion, Effect.except_bind_eq_ok.mpr ⟨extensions, hnormal, h⟩⟩⟩⟩⟩

/-- What the loader reads from a file, the hydrations read from it as well. -/
lemma describes_of_declares {path : String} {content : Mapping} {profile : ProfileDescriptor T}
    (h : DeclaresProfile (path, .parsed (.dict content)) profile) (defaultId defaultName : String) :
    Describes content defaultId defaultName profile := by
  unfold DeclaresProfile loadProfileDescriptor at h
  dsimp only at h
  split at h
  · rename_i rawRequiredProviders hproviders
    rw [reporting_eq_ok_iff] at h
    obtain ⟨providers, hread, hprofile⟩ := Effect.except_bind_eq_ok.mp h
    obtain ⟨⟨⟩, hbind, hnew⟩ := Effect.except_bind_eq_ok.mp hprofile
    have hfound := isSome_of_bindKeywords hbind
    obtain ⟨items, hitems, htuple⟩ := new_eq_ok_tuple hnew
    refine ⟨providers, ?_, ?_⟩
    · unfold rawProviders setting
      rw [hproviders]
      exact hread
    · unfold rawDescriptor
      rw [setting_eq_argument (by decide) (hfound "id" (by simp)),
        setting_eq_argument (by decide) (hfound "display_name" (by simp)),
        setting_eq_argument (by decide) (hfound "version" (by simp)),
        setting_eq_argument (by decide) (hfound "supported_extensions" (by simp))]
      exact Effect.except_bind_eq_ok.mpr ⟨items, hitems, htuple⟩
  · exact absurd h (by simp)

/-- A profile that a start-up has loaded from a file is the one of the registry and of the file. -/
structure LoadedFrom (registry : ProfileRegistry T) (extensions : ExtensionRegistry)
    (content : Mapping) (profile : ProfileDescriptor T) : Prop where
  registered : registry.getItem profile.id.val = .ok profile
  described : ∀ defaultId defaultName, Describes content defaultId defaultName profile
  supplied : ∀ need ∈ profile.requiredProviders.needs, Supplies extensions need

lemma loadedFrom_of_startup {dir : String} {files : List (String × ProfileFile)}
    {registry : ProfileRegistry T} {extensions : ExtensionRegistry} {content : Mapping}
    (hstart : loadProfiles T dir (.files files) (some extensions) = .ok registry)
    (hfile : (path, .parsed (.dict content)) ∈ files) :
    ∃ profile, LoadedFrom registry extensions content profile := by
  obtain ⟨profiles, hdeclared, -, hdescriptors, hsupplied⟩ := loadProfiles_eq_ok_iff.mp hstart
  obtain ⟨profile, hprofile, hdeclares⟩ := (Collect.exists_partner hdeclared).1 _ hfile
  have hmem : profile ∈ registry.descriptors := by
    rw [hdescriptors]
    exact (sortProfiles_perm profiles).mem_iff.mpr hprofile
  exact ⟨profile, ProfileRegistry.getItem_of_mem hmem, describes_of_declares hdeclares,
    hsupplied extensions rfl _ hmem⟩

/-- The end of a hydration, once it has its profile and no errors so far. -/
def finishView (missing : Value → List AssetMetadata → List ErrorLine → List ErrorLine)
    (filters : Value) (assets : AssetRegistry) (profile : ProfileDescriptor T) :
    Except HydrationFailure (ProfileView T) := do
  let resolved ← (resolveAssets assets filters).mapError .raised
  let errors := assets.errors ++ missing filters resolved assets.errors
  if errors ≠ [] then .error (.hydration errors) else pure ⟨profile, viewFilters filters, resolved⟩

lemma hydrateEaProfile_eq_finish {raw : Mapping} {profile : ProfileDescriptor T}
    (h : Profiled given raw "ea-noop" "EA No-Op" "ea" profile)
    (hsupplied : ∀ registry ∈ extensions, ∀ need ∈ profile.requiredProviders.needs,
      Supplies registry need) :
    hydrateEaProfile T path (.parsed (.dict raw)) given assets extensions =
      finishView missingAssets (filtersOf raw) assets profile := by
  have hname : eaId.val = "ea" := rfl
  obtain ⟨registry, hgiven, hitem⟩ :=
    (profiled_iff eaId fun _ => buildEaRegistry_eq_ok_iff).mpr h
  have hid : profile.id = eaId := Profiled.id_eq h
  have hstartup := startupErrors_eq_ok_nil_iff.mpr hsupplied
  rw [hid, hname] at hstartup
  have hraw : loadRawProfile path (.parsed (.dict raw)) = .ok (raw, []) := rfl
  have hchosen : chooseRegistry given [] (buildEaRegistry T raw) = .ok (registry, []) :=
    chooseRegistry_eq_ok_iff.mpr ⟨rfl, hgiven⟩
  have hdescriptor : getDescriptor "ea" "EA" registry [] = .ok profile :=
    getDescriptor_eq_ok_iff.mpr hitem
  unfold hydrateEaProfile finishView
  simp only [hraw, hchosen, hdescriptor, hstartup, bind, Except.bind, Except.mapError,
    List.nil_append, filtersOf]
  rfl

lemma hydrateCodingProfile_eq_finish {raw : Mapping} {profile : ProfileDescriptor T}
    (h : Profiled given raw "coding-noop" "Coding No-Op" "coding" profile) :
    hydrateCodingProfile T path (.parsed (.dict raw)) given assets =
      finishView (fun _ _ _ => []) (filtersOf raw) assets profile := by
  obtain ⟨registry, hgiven, hitem⟩ :=
    (profiled_iff codingId fun _ => buildCodingRegistry_eq_ok_iff).mpr h
  have hraw : loadRawProfile path (.parsed (.dict raw)) = .ok (raw, []) := rfl
  have hchosen : chooseRegistry given [] (buildCodingRegistry T raw) = .ok (registry, []) :=
    chooseRegistry_eq_ok_iff.mpr ⟨rfl, hgiven⟩
  have hdescriptor : getDescriptor "coding" "Coding" registry [] = .ok profile :=
    getDescriptor_eq_ok_iff.mpr hitem
  unfold hydrateCodingProfile finishView
  simp only [hraw, hchosen, hdescriptor, bind, Except.bind, Except.mapError, List.nil_append,
    filtersOf, List.append_nil]

/-- The profile by either way. -/
lemma LoadedFrom.profiled {registry : ProfileRegistry T} {known : ExtensionRegistry}
    {content : Mapping} {profile : ProfileDescriptor T}
    (h : LoadedFrom registry known content profile)
    (hgiven : given = none ∨ given = some registry) (defaultId defaultName : String) :
    Profiled given content defaultId defaultName profile.id.val profile := by
  rcases hgiven with rfl | rfl
  · exact ⟨h.described defaultId defaultName, rfl⟩
  · exact h.registered

/-- **A hydration after a start-up** makes what it makes of the file alone.  Of each file the
start-up has loaded it is the same whether the registry of the start-up is given or none, and
whether the extensions of the start-up are given or none: the same view of the same profile, or the
same failure. -/
theorem hydration_after_startup {dir : String} {files : List (String × ProfileFile)}
    {registry : ProfileRegistry T} {known : ExtensionRegistry} {content : Mapping}
    (hstart : loadProfiles T dir (.files files) (some known) = .ok registry)
    (hfile : (path, .parsed (.dict content)) ∈ files) :
    ∃ profile ∈ registry.descriptors, ∀ given, given = none ∨ given = some registry →
      ∀ extensions, extensions = none ∨ extensions = some known → ∀ path assets,
      (profile.id.val = "ea" →
        hydrateEaProfile T path (.parsed (.dict content)) given assets extensions =
          finishView missingAssets (filtersOf content) assets profile) ∧
      (profile.id.val = "coding" →
        hydrateCodingProfile T path (.parsed (.dict content)) given assets =
          finishView (fun _ _ _ => []) (filtersOf content) assets profile) := by
  obtain ⟨profile, hloaded⟩ := loadedFrom_of_startup hstart hfile
  refine ⟨profile, ?_, fun given hgiven extensions hextensions path assets => ⟨fun hid => ?_,
    fun hid => ?_⟩⟩
  · exact KeyedTable.mem_of_get (ProfileRegistry.getItem_eq_ok_iff.mp hloaded.registered)
  · have hprofiled := hloaded.profiled hgiven "ea-noop" "EA No-Op"
    rw [hid] at hprofiled
    refine hydrateEaProfile_eq_finish hprofiled ?_
    rintro found hfound
    rcases hextensions with rfl | rfl
    · exact absurd hfound (by simp)
    · rw [← Option.some.inj hfound]
      exact hloaded.supplied
  · have hprofiled := hloaded.profiled hgiven "coding-noop" "Coding No-Op"
    rw [hid] at hprofiled
    exact hydrateCodingProfile_eq_finish hprofiled

/-- The extension of the fake model, with every capability. -/
def fakeExtension : Extension where
  name := "fake-model"
  version := "1.0.0"
  capabilities := ["model", "memory", "knowledge", "tool", "channel", "tracer"]
  validate _ := .ok ()

/-- A registry that has nothing else. -/
def fakeExtensions : ExtensionRegistry where
  extensions := [fakeExtension]
  names_nodup := List.nodup_singleton _

lemma groups_fakeModel : fakeModel.groups = ("fake-model", some "1.0.0") := by decide +kernel

lemma supplies_fake :
    ∀ need ∈ fakeProfile.requiredProviders.needs, Supplies fakeExtensions need := by
  have hall : ∀ need ∈ fakeProfile.requiredProviders.needs, need.2 = fakeModel ∧
      need.1 ∈ ["model", "memory", "knowledge", "tool", "channel", "tracer"] := by
    simp [RequiredProviders.needs, fakeProfile]
  intro need hneed
  obtain ⟨hmodel, hcapability⟩ := hall need hneed
  refine ⟨fakeExtension, ?_, hcapability, ?_⟩
  · rw [hmodel, groups_fakeModel]
    rfl
  · rw [hmodel, groups_fakeModel]
    rintro version hversion
    exact Option.some.inj hversion

/-- The fake profile after a start-up with the fake model. -/
theorem hydration_after_startup_fake :
    ∃ registry : ProfileRegistry asciiKinds,
      loadProfiles asciiKinds "profiles"
        (.files [("profiles/ea/profile.yaml", .parsed (.dict fakeProfile.dict))])
        (some fakeExtensions) = .ok registry ∧
      ∃ profile ∈ registry.descriptors, ∀ given, given = none ∨ given = some registry →
        ∀ extensions, extensions = none ∨ extensions = some fakeExtensions → ∀ path assets,
        (profile.id.val = "ea" →
          hydrateEaProfile asciiKinds path (.parsed (.dict fakeProfile.dict)) given assets
            extensions = finishView missingAssets (filtersOf fakeProfile.dict) assets profile) ∧
        (profile.id.val = "coding" →
          hydrateCodingProfile asciiKinds path (.parsed (.dict fakeProfile.dict)) given assets =
            finishView (fun _ _ _ => []) (filtersOf fakeProfile.dict) assets profile) := by
  obtain ⟨registry, -, hdescriptors⟩ := exists_singleRegistry fakeProfile
  have hdeclares : DeclaresProfile ("profiles/ea/profile.yaml", .parsed (.dict fakeProfile.dict))
      fakeProfile := by
    have h := loadProfileDescriptor_dict "profiles/ea/profile.yaml" fakeProfile none
    rwa [Option.map_none, Option.toList_none, List.append_nil] at h
  have hstart : loadProfiles asciiKinds "profiles"
      (.files [("profiles/ea/profile.yaml", .parsed (.dict fakeProfile.dict))])
      (some fakeExtensions) = .ok registry := by
    refine loadProfiles_eq_ok_iff.mpr ⟨[fakeProfile], .cons hdeclares .nil,
      List.nodup_singleton _, hdescriptors, ?_⟩
    rintro extensions hextensions profile hprofile
    rw [← Option.some.inj hextensions]
    rw [hdescriptors, List.mem_singleton] at hprofile
    exact hprofile ▸ supplies_fake
  exact ⟨registry, hstart, hydration_after_startup hstart (List.mem_singleton.mpr rfl)⟩

/-! ## Required providers that are not accepted -/

lemma isReported_of_normalizePattern {P : FieldPattern} {fieldName : String} {value : Value}
    {e : PyError} (h : normalizePattern P fieldName value = .error e) : isReported e = true := by
  unfold normalizePattern at h
  split at h
  · refine Effect.except_bind_raises (P := fun e => isReported e = true) ?_ ?_ h
    · intro e he
      unfold requireNonEmptyText at he
      split at he
      · exact Except.error.inj he ▸ rfl
      · exact absurd he (by simp)
    · intro t e he
      unfold checkPattern at he
      split at he
      · exact absurd he (by simp)
      · exact Except.error.inj he ▸ rfl
  · exact Except.error.inj h ▸ rfl

lemma isReported_of_iterItems {value : Value} {e : PyError} (h : iterItems value = .error e) :
    isReported e = true := by
  unfold iterItems at h
  split at h
  · exact absurd h (by simp)
  · exact absurd h (by simp)
  · exact absurd h (by simp)
  · exact absurd h (by simp)
  · exact Except.error.inj h ▸ rfl

lemma isReported_of_distinctItems {P : FieldPattern} {fieldName : String} {values : List Value}
    {e : PyError} (h : distinctItems P fieldName values = .error e) : isReported e = true := by
  have hturn : ∀ (items : Distinct (PatternText P)) (value : Value × ℕ) (e : PyError),
      addItem P fieldName items value = .error e → isReported e = true := by
    intro items value e he
    refine Effect.except_bind_raises (P := fun e => isReported e = true)
      (fun _ => isReported_of_normalizePattern) (fun t e he => ?_) he
    split at he
    · exact Except.error.inj he ▸ rfl
    · exact absurd he (by simp)
  unfold distinctItems at h
  generalize (⟨[], List.nodup_nil⟩ : Distinct (PatternText P)) = items at h
  generalize values.zipIdx = pairs at h
  induction pairs generalizing items e with
  | nil => exact absurd h (by simp [pure, Except.pure])
  | cons pair pairs ih =>
      rw [List.foldlM_cons] at h
      exact Effect.except_bind_raises (hturn items pair) (fun next _ he => ih next he) h

/-- What is wrong with required providers is always a `TypeError` or a `ValueError`. -/
lemma isReported_of_rawProviders {raw : Mapping} {e : PyError} (h : rawProviders raw = .error e) :
    isReported e = true := by
  have hlist : ∀ (fieldName : String) (value : Value) (e : PyError),
      normalizeProviderRefList fieldName value = .error e → isReported e = true := by
    intro fieldName value e he
    unfold normalizeProviderRefList at he
    split at he
    · exact Except.error.inj he ▸ rfl
    · exact Effect.except_bind_raises (fun _ => isReported_of_iterItems)
        (fun _ _ => isReported_of_distinctItems) he
  refine Effect.except_bind_raises (P := fun e => isReported e = true) (fun e he => ?_)
    (fun kwargs e he => ?_) h
  · unfold unpackKeywords at he
    split at he
    · exact absurd he (by simp)
    · exact Except.error.inj he ▸ rfl
  refine Effect.except_bind_raises (P := fun e => isReported e = true) (fun e he => ?_)
    (fun _ e he => ?_) he
  · unfold bindKeywords at he
    split at he
    · exact Except.error.inj he ▸ rfl
    · split at he
      · exact absurd he (by simp)
      · exact Except.error.inj he ▸ rfl
      · exact Except.error.inj he ▸ rfl
  unfold RequiredProviders.new at he
  refine Effect.except_bind_raises (fun _ => isReported_of_normalizePattern) (fun _ e he => ?_) he
  refine Effect.except_bind_raises (fun _ => isReported_of_normalizePattern) (fun _ e he => ?_) he
  refine Effect.except_bind_raises (fun _ => isReported_of_normalizePattern) (fun _ e he => ?_) he
  refine Effect.except_bind_raises (hlist _ _) (fun _ e he => ?_) he
  refine Effect.except_bind_raises (hlist _ _) (fun _ e he => ?_) he
  refine Effect.except_bind_raises (fun _ => isReported_of_normalizePattern) (fun _ e he => ?_) he
  exact absurd he (by simp [pure, Except.pure])

/-- **Of a file whose required providers are not accepted** the hydration of the executive assistant
raises an error about a blank name, whatever was wrong, and the collected errors are lost.  The
coding one reports what was wrong, before anything else, unless another setting or a filter raises;
it never makes a view either. -/
theorem refused_providers {raw : Mapping} {e : PyError} (h : rawProviders raw = .error e)
    (path : String) (assets : AssetRegistry) (extensions : Option ExtensionRegistry) :
    hydrateEaProfile T path (.parsed (.dict raw)) none assets extensions =
      .error (.raised ⟨.valueError, "% must not be blank", ["required_providers.model"]⟩) ∧
    (∀ profile resolved, stubDescriptor T raw = .ok profile →
      resolveAssets assets (filtersOf raw) = .ok resolved →
      ∃ rest, hydrateCodingProfile T path (.parsed (.dict raw)) none assets =
        .error (.hydration (providersLine e :: rest))) ∧
    ∀ view, hydrateCodingProfile T path (.parsed (.dict raw)) none assets ≠ .ok view := by
  have hreported := isReported_of_rawProviders h
  have hraw : loadRawProfile path (.parsed (.dict raw)) = .ok (raw, []) := rfl
  refine ⟨?_, fun profile resolved hstub hresolved => ?_, fun view hview => ?_⟩
  · have hbuild : buildEaRegistry T raw =
        .error ⟨.valueError, "% must not be blank", ["required_providers.model"]⟩ := by
      unfold buildEaRegistry
      rw [h]
      dsimp only
      rw [if_pos hreported, new_blank]
      rfl
    unfold hydrateEaProfile chooseRegistry
    simp only [hraw, hbuild, bind, Except.bind, Except.mapError]
  · obtain ⟨registry, hregistry, hdescriptors⟩ := exists_singleRegistry profile
    have hbuild : buildCodingRegistry T raw = .ok (registry, [providersLine e]) := by
      unfold buildCodingRegistry
      rw [h]
      dsimp only
      rw [if_pos hreported, hstub]
      simp only [bind, Except.bind, hregistry, pure, Except.pure]
    unfold filtersOf at hresolved
    unfold hydrateCodingProfile chooseRegistry getDescriptor
    simp only [hraw, hbuild, hresolved, bind, Except.bind, Except.mapError, pure, Except.pure,
      List.nil_append]
    cases registry.getItem "coding" with
    | error => exact ⟨_, rfl⟩
    | ok found => exact ⟨_, if_pos (List.cons_ne_nil _ _)⟩
  · obtain ⟨content, hcontent, hprofiled, -⟩ := hydrateCodingProfile_eq_ok_iff.mp hview
    obtain ⟨⟨providers, hok, -⟩, -⟩ := hprofiled
    obtain rfl : raw = content := Value.dict.inj (YamlFile.parsed.inj hcontent)
    exact absurd (h.symm.trans hok) (by simp)

/-- A file without required providers. -/
theorem refused_providers_missing :
    rawProviders [("id", .str "coding")] = .error ⟨.typeError,
      "%.__init__() missing % required positional arguments: %",
      ["RequiredProviders", "3", "'model', 'memory', and 'knowledge'"]⟩ ∧
    hydrateEaProfile asciiKinds "profiles/coding/profile.yaml"
        (.parsed (.dict [("id", .str "coding")])) none {} none =
      .error (.raised ⟨.valueError, "% must not be blank", ["required_providers.model"]⟩) := by
  have h : rawProviders [("id", .str "coding")] = .error ⟨.typeError,
      "%.__init__() missing % required positional arguments: %",
      ["RequiredProviders", "3", "'model', 'memory', and 'knowledge'"]⟩ := rfl
  exact ⟨h, (refused_providers h "profiles/coding/profile.yaml" {} none).1⟩

end Waywarden
