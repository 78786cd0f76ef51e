import Waywarden.Properties.HydratedViews
import Waywarden.Properties.RoutineTasks
import Waywarden.Properties.WrittenAssets

/-!
# From the asset files to the records

The chain from the files of a profile to what a routine does: asset files make a registry, the
hydration selects from it, the surface runs a routine by its id, and a handler works on the store.
An id has an effect only if one asset file, and one alone, declares it as a routine that every
filter of the profile keeps; the effect is that of the handler of the id (`routine_of_files`).
-/

namespace Waywarden

open AssetRegistry (assetReader readAsset loadFromDir)

variable {T : DigitKinds}

/-- What the routine surface gets of an asset. -/
def ShownAs (asset : AssetMetadata) (shown : ResolvedAsset) : Prop :=
  shown.kind = asset.kind ∧ shown.id = asset.id.val

/-- The asset is declared as a routine of the id by one of the files, and by no other asset of the
files; it passes the filters of the profile file. -/
structure CheckedRoutine (E : AssetEnv) (content : AssetsDir) (raw : Mapping) (assetId : String)
    (asset : AssetMetadata) : Prop where
  kind : asset.kind = .routine
  id : asset.id.val = assetId
  declared : ∃ files, content = .files files ∧
    (∃ path data full, (path, .parsed (.dict data)) ∈ files ∧
      Asset.fromDict E data = .ok full ∧ full.base.toAssetMetadata = asset) ∧
    ∀ file ∈ files, ∀ other, readAsset (assetReader E) file = .ok other → other.kind = .routine →
      other.id.val = assetId → other = asset
  passes : ∃ exprs, Expressions (filtersOf raw) exprs ∧
    FilterExpression.passes exprs asset = .ok true

variable {E : AssetEnv} {root path : String} {content : AssetsDir} {raw : Mapping}
  {given : Option (ProfileRegistry T)} {extensions : Option ExtensionRegistry}
  {view : ProfileView T} {assetId : String}

/-- A routine of a view is a checked one. -/
lemma checked_of_mem
    (hselects : Selects (filtersOf raw) (loadFromDir (assetReader E) {} root content) view)
    {asset : AssetMetadata} (hmem : asset ∈ view.resolvedAssets) (hkind : asset.kind = .routine)
    (hid : asset.id.val = assetId) : CheckedRoutine E content raw assetId asset := by
  obtain ⟨files, assets, hcontent, -, hread, hnodup, hall⟩ :=
    AssetRegistry.loadFromDir_valid_iff.mp hselects.1
  have htruthy := hselects.truthy (List.ne_nil_of_mem hmem)
  obtain ⟨-, exprs, hexprs, hkept⟩ := hselects.2.1 htruthy
  obtain ⟨p, hp, hresolved⟩ := Effect.except_filterM_eq_ok_iff.mp hkept
  rw [hresolved, List.mem_filter] at hmem
  rw [hall] at hp hmem
  obtain ⟨hasset, hfile_of⟩ := Collect.exists_partner hread
  obtain ⟨⟨path, file⟩, hfile, hdeclared⟩ := hfile_of asset hmem.1
  obtain ⟨data, full, rfl, hfull, hsame⟩ := AssetRegistry.readAsset_eq_ok_iff.mp hdeclared
  refine ⟨hkind, hid, ⟨files, hcontent, ⟨path, data, full, hfile, hfull, hsame⟩, ?_⟩, exprs,
    hexprs, ?_⟩
  · intro file hfile other hother hother_kind hother_id
    obtain ⟨found, hfound, hsame⟩ := hasset file hfile
    obtain rfl : other = found := Except.ok.inj (hother.symm.trans hsame)
    refine List.inj_on_of_nodup_map hnodup hfound hmem.1 ?_
    unfold AssetMetadata.key
    rw [hkind, hother_kind, Subtype.ext (hother_id.trans hid.symm)]
  · rw [hp asset hmem.1, hmem.2]

/-- What is resolved for the surface is a routine of the view. -/
lemma exists_of_resolved {assets : List AssetMetadata} {resolved : List ResolvedAsset}
    (hshown : List.Forall₂ ShownAs assets resolved)
    (h : EACoroutine.Resolved resolved assetId) :
    ∃ asset ∈ assets, asset.kind = .routine ∧ asset.id.val = assetId := by
  obtain ⟨shown, hmem, hkind, hid⟩ := h
  obtain ⟨asset, hasset, hshows⟩ := (Collect.exists_partner hshown).2 shown hmem
  exact ⟨asset, hasset, hshows.1.symm.trans hkind, hshows.2.symm.trans hid⟩

open EACoroutine in
/-- **From the files to the records.**  The assets of a directory of files and a profile file are
hydrated, and the surface is asked for any id, with any arguments.  If it returns, the id belongs to
a checked routine, and the result is that of the handler of the id.  If it raises, the store is as
it was, or the id belongs to a checked routine.  Either way a store that changed was touched as the
handler of the id touches it. -/
theorem routine_of_files (hview : hydrateEaProfile T path (.parsed (.dict raw)) given
      (loadFromDir (assetReader E) {} root content) extensions = .ok view)
    {resolved : List ResolvedAsset} (hshown : List.Forall₂ ShownAs view.resolvedAssets resolved)
    (C : Lowercase.CaseTable) (fmt : DateFormat) (env : ℕ → ℕ → Env) (routines : EACoroutine)
    (assetId : String) (args : RoutineArgs) (s : Store) :
    Effect.wp (routines.execute C fmt env assetId resolved args)
      (fun result s' => (∃ asset, CheckedRoutine E content raw assetId asset) ∧
        handlerOf assetId = some (handlerOfResult result) ∧
        (s' = s ∨ Touches args s s' (handlerOfResult result)))
      (fun _ s' => s' = s ∨ (∃ asset, CheckedRoutine E content raw assetId asset) ∧
        ∃ handler, handlerOf assetId = some handler ∧ Touches args s s' handler) s := by
  obtain ⟨found, hfile, -, hselects, -⟩ := hydrateEaProfile_eq_ok_iff.mp hview
  obtain rfl : raw = found := Value.dict.inj (YamlFile.parsed.inj hfile)
  have hchecked : EACoroutine.Resolved resolved assetId →
      ∃ asset, CheckedRoutine E content raw assetId asset := by
    intro h
    obtain ⟨asset, hmem, hkind, hid⟩ := exists_of_resolved hshown h
    exact ⟨asset, checked_of_mem hselects hmem hkind hid⟩
  refine (execute_confined C fmt env routines assetId resolved args s).mono
    (fun result s' h => ?_) fun e s' h => ?_
  · obtain ⟨hresolved, hhandler, hconfined⟩ := h
    refine ⟨hchecked hresolved, hhandler, ?_⟩
    rcases hconfined with hsame | ⟨-, handler, hfound, htouches⟩
    · exact .inl hsame
    · obtain rfl := Option.some.inj (hhandler.symm.trans hfound)
      exact .inr htouches
  · rcases h with hsame | ⟨hresolved, hhandler⟩
    · exact .inl hsame
    · exact .inr ⟨hchecked hresolved, hhandler⟩

/-! ## A first routine -/

/-- The file of the briefing. -/
def briefingFiles : AssetsDir :=
  .files [("assets/routines/ea-briefing/asset.yaml", .parsed (.dict briefingData))]

/-- A filter that keeps every asset. -/
def includeAll : Mapping := [("op", .str "include")]

/-- The fake profile with this filter. -/
def briefingProfile : Mapping :=
  fakeProfile.dict ++ ((some (.list [.dict includeAll])).map fun value =>
    ("asset_filters", value)).toList

/-- The view. -/
def briefingView : ProfileView asciiKinds where
  descriptor := fakeProfile
  assetFilters := .list [.dict includeAll]
  resolvedAssets := [briefingAsset]

lemma hydrate_briefingView :
    hydrateEaProfile asciiKinds "profiles/ea/profile.yaml" (.parsed (.dict briefingProfile)) none
      (loadFromDir (assetReader .ascii) {} "assets" briefingFiles) none = .ok briefingView := by
  have hdeclares := loadProfileDescriptor_dict "profiles/ea/profile.yaml" fakeProfile
    (some (.list [.dict includeAll]))
  have hload : (loadFromDir (assetReader .ascii) {} "assets" briefingFiles).allAssets =
      [briefingAsset] := by decide +kernel
  have hvalid : (loadFromDir (assetReader .ascii) {} "assets" briefingFiles).isValid = true := by
    decide +kernel
  have hop : FilterOp.ofText (normalizeOp "include") = .includes := by decide +kernel
  have hexpr : FilterExpression.fromDict includeAll = .ok ⟨.includes, []⟩ :=
    FilterExpression.fromDict_eq_ok_iff.mpr ⟨"include", rfl, by decide +kernel, by rw [hop]; rfl⟩
  refine hydrateEaProfile_eq_ok_iff.mpr ⟨briefingProfile, rfl,
    ⟨describes_of_declares hdeclares _ _, rfl⟩, ⟨hvalid, fun _ => ⟨rfl, [⟨.includes, []⟩],
      ⟨_, rfl, .cons hexpr .nil⟩, ?_⟩, fun hfalse => absurd hfalse (by decide +kernel)⟩,
    List.cons_ne_nil _ _, fun _ hnone => absurd hnone (by simp)⟩
  rw [hload]
  rfl

open EACoroutine in
/-- The briefing asset, run from its file on an empty store. -/
theorem routine_of_files_briefing :
    hydrateEaProfile asciiKinds "profiles/ea/profile.yaml" (.parsed (.dict briefingProfile)) none
      (loadFromDir (assetReader .ascii) {} "assets" briefingFiles) none = .ok briefingView ∧
    List.Forall₂ ShownAs briefingView.resolvedAssets [⟨.routine, "ea-briefing", [], []⟩] ∧
    Effect.wp ((⟨[], true, false⟩ : EACoroutine).execute EAIboxTriageHandler.asciiCases
        ⟨fun _ => "2026-01-05", fun _ => "2026-01-05T08:00:00+00:00"⟩
        EASchedulerHandler.numberedEnvs "ea-briefing" [⟨.routine, "ea-briefing", [], []⟩] {})
      (fun result s' => (∃ asset, CheckedRoutine .ascii briefingFiles briefingProfile
          "ea-briefing" asset) ∧
        handlerOf "ea-briefing" = some (handlerOfResult result) ∧
        (s' = Store.empty ∨ Touches {} Store.empty s' (handlerOfResult result)))
      (fun _ s' => s' = Store.empty ∨ (∃ asset, CheckedRoutine .ascii briefingFiles
          briefingProfile "ea-briefing" asset) ∧
        ∃ handler, handlerOf "ea-briefing" = some handler ∧ Touches {} Store.empty s' handler)
      Store.empty := by
  have hshown : List.Forall₂ ShownAs briefingView.resolvedAssets
      [⟨.routine, "ea-briefing", [], []⟩] := .cons ⟨rfl, rfl⟩ .nil
  exact ⟨hydrate_briefingView, hshown, routine_of_files hydrate_briefingView hshown _ _ _ _ _ _ _⟩

end Waywarden
