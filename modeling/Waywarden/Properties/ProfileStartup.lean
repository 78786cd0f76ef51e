import Waywarden.Profiles.Loader

/-!
# The start-up

A start-up loads the declared extensions and then the profiles, and validates the one against the
other.  The results here say exactly when it goes through, and what there is afterwards.

The extensions a load leaves are the first ones of their names among those that pass their own
check; its report says of every declaration what the registry that is left says
(`declared_extensions`).  A directory of profiles is accepted when every file declares a profile, no
two the same id, and every requirement is supplied (`loadProfiles_eq_ok_iff`); whatever profiles
there are can be written down and loaded again (`written_profiles_load`).  Together: `startup_iff`.
-/

namespace Waywarden

variable {T : DigitKinds}

/-! ## Extensions -/

namespace ExtensionRegistry

/-- A registry that has all of some declarations already is left as it is by another load. -/
lemma run_eq_self {registry : ExtensionRegistry} {declared : List ExtensionDecl}
    (h : ∀ extension ∈ validExtensions declared, (registry.get? extension.name).isSome = true) :
    (Collect.run loadOne registry declared).1 = registry := by
  rw [Collect.run_fst]
  induction declared with
  | nil => rfl
  | cons decl declared ih =>
      have hnext : Collect.next loadOne registry decl = registry := by
        rcases hvalid : validated decl with e | extension
        · exact next_loadOne_of_error hvalid
        · have hmem : extension ∈ validExtensions (decl :: declared) :=
            Collect.mem_values.mpr (hvalid ▸ List.mem_cons_self)
          obtain ⟨existing, hget⟩ := Option.isSome_iff_exists.mp (h extension hmem)
          rw [next_loadOne_of_ok hvalid]
          exact add_eq_self hget
      rw [List.foldl_cons, hnext]
      refine ih fun extension hmem => h extension ?_
      exact Collect.mem_values.mpr (List.mem_cons_of_mem _ (Collect.mem_values.mp hmem))

/-- What a load leaves has all of its declarations. -/
lemma isSome_get?_run (registry : ExtensionRegistry) {declared : List ExtensionDecl}
    {extension : Extension} (h : extension ∈ validExtensions declared) :
    ((Collect.run loadOne registry declared).1.get? extension.name).isSome = true := by
  obtain ⟨first, hfirst⟩ :=
    KeyedTable.exists_get_of_mem (List.mem_map_of_mem (f := Extension.name) h)
  rw [get?_run, hfirst]
  simp

/-- What `load_declared` returns or raises, by its report. -/
def outcomeOf (report : List ErrorLine) : Except (List ErrorLine) Unit :=
  if report = [] then .ok () else .error report

/-- **What a load of declarations leaves and reports.**  Under a name there is what was there, or
the first extension of the name that passes its own check; nothing registered is ever replaced.  The
report has for each declaration, in their order, what the registry that is left says of it.  To load
the declarations again leaves the same registry and reports the same. -/
theorem declared_extensions (registry : ExtensionRegistry) (declared : List ExtensionDecl) :
    (∀ name, (registry.loadDeclared declared).2.get? name = (registry.get? name).or
      (KeyedTable.get Extension.name name (validExtensions declared))) ∧
    (registry.loadDeclared declared).1 =
      outcomeOf (declared.flatMap (blame (registry.loadDeclared declared).2)) ∧
    (registry.loadDeclared declared).2.loadDeclared declared = registry.loadDeclared declared := by
  have hagain : (Collect.run loadOne (Collect.run loadOne registry declared).1 declared).1 =
      (Collect.run loadOne registry declared).1 :=
    run_eq_self fun extension hmem => isSome_get?_run registry hmem
  have houtcome : ∀ start : ExtensionRegistry, start.loadDeclared declared =
      (outcomeOf (declared.flatMap (blame (Collect.run loadOne start declared).1)),
        (Collect.run loadOne start declared).1) := by
    intro start
    rw [← run_snd]
    rfl
  refine ⟨get?_run registry declared, ?_, ?_⟩
  · rw [houtcome]
  · rw [houtcome registry, houtcome, hagain]

end ExtensionRegistry

/-! ## Profiles -/

lemma ProfileRegistry.eq_of_descriptors {registry registry' : ProfileRegistry T}
    (h : registry.descriptors = registry'.descriptors) : registry = registry' := by
  cases registry
  cases registry'
  congr

/-- **The end of a load**, of profiles with different ids. -/
lemma registerProfiles_eq_ok_iff {profiles : List (ProfileDescriptor T)}
    (hnodup : (profiles.map ProfileDescriptor.id).Nodup)
    {extensions : Option ExtensionRegistry} {registry : ProfileRegistry T} :
    registerProfiles T profiles extensions = .ok registry ↔
      registry.descriptors = sortProfiles profiles ∧
        ∀ extension ∈ extensions, AllSupplied registry extension := by
  obtain ⟨made, hmade, hdescriptors⟩ := ProfileRegistry.new_of_nodup (nodup_sortProfiles hnodup)
  have hmade_iff : registry.descriptors = sortProfiles profiles ↔ made = registry := by
    rw [← hdescriptors]
    exact ⟨fun h => ProfileRegistry.eq_of_descriptors h.symm, fun h => by rw [h]⟩
  unfold registerProfiles
  rw [hmade, hmade_iff]
  cases extensions with
  | none =>
      show Except.ok made = Except.ok registry ↔ _
      rw [Except.ok.injEq]
      exact ⟨fun h => ⟨h, fun _ hmem => absurd hmem (by simp)⟩, fun h => h.1⟩
  | some found =>
      obtain ⟨lines, hlines, hnil⟩ := validateProfileStartup_spec made found
      have hall : (∀ extension ∈ some found, AllSupplied registry extension) ↔
          AllSupplied registry found := by simp
      show ((validateProfileStartup made found).mapError .raised >>= fun errors =>
        if errors ≠ [] then Except.error (ProfileFailure.startup errors) else pure made) =
          .ok registry ↔ _
      rw [hlines, hall]
      show (if lines ≠ [] then Except.error (ProfileFailure.startup lines) else Except.ok made) =
        Except.ok registry ↔ _
      by_cases hclean : lines = []
      · rw [if_neg (not_not_intro hclean), Except.ok.injEq]
        constructor
        · rintro rfl
          exact ⟨rfl, hnil.mp hclean⟩
        · exact fun h => h.1
      · rw [if_pos hclean]
        refine iff_of_false (by simp) ?_
        rintro ⟨rfl, hsupplied⟩
        exact hclean (hnil.mpr hsupplied)

lemma mapError_eq_ok_iff {α ε ε' : Type} {x : Except ε α} {f : ε → ε'} {a : α} :
    x.mapError f = .ok a ↔ x = .ok a := by
  cases x <;> simp [Except.mapError]

/-- A directory without errors goes on to the registry. -/
lemma loadProfiles_of_clean {dir : String} {files : List (String × ProfileFile)}
    {byPath : List (String × ProfileDescriptor T)} {extensions : Option ExtensionRegistry}
    (hread : readFiles T files = .ok (byPath.map .ok))
    (hnodup : (byPath.map fun item => item.2.id).Nodup) :
    loadProfiles T dir (.files files) extensions =
      registerProfiles T (byPath.map Prod.snd) extensions := by
  have herrors : Collect.errors (byPath.map (Except.ok (ε := ErrorLine))) = [] := by
    rw [Collect.errors_eq_nil_iff, Collect.values_map_ok]
  unfold loadProfiles
  dsimp only
  rw [hread]
  simp only [Except.mapError, bind, Except.bind, herrors, Collect.values_map_ok,
    collectDuplicateIdErrors_eq_nil_iff.mpr hnodup]
  exact if_neg (by simp)

/-- A directory that is accepted had none. -/
lemma clean_of_loadProfiles {dir : String} {files : List (String × ProfileFile)}
    {extensions : Option ExtensionRegistry} {registry : ProfileRegistry T}
    (h : loadProfiles T dir (.files files) extensions = .ok registry) :
    ∃ byPath : List (String × ProfileDescriptor T), readFiles T files = .ok (byPath.map .ok) ∧
      (byPath.map fun item => item.2.id).Nodup := by
  obtain ⟨outcomes, houtcomes, hrest⟩ := Effect.except_bind_eq_ok.mp h
  rw [mapError_eq_ok_iff] at houtcomes
  by_cases hclean : Collect.errors outcomes ++
      collectDuplicateIdErrors (Collect.values outcomes) = []
  · obtain ⟨herrors, hids⟩ := List.append_eq_nil_iff.mp hclean
    refine ⟨Collect.values outcomes, ?_, collectDuplicateIdErrors_eq_nil_iff.mp hids⟩
    rw [houtcomes, ← Collect.errors_eq_nil_iff.mp herrors]
  · rw [if_pos hclean] at hrest
    exact absurd hrest (by simp)

/-- The profiles of some files, with their paths. -/
lemma exists_byPath {files : List (String × ProfileFile)} {profiles : List (ProfileDescriptor T)}
    (h : List.Forall₂ DeclaresProfile files profiles) :
    ∃ byPath : List (String × ProfileDescriptor T), byPath.map Prod.snd = profiles ∧
      List.Forall₂ (fun file item => item.1 = file.1 ∧ DeclaresProfile file item.2) files
        byPath := by
  induction h with
  | nil => exact ⟨[], rfl, .nil⟩
  | @cons file profile files profiles hdeclares _ ih =>
      obtain ⟨byPath, rfl, hall⟩ := ih
      exact ⟨(file.1, profile) :: byPath, rfl, .cons ⟨rfl, hdeclares⟩ hall⟩

/-- **What `load_profiles` accepts, and what it returns**: every file declares a profile, no two of
them the same id, the registry has these profiles in the order of their ids, and if there are
extensions, they supply every requirement. -/
lemma loadProfiles_eq_ok_iff {dir : String} {files : List (String × ProfileFile)}
    {extensions : Option ExtensionRegistry} {registry : ProfileRegistry T} :
    loadProfiles T dir (.files files) extensions = .ok registry ↔
      ∃ profiles, List.Forall₂ DeclaresProfile files profiles ∧
        (profiles.map ProfileDescriptor.id).Nodup ∧
        registry.descriptors = sortProfiles profiles ∧
        ∀ extension ∈ extensions, AllSupplied registry extension := by
  constructor
  · intro h
    obtain ⟨byPath, hread, hids⟩ := clean_of_loadProfiles h
    have hnodup : ((byPath.map Prod.snd).map ProfileDescriptor.id).Nodup := by
      rw [List.map_map]
      exact hids
    rw [loadProfiles_of_clean hread hids, registerProfiles_eq_ok_iff hnodup] at h
    refine ⟨byPath.map Prod.snd, ?_, hnodup, h⟩
    rw [List.forall₂_map_right_iff]
    exact (readFiles_clean_iff.mp hread).imp fun _ _ hfile => hfile.2
  · rintro ⟨profiles, hdeclared, hnodup, h⟩
    obtain ⟨byPath, rfl, hall⟩ := exists_byPath hdeclared
    have hids : (byPath.map fun item => item.2.id).Nodup := by
      rw [List.map_map] at hnodup
      exact hnodup
    rw [loadProfiles_of_clean (readFiles_clean_iff.mpr hall) hids,
      registerProfiles_eq_ok_iff hnodup]
    exact h

/-- A profile of the registry is found under its id. -/
lemma ProfileRegistry.getItem_of_mem {registry : ProfileRegistry T} {profile : ProfileDescriptor T}
    (h : profile ∈ registry.descriptors) : registry.getItem profile.id.val = .ok profile := by
  have hget : registry.get? profile.id = some profile :=
    KeyedTable.get_of_mem registry.ids_nodup h
  unfold getItem
  rw [requireNonEmptyText_val]
  simp only [bind, Except.bind, hget]

/-- A profile that is written to a file, with filters or without. -/
structure WrittenProfile (T : DigitKinds) where
  path : String
  profile : ProfileDescriptor T
  filters : Option Value := none

/-- The file. -/
def WrittenProfile.file (written : WrittenProfile T) : String × ProfileFile :=
  (written.path, .parsed (.dict (written.profile.dict ++
    (written.filters.map fun value => ("asset_filters", value)).toList)))

lemma declares_written (written : List (WrittenProfile T)) :
    List.Forall₂ DeclaresProfile (written.map WrittenProfile.file)
      (written.map WrittenProfile.profile) := by
  rw [List.forall₂_map_left_iff, List.forall₂_map_right_iff, List.forall₂_same]
  exact fun file _ => loadProfileDescriptor_dict file.path file.profile file.filters

/-- Two sorted lists of the same profiles are one list, when their ids are distinct. -/
lemma eq_of_perm_of_sorted {profiles profiles' : List (ProfileDescriptor T)}
    (h : profiles'.Perm profiles) (hnodup : (profiles.map ProfileDescriptor.id).Nodup)
    (hsorted' : profiles'.Pairwise fun a b => a.id.val ≤ b.id.val)
    (hsorted : profiles.Pairwise fun a b => a.id.val ≤ b.id.val) : profiles' = profiles := by
  refine h.eq_of_pairwise ?_ hsorted' hsorted
  intro a b ha hb hab hba
  have hids : a.id = b.id := Subtype.ext (le_antisymm hab hba)
  exact List.inj_on_of_nodup_map hnodup (h.mem_iff.mp ha) hb hids

/-- Sorting forgets the order of the files. -/
lemma sortProfiles_eq_of_perm {profiles profiles' : List (ProfileDescriptor T)}
    (h : profiles'.Perm profiles) (hnodup : (profiles.map ProfileDescriptor.id).Nodup) :
    sortProfiles profiles' = sortProfiles profiles := by
  have hperm : (sortProfiles profiles').Perm (sortProfiles profiles) :=
    (sortProfiles_perm profiles').trans (h.trans (sortProfiles_perm profiles).symm)
  exact eq_of_perm_of_sorted hperm (nodup_sortProfiles hnodup) (List.pairwise_insertionSort _ _)
    (List.pairwise_insertionSort _ _)

/-- **Profiles can be written down and loaded.**  Profiles with different ids, each in a file of its
own and with any filters beside it, are loaded as they are: there is one registry that every order
of the files gives, it has these profiles and no others, in the order of their ids, and finds each
under its id. -/
theorem written_profiles_load (dir : String) {written : List (WrittenProfile T)}
    (h : (written.map fun file => file.profile.id).Nodup) :
    ∃ registry : ProfileRegistry T,
      (∀ order : List (WrittenProfile T), order.Perm written →
        loadProfiles T dir (.files (order.map WrittenProfile.file)) = .ok registry) ∧
      registry.descriptors.Pairwise (fun a b => a.id.val ≤ b.id.val) ∧
      (∀ profile, profile ∈ registry.descriptors ↔ profile ∈ written.map WrittenProfile.profile) ∧
      ∀ file ∈ written, registry.getItem file.profile.id.val = .ok file.profile := by
  have hids : ((written.map WrittenProfile.profile).map ProfileDescriptor.id).Nodup := by
    rw [List.map_map]
    exact h
  obtain ⟨registry, -, hdescriptors⟩ := ProfileRegistry.new_of_nodup (nodup_sortProfiles hids)
  have hmem : ∀ profile, profile ∈ registry.descriptors ↔
      profile ∈ written.map WrittenProfile.profile := by
    intro profile
    rw [hdescriptors]
    exact (sortProfiles_perm _).mem_iff
  refine ⟨registry, fun order hperm => ?_, ?_, hmem, fun file hfile => ?_⟩
  · have hprofiles := hperm.map WrittenProfile.profile
    refine loadProfiles_eq_ok_iff.mpr ⟨order.map WrittenProfile.profile, declares_written order,
      (hprofiles.map ProfileDescriptor.id).nodup_iff.mpr hids, ?_, fun _ hnone =>
        absurd hnone (by simp)⟩
    rw [hdescriptors]
    exact (sortProfiles_eq_of_perm hprofiles hids).symm
  · rw [hdescriptors]
    exact List.pairwise_insertionSort _ _
  · exact ProfileRegistry.getItem_of_mem ((hmem file.profile).mpr (List.mem_map_of_mem hfile))

/-- The reference to the fake model. -/
def fakeModel : ProviderRef := ⟨Text.lit "fake-model@1.0.0", by decide +kernel⟩

lemma strip_ea : strip "ea" = "ea" ∧ "ea" ≠ "" := ⟨by decide +kernel, by decide⟩

/-- A profile that requires the fake model everywhere. -/
def fakeProfile : ProfileDescriptor asciiKinds where
  id := Text.lit "ea" strip_ea
  displayName := Text.lit "Executive assistant"
  version := ⟨Text.lit "1.0.0", by decide +kernel⟩
  supportedExtensions := ⟨[⟨Text.lit "context_provider", by decide +kernel⟩],
    List.nodup_singleton _⟩
  requiredProviders := ⟨fakeModel, fakeModel, fakeModel, ⟨[fakeModel], List.nodup_singleton _⟩,
    ⟨[], List.nodup_nil⟩, fakeModel⟩
  extensions_ne_nil := List.cons_ne_nil _ _

lemma strip_coding : strip "coding" = "coding" ∧ "coding" ≠ "" := ⟨by decide +kernel, by decide⟩

/-- A profile of another id that requires the same. -/
def codingProfile : ProfileDescriptor asciiKinds :=
  { fakeProfile with id := Text.lit "coding" strip_coding }

/-- The two profiles, the second with filters. -/
def writtenProfiles : List (WrittenProfile asciiKinds) :=
  [⟨"profiles/ea/profile.yaml", fakeProfile, none⟩,
    ⟨"profiles/team/profile.yaml", codingProfile, some (.list [.dict [("op", .str "include")]])⟩]

/-- From both orders of the files comes the registry that begins with the smaller id. -/
theorem written_profiles_load_fake :
    ∃ registry : ProfileRegistry asciiKinds,
      loadProfiles asciiKinds "profiles" (.files (writtenProfiles.map WrittenProfile.file)) =
        .ok registry ∧
      loadProfiles asciiKinds "profiles"
        (.files (writtenProfiles.reverse.map WrittenProfile.file)) = .ok registry ∧
      registry.descriptors = [codingProfile, fakeProfile] ∧
      registry.getItem "ea" = .ok fakeProfile ∧ registry.getItem "coding" = .ok codingProfile := by
  have hids : (writtenProfiles.map fun file => file.profile.id).Nodup := by decide
  obtain ⟨registry, horders, hsorted, hmem, hfinds⟩ := written_profiles_load "profiles" hids
  have hnodup : ([codingProfile, fakeProfile].map ProfileDescriptor.id).Nodup := by decide
  have hboth : ∀ profile,
      profile ∈ registry.descriptors ↔ profile ∈ [codingProfile, fakeProfile] := by
    intro profile
    refine (hmem profile).trans ?_
    exact (List.reverse_perm [codingProfile, fakeProfile]).mem_iff
  have hperm : registry.descriptors.Perm [codingProfile, fakeProfile] :=
    (List.perm_ext_iff_of_nodup registry.ids_nodup.of_map hnodup.of_map).mpr hboth
  have hpair : [codingProfile, fakeProfile].Pairwise fun a b => a.id.val ≤ b.id.val := by
    rw [List.pairwise_pair]
    decide
  have heq := eq_of_perm_of_sorted hperm hnodup hsorted hpair
  refine ⟨registry, horders _ (.refl _), horders _ (List.reverse_perm _), heq, ?_, ?_⟩
  · exact hfinds ⟨"profiles/ea/profile.yaml", fakeProfile, none⟩ List.mem_cons_self
  · exact hfinds ⟨"profiles/team/profile.yaml", codingProfile, _⟩
      (List.mem_cons_of_mem _ List.mem_cons_self)

/-! ## The whole start-up -/

/-- A declaration that is not blamed: its extension passes its own check, in the version of the
first of its name.  A start-up error with an empty list of errors is not seen either. -/
def Passes (declared : List ExtensionDecl) (decl : ExtensionDecl) : Prop :=
  ExtensionRegistry.validated decl = .error (.startup []) ∨
    ∃ extension first, ExtensionRegistry.validated decl = .ok extension ∧
      KeyedTable.get Extension.name extension.name
        (ExtensionRegistry.validExtensions declared) = some first ∧
      first.version = extension.version

/-- The first extension of the name, among the declared ones that pass their check, has the
capability and the version. -/
def DeclaredFor (declared : List ExtensionDecl) (need : String × ProviderRef) : Prop :=
  ∃ extension, KeyedTable.get Extension.name need.2.groups.1
      (ExtensionRegistry.validExtensions declared) = some extension ∧
    need.1 ∈ extension.capabilities ∧ ∀ version ∈ need.2.groups.2, extension.version = version

/-- The registry a start-up loads its extensions into. -/
def startRegistry (declared : List ExtensionDecl) : ExtensionRegistry :=
  (Collect.run ExtensionRegistry.loadOne {} declared).1

lemma get?_startRegistry (declared : List ExtensionDecl) (name : String) :
    (startRegistry declared).get? name =
      KeyedTable.get Extension.name name (ExtensionRegistry.validExtensions declared) :=
  (ExtensionRegistry.get?_run {} declared name).trans Option.none_or

lemma reportLines_eq_nil_iff {name : String} {e : ExtensionError} :
    ExtensionRegistry.reportLines name e = [] ↔ e = .startup [] := by
  cases e <;> simp [ExtensionRegistry.reportLines]

lemma blame_eq_nil_iff {declared : List ExtensionDecl} {decl : ExtensionDecl}
    (h : decl ∈ declared) :
    ExtensionRegistry.blame (startRegistry declared) decl = [] ↔ Passes declared decl := by
  unfold ExtensionRegistry.blame Passes
  rcases hvalid : ExtensionRegistry.validated decl with e | extension
  · simp [reportLines_eq_nil_iff]
  · have hmem : extension ∈ ExtensionRegistry.validExtensions declared :=
      Collect.mem_values.mpr (hvalid ▸ List.mem_map_of_mem h)
    obtain ⟨first, hfirst⟩ :=
      KeyedTable.exists_get_of_mem (List.mem_map_of_mem (f := Extension.name) hmem)
    dsimp only
    rw [get?_startRegistry, hfirst]
    dsimp only
    by_cases hversion : first.version = extension.version
    · rw [if_neg (not_not_intro hversion)]
      exact iff_of_true rfl (.inr ⟨extension, first, rfl, hfirst, hversion⟩)
    · rw [if_pos hversion, reportLines_eq_nil_iff]
      refine iff_of_false (by simp) ?_
      rintro (hbad | ⟨found, first', hfound, hget, hmatch⟩)
      · exact absurd hbad (by simp)
      · obtain rfl := Except.ok.inj hfound
        obtain rfl := Option.some.inj (hfirst.symm.trans hget)
        exact hversion hmatch

/-- **When a start-up goes through.**  The declared extensions load and the profiles are accepted
with them exactly when every declaration passes, every file declares a profile, no two the same id,
and for every slot of every profile the first declared extension of the name passes its own check,
has the capability of the slot and, where one is asked for, the version. -/
theorem startup_iff (dir : String) (files : List (String × ProfileFile))
    (declared : List ExtensionDecl) :
    (((({} : ExtensionRegistry).loadDeclared declared).1 = .ok ()) ∧
      ∃ registry : ProfileRegistry T, loadProfiles T dir (.files files)
        (some (({} : ExtensionRegistry).loadDeclared declared).2) = .ok registry) ↔
    (∀ decl ∈ declared, Passes declared decl) ∧
      ∃ profiles : List (ProfileDescriptor T), List.Forall₂ DeclaresProfile files profiles ∧
        (profiles.map ProfileDescriptor.id).Nodup ∧
        ∀ profile ∈ profiles, ∀ need ∈ profile.requiredProviders.needs,
          DeclaredFor declared need := by
  have hleft : (({} : ExtensionRegistry).loadDeclared declared).2 = startRegistry declared := rfl
  have hreport : ((({} : ExtensionRegistry).loadDeclared declared).1 = .ok ()) ↔
      ∀ decl ∈ declared, Passes declared decl := by
    have hrun := ExtensionRegistry.run_snd {} declared
    unfold ExtensionRegistry.loadDeclared
    dsimp only
    rw [hrun]
    show ((if declared.flatMap (ExtensionRegistry.blame (startRegistry declared)) = [] then _
      else _) = _) ↔ _
    by_cases hclean : declared.flatMap (ExtensionRegistry.blame (startRegistry declared)) = []
    · rw [if_pos hclean]
      rw [List.flatMap_eq_nil_iff] at hclean
      exact iff_of_true rfl fun decl hdecl => (blame_eq_nil_iff hdecl).mp (hclean decl hdecl)
    · rw [if_neg hclean]
      rw [List.flatMap_eq_nil_iff] at hclean
      refine iff_of_false (by simp) fun h => hclean fun decl hdecl => ?_
      exact (blame_eq_nil_iff hdecl).mpr (h decl hdecl)
  have hsupplies : ∀ need, Supplies (startRegistry declared) need ↔ DeclaredFor declared need := by
    intro need
    unfold Supplies DeclaredFor
    rw [get?_startRegistry]
  rw [hreport, hleft]
  refine and_congr_right fun _ => ?_
  constructor
  · rintro ⟨registry, h⟩
    obtain ⟨profiles, hdeclared, hnodup, hdescriptors, hall⟩ := loadProfiles_eq_ok_iff.mp h
    refine ⟨profiles, hdeclared, hnodup, fun profile hprofile need hneed => ?_⟩
    refine (hsupplies need).mp (hall _ rfl profile ?_ need hneed)
    rw [hdescriptors]
    exact (sortProfiles_perm profiles).mem_iff.mpr hprofile
  · rintro ⟨profiles, hdeclared, hnodup, hall⟩
    obtain ⟨registry, -, hdescriptors⟩ := ProfileRegistry.new_of_nodup (nodup_sortProfiles hnodup)
    refine ⟨registry, loadProfiles_eq_ok_iff.mpr ⟨profiles, hdeclared, hnodup, hdescriptors, ?_⟩⟩
    rintro extension hextension profile hprofile need hneed
    obtain rfl := Option.some.inj hextension
    rw [hdescriptors] at hprofile
    exact (hsupplies need).mpr (hall profile ((sortProfiles_perm profiles).mem_iff.mp hprofile)
      need hneed)

end Waywarden
