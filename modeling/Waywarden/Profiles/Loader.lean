import Waywarden.Domain.Profile
import Waywarden.Extensions.Registry

/-!
# Loading profiles

`waywarden.profiles.loader`: the profile files of a directory are read into a registry, and at
start-up the providers the profiles require are looked up among the registered extensions.

Errors are collected over all files and raised together.  Only a `TypeError` or a `ValueError` of a
file is an error of that file, though: any other exception ends the load at once.
-/

namespace Waywarden

open KeyedTable

/-- What reading and parsing a profile file comes to. -/
inductive ProfileFile
  | unreadable (reason : String)
  | malformed (reason : String)
  /-- A mapping with a key that is no string. -/
  | oddKeys
  /-- A mapping whose `required_providers` is a mapping with a key that is no string. -/
  | oddProviderKeys
  | parsed (content : Value)

/-- The directory of the profiles; the files come in the order of their paths, each path once. -/
inductive ProfilesDir
  | missing
  | notADirectory
  | files (files : List (String × ProfileFile))

/-- What `load_profiles` raises. -/
inductive ProfileFailure
  /-- `ProfileLoadError`. -/
  | load (errors : List ErrorLine)
  /-- `ProfileStartupError`. -/
  | startup (errors : List ErrorLine)
  /-- An exception that is not caught. -/
  | raised (e : PyError)

variable (T : DigitKinds)

/-! ## One file -/

/-- `except (TypeError, ValueError)`: the exceptions that become a line of the report. -/
def isReported (e : PyError) : Bool := e.cls == .typeError || e.cls == .valueError

/-- The `try` block about a file. -/
def reporting {α : Type} (path : String) : Except PyError α → Except PyError (Except ErrorLine α)
  | .ok a => .ok (.ok a)
  | .error e =>
      if isReported e then .ok (.error ("%: " ++ e.text, path :: e.values)) else .error e

/-- The settings of a profile file, with those of the required providers. -/
def readDescriptor (content rawRequiredProviders : Mapping) :
    Except PyError (ProfileDescriptor T) := do
  let requiredProviders ← RequiredProviders.ofKeywords rawRequiredProviders
  ProfileDescriptor.ofKeywords T (content.filter fun item => item.1 != "asset_filters")
    requiredProviders

/-- `_load_profile_descriptor`. -/
def loadProfileDescriptor (path : String) :
    ProfileFile → Except PyError (Except ErrorLine (ProfileDescriptor T))
  | .unreadable reason => .ok (.error ("%: unable to read file: %", [path, reason]))
  | .malformed reason => .ok (.error ("%: YAML parse error: %", [path, reason]))
  | .oddKeys => .ok (.error ("%: profile setting names must be strings", [path]))
  | .oddProviderKeys => .ok (.error ("%: required_providers keys must be strings", [path]))
  | .parsed (.dict content) =>
    match Mapping.get content "required_providers" with
    | some (.dict rawRequiredProviders) =>
        reporting path (readDescriptor T content rawRequiredProviders)
    | _ => .ok (.error ("%: required_providers must be a mapping with " ++
        "model/memory/knowledge/tool/channel/tracer fields", [path]))
  | .parsed _ => .ok (.error ("%: expected a mapping of profile settings", [path]))

/-! ## The directory -/

variable {T}

/-- The paths that declare an id. -/
def pathsOf (byPath : List (String × ProfileDescriptor T)) (id : Text) : List String :=
  (byPath.filter fun item => item.2.id == id).map Prod.fst

/-- The ids that are declared, sorted. -/
def declaredIds (byPath : List (String × ProfileDescriptor T)) : List Text :=
  (byPath.map fun item => item.2.id).dedup.insertionSort fun a b => a.val ≤ b.val

/-- `_collect_duplicate_id_errors`. -/
def collectDuplicateIdErrors (byPath : List (String × ProfileDescriptor T)) : List ErrorLine :=
  (declaredIds byPath).filterMap fun id =>
    let paths := pathsOf byPath id
    if paths.length < 2 then none
    else some ("profile id % is declared by multiple files: %", [id.val, ", ".intercalate paths])

/-- Profiles in the order of their ids. -/
def sortProfiles (profiles : List (ProfileDescriptor T)) : List (ProfileDescriptor T) :=
  profiles.insertionSort fun a b => a.id.val ≤ b.id.val

/-! ## The required providers -/

/-- `_required_capabilities_for_slot`. -/
def requiredCapabilitiesForSlot (slot : String) : Except PyError (List String) :=
  if "tool[".toList <+: slot.toList then .ok ["tool"]
  else if "channel[".toList <+: slot.toList then .ok ["channel"]
  else if slot ∈ ["model", "memory", "knowledge", "tracer"] then .ok [slot]
  else .error ⟨.valueError, "unsupported provider slot %", [slot]⟩

/-- A line about a slot of a profile. -/
def slotLine (profileId slot text : String) (values : List String) : ErrorLine :=
  ("profile % required_providers.%: " ++ text, profileId :: slot :: values)

/-- The line about missing capabilities. -/
def missingLines (profileId slot name : String) (required : List String) (extension : Extension) :
    List ErrorLine :=
  let missing := required.filter fun capability => capability ∉ extension.capabilities
  if missing = [] then []
  else [slotLine profileId slot "provider % missing capabilities %" [name, formatSorted missing]]

/-- The line about the version. -/
def versionLines (profileId slot name : String) (extension : Extension) :
    Option String → List ErrorLine
  | none => []
  | some version =>
      if extension.version ≠ version then
        [slotLine profileId slot "provider % version % does not satisfy required version %"
          [name, extension.version, version]]
      else []

/-- The checks of one slot. -/
def checkSlot (registry : ExtensionRegistry) (profileId : String) (slot : String × ProviderRef) :
    Except PyError (List ErrorLine) := do
  let groups ← parseProviderRef (.str slot.2.val.val)
  match registry.get groups.1 with
  | .error _ => pure [slotLine profileId slot.1 "unknown provider %" [groups.1]]
  | .ok extension => do
      let required ← requiredCapabilitiesForSlot slot.1
      pure (missingLines profileId slot.1 groups.1 required extension ++
        versionLines profileId slot.1 groups.1 extension groups.2)

/-- The slots of all profiles, each with the id of its profile. -/
def allSlots (profiles : ProfileRegistry T) : List (String × String × ProviderRef) :=
  profiles.descriptors.flatMap fun profile =>
    profile.requiredProviders.iterProviderSlots.map fun slot => (profile.id.val, slot)

/-- `validate_profile_startup`; the lines of the `ProfileStartupError`, if there are any. -/
def validateProfileStartup (profiles : ProfileRegistry T) (registry : ExtensionRegistry) :
    Except PyError (List ErrorLine) := do
  let lines ← (allSlots profiles).mapM fun slot => checkSlot registry slot.1 slot.2
  pure lines.flatten

variable (T)

/-- The files of a directory, one after the other. -/
def readFiles (files : List (String × ProfileFile)) :
    Except PyError (List (Except ErrorLine (String × ProfileDescriptor T))) :=
  files.mapM fun file => do
    let outcome ← loadProfileDescriptor T file.1 file.2
    pure (outcome.map fun profile => (file.1, profile))

/-- The end of `load_profiles`: the registry, validated if there are extensions to validate it
with. -/
def registerProfiles (profiles : List (ProfileDescriptor T))
    (extensionRegistry : Option ExtensionRegistry) : Except ProfileFailure (ProfileRegistry T) := do
  let registry ← (ProfileRegistry.new
    ((sortProfiles profiles).map fun profile => (profile.id.val, profile))).mapError .raised
  match extensionRegistry with
  | none => pure registry
  | some extensions => do
      let errors ← (validateProfileStartup registry extensions).mapError .raised
      if errors ≠ [] then .error (.startup errors) else pure registry

/-- `load_profiles`. -/
def loadProfiles (dir : String) (content : ProfilesDir)
    (extensionRegistry : Option ExtensionRegistry := none) :
    Except ProfileFailure (ProfileRegistry T) :=
  match content with
  | .missing => .error (.load [("%: profiles directory not found", [dir])])
  | .notADirectory => .error (.load [("%: profiles path is not a directory", [dir])])
  | .files files => do
      let outcomes ← (readFiles T files).mapError .raised
      let byPath := Collect.values outcomes
      let errors := Collect.errors outcomes ++ collectDuplicateIdErrors byPath
      if errors ≠ [] then .error (.load errors)
      else registerProfiles T (byPath.map Prod.snd) extensionRegistry

/-! ## What a file declares -/

variable {T}

lemma reporting_eq_ok_iff {α : Type} {path : String} {x : Except PyError α} {a : α} :
    reporting path x = .ok (.ok a) ↔ x = .ok a := by
  cases x with
  | ok b =>
      show Except.ok (Except.ok b) = Except.ok (Except.ok a) ↔ _
      rw [Except.ok.injEq, Except.ok.injEq, Except.ok.injEq]
  | error e =>
      have hne : reporting path (.error e) ≠ .ok (.ok a) := by
        show (if isReported e = true then
          Except.ok (Except.error ("%: " ++ e.text, path :: e.values)) else Except.error e) ≠ _
        split <;> simp
      exact iff_of_false hne (by simp)

/-- A mapping with required providers is read, and what is wrong with it is reported. -/
lemma loadProfileDescriptor_of_get {path : String} {content rawRequiredProviders : Mapping}
    (h : content.get "required_providers" = some (.dict rawRequiredProviders)) :
    loadProfileDescriptor T path (.parsed (.dict content)) =
      reporting path (readDescriptor T content rawRequiredProviders) := by
  unfold loadProfileDescriptor
  dsimp only
  rw [h]

/-- **A profile that is written down is read back**, whatever filters are added to it. -/
lemma loadProfileDescriptor_dict (path : String) (profile : ProfileDescriptor T)
    (filters : Option Value) :
    loadProfileDescriptor T path (.parsed (.dict (profile.dict ++
      (filters.map fun value => ("asset_filters", value)).toList))) = .ok (.ok profile) := by
  have hproviders : Mapping.get (profile.dict ++
      (filters.map fun value => ("asset_filters", value)).toList) "required_providers" =
        some (.dict profile.requiredProviders.dict) := rfl
  have hfilter : (profile.dict ++ (filters.map fun value => ("asset_filters", value)).toList).filter
      (fun item => item.1 != "asset_filters") = profile.dict := by
    rw [List.filter_append]
    cases filters with
    | none => exact List.append_nil _
    | some value => rfl
  rw [loadProfileDescriptor_of_get hproviders, reporting_eq_ok_iff]
  refine Effect.except_bind_eq_ok.mpr ⟨_, RequiredProviders.ofKeywords_dict _, ?_⟩
  rw [hfilter]
  exact ProfileDescriptor.ofKeywords_dict profile

/-! ## What a directory declares -/

/-- The file declares the profile. -/
def DeclaresProfile (file : String × ProfileFile) (profile : ProfileDescriptor T) : Prop :=
  loadProfileDescriptor T file.1 file.2 = .ok (.ok profile)

/-- The ids come twice exactly when there is a line about it. -/
lemma collectDuplicateIdErrors_eq_nil_iff {byPath : List (String × ProfileDescriptor T)} :
    collectDuplicateIdErrors byPath = [] ↔ (byPath.map fun item => item.2.id).Nodup := by
  have hcount : ∀ id, (pathsOf byPath id).length = (byPath.map fun item => item.2.id).count id := by
    intro id
    unfold pathsOf
    rw [List.length_map, List.count, List.countP_map, List.countP_eq_length_filter]
    rfl
  unfold collectDuplicateIdErrors
  rw [List.filterMap_eq_nil_iff, List.nodup_iff_count_le_one]
  constructor
  · intro h id
    by_cases hid : id ∈ byPath.map fun item => item.2.id
    · have hmem : id ∈ declaredIds byPath := by
        unfold declaredIds
        rw [List.mem_insertionSort, List.mem_dedup]
        exact hid
      have hline := h id hmem
      rw [← hcount]
      by_contra hmany
      rw [if_neg (by omega)] at hline
      exact absurd hline (by simp)
    · rw [List.count_eq_zero_of_not_mem hid]
      exact Nat.zero_le 1
  · intro h id _
    have hone := h id
    rw [← hcount] at hone
    exact if_pos (by omega)

lemma sortProfiles_perm (profiles : List (ProfileDescriptor T)) :
    (sortProfiles profiles).Perm profiles := List.perm_insertionSort _ _

lemma nodup_sortProfiles {profiles : List (ProfileDescriptor T)}
    (h : (profiles.map ProfileDescriptor.id).Nodup) :
    ((sortProfiles profiles).map ProfileDescriptor.id).Nodup :=
  ((sortProfiles_perm profiles).map _).nodup_iff.mpr h

/-- One file of the directory. -/
lemma readFile_eq_ok_iff {file : String × ProfileFile} {item : String × ProfileDescriptor T} :
    (do
      let outcome ← loadProfileDescriptor T file.1 file.2
      pure (outcome.map fun profile => (file.1, profile)) : Except PyError _) = .ok (.ok item) ↔
      item.1 = file.1 ∧ DeclaresProfile file item.2 := by
  unfold DeclaresProfile
  rw [Effect.except_bind_eq_ok]
  constructor
  · rintro ⟨outcome, houtcome, h⟩
    cases outcome with
    | error line => exact absurd (Except.ok.inj h) (by simp [Except.map])
    | ok profile =>
        obtain rfl := Except.ok.inj (Except.ok.inj h)
        exact ⟨rfl, houtcome⟩
  · rintro ⟨hpath, hload⟩
    refine ⟨.ok item.2, hload, ?_⟩
    rw [← hpath]
    rfl

/-- A directory is read without an error exactly when every file declares a profile. -/
lemma readFiles_clean_iff {files : List (String × ProfileFile)}
    {byPath : List (String × ProfileDescriptor T)} :
    readFiles T files = .ok (byPath.map .ok) ↔
      List.Forall₂ (fun file item => item.1 = file.1 ∧ DeclaresProfile file item.2) files
        byPath := by
  unfold readFiles
  rw [Effect.except_mapM_eq_ok, List.forall₂_map_right_iff]
  constructor
  · intro h
    exact h.imp fun _ _ hread => readFile_eq_ok_iff.mp hread
  · intro h
    exact h.imp fun _ _ hread => readFile_eq_ok_iff.mpr hread

/-! ## What a slot requires -/

/-- What a profile requires: the capability and the provider of every slot. -/
def RequiredProviders.needs (providers : RequiredProviders) : List (String × ProviderRef) :=
  [("model", providers.model), ("memory", providers.memory), ("knowledge", providers.knowledge)] ++
    providers.tool.val.map (fun ref => ("tool", ref)) ++
    providers.channel.val.map (fun ref => ("channel", ref)) ++ [("tracer", providers.tracer)]

/-- An extension is registered that has the capability and the version. -/
def Supplies (registry : ExtensionRegistry) (need : String × ProviderRef) : Prop :=
  ∃ extension, registry.get? need.2.groups.1 = some extension ∧
    need.1 ∈ extension.capabilities ∧ ∀ version ∈ need.2.groups.2, extension.version = version

/-- A slot and what it requires. -/
def IsSlotOf (slot need : String × ProviderRef) : Prop :=
  requiredCapabilitiesForSlot slot.1 = .ok [need.1] ∧ slot.2 = need.2

lemma capabilities_of_tool (idx : ℕ) :
    requiredCapabilitiesForSlot (itemPlace "tool" idx) = .ok ["tool"] := by
  have hplace : (itemPlace "tool" idx).toList =
      "tool[".toList ++ ((toString idx).toList ++ [']']) := by
    unfold itemPlace
    simp
  unfold requiredCapabilitiesForSlot
  rw [hplace, if_pos (List.prefix_append _ _)]

lemma capabilities_of_channel (idx : ℕ) :
    requiredCapabilitiesForSlot (itemPlace "channel" idx) = .ok ["channel"] := by
  have hplace : (itemPlace "channel" idx).toList =
      "channel[".toList ++ ((toString idx).toList ++ [']']) := by
    unfold itemPlace
    simp
  have htool : ¬ "tool[".toList <+: "channel[".toList ++ ((toString idx).toList ++ [']']) := by
    rintro ⟨rest, hrest⟩
    exact absurd (List.cons_eq_cons.mp hrest).1 (by decide)
  unfold requiredCapabilitiesForSlot
  rw [hplace, if_neg htool, if_pos (List.prefix_append _ _)]

/-- Every slot has its capability: the check that it is a known one is never failed. -/
lemma slots_of_needs (providers : RequiredProviders) :
    List.Forall₂ IsSlotOf providers.iterProviderSlots providers.needs := by
  have hfixed : ∀ name ∈ ["model", "memory", "knowledge", "tracer"], ∀ ref : ProviderRef,
      IsSlotOf (name, ref) (name, ref) := by
    intro name hname ref
    have hcapability : ∀ name ∈ ["model", "memory", "knowledge", "tracer"],
        requiredCapabilitiesForSlot name = .ok [name] := by decide
    exact ⟨hcapability name hname, rfl⟩
  have hitems : ∀ (kind : String), (∀ idx, requiredCapabilitiesForSlot (itemPlace kind idx) =
      .ok [kind]) → ∀ (refs : List ProviderRef) (n : ℕ),
      List.Forall₂ IsSlotOf ((refs.zipIdx n).map fun item => (itemPlace kind item.2, item.1))
        (refs.map fun ref => (kind, ref)) := by
    intro kind hkind refs
    induction refs with
    | nil => exact fun _ => .nil
    | cons ref refs ih => exact fun n => .cons ⟨hkind n, rfl⟩ (ih (n + 1))
  unfold RequiredProviders.iterProviderSlots RequiredProviders.needs
  refine List.rel_append (List.rel_append (List.rel_append ?_ ?_) ?_) ?_
  · exact .cons (hfixed "model" (by decide) _) (.cons (hfixed "memory" (by decide) _)
      (.cons (hfixed "knowledge" (by decide) _) .nil))
  · exact hitems "tool" capabilities_of_tool _ 0
  · exact hitems "channel" capabilities_of_channel _ 0
  · exact .cons (hfixed "tracer" (by decide) _) .nil

lemma missingLines_eq_nil_iff {profileId slot name capability : String} {extension : Extension} :
    missingLines profileId slot name [capability] extension = [] ↔
      capability ∈ extension.capabilities := by
  unfold missingLines
  by_cases h : capability ∈ extension.capabilities <;> simp [h]

lemma versionLines_eq_nil_iff {profileId slot name : String} {extension : Extension}
    {version : Option String} : versionLines profileId slot name extension version = [] ↔
      ∀ v ∈ version, extension.version = v := by
  cases version with
  | none => simp [versionLines]
  | some v =>
      unfold versionLines
      by_cases h : extension.version = v <;> simp [h]

/-- **The check of a slot**: it goes through, and there is no line about a slot that is supplied. -/
lemma checkSlot_spec (registry : ExtensionRegistry) (profileId : String)
    {slot need : String × ProviderRef} (h : IsSlotOf slot need) :
    ∃ lines, checkSlot registry profileId slot = .ok lines ∧
      (lines = [] ↔ Supplies registry need) := by
  obtain ⟨hcapability, href⟩ := h
  unfold checkSlot Supplies
  rw [parseProviderRef_val, href, hcapability]
  rcases hget : registry.get? need.2.groups.1 with _ | extension
  · obtain ⟨line, hline⟩ := ExtensionRegistry.get_of_none hget
    simp only [bind, Except.bind, hline]
    exact ⟨_, rfl, iff_of_false (by simp) (by simp)⟩
  · have hfound := ExtensionRegistry.get_of_some hget
    simp only [bind, Except.bind, hfound]
    refine ⟨_, rfl, ?_⟩
    rw [List.append_eq_nil_iff, missingLines_eq_nil_iff, versionLines_eq_nil_iff]
    constructor
    · rintro ⟨hcapability, hversion⟩
      exact ⟨extension, rfl, hcapability, hversion⟩
    · rintro ⟨found, hsome, hmatches⟩
      obtain rfl := Option.some.inj hsome
      exact hmatches

/-- Every requirement of every profile is supplied. -/
def AllSupplied (profiles : ProfileRegistry T) (registry : ExtensionRegistry) : Prop :=
  ∀ profile ∈ profiles.descriptors, ∀ need ∈ profile.requiredProviders.needs,
    Supplies registry need

/-- The checks of some slots. -/
lemma checkSlots_spec (registry : ExtensionRegistry) {slots : List (String × String × ProviderRef)}
    {needs : List (String × ProviderRef)}
    (h : List.Forall₂ (fun slot need => IsSlotOf slot.2 need) slots needs) :
    ∃ lines, slots.mapM (fun slot => checkSlot registry slot.1 slot.2) = .ok lines ∧
      (lines.flatten = [] ↔ ∀ need ∈ needs, Supplies registry need) := by
  induction h with
  | nil => exact ⟨[], rfl, by simp⟩
  | @cons slot need slots needs hslot _ ih =>
      obtain ⟨line, hline, hfirst⟩ := checkSlot_spec registry slot.1 hslot
      obtain ⟨lines, hlines, hrest⟩ := ih
      refine ⟨line :: lines, ?_, ?_⟩
      · rw [List.mapM_cons, hline, hlines]
        rfl
      · rw [List.flatten_cons, List.append_eq_nil_iff, hfirst, hrest, List.forall_mem_cons]

lemma slots_of_profiles (descriptors : List (ProfileDescriptor T)) :
    List.Forall₂ (fun (slot : String × String × ProviderRef) need => IsSlotOf slot.2 need)
      (descriptors.flatMap fun profile =>
        profile.requiredProviders.iterProviderSlots.map fun slot => (profile.id.val, slot))
      (descriptors.flatMap fun profile => profile.requiredProviders.needs) := by
  induction descriptors with
  | nil => exact .nil
  | cons profile descriptors ih =>
      rw [List.flatMap_cons, List.flatMap_cons]
      refine List.rel_append ?_ ih
      rw [List.forall₂_map_left_iff]
      exact slots_of_needs profile.requiredProviders

/-- **The validation at start-up**: it reports nothing exactly when every requirement is supplied,
and it never fails in another way. -/
lemma validateProfileStartup_spec (profiles : ProfileRegistry T) (registry : ExtensionRegistry) :
    ∃ lines, validateProfileStartup profiles registry = .ok lines ∧
      (lines = [] ↔ AllSupplied profiles registry) := by
  obtain ⟨lines, hlines, hnil⟩ := checkSlots_spec registry (slots_of_profiles profiles.descriptors)
  refine ⟨lines.flatten, ?_, ?_⟩
  · unfold validateProfileStartup allSlots
    rw [hlines]
    rfl
  · rw [hnil]
    unfold AllSupplied
    simp only [List.mem_flatMap, forall_exists_index, and_imp]
    exact ⟨fun h profile hp need hneed => h need profile hp hneed,
      fun h need profile hp hneed => h profile hp need hneed⟩

end Waywarden
