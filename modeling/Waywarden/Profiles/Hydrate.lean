import Waywarden.Assets.Directory
import Waywarden.Profiles.Loader

/-!
# Hydrating profiles

`waywarden.profiles.ea.hydrate` and `waywarden.profiles.coding.hydrate`: a profile file, the
registry of assets and the filters of the file make the view of the profile that is run.

The two hydrations do not agree on what is wrong.  The one of the executive assistant validates the
required providers against the extensions and insists on an asset; the coding one does neither.  And
where the required providers of the file are not accepted, the coding one puts in a stub and reports
the error, while the other one puts in blank names, which are refused in their turn, so that the
report is lost.
-/

namespace Waywarden

variable (T : DigitKinds)

/-- What a hydration raises. -/
inductive HydrationFailure
  /-- `ProfileHydrationError` and `CodingProfileHydrationError`. -/
  | hydration (errors : List ErrorLine)
  /-- The `YAMLError` of the profile file, which is not caught. -/
  | malformed (reason : String)
  /-- Any other exception. -/
  | raised (e : PyError)

/-- `EAProfileView` and `CodingProfileView`. -/
structure ProfileView where
  descriptor : ProfileDescriptor T
  assetFilters : Value
  resolvedAssets : List AssetMetadata

/-! ## The profile file -/

/-- `_load_raw_profile`: the settings, and the errors so far. -/
def loadRawProfile (path : String) :
    YamlFile → Except HydrationFailure (Mapping × List ErrorLine)
  | .unreadable reason => .ok ([], [("%: read error: %", [path, reason])])
  | .malformed reason => .error (.malformed reason)
  | .parsed (.dict content) => .ok (content, [])
  | .parsed _ => .ok ([], [("%: expected a mapping of profile settings", [path])])

/-- A setting of the file, or its default. -/
def setting (raw : Mapping) (key : String) (default : Value) : Value := (raw.get key).getD default

/-- `RequiredProviders(**raw.get("required_providers", {}))`. -/
def rawProviders (raw : Mapping) : Except PyError RequiredProviders := do
  let kwargs ← unpackKeywords "waywarden.domain.profile.RequiredProviders()"
    (setting raw "required_providers" (.dict []))
  RequiredProviders.ofKeywords kwargs

/-- The descriptor of the file, with some extensions and required providers. -/
def rawDescriptor (raw : Mapping) (defaultId defaultName : String) (supportedExtensions : Value)
    (requiredProviders : RequiredProviders) : Except PyError (ProfileDescriptor T) := do
  let extensions ← iterItems supportedExtensions
  ProfileDescriptor.new T (setting raw "id" (.str defaultId))
    (setting raw "display_name" (.str defaultName)) (setting raw "version" (.str "0.0.0"))
    (.tuple extensions) requiredProviders

/-- A registry of one descriptor. -/
def singleRegistry (descriptor : ProfileDescriptor T) : Except PyError (ProfileRegistry T) :=
  ProfileRegistry.new [(descriptor.id.val, descriptor)]

/-- The line about required providers that are not accepted. -/
def providersLine (e : PyError) : ErrorLine := ("required_providers: " ++ e.text, e.values)

/-- `_build_profile_registry` of the executive assistant: the registry, and the errors. -/
def buildEaRegistry (raw : Mapping) : Except PyError (ProfileRegistry T × List ErrorLine) :=
  let finish (errors : List ErrorLine) (requiredProviders : RequiredProviders) :
      Except PyError (ProfileRegistry T × List ErrorLine) := do
    let descriptor ← rawDescriptor T raw "ea-noop" "EA No-Op"
      (setting raw "supported_extensions" (.list [])) requiredProviders
    let registry ← singleRegistry T descriptor
    pure (registry, errors)
  match rawProviders raw with
  | .ok requiredProviders => finish [] requiredProviders
  | .error e =>
      if isReported e then do
        -- the blank names are refused like any others
        let requiredProviders ← RequiredProviders.new (.str "") (.str "") (.str "") (.tuple [])
          (.tuple []) (.str "")
        finish [providersLine e] requiredProviders
      else .error e

/-- `raw.get("supported_extensions") or ["noop"]`. -/
def stubExtensions (raw : Mapping) : Value :=
  let found := setting raw "supported_extensions" .null
  if found.truthy then found else .list [.str "noop"]

/-- The descriptor in place of one whose required providers are not accepted. -/
def stubDescriptor (raw : Mapping) : Except PyError (ProfileDescriptor T) := do
  let requiredProviders ← RequiredProviders.new (.str "stub") (.str "stub") (.str "stub")
    (.tuple []) (.tuple []) (.str "noop")
  rawDescriptor T raw "coding-noop" "Coding No-Op" (stubExtensions raw) requiredProviders

/-- `_build_profile_registry` of the coding profile. -/
def buildCodingRegistry (raw : Mapping) : Except PyError (ProfileRegistry T × List ErrorLine) :=
  match rawProviders raw with
  | .ok requiredProviders => do
      let descriptor ← rawDescriptor T raw "coding-noop" "Coding No-Op"
        (setting raw "supported_extensions" (.list [])) requiredProviders
      let registry ← singleRegistry T descriptor
      pure (registry, [])
  | .error e =>
      if isReported e then do
        let descriptor ← stubDescriptor T raw
        let registry ← singleRegistry T descriptor
        pure (registry, [providersLine e])
      else .error e

variable {T}

/-- Names as a list is formatted. -/
def formatList (names : List String) : String :=
  "[" ++ ", ".intercalate (names.map fun name => "'" ++ name ++ "'") ++ "]"

/-- `_get_ea_descriptor` and `_get_coding_descriptor`: the profile under a name, and else the errors
so far and one more. -/
def getDescriptor (name title : String) (registry : ProfileRegistry T) (errors : List ErrorLine) :
    Except HydrationFailure (ProfileDescriptor T) :=
  match registry.getItem name with
  | .ok descriptor => .ok descriptor
  | .error _ => .error (.hydration (errors ++
      [(title ++ " profile ('" ++ name ++ "') not found in profile registry; " ++
        "checked-in profiles: %",
        [formatList (registry.descriptors.map fun profile => profile.id.val)])]))

/-- The registry a hydration goes on with: the one that is given, or the one of the file. -/
def chooseRegistry (given : Option (ProfileRegistry T)) (errors : List ErrorLine)
    (build : Except PyError (ProfileRegistry T × List ErrorLine)) :
    Except HydrationFailure (ProfileRegistry T × List ErrorLine) :=
  match given with
  | some registry => .ok (registry, errors)
  | none => do
      let built ← build.mapError .raised
      pure (built.1, errors ++ built.2)

/-! ## The assets -/

/-- The text `"op"`, as an item. -/
def isOpText : Value → Bool
  | .str s => s == "op"
  | _ => false

/-- `FilterExpression.from_dict` of any value: one in which no `"op"` is found has no operator, and
one that is no mapping cannot be asked for it. -/
def filterOfValue : Value → Except PyError FilterExpression
  | .dict data => FilterExpression.fromDict data
  | .str s =>
      if "op".toList <:+: s.toList then
        .error ⟨.typeError, "string indices must be integers, not 'str'", []⟩
      else FilterExpression.fromDict []
  | .list xs =>
      if xs.any isOpText then
        .error ⟨.typeError, "list indices must be integers or slices, not str", []⟩
      else FilterExpression.fromDict []
  | .tuple xs =>
      if xs.any isOpText then
        .error ⟨.typeError, "tuple indices must be integers or slices, not str", []⟩
      else FilterExpression.fromDict []
  | value => .error ⟨.typeError, "argument of type '%' is not iterable", [value.typeName]⟩

/-- `apply_filters`, of what a file has for filters. -/
def applyFilterValues (registry : AssetRegistry) (filters : Value) :
    Except PyError (List AssetMetadata) := do
  let items ← iterItems filters
  items.foldlM (fun assets item => do (← filterOfValue item).evaluate assets) registry.allAssets

/-- The assets of a view, if there are filters and the registry is valid. -/
def resolveAssets (registry : AssetRegistry) (filters : Value) :
    Except PyError (List AssetMetadata) :=
  if filters.truthy && registry.isValid then applyFilterValues registry filters else .ok []

/-- The filters of a view. -/
def viewFilters (filters : Value) : Value := if filters.truthy then filters else .list []

/-! ## The hydrations -/

/-- The errors about the required providers of a profile under a name. -/
def startupErrors (name : String) (descriptor : ProfileDescriptor T) :
    Option ExtensionRegistry → Except PyError (List ErrorLine)
  | none => .ok []
  | some extensions => do
      let registry ← ProfileRegistry.new [(name, descriptor)]
      validateProfileStartup registry extensions

/-- The last checks of `hydrate_ea_profile`: a view without an asset is an error, if there is no
other. -/
def missingAssets (filters : Value) (resolved : List AssetMetadata) (errors : List ErrorLine) :
    List ErrorLine :=
  if !filters.truthy && errors.isEmpty then
    [("EA profile has no asset_filters; profile requires at least one resolved asset for startup",
      [])]
  else if filters.truthy && resolved.isEmpty && errors.isEmpty then
    [("EA profile has asset_filters but resolved zero assets; " ++
      "check filter expressions and required_providers", [])]
  else []

variable (T)

/-- `hydrate_ea_profile`, with the registry of assets it was given or has loaded. -/
def hydrateEaProfile (path : String) (file : YamlFile)
    (profileRegistry : Option (ProfileRegistry T)) (assetRegistry : AssetRegistry)
    (extensionRegistry : Option ExtensionRegistry) :
    Except HydrationFailure (ProfileView T) := do
  let raw ← loadRawProfile path file
  let chosen ← chooseRegistry profileRegistry raw.2 (buildEaRegistry T raw.1)
  let descriptor ← getDescriptor "ea" "EA" chosen.1 chosen.2
  let startup ← (startupErrors "ea" descriptor extensionRegistry).mapError .raised
  let filters := setting raw.1 "asset_filters" (.list [])
  let resolved ← (resolveAssets assetRegistry filters).mapError .raised
  let errors := chosen.2 ++ startup ++ assetRegistry.errors
  let errors := errors ++ missingAssets filters resolved errors
  if errors ≠ [] then .error (.hydration errors)
  else pure ⟨descriptor, viewFilters filters, resolved⟩

/-- `hydrate_coding_profile`. -/
def hydrateCodingProfile (path : String) (file : YamlFile)
    (profileRegistry : Option (ProfileRegistry T)) (assetRegistry : AssetRegistry) :
    Except HydrationFailure (ProfileView T) := do
  let raw ← loadRawProfile path file
  let chosen ← chooseRegistry profileRegistry raw.2 (buildCodingRegistry T raw.1)
  let descriptor ← getDescriptor "coding" "Coding" chosen.1 chosen.2
  let filters := setting raw.1 "asset_filters" (.list [])
  let resolved ← (resolveAssets assetRegistry filters).mapError .raised
  let errors := chosen.2 ++ assetRegistry.errors
  if errors ≠ [] then .error (.hydration errors)
  else pure ⟨descriptor, viewFilters filters, resolved⟩

end Waywarden
