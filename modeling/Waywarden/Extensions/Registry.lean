import Waywarden.Assets.Schema
import Waywarden.Lib.Collect
import Waywarden.Lib.KeyedTable

/-!
# The extension registry

`waywarden.extensions`: the registry of extensions, filled at start-up from a list of declarations.
A declaration is turned into an extension by its factory, the extension checks its configuration,
and then it is registered under its own name, which need not be the declared one.

A failure does not end the start-up: the errors are collected, and raised together at the end.  What
was registered by then stays.
-/

namespace Waywarden

open KeyedTable

/-- A line of an error report: the text of the source with `%` in place of each formatted value, and
these values in order. -/
abbrev ErrorLine : Type := String × List String

/-- What an extension, its factory or the registry raises during the start-up. -/
inductive ExtensionError
  /-- `ExtensionStartupError`. -/
  | startup (errors : List ErrorLine)
  /-- `ExtensionConfigError`. -/
  | config (text : ErrorLine)
  /-- Any other exception. -/
  | other (text : ErrorLine)

/-- `Extension`, with what its `validate` does. -/
structure Extension where
  name : String
  version : String
  capabilities : List String
  validate : Mapping → Except ExtensionError Unit

/-- `ExtensionDecl`: what the registry reads of it. -/
structure ExtensionDecl where
  name : String
  config : Mapping
  factory : Option (Mapping → Except ExtensionError Extension)

/-- `ExtensionRegistry`. -/
structure ExtensionRegistry where
  extensions : List Extension := []
  names_nodup : (extensions.map Extension.name).Nodup := by exact List.nodup_nil

namespace ExtensionRegistry

/-- The extension under a name, if there is one. -/
def get? (registry : ExtensionRegistry) (name : String) : Option Extension :=
  KeyedTable.get Extension.name name registry.extensions

/-- `get`; an unknown name is a message. -/
def get (registry : ExtensionRegistry) (name : String) : Except ErrorLine Extension :=
  match registry.get? name with
  | some extension => .ok extension
  | none => .error ("Unknown extension %; registered extensions: %",
      [name, formatSorted (registry.extensions.map Extension.name)])

/-- The registry with one more extension, if its name is free. -/
def add (registry : ExtensionRegistry) (extension : Extension) : ExtensionRegistry :=
  ⟨addNew Extension.name extension registry.extensions, nodup_addNew registry.names_nodup⟩

/-- The text of a `DuplicateExtensionError`. -/
def duplicateLine (existing extension : Extension) : ErrorLine :=
  ("Extension % already registered as version %; cannot overwrite with %",
    [extension.name, existing.version, extension.version])

/-- `register`: the same name in the same version is passed over. -/
def register (registry : ExtensionRegistry) (extension : Extension) :
    Except ExtensionError ExtensionRegistry :=
  match registry.get? extension.name with
  | some existing =>
      if existing.version ≠ extension.version then
        .error (.other (duplicateLine existing extension))
      else .ok registry
  | none => .ok (registry.add extension)

/-- `_make_extension`. -/
def makeExtension (decl : ExtensionDecl) : Except ExtensionError Extension :=
  match decl.factory with
  | some factory => factory decl.config
  | none => .error (.other ("No factory provided for extension %; subclasses must override " ++
      "_make_extension", [decl.name]))

/-- The lines an exception adds to the report, for a declared name. -/
def reportLines (name : String) : ExtensionError → List ErrorLine
  | .startup errors => errors
  | .config (text, values) => [("%: " ++ text, name :: values)]
  | .other (text, values) => [("%: unexpected error: " ++ text, name :: values)]

/-- A declaration up to its registration: the extension, built and validated. -/
def validated (decl : ExtensionDecl) : Except ExtensionError Extension := do
  let extension ← makeExtension decl
  extension.validate decl.config
  pure extension

/-- The `try` block of the loop. -/
def loadOne (registry : ExtensionRegistry) (decl : ExtensionDecl) :
    Except (List ErrorLine) ExtensionRegistry :=
  match (do registry.register (← validated decl) : Except ExtensionError ExtensionRegistry) with
  | .ok registry => .ok registry
  | .error e => .error (reportLines decl.name e)

/-- `load_declared`: what it returns or raises, and the registry it leaves. -/
def loadDeclared (registry : ExtensionRegistry) (declared : List ExtensionDecl) :
    Except (List ErrorLine) Unit × ExtensionRegistry :=
  let (registry, errors) := Collect.run loadOne registry declared
  (if errors = [] then .ok () else .error errors, registry)

/-! ## What a load leaves -/

/-- The extensions of some declarations that pass their own check. -/
def validExtensions (declared : List ExtensionDecl) : List Extension :=
  Collect.values (declared.map validated)

/-- What a report says of a declaration, as a registry has it. -/
def blame (registry : ExtensionRegistry) (decl : ExtensionDecl) : List ErrorLine :=
  match validated decl with
  | .error e => reportLines decl.name e
  | .ok extension =>
    match registry.get? extension.name with
    | some existing =>
        if existing.version ≠ extension.version then
          reportLines decl.name (.other (duplicateLine existing extension))
        else []
    | none => []

variable {registry : ExtensionRegistry} {decl : ExtensionDecl} {extension : Extension}

lemma get_of_some {name : String} (h : registry.get? name = some extension) :
    registry.get name = .ok extension := by
  unfold get
  rw [h]

lemma get_of_none {name : String} (h : registry.get? name = none) :
    ∃ line, registry.get name = .error line := by
  unfold get
  rw [h]
  exact ⟨_, rfl⟩

lemma get?_add (registry : ExtensionRegistry) (extension : Extension) (name : String) :
    (registry.add extension).get? name =
      (registry.get? name).or (KeyedTable.get Extension.name name [extension]) :=
  get_addNew name extension registry.extensions

lemma add_eq_self {existing : Extension} (h : registry.get? extension.name = some existing) :
    registry.add extension = registry := by
  unfold add
  congr 1
  exact addNew_of_some h

/-- What `register` does, by what is under the name. -/
lemma register_cases (registry : ExtensionRegistry) (extension : Extension) :
    (registry.get? extension.name = none ∧
      registry.register extension = .ok (registry.add extension)) ∨
    (∃ existing, registry.get? extension.name = some existing ∧
      existing.version = extension.version ∧ registry.register extension = .ok registry) ∨
    ∃ existing, registry.get? extension.name = some existing ∧
      existing.version ≠ extension.version ∧
      registry.register extension = .error (.other (duplicateLine existing extension)) := by
  unfold register
  rcases hget : registry.get? extension.name with _ | existing
  · exact .inl ⟨rfl, rfl⟩
  · by_cases hversion : existing.version = extension.version
    · exact .inr (.inl ⟨existing, rfl, hversion, if_neg (not_not_intro hversion)⟩)
    · exact .inr (.inr ⟨existing, rfl, hversion, if_pos hversion⟩)

lemma loadOne_of_error {e : ExtensionError} (h : validated decl = .error e) :
    loadOne registry decl = .error (reportLines decl.name e) := by
  unfold loadOne
  rw [h]
  rfl

lemma register_validated (h : validated decl = .ok extension) :
    (validated decl >>= registry.register) = registry.register extension := by
  rw [h]
  rfl

lemma loadOne_of_register (h : validated decl = .ok extension) {next : ExtensionRegistry}
    (hregister : registry.register extension = .ok next) :
    loadOne registry decl = .ok next := by
  unfold loadOne
  rw [register_validated h, hregister]

lemma loadOne_of_not_register (h : validated decl = .ok extension) {e : ExtensionError}
    (hregister : registry.register extension = .error e) :
    loadOne registry decl = .error (reportLines decl.name e) := by
  unfold loadOne
  rw [register_validated h, hregister]

/-- A declaration that does not pass its check changes nothing. -/
lemma next_loadOne_of_error {e : ExtensionError} (h : validated decl = .error e) :
    Collect.next loadOne registry decl = registry :=
  Collect.next_of_error (loadOne_of_error h)

/-- One that does is registered if its name is free, and is passed over if not, blamed for it or
not. -/
lemma next_loadOne_of_ok (h : validated decl = .ok extension) :
    Collect.next loadOne registry decl = registry.add extension := by
  obtain ⟨-, hregister⟩ | ⟨existing, hget, -, hregister⟩ | ⟨existing, hget, -, hregister⟩ :=
    register_cases registry extension
  · exact Collect.next_of_ok (loadOne_of_register h hregister)
  · rw [add_eq_self hget]
    exact Collect.next_of_ok (loadOne_of_register h hregister)
  · rw [add_eq_self hget]
    exact Collect.next_of_error (loadOne_of_not_register h hregister)

/-- **What is under a name after a load**: what was there before, or the first extension of that
name among those that pass their check. -/
lemma get?_run (registry : ExtensionRegistry) (declared : List ExtensionDecl) (name : String) :
    (Collect.run loadOne registry declared).1.get? name =
      (registry.get? name).or (KeyedTable.get Extension.name name (validExtensions declared)) := by
  induction declared generalizing registry with
  | nil => exact (Option.or_none).symm
  | cons decl declared ih =>
      refine (ih _).trans ?_
      rcases hvalid : validated decl with e | extension
      · rw [next_loadOne_of_error hvalid]
        congr 2
        unfold validExtensions Collect.values
        rw [List.map_cons, hvalid]
        rfl
      · have hcons : validExtensions (decl :: declared) =
            [extension] ++ validExtensions declared := by
          unfold validExtensions Collect.values
          rw [List.map_cons, hvalid]
          rfl
        rw [next_loadOne_of_ok hvalid, get?_add, Option.or_assoc, ← get_append, hcons]

/-- What a declaration is blamed for does not change later on: what is registered stays, and what
it registered itself is found in its own version. -/
lemma refusals_eq_blame (later : List ExtensionDecl) :
    Collect.refusals loadOne registry decl =
      blame (Collect.run loadOne (Collect.next loadOne registry decl) later).1 decl := by
  rcases hvalid : validated decl with e | extension
  · unfold blame
    rw [Collect.refusals_of_error (loadOne_of_error hvalid), hvalid]
  · have hlater := get?_run (Collect.next loadOne registry decl) later extension.name
    rw [next_loadOne_of_ok hvalid, get?_add] at hlater
    unfold blame
    rw [hvalid, next_loadOne_of_ok hvalid]
    dsimp only
    rw [hlater]
    obtain ⟨hget, hregister⟩ | ⟨existing, hget, hversion, hregister⟩ |
      ⟨existing, hget, hversion, hregister⟩ := register_cases registry extension
    · rw [Collect.refusals_of_ok (loadOne_of_register hvalid hregister), hget, get_cons,
        if_pos rfl, Option.none_or, Option.some_or]
      exact (if_neg (not_not_intro rfl)).symm
    · rw [Collect.refusals_of_ok (loadOne_of_register hvalid hregister), hget, Option.some_or,
        Option.some_or]
      exact (if_neg (not_not_intro hversion)).symm
    · rw [Collect.refusals_of_error (loadOne_of_not_register hvalid hregister), hget,
        Option.some_or, Option.some_or]
      exact (if_pos hversion).symm

/-- **The report of a load**, declaration by declaration: each is blamed as the registry that is
left has it. -/
lemma run_snd (registry : ExtensionRegistry) (declared : List ExtensionDecl) :
    (Collect.run loadOne registry declared).2 =
      declared.flatMap (blame (Collect.run loadOne registry declared).1) := by
  induction declared generalizing registry with
  | nil => rfl
  | cons decl declared ih =>
      show Collect.refusals loadOne registry decl ++ _ = _
      rw [List.flatMap_cons, ih, refusals_eq_blame declared]
      rfl

end ExtensionRegistry

end Waywarden
