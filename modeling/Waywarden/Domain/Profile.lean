import Waywarden.Assets.Loader
import Waywarden.Assets.Version
import Waywarden.Lib.Effect
import Waywarden.Lib.KeyedTable

/-!
# Profiles

`waywarden.domain.profile`: what a profile pack declares, the providers it requires, and the
registry of profiles.

A provider is required by a reference, `name` or `name@version`.  The two readings cannot be mixed
up, since no name has an `@`: `parseProviderRef_eq_ok_iff` says which texts are read as which
references, in both directions.

The constructors take values of any type, as they come from a file, and normalize them field by
field; what they return is a record whose fields are normal already.
-/

namespace Waywarden

/-! ## Patterns -/

/-- `[a-z][a-z0-9_-]*`. -/
def isProviderName (name : List Char) : Bool := name.head?.any Char.isLower && name.all isIdChar

/-- `[A-Za-z0-9._*+-]`. -/
def isVersionChar (c : Char) : Bool := c.isAlphanum || ['.', '_', '*', '+', '-'].contains c

/-- `[A-Za-z0-9._*+-]+`. -/
def isProviderVersion (version : List Char) : Bool :=
  !version.isEmpty && version.all isVersionChar

/-- The groups of `PROVIDER_REF_PATTERN.fullmatch`. -/
def matchProviderRef (ref : String) : Option (String × Option String) :=
  let name := ref.toList.takeWhile (· != '@')
  match ref.toList.dropWhile (· != '@') with
  | [] => if isProviderName name then some (String.ofList name, none) else none
  | _ :: version =>
      if isProviderName name && isProviderVersion version then
        some (String.ofList name, some (String.ofList version))
      else none

/-- `[a-z0-9_]`. -/
def isSlugChar (c : Char) : Bool := c.isLower || c.isDigit || c == '_'

/-- `PROFILE_EXTENSION_PATTERN.fullmatch`, for `[a-z][a-z0-9_]*(?:-[a-z0-9_]+)*`. -/
def isExtensionSlug (text : String) : Bool :=
  match text.toList.splitOn '-' with
  | [] => false
  | part :: parts =>
      part.head?.any Char.isLower && part.all isSlugChar &&
        parts.all fun part => !part.isEmpty && part.all isSlugChar

/-- `SEMVER_PATTERN.fullmatch`. -/
def isSemver (T : DigitKinds) (text : String) : Bool :=
  semverPattern.rmatch (text.toList.map (versionLetter T))

/-! ## Texts of a pattern -/

/-- A pattern for a field, and what is said of a text that does not match it. -/
structure FieldPattern where
  fullmatch : String → Bool
  message : String

/-- A text that matches a pattern. -/
abbrev PatternText (P : FieldPattern) : Type := {t : Text // P.fullmatch t.val = true}

/-- The check of a text against a pattern. -/
def checkPattern (P : FieldPattern) (fieldName : String) (t : Text) :
    Except PyError (PatternText P) :=
  if h : P.fullmatch t.val = true then .ok ⟨t, h⟩
  else .error ⟨.valueError, P.message, [fieldName]⟩

/-- The common form of the normalizations: a string that is stripped, not blank, and matches. -/
def normalizePattern (P : FieldPattern) (fieldName : String) :
    Value → Except PyError (PatternText P)
  | .str raw => requireNonEmptyText raw fieldName >>= checkPattern P fieldName
  | _ => .error ⟨.typeError, "% must be a string", [fieldName]⟩

/-- **What is normalized to a text of a pattern.** -/
lemma normalizePattern_eq_ok_iff {P : FieldPattern} {fieldName : String} {value : Value}
    {t : PatternText P} : normalizePattern P fieldName value = .ok t ↔
      ∃ raw, value = .str raw ∧ strip raw = t.val.val := by
  constructor
  · intro h
    unfold normalizePattern at h
    split at h
    · rename_i raw
      obtain ⟨text, htext, hcheck⟩ := Effect.except_bind_eq_ok.mp h
      unfold checkPattern at hcheck
      split at hcheck
      · refine ⟨raw, rfl, ?_⟩
        rw [← Except.ok.inj hcheck]
        exact (val_of_requireNonEmptyText htext).symm
      · exact absurd hcheck (by simp)
    · exact absurd h (by simp)
  · rintro ⟨raw, rfl, hraw⟩
    have htext : requireNonEmptyText raw fieldName = .ok t.val := by
      unfold requireNonEmptyText
      rw [dif_neg (hraw ▸ t.val.property.2)]
      exact congrArg Except.ok (Subtype.ext hraw)
    refine Effect.except_bind_eq_ok.mpr ⟨t.val, htext, ?_⟩
    unfold checkPattern
    rw [dif_pos t.property]

/-- Such a text is normal already. -/
lemma normalizePattern_val {P : FieldPattern} (fieldName : String) (t : PatternText P) :
    normalizePattern P fieldName (.str t.val.val) = .ok t :=
  normalizePattern_eq_ok_iff.mpr ⟨t.val.val, rfl, t.val.property.1⟩

/-! ## Provider references -/

/-- `PROVIDER_REF_PATTERN`. -/
def providerRefPattern : FieldPattern where
  fullmatch ref := (matchProviderRef ref).isSome
  message := "% must use '<name>' or '<name>@<version>' format " ++
    "(for example 'fake-model' or 'fake-model@1.0.0')"

/-- A reference as it is kept. -/
abbrev ProviderRef : Type := PatternText providerRefPattern

/-- `_normalize_provider_ref`. -/
def normalizeProviderRef (fieldName : String) (value : Value) : Except PyError ProviderRef :=
  normalizePattern providerRefPattern fieldName value

/-- `parse_provider_ref`; the second check is never failed. -/
def parseProviderRef (providerRef : Value) : Except PyError (String × Option String) := do
  let normalized ← normalizeProviderRef "provider reference" providerRef
  match matchProviderRef normalized.val.val with
  | some groups => .ok groups
  | none =>
      .error ⟨.valueError, "provider reference must use '<name>' or '<name>@<version>' format", []⟩

/-- A reference to a provider, in one version or in any. -/
def formatProviderRef (name : String) : Option String → String
  | none => name
  | some version => name ++ "@" ++ version

/-- The groups a reference can have. -/
def IsProviderRef (name : String) (version : Option String) : Prop :=
  isProviderName name.toList = true ∧ ∀ v ∈ version, isProviderVersion v.toList = true

instance (name : String) (version : Option String) : Decidable (IsProviderRef name version) :=
  inferInstanceAs (Decidable (_ ∧ _))

lemma ne_at_of_isIdChar {c : Char} (h : isIdChar c = true) : (c != '@') = true := by
  rw [bne_iff_ne]
  rintro rfl
  exact absurd h (by decide)

/-- A name has no `@`, so a reference is cut where its name ends. -/
lemma cut_name {name : List Char} (h : isProviderName name = true) (rest : List Char) :
    (name ++ '@' :: rest).takeWhile (· != '@') = name ∧
      (name ++ '@' :: rest).dropWhile (· != '@') = '@' :: rest ∧
      name.takeWhile (· != '@') = name ∧ name.dropWhile (· != '@') = [] := by
  have hall : ∀ c ∈ name, (c != '@') = true := by
    intro c hc
    unfold isProviderName at h
    rw [Bool.and_eq_true, List.all_eq_true] at h
    exact ne_at_of_isIdChar (h.2 c hc)
  refine ⟨?_, ?_, List.takeWhile_eq_self_iff.mpr hall, List.dropWhile_eq_nil_iff.mpr hall⟩
  · rw [List.takeWhile_append_of_pos hall, List.takeWhile_cons_of_neg (by simp), List.append_nil]
  · rw [List.dropWhile_append_of_pos hall, List.dropWhile_cons_of_neg (by simp)]

/-- What is left of a text from its first `@` on begins with it. -/
lemma eq_at_of_dropWhile {ref rest : List Char} {c : Char}
    (h : ref.dropWhile (· != '@') = c :: rest) : c = '@' := by
  have hhead := List.head?_dropWhile_not (· != '@') ref
  rw [h] at hhead
  simpa using hhead

/-- **What the pattern matches, and its groups.** -/
lemma matchProviderRef_eq_some_iff {ref name : String} {version : Option String} :
    matchProviderRef ref = some (name, version) ↔
      IsProviderRef name version ∧ ref = formatProviderRef name version := by
  unfold matchProviderRef
  constructor
  · intro h
    have hsplit := List.takeWhile_append_dropWhile (p := (· != '@')) (l := ref.toList)
    rcases hrest : ref.toList.dropWhile (· != '@') with _ | ⟨c, rest⟩
    · rw [hrest, List.append_nil] at hsplit
      simp only [hrest, hsplit] at h
      by_cases hname : isProviderName ref.toList = true
      · rw [if_pos hname] at h
        obtain ⟨rfl, rfl⟩ := Prod.mk.inj (Option.some.inj h)
        rw [String.ofList_toList]
        exact ⟨⟨hname, fun _ hv => absurd hv (by simp)⟩, rfl⟩
      · rw [if_neg hname] at h
        exact absurd h (by simp)
    · obtain rfl := eq_at_of_dropWhile hrest
      rw [hrest] at hsplit
      simp only [hrest] at h
      generalize hname : ref.toList.takeWhile (· != '@') = first at h hsplit
      by_cases hparts : (isProviderName first && isProviderVersion rest) = true
      · rw [if_pos hparts] at h
        obtain ⟨rfl, rfl⟩ := Prod.mk.inj (Option.some.inj h)
        rw [Bool.and_eq_true] at hparts
        refine ⟨⟨by rw [String.toList_ofList]; exact hparts.1, ?_⟩, ?_⟩
        · rintro v hv
          obtain rfl := Option.some.inj hv
          rw [String.toList_ofList]
          exact hparts.2
        · rw [← String.toList_inj, ← hsplit]
          simp [formatProviderRef]
      · rw [if_neg hparts] at h
        exact absurd h (by simp)
  · rintro ⟨⟨hname, hversion⟩, rfl⟩
    cases version with
    | none =>
        obtain ⟨-, -, htake, hdrop⟩ := cut_name hname []
        simp only [formatProviderRef, htake, hdrop, if_pos hname, String.ofList_toList]
    | some v =>
        obtain ⟨htake, hdrop, -, -⟩ := cut_name hname v.toList
        have hv : isProviderVersion v.toList = true := hversion v rfl
        have hlist : (formatProviderRef name (some v)).toList = name.toList ++ '@' :: v.toList := by
          simp [formatProviderRef]
        simp only [hlist, htake, hdrop, hname, hv, Bool.and_self, if_pos, String.ofList_toList]

lemma isSpace_eq_false_of_isVersionChar {c : Char} (h : isVersionChar c = true) :
    isSpace c = false := by
  have hrange : 42 ≤ c.toNat ∧ c.toNat ≤ 122 := by
    unfold isVersionChar Char.isAlphanum Char.isAlpha Char.isUpper Char.isLower Char.isDigit at h
    simp only [Bool.or_eq_true, Bool.and_eq_true, decide_eq_true_eq, ge_iff_le,
      UInt32.le_iff_toNat_le, List.contains_eq_mem, List.mem_cons, List.not_mem_nil, or_false] at h
    obtain ((h | h) | h) | rfl | rfl | rfl | rfl | rfl := h
    · exact ⟨le_trans (by decide) h.1, le_trans h.2 (by decide)⟩
    · exact ⟨le_trans (by decide) h.1, le_trans h.2 (by decide)⟩
    · exact ⟨le_trans (by decide) h.1, le_trans h.2 (by decide)⟩
    all_goals decide
  unfold isSpace
  simp only [List.contains_eq_mem, decide_eq_false_iff_not, List.mem_cons, List.not_mem_nil,
    or_false]
  omega

/-- There is no space in a reference. -/
lemma IsProviderRef.isSpace_eq_false {name : String} {version : Option String}
    (h : IsProviderRef name version) :
    ∀ c ∈ (formatProviderRef name version).toList, isSpace c = false := by
  obtain ⟨hname, hversion⟩ := h
  unfold isProviderName at hname
  rw [Bool.and_eq_true, List.all_eq_true] at hname
  have hnames : ∀ c ∈ name.toList, isSpace c = false := fun c hc =>
    isSpace_eq_false_of_isIdChar (hname.2 c hc)
  cases version with
  | none => exact hnames
  | some v =>
      have hv : isProviderVersion v.toList = true := hversion v rfl
      unfold isProviderVersion at hv
      rw [Bool.and_eq_true, List.all_eq_true] at hv
      intro c hc
      simp only [formatProviderRef, String.toList_append, List.mem_append] at hc
      rcases hc with (hc | hc) | hc
      · exact hnames c hc
      · obtain rfl : c = '@' := by simpa using hc
        decide
      · exact isSpace_eq_false_of_isVersionChar (hv.2 c hc)

/-- What matches the pattern is a text. -/
lemma strip_of_matchProviderRef {ref : String} (h : (matchProviderRef ref).isSome = true) :
    strip ref = ref ∧ ref ≠ "" := by
  obtain ⟨⟨name, version⟩, hgroups⟩ := Option.isSome_iff_exists.mp h
  obtain ⟨hparts, rfl⟩ := matchProviderRef_eq_some_iff.mp hgroups
  refine ⟨strip_of_forall hparts.isSpace_eq_false, fun hempty => ?_⟩
  rw [hempty] at h
  exact absurd h (by decide)

/-- The groups of a reference. -/
def ProviderRef.groups (ref : ProviderRef) : String × Option String :=
  (matchProviderRef ref.val.val).get ref.property

lemma ProviderRef.groups_spec (ref : ProviderRef) :
    IsProviderRef ref.groups.1 ref.groups.2 ∧
      ref.val.val = formatProviderRef ref.groups.1 ref.groups.2 :=
  matchProviderRef_eq_some_iff.mp (Option.some_get ref.property).symm

/-- A reference is parsed into its groups. -/
lemma parseProviderRef_val (ref : ProviderRef) :
    parseProviderRef (.str ref.val.val) = .ok ref.groups := by
  unfold parseProviderRef normalizeProviderRef
  rw [normalizePattern_val]
  have hgroups : matchProviderRef ref.val.val = some ref.groups := (Option.some_get _).symm
  simp only [bind, Except.bind, hgroups]

/-- **What is parsed as a reference to a name in a version.** -/
theorem parseProviderRef_eq_ok_iff {raw name : String} {version : Option String} :
    parseProviderRef (.str raw) = .ok (name, version) ↔
      IsProviderRef name version ∧ strip raw = formatProviderRef name version := by
  constructor
  · intro h
    obtain ⟨ref, href, hgroups⟩ := Effect.except_bind_eq_ok.mp h
    obtain ⟨source, hraw, hstrip⟩ := normalizePattern_eq_ok_iff.mp href
    rw [← Value.str.inj hraw] at hstrip
    have hmatch : matchProviderRef ref.val.val = some ref.groups := (Option.some_get _).symm
    rw [hmatch] at hgroups
    obtain ⟨hparts, hval⟩ := ref.groups_spec
    rw [Except.ok.inj hgroups] at hparts hval
    exact ⟨hparts, hstrip.trans hval⟩
  · rintro ⟨hparts, hstrip⟩
    have hmatch := matchProviderRef_eq_some_iff.mpr ⟨hparts, rfl⟩
    have hsome : (matchProviderRef (formatProviderRef name version)).isSome = true := by
      rw [hmatch]
      rfl
    let ref : ProviderRef := ⟨⟨_, strip_of_matchProviderRef hsome⟩, hsome⟩
    have href : normalizeProviderRef "provider reference" (.str raw) = .ok ref :=
      normalizePattern_eq_ok_iff.mpr ⟨raw, rfl, hstrip⟩
    refine Effect.except_bind_eq_ok.mpr ⟨ref, href, ?_⟩
    simp only [ref, hmatch]

/-! ## Lists of distinct texts -/

/-- What iterating over a value gives. -/
def iterItems : Value → Except PyError (List Value)
  | .str s => .ok (s.toList.map fun c => .str (String.ofList [c]))
  | .list xs | .tuple xs => .ok xs
  | .dict items => .ok (items.map fun item => .str item.1)
  | value => .error ⟨.typeError, "'%' object is not iterable", [value.typeName]⟩

/-- A list in which nothing comes twice. -/
abbrev Distinct (α : Type) : Type := {xs : List α // xs.Nodup}

lemma nodup_concat {α : Type} (xs : Distinct α) {x : α} (h : x ∉ xs.val) :
    (xs.val ++ [x]).Nodup := by
  rw [← List.concat_eq_append]
  exact xs.property.concat h

section

variable (P : FieldPattern) (fieldName : String)

/-- The place of an item, as an error calls it. -/
def itemPlace (idx : ℕ) : String := fieldName ++ "[" ++ toString idx ++ "]"

/-- The body of the loops over a list of texts: what was seen before is refused. -/
def addItem (items : Distinct (PatternText P)) (value : Value × ℕ) :
    Except PyError (Distinct (PatternText P)) := do
  let item ← normalizePattern P (itemPlace fieldName value.2) value.1
  if h : item ∈ items.val then
    .error ⟨.valueError, "% duplicates %", [itemPlace fieldName value.2, item.val.val]⟩
  else .ok ⟨items.val ++ [item], nodup_concat items h⟩

/-- The loop. -/
def distinctItems (values : List Value) : Except PyError (Distinct (PatternText P)) :=
  values.zipIdx.foldlM (addItem P fieldName) ⟨[], List.nodup_nil⟩

variable {P fieldName}

/-- A string that is, stripped, the text. -/
def Normalizes (value : Value) (t : PatternText P) : Prop :=
  ∃ raw, value = .str raw ∧ strip raw = t.val.val

lemma addItem_eq_ok_iff {items items' : Distinct (PatternText P)} {value : Value × ℕ} :
    addItem P fieldName items value = .ok items' ↔
      ∃ t, Normalizes value.1 t ∧ items'.val = items.val ++ [t] := by
  unfold addItem
  rw [Effect.except_bind_eq_ok]
  constructor
  · rintro ⟨t, ht, h⟩
    refine ⟨t, normalizePattern_eq_ok_iff.mp ht, ?_⟩
    split at h
    · exact absurd h (by simp)
    · rw [← Except.ok.inj h]
  · rintro ⟨t, ht, hitems⟩
    refine ⟨t, normalizePattern_eq_ok_iff.mpr ht, ?_⟩
    have hnew : t ∉ items.val := by
      have hnodup := items'.property
      rw [hitems, List.nodup_append] at hnodup
      exact fun hmem => hnodup.2.2 t hmem t (List.mem_singleton.mpr rfl) rfl
    rw [dif_neg hnew]
    exact congrArg Except.ok (Subtype.ext hitems.symm)

lemma foldlM_addItem_eq_ok_iff {items items' : Distinct (PatternText P)} {values : List Value}
    {n : ℕ} : (values.zipIdx n).foldlM (addItem P fieldName) items = .ok items' ↔
      ∃ ts, List.Forall₂ Normalizes values ts ∧ items'.val = items.val ++ ts := by
  induction values generalizing items n with
  | nil =>
      rw [List.zipIdx_nil, List.foldlM_nil]
      constructor
      · intro h
        exact ⟨[], .nil, by rw [← Except.ok.inj h, List.append_nil]⟩
      · rintro ⟨ts, hts, h⟩
        obtain rfl := List.forall₂_nil_left_iff.mp hts
        rw [List.append_nil] at h
        exact congrArg Except.ok (Subtype.ext h.symm)
  | cons value values ih =>
      rw [List.zipIdx_cons, List.foldlM_cons, Effect.except_bind_eq_ok]
      constructor
      · rintro ⟨middle, hmiddle, h⟩
        obtain ⟨t, ht, hitems⟩ := addItem_eq_ok_iff.mp hmiddle
        obtain ⟨ts, hts, hlast⟩ := ih.mp h
        refine ⟨t :: ts, .cons ht hts, ?_⟩
        rw [hlast, hitems, List.append_assoc, List.singleton_append]
      · rintro ⟨ts, hts, h⟩
        obtain ⟨t, ts', ht, hts', rfl⟩ := List.forall₂_cons_left_iff.mp hts
        have hnodup := items'.property
        rw [h, ← List.singleton_append, ← List.append_assoc, List.nodup_append] at hnodup
        refine ⟨⟨items.val ++ [t], hnodup.1⟩, addItem_eq_ok_iff.mpr ⟨t, ht, rfl⟩, ih.mpr ?_⟩
        refine ⟨ts', hts', ?_⟩
        rw [h, List.append_assoc, List.singleton_append]

/-- **What a list of distinct texts is read from.** -/
lemma distinctItems_eq_ok_iff {values : List Value} {items : Distinct (PatternText P)} :
    distinctItems P fieldName values = .ok items ↔
      List.Forall₂ Normalizes values items.val := by
  unfold distinctItems
  rw [foldlM_addItem_eq_ok_iff]
  constructor
  · rintro ⟨ts, hts, h⟩
    rwa [h, List.nil_append]
  · intro h
    exact ⟨items.val, h, rfl⟩

/-- Texts as they are written down. -/
def writeItems (items : Distinct (PatternText P)) : List Value :=
  items.val.map fun t => .str t.val.val

/-- Such a list is read back. -/
lemma distinctItems_writeItems (items : Distinct (PatternText P)) :
    distinctItems P fieldName (writeItems items) = .ok items := by
  rw [distinctItems_eq_ok_iff, writeItems, List.forall₂_map_left_iff, List.forall₂_same]
  exact fun t _ => ⟨t.val.val, rfl, t.val.property.1⟩

end

/-! ## Keyword arguments -/

/-- Names as an error lists them: `'a'`, `'a' and 'b'`, `'a', 'b', and 'c'`. -/
def listNames (names : List String) : String :=
  match names.reverse with
  | [] => ""
  | [name] => "'" ++ name ++ "'"
  | [last, first] => "'" ++ first ++ "' and '" ++ last ++ "'"
  | last :: before =>
      ", ".intercalate (before.reverse.map fun name => "'" ++ name ++ "'") ++ ", and '" ++ last ++
        "'"

/-- The binding of keyword arguments by a constructor: an unexpected name is found first. -/
def bindKeywords (cls : String) (required optional : List String) (kwargs : Mapping) :
    Except PyError Unit :=
  match kwargs.find? fun kwarg => kwarg.1 ∉ required ++ optional with
  | some kwarg => .error ⟨.typeError, "%.__init__() got an unexpected keyword argument '%'",
      [cls, kwarg.1]⟩
  | none =>
    match required.filter fun name => (kwargs.get name).isNone with
    | [] => .ok ()
    | [name] => .error ⟨.typeError, "%.__init__() missing 1 required positional argument: %",
        [cls, listNames [name]]⟩
    | names => .error ⟨.typeError, "%.__init__() missing % required positional arguments: %",
        [cls, toString names.length, listNames names]⟩

/-- The argument of a parameter that is bound. -/
def argument (kwargs : Mapping) (name : String) (default : Value := .null) : Value :=
  (kwargs.get name).getD default

/-- A value unpacked into keyword arguments. -/
def unpackKeywords (callable : String) : Value → Except PyError Mapping
  | .dict kwargs => .ok kwargs
  | value => .error ⟨.typeError, "% argument after ** must be a mapping, not %",
      [callable, value.typeName]⟩

/-! ## Required providers -/

/-- `RequiredProviders`. -/
structure RequiredProviders where
  model : ProviderRef
  memory : ProviderRef
  knowledge : ProviderRef
  tool : Distinct ProviderRef
  channel : Distinct ProviderRef
  tracer : ProviderRef

/-- `_normalize_provider_ref_list`. -/
def normalizeProviderRefList (fieldName : String) : Value → Except PyError (Distinct ProviderRef)
  | .str _ => .error ⟨.typeError, "% must be a sequence of strings", [fieldName]⟩
  | values => iterItems values >>= distinctItems providerRefPattern fieldName

namespace RequiredProviders

/-- The `RequiredProviders` constructor. -/
def new (model memory knowledge : Value) (tool : Value := .tuple []) (channel : Value := .tuple [])
    (tracer : Value := .str "noop") : Except PyError RequiredProviders := do
  let model ← normalizeProviderRef "required_providers.model" model
  let memory ← normalizeProviderRef "required_providers.memory" memory
  let knowledge ← normalizeProviderRef "required_providers.knowledge" knowledge
  let tool ← normalizeProviderRefList "required_providers.tool" tool
  let channel ← normalizeProviderRefList "required_providers.channel" channel
  let tracer ← normalizeProviderRef "required_providers.tracer" tracer
  pure ⟨model, memory, knowledge, tool, channel, tracer⟩

/-- `RequiredProviders(**kwargs)`. -/
def ofKeywords (kwargs : Mapping) : Except PyError RequiredProviders := do
  bindKeywords "RequiredProviders" ["model", "memory", "knowledge"] ["tool", "channel", "tracer"]
    kwargs
  new (argument kwargs "model") (argument kwargs "memory") (argument kwargs "knowledge")
    (argument kwargs "tool" (.tuple [])) (argument kwargs "channel" (.tuple []))
    (argument kwargs "tracer" (.str "noop"))

/-- `iter_provider_slots`. -/
def iterProviderSlots (providers : RequiredProviders) : List (String × ProviderRef) :=
  [("model", providers.model), ("memory", providers.memory), ("knowledge", providers.knowledge)] ++
    providers.tool.val.zipIdx.map (fun item => (itemPlace "tool" item.2, item.1)) ++
    providers.channel.val.zipIdx.map (fun item => (itemPlace "channel" item.2, item.1)) ++
    [("tracer", providers.tracer)]

/-- The providers as they are declared. -/
def dict (providers : RequiredProviders) : Mapping :=
  [("model", .str providers.model.val.val), ("memory", .str providers.memory.val.val),
    ("knowledge", .str providers.knowledge.val.val), ("tool", .list (writeItems providers.tool)),
    ("channel", .list (writeItems providers.channel)), ("tracer", .str providers.tracer.val.val)]

/-- Declared providers are read back. -/
lemma ofKeywords_dict (providers : RequiredProviders) :
    ofKeywords providers.dict = .ok providers := by
  have hbind : bindKeywords "RequiredProviders" ["model", "memory", "knowledge"]
      ["tool", "channel", "tracer"] providers.dict = .ok () := rfl
  have hlist : ∀ (fieldName : String) (refs : Distinct ProviderRef),
      normalizeProviderRefList fieldName (.list (writeItems refs)) = .ok refs :=
    fun _ refs => distinctItems_writeItems refs
  have hmodel : argument providers.dict "model" = .str providers.model.val.val := rfl
  have hmemory : argument providers.dict "memory" = .str providers.memory.val.val := rfl
  have hknowledge : argument providers.dict "knowledge" = .str providers.knowledge.val.val := rfl
  have htool : argument providers.dict "tool" (.tuple []) = .list (writeItems providers.tool) := rfl
  have hchannel : argument providers.dict "channel" (.tuple []) =
      .list (writeItems providers.channel) := rfl
  have htracer : argument providers.dict "tracer" (.str "noop") =
      .str providers.tracer.val.val := rfl
  unfold ofKeywords new normalizeProviderRef
  rw [hbind, hmodel, hmemory, hknowledge, htool, hchannel, htracer]
  simp only [normalizePattern_val, hlist]
  rfl

end RequiredProviders

/-! ## Profiles -/

/-- `SEMVER_PATTERN`. -/
def profileVersionPattern (T : DigitKinds) : FieldPattern where
  fullmatch := isSemver T
  message := "% must be a semantic version like 1.0.0"

/-- `PROFILE_EXTENSION_PATTERN`. -/
def extensionPattern : FieldPattern where
  fullmatch := isExtensionSlug
  message := "% must be a lowercase extension slug like 'skill' or 'profile_overlay'"

/-- `_normalize_profile_id`. -/
def normalizeProfileId (fieldName : String) : Value → Except PyError Text
  | .str raw => requireNonEmptyText raw fieldName
  | _ => .error ⟨.typeError, "% must be a string", [fieldName]⟩

/-- `_require_non_empty_text` of a value whose type was not checked. -/
def requireText (fieldName : String) : Value → Except PyError Text
  | .str raw => requireNonEmptyText raw fieldName
  | value => .error ⟨.attributeError, "'%' object has no attribute 'strip'", [value.typeName]⟩

/-- `ProfileDescriptor`. -/
structure ProfileDescriptor (T : DigitKinds) where
  id : Text
  displayName : Text
  version : PatternText (profileVersionPattern T)
  supportedExtensions : Distinct (PatternText extensionPattern)
  requiredProviders : RequiredProviders
  extensions_ne_nil : supportedExtensions.val ≠ []

namespace ProfileDescriptor

variable (T : DigitKinds)

/-- `_normalize_supported_extensions`, on a list. -/
def normalizeSupportedExtensions (values : List Value) :
    Except PyError {items : Distinct (PatternText extensionPattern) // items.val ≠ []} := do
  let items ← distinctItems extensionPattern "supported_extensions" values
  if h : items.val = [] then
    .error ⟨.valueError, "supported_extensions must contain at least one extension", []⟩
  else .ok ⟨items, h⟩

/-- The `ProfileDescriptor` constructor.  The extensions are made a list first, a string the list of
its characters. -/
def new (id displayName version supportedExtensions : Value)
    (requiredProviders : RequiredProviders) : Except PyError (ProfileDescriptor T) := do
  let id ← normalizeProfileId "id" id
  let displayName ← requireText "display_name" displayName
  let version ← normalizePattern (profileVersionPattern T) "version" version
  let extensions ← iterItems supportedExtensions >>= normalizeSupportedExtensions
  pure ⟨id, displayName, version, extensions.val, requiredProviders, extensions.property⟩

/-- `ProfileDescriptor(**kwargs)`, the required providers given apart. -/
def ofKeywords (kwargs : Mapping) (requiredProviders : RequiredProviders) :
    Except PyError (ProfileDescriptor T) := do
  bindKeywords "ProfileDescriptor"
    ["id", "display_name", "version", "supported_extensions", "required_providers"] [] kwargs
  new T (argument kwargs "id") (argument kwargs "display_name") (argument kwargs "version")
    (argument kwargs "supported_extensions") requiredProviders

variable {T}

/-- The settings of a profile as they are declared. -/
def dict (profile : ProfileDescriptor T) : Mapping :=
  [("id", .str profile.id.val), ("display_name", .str profile.displayName.val),
    ("version", .str profile.version.val.val),
    ("supported_extensions", .list (writeItems profile.supportedExtensions)),
    ("required_providers", .dict profile.requiredProviders.dict)]

/-- Declared settings are read back. -/
lemma ofKeywords_dict (profile : ProfileDescriptor T) :
    ofKeywords T profile.dict profile.requiredProviders = .ok profile := by
  have hbind : bindKeywords "ProfileDescriptor"
      ["id", "display_name", "version", "supported_extensions", "required_providers"] []
      profile.dict = .ok () := rfl
  have hextensions : normalizeSupportedExtensions (writeItems profile.supportedExtensions) =
      .ok ⟨profile.supportedExtensions, profile.extensions_ne_nil⟩ := by
    unfold normalizeSupportedExtensions
    rw [distinctItems_writeItems]
    exact dif_neg profile.extensions_ne_nil
  have hid : argument profile.dict "id" = .str profile.id.val := rfl
  have hname : argument profile.dict "display_name" = .str profile.displayName.val := rfl
  have hversion : argument profile.dict "version" = .str profile.version.val.val := rfl
  have hlist : argument profile.dict "supported_extensions" =
      .list (writeItems profile.supportedExtensions) := rfl
  have hread : (iterItems (.list (writeItems profile.supportedExtensions)) >>=
      normalizeSupportedExtensions) =
        .ok ⟨profile.supportedExtensions, profile.extensions_ne_nil⟩ := hextensions
  unfold ofKeywords new
  rw [hbind, hid, hname, hversion, hlist, hread]
  unfold normalizeProfileId requireText
  simp only [requireNonEmptyText_val, normalizePattern_val]
  rfl

end ProfileDescriptor

/-! ## The registry -/

/-- `ProfileRegistry`. -/
structure ProfileRegistry (T : DigitKinds) where
  descriptors : List (ProfileDescriptor T) := []
  ids_nodup : (descriptors.map ProfileDescriptor.id).Nodup := by exact List.nodup_nil

namespace ProfileRegistry

variable {T : DigitKinds}

/-- The body of the loop of the constructor. -/
def addEntry (registry : ProfileRegistry T) (entry : String × ProfileDescriptor T) :
    Except PyError (ProfileRegistry T) := do
  let key ← requireNonEmptyText entry.1 "profile registry key"
  if entry.2.id ≠ key then
    .error ⟨.valueError, "profile registry key must match descriptor.id (% != %)",
      [key.val, entry.2.id.val]⟩
  else if h : entry.2.id ∈ registry.descriptors.map ProfileDescriptor.id then
    .error ⟨.valueError, "profile registry key % is duplicated", [key.val]⟩
  else .ok ⟨registry.descriptors ++ [entry.2], by
    rw [List.map_append, List.map_singleton, ← List.concat_eq_append]
    exact registry.ids_nodup.concat h⟩

/-- The `ProfileRegistry` constructor. -/
def new (entries : List (String × ProfileDescriptor T)) : Except PyError (ProfileRegistry T) :=
  entries.foldlM addEntry {}

/-- The descriptor under an id, if there is one. -/
def get? (registry : ProfileRegistry T) (id : Text) : Option (ProfileDescriptor T) :=
  KeyedTable.get ProfileDescriptor.id id registry.descriptors

/-- `__getitem__`. -/
def getItem (registry : ProfileRegistry T) (key : String) :
    Except PyError (ProfileDescriptor T) := do
  let key ← requireNonEmptyText key "profile registry lookup"
  match registry.get? key with
  | some profile => .ok profile
  | none => .error ⟨.keyError, "%", [key.val]⟩

lemma addEntry_self (registry : ProfileRegistry T) (profile : ProfileDescriptor T)
    (h : profile.id ∉ registry.descriptors.map ProfileDescriptor.id) :
    ∃ next, registry.addEntry (profile.id.val, profile) = .ok next ∧
      next.descriptors = registry.descriptors ++ [profile] := by
  unfold addEntry
  rw [requireNonEmptyText_val]
  refine ⟨_, ((if_neg (not_not_intro rfl)).trans (dif_neg h)), rfl⟩

/-- **Profiles with different ids make a registry**, each under its own id. -/
lemma new_of_nodup {profiles : List (ProfileDescriptor T)}
    (h : (profiles.map ProfileDescriptor.id).Nodup) :
    ∃ registry, new (profiles.map fun profile => (profile.id.val, profile)) = .ok registry ∧
      registry.descriptors = profiles := by
  have hloop : ∀ (rest : List (ProfileDescriptor T)) (registry : ProfileRegistry T),
      (registry.descriptors ++ rest).map ProfileDescriptor.id |>.Nodup →
      ∃ next, (rest.map fun profile => (profile.id.val, profile)).foldlM addEntry registry =
        .ok next ∧ next.descriptors = registry.descriptors ++ rest := by
    intro rest
    induction rest with
    | nil =>
        intro registry _
        exact ⟨registry, rfl, (List.append_nil _).symm⟩
    | cons profile rest ih =>
        intro registry hnodup
        have hnew : profile.id ∉ registry.descriptors.map ProfileDescriptor.id := by
          rw [List.map_append, List.nodup_append] at hnodup
          exact fun hmem => hnodup.2.2 _ hmem _ (List.mem_map_of_mem List.mem_cons_self) rfl
        obtain ⟨next, hnext, hdescriptors⟩ := registry.addEntry_self profile hnew
        rw [← List.singleton_append, ← List.append_assoc, ← hdescriptors] at hnodup
        obtain ⟨last, hlast, hall⟩ := ih next hnodup
        refine ⟨last, ?_, ?_⟩
        · rw [List.map_cons, List.foldlM_cons, hnext]
          exact hlast
        · rw [hall, hdescriptors, List.append_assoc, List.singleton_append]
  exact hloop profiles {} h

end ProfileRegistry

end Waywarden
