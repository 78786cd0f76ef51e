import Waywarden.Assets.Loader
import Waywarden.Assets.Version
import Waywarden.Lib.RecordSchema

/-!
# Fields of asset metadata

The validators of `waywarden.assets.schema` that work on one field, each as a reader of the value
under the field's name together with a writer.  A validator cleans what it is given, and a
`RecordSchema` holds it to leave a clean value alone: what is written is read back as it was.

Fields without a validator of their own are checked by pydantic alone: a string is taken as it is, a
literal is compared, and an integer is read by a function that is given.
-/

namespace Waywarden

/-- What the schema takes from outside: `str.lower`, the Unicode data of versions, pydantic's
reading of an integer, and `repr`. -/
structure AssetEnv where
  lower : String → String
  lower_lower : ∀ s, lower (lower s) = lower s
  strip_lower : ∀ s, strip s = s → strip (lower s) = lower s
  lower_of_ascii : ∀ s : String, (∀ c ∈ s.toList, c.toNat < 128 ∧ c.toLower = c) → lower s = s
  digits : DigitKinds
  readInt : Value → Except PyError ℤ
  readInt_int : ∀ n, readInt (.int n) = .ok n
  repr : Value → String

/-- `str.lower` on ASCII. -/
def asciiLower (s : String) : String := String.ofList (s.toList.map Char.toLower)

/-- The case and the digits of ASCII alone, and integers that are integers already. -/
def AssetEnv.ascii : AssetEnv where
  lower := asciiLower
  lower_lower s := by
    unfold asciiLower
    rw [String.toList_ofList, List.map_map]
    exact congrArg String.ofList (List.map_congr_left fun c _ => toLower_toLower c)
  strip_lower := by
    intro s h
    rw [← String.toList_inj, strip, String.toList_ofList, Trim.trim_eq_self_iff] at h ⊢
    unfold asciiLower
    rw [String.toList_ofList, List.head?_map, List.getLast?_map]
    constructor
    · intro c hc
      obtain ⟨d, hd, rfl⟩ := Option.mem_map.mp hc
      rw [isSpace_toLower]
      exact h.1 d hd
    · intro c hc
      obtain ⟨d, hd, rfl⟩ := Option.mem_map.mp hc
      rw [isSpace_toLower]
      exact h.2 d hd
  lower_of_ascii := by
    intro s h
    unfold asciiLower
    rw [List.map_congr_left fun c hc => (h c hc).2, List.map_id', String.ofList_toList]
  digits := asciiKinds
  readInt
    | .int n => .ok n
    | .bool b => .ok (if b then 1 else 0)
    | _ => .error ⟨.valueError, "Input should be a valid integer", []⟩
  readInt_int _ := rfl
  repr
    | .str s => "'" ++ s ++ "'"
    | value => value.typeName

/-- How a record is read from a mapping. -/
abbrev AssetSchema (α : Type) : Type := RecordSchema Value PyError α

variable {α β : Type}

/-! ## Required fields, defaults and sequences -/

/-- A field that has to be there. -/
def required (name : String) (read : Value → Except PyError α) : Option Value → Except PyError α
  | none => .error ⟨.valueError, "% Field required", [name]⟩
  | some value => read value

/-- A field with a default, which is not validated. -/
def withDefault (default : α) (read : Value → Except PyError α) :
    Option Value → Except PyError α
  | none => .ok default
  | some value => read value

lemma required_write {read : Value → Except PyError α} {write : α → Value}
    (h : ∀ a, read (write a) = .ok a) {name : String} (a : α) :
    required name read (some (write a)) = .ok a := h a

lemma withDefault_write {default : α} {read : Value → Except PyError α} {write : α → Value}
    (h : ∀ a, read (write a) = .ok a) (a : α) :
    withDefault default read (some (write a)) = .ok a := h a

/-- A reader run over the items of a sequence, each with its index. -/
def readItems (read : Value → ℕ → Except PyError α) (items : List Value) :
    Except PyError (List α) :=
  items.zipIdx.mapM fun (item, idx) => read item idx

/-- Items that are read back one by one are read back. -/
lemma readItems_map {read : Value → ℕ → Except PyError α} {write : α → Value}
    (h : ∀ a idx, read (write a) idx = .ok a) (as : List α) :
    readItems read (as.map write) = .ok as := by
  unfold readItems
  generalize 0 = first
  induction as generalizing first with
  | nil => rfl
  | cons a as ih =>
      rw [List.map_cons, List.zipIdx_cons, List.mapM_cons]
      simp only [h, ih, bind, Except.bind, pure, Except.pure]

/-! ## Plain fields -/

/-- `str`. -/
def readStr (name : String) : Value → Except PyError String
  | .str s => .ok s
  | _ => .error ⟨.valueError, "% Input should be a valid string", [name]⟩

/-- `tuple[str, ...]`. -/
def readStrs (name : String) : Value → Except PyError (List String)
  | .list items | .tuple items =>
      readItems (fun item idx => readStr (name ++ "." ++ toString idx) item) items
  | _ => .error ⟨.valueError, "% Input should be a valid tuple", [name]⟩

/-- `dict[str, Any]`. -/
def readDict (name : String) : Value → Except PyError Mapping
  | .dict items => .ok items
  | _ => .error ⟨.valueError, "% Input should be a valid dictionary", [name]⟩

/-- `Literal[...]`. -/
def readLiteral (name : String) (options : List String) :
    Value → Except PyError {s : String // s ∈ options}
  | .str s =>
      if h : s ∈ options then .ok ⟨s, h⟩
      else .error ⟨.valueError, "% Input should be %", [name, " or ".intercalate options]⟩
  | _ => .error ⟨.valueError, "% Input should be %", [name, " or ".intercalate options]⟩

/-- A string with bounds on its length. -/
def Bounded (least most : ℕ) : Type := {s : String // least ≤ s.length ∧ s.length ≤ most}

/-- `min_length` and `max_length`. -/
def checkLength (name : String) (least most : ℕ) (s : String) :
    Except PyError (Bounded least most) :=
  if hleast : s.length < least then
    .error ⟨.valueError, "% String should have at least % characters", [name, toString least]⟩
  else if hmost : most < s.length then
    .error ⟨.valueError, "% String should have at most % characters", [name, toString most]⟩
  else .ok ⟨s, Nat.not_lt.mp hleast, Nat.not_lt.mp hmost⟩

@[simp] lemma checkLength_val (name : String) {least most : ℕ} (s : Bounded least most) :
    checkLength name least most s.val = .ok s := by
  have hbounds := s.property
  unfold checkLength
  rw [dif_neg (by omega), dif_neg (by omega)]
  rfl

lemma val_of_checkLength {name s : String} {least most : ℕ} {bounded : Bounded least most}
    (h : checkLength name least most s = .ok bounded) : bounded.val = s := by
  unfold checkLength at h
  split_ifs at h
  rw [← Except.ok.inj h]

/-- A tuple of strings as a value. -/
def ofStrs (strs : List String) : Value := .tuple (strs.map .str)

/-- A tuple of texts as a value. -/
def ofTexts (texts : List Text) : Value := .tuple (texts.map fun t => .str t.val)

lemma readStrs_ofStrs (name : String) (strs : List String) :
    readStrs name (ofStrs strs) = .ok strs := by
  unfold readStrs ofStrs
  exact readItems_map (fun _ _ => rfl) strs

lemma readLiteral_val (name : String) {options : List String} (s : {s : String // s ∈ options}) :
    readLiteral name options (.str s.val) = .ok s :=
  dif_pos s.property

/-- A `str` with a default. -/
def strField (name : String) (default : String := "") : AssetSchema String :=
  RecordSchema.field name (withDefault default (readStr name)) .str fun _ => rfl

/-- A `tuple[str, ...]` that is empty by default. -/
def strsField (name : String) : AssetSchema (List String) :=
  RecordSchema.field name (withDefault [] (readStrs name)) ofStrs (readStrs_ofStrs name)

/-- A `dict[str, Any]` that is empty by default. -/
def dictField (name : String) : AssetSchema Mapping :=
  RecordSchema.field name (withDefault [] (readDict name)) .dict fun _ => rfl

/-- A `Literal[...]` with a default. -/
def literalField (name : String) (options : List String) (default : {s : String // s ∈ options}) :
    AssetSchema {s : String // s ∈ options} :=
  RecordSchema.field name (withDefault default (readLiteral name options)) (fun s => .str s.val)
    (readLiteral_val name)

/-! ## Distinct items -/

lemma nodup_append_singleton {as : List α} {a : α} (hnodup : as.Nodup) (h : a ∉ as) :
    (as ++ [a]).Nodup := by
  rw [← List.concat_eq_append]
  exact hnodup.concat h

/-- One more item, unless it is there. -/
def addDistinct [DecidableEq α] (seen : {as : List α // as.Nodup}) (a : α) :
    {as : List α // as.Nodup} :=
  if h : a ∈ seen.val then seen
  else ⟨seen.val ++ [a], nodup_append_singleton seen.property h⟩

/-- The first of each, as `dict.fromkeys` keeps them. -/
def distinct [DecidableEq α] (as : List α) : {as : List α // as.Nodup} :=
  as.foldl addDistinct ⟨[], List.nodup_nil⟩

lemma addDistinct_of_nodup [DecidableEq α] {seen : {as : List α // as.Nodup}} {a : α}
    (h : (seen.val ++ [a]).Nodup) : addDistinct seen a = ⟨seen.val ++ [a], h⟩ := by
  have hnot : a ∉ seen.val := by
    rw [← List.concat_eq_append, List.nodup_concat] at h
    exact h.1
  exact dif_neg hnot

/-- Items that are distinct are all kept. -/
lemma distinct_val [DecidableEq α] (as : {as : List α // as.Nodup}) : distinct as.val = as := by
  have hfold : ∀ (rest : List α) (seen : {as : List α // as.Nodup})
      (h : (seen.val ++ rest).Nodup), rest.foldl addDistinct seen = ⟨seen.val ++ rest, h⟩ := by
    intro rest
    induction rest with
    | nil =>
        intro seen h
        exact Subtype.ext (List.append_nil seen.val).symm
    | cons a rest ih =>
        intro seen h
        have happend : seen.val ++ a :: rest = (seen.val ++ [a]) ++ rest :=
          List.append_cons seen.val a rest
        have hall : ((seen.val ++ [a]) ++ rest).Nodup := happend ▸ h
        rw [List.foldl_cons, addDistinct_of_nodup hall.of_append_left]
        exact (ih _ hall).trans (Subtype.ext happend.symm)
  exact hfold as.val ⟨[], List.nodup_nil⟩ as.property

lemma mem_of_mem_distinct [DecidableEq α] {as : List α} {a : α} (h : a ∈ (distinct as).val) :
    a ∈ as := by
  have hfold : ∀ (rest : List α) (seen : {as : List α // as.Nodup}),
      a ∈ (rest.foldl addDistinct seen).val → a ∈ seen.val ∨ a ∈ rest := by
    intro rest
    induction rest with
    | nil => exact fun seen h => Or.inl h
    | cons b rest ih =>
        intro seen h
        rcases ih _ h with hseen | hrest
        · unfold addDistinct at hseen
          split at hseen
          · exact Or.inl hseen
          · rcases List.mem_append.mp hseen with hseen | hb
            · exact Or.inl hseen
            · exact Or.inr (List.mem_cons.mpr (Or.inl (List.mem_singleton.mp hb)))
        · exact Or.inr (List.mem_cons_of_mem b hrest)
  exact (hfold as ⟨[], List.nodup_nil⟩ h).resolve_left List.not_mem_nil

/-! ## The validators of the base class -/

variable (E : AssetEnv)

/-- The kinds, in the order they are declared. -/
def AssetKind.all : List AssetKind :=
  [.routine, .widget, .command, .prompt, .tool, .skill, .agent, .team, .pipeline, .workflow,
    .policy, .theme, .contextProvider, .profileOverlay]

/-- `KNOWN_ASSET_KINDS`. -/
def knownAssetKinds : List String := AssetKind.all.map AssetKind.name

/-- The kind with this literal. -/
def AssetKind.ofName? (name : String) : Option AssetKind :=
  AssetKind.all.find? fun kind => kind.name == name

lemma AssetKind.ofName?_name (kind : AssetKind) : ofName? kind.name = some kind := by
  cases kind <;> rfl

/-- `_normalize_kind`. -/
def normalizeKind : Value → Except PyError AssetKind
  | .str raw =>
      match AssetKind.ofName? (E.lower (strip raw)) with
      | some kind => .ok kind
      | none =>
          .error ⟨.valueError, "kind must be one of %, got %",
            [formatSorted knownAssetKinds, E.repr (.str raw)]⟩
  | _ => .error ⟨.typeError, "kind must be a string", []⟩

/-- A version the coercion leaves alone. -/
structure Coerced (version : String) : Prop where
  coerceVersion_eq : coerceVersion E.digits (.str version) = .ok version

/-- A version that is accepted: of the right length, and coerced. -/
@[ext] structure AssetVersion where
  text : Bounded 5 64
  coerced : Coerced E text.val

lemma coerced_of_checkLength {value : Value} {name version : String} {least most : ℕ}
    {bounded : Bounded least most} (h : coerceVersion E.digits value = .ok version)
    (hbounded : checkLength name least most version = .ok bounded) :
    Coerced E bounded.val := by
  obtain ⟨raw, rfl⟩ := exists_raw_of_coerceVersion h
  rw [val_of_checkLength hbounded]
  exact ⟨coerceVersion_coerced h⟩

/-- The validation of `version`. -/
def readVersion (value : Value) : Except PyError (AssetVersion E) :=
  match h : coerceVersion E.digits value with
  | .error e => .error e
  | .ok version =>
    match hbounded : checkLength "version" 5 64 version with
    | .error e => .error e
    | .ok bounded => .ok ⟨bounded, coerced_of_checkLength E h hbounded⟩

/-- A version that is accepted is accepted again. -/
lemma readVersion_val (version : AssetVersion E) :
    readVersion E (.str version.text.val) = .ok version := by
  unfold readVersion
  split
  · rename_i e h
    rw [version.coerced.coerceVersion_eq] at h
    cases h
  · rename_i text h
    obtain rfl := Except.ok.inj (version.coerced.coerceVersion_eq.symm.trans h)
    split
    · rename_i e hbounded
      rw [checkLength_val] at hbounded
      cases hbounded
    · rename_i bounded hbounded
      rw [checkLength_val] at hbounded
      exact congrArg Except.ok (AssetVersion.ext (Except.ok.inj hbounded).symm)

/-- What a version that is accepted was read from. -/
lemma coerceVersion_of_readVersion {value : Value} {version : AssetVersion E}
    (h : readVersion E value = .ok version) :
    coerceVersion E.digits value = .ok version.text.val := by
  unfold readVersion at h
  split at h
  · cases h
  · rename_i text htext
    split at h
    · cases h
    · rename_i bounded hbounded
      obtain rfl := Except.ok.inj h
      exact htext.trans (congrArg Except.ok (val_of_checkLength hbounded).symm)

/-! ### Names -/

/-- A string as a list of one, and a sequence as it is. -/
def nameItems (name : String) : Value → Except PyError (List Value)
  | .str s => .ok [.str s]
  | .list items | .tuple items => .ok items
  | _ => .error ⟨.typeError, name ++ " must be a string or sequence of strings", []⟩

/-- An item that has to be a string. -/
def nameItem (name : String) (item : Value) (idx : ℕ) : Except PyError String :=
  match item with
  | .str s => .ok s
  | _ => .error ⟨.typeError, name ++ "[%] must be a string", [toString idx]⟩

/-- A way to clean a name. -/
structure Cleaner where
  clean : String → String
  strip_clean : ∀ s, strip (clean s) = clean s
  clean_clean : ∀ s, clean (clean s) = clean s

/-- `str.strip`. -/
def stripped : Cleaner := ⟨strip, strip_strip, strip_strip⟩

/-- `str.strip`, and then `str.lower`. -/
def AssetEnv.lowered : Cleaner where
  clean s := E.lower (strip s)
  strip_clean s := E.strip_lower _ (strip_strip s)
  clean_clean s := by rw [E.strip_lower _ (strip_strip s), E.lower_lower]

variable (C : Cleaner)

/-- The name that is left after cleaning, if any is. -/
def Cleaner.name? (s : String) : Option Text :=
  if h : C.clean s = "" then none else some ⟨C.clean s, C.strip_clean s, h⟩

/-- Distinct names that are clean. -/
structure CleanNames (names : List Text) : Prop where
  nodup : names.Nodup
  clean : ∀ name ∈ names, C.clean name.val = name.val

lemma cleanNames_distinct (strs : List String) :
    CleanNames C (distinct (strs.filterMap C.name?)).val := by
  refine ⟨(distinct _).property, ?_⟩
  intro name hname
  obtain ⟨s, -, hs⟩ := List.mem_filterMap.mp (mem_of_mem_distinct hname)
  unfold Cleaner.name? at hs
  split at hs
  · cases hs
  · rw [← Option.some.inj hs]
    exact C.clean_clean s

/-- The common form of `_normalize_tags` and `_normalize_required_providers`: the distinct names in
a field, without those that are blank. -/
def readNames (field : String) (value : Value) :
    Except PyError {names : List Text // CleanNames C names} := do
  let items ← nameItems field value
  let strs ← readItems (nameItem field) items
  .ok ⟨distinct (strs.filterMap C.name?), cleanNames_distinct C strs⟩

/-- `_normalize_tags`. -/
def normalizeTags : Value → Except PyError {names : List Text // CleanNames stripped names} :=
  readNames stripped "tags"

/-- `_normalize_required_providers`. -/
def normalizeRequiredProviders :
    Value → Except PyError {names : List Text // CleanNames E.lowered names} :=
  readNames E.lowered "required_providers"

variable {C} in
lemma CleanNames.name?_val {names : List Text} (h : CleanNames C names) {name : Text}
    (hname : name ∈ names) : C.name? name.val = some name := by
  have hclean := h.clean name hname
  have hne : C.clean name.val ≠ "" := by
    rw [hclean]
    exact name.property.2
  unfold Cleaner.name?
  rw [dif_neg hne]
  exact congrArg some (Subtype.ext hclean)

/-- Clean names are read back. -/
lemma readNames_ofTexts (field : String) (names : {names : List Text // CleanNames C names}) :
    readNames C field (ofTexts names.val) = .ok names := by
  have hitems : readItems (nameItem field) (names.val.map fun t : Text => .str t.val) =
      .ok (names.val.map fun t : Text => t.val) := by
    have hmap : (names.val.map fun t : Text => Value.str t.val) =
        (names.val.map fun t : Text => t.val).map .str := List.map_map.symm
    rw [hmap]
    exact readItems_map (fun _ _ => rfl) _
  have hclean : (names.val.map fun t : Text => t.val).filterMap C.name? = names.val := by
    rw [List.filterMap_map]
    exact (List.filterMap_congr fun name hname => names.property.name?_val hname).trans
      List.filterMap_some
  have hdistinct := distinct_val ⟨names.val, names.property.nodup⟩
  unfold readNames ofTexts nameItems
  simp only [hitems, bind, Except.bind]
  simp only [hclean, hdistinct]

/-! ### Profile filters -/

/-- `_normalize_profile_filter`. -/
def normalizeProfileFilter : Option Value → Except PyError (List Mapping)
  | none | some .null => .ok []
  | some (.list items) | some (.tuple items) =>
      readItems (fun item idx => requireMapping "profile_filter" idx item) items
  | some _ => .error ⟨.typeError, "profile_filter must be a sequence or null", []⟩

/-- The operations of a profile filter. -/
def filterOps : List Text := [.lit "include", .lit "exclude"]

/-- The check of one entry in `_validate_profile_filter_ops`. -/
def checkFilterOp (entry : Mapping) (idx : ℕ) : Except PyError Unit :=
  let valid := formatSorted (filterOps.map fun op => op.val)
  match entry.get "op" with
  | none =>
      .error ⟨.valueError, "profile_filter[%] missing required 'op' field (one of %)",
        [toString idx, valid]⟩
  | some op => do
      if ← memberOf filterOps op then .ok ()
      else
        .error ⟨.valueError, "profile_filter[%].op must be one of %, got %",
          [toString idx, valid, E.repr op]⟩

/-- `_validate_profile_filter_ops`. -/
def validateProfileFilterOps (entries : List Mapping) : Except PyError Unit :=
  forM entries.zipIdx fun (entry, idx) => checkFilterOp E entry idx

/-- An entry that says which operation it is. -/
def HasFilterOp (entry : Mapping) : Prop :=
  ∃ op ∈ filterOps, entry.get "op" = some (.str op.val)

lemma memberOf_eq_true_iff {names : List Text} {value : Value} :
    memberOf names value = .ok true ↔ ∃ name ∈ names, value = .str name.val := by
  cases value with
  | str s =>
      unfold memberOf
      rw [Value.unhashable]
      · simp only [Except.ok.injEq, List.any_eq_true, beq_iff_eq, Value.str.injEq]
        exact exists_congr fun name => and_congr_right fun _ => eq_comm
      all_goals
        intro _ h
        cases h
  | _ =>
      unfold memberOf
      split <;> simp

lemma checkFilterOp_eq_ok_iff {entry : Mapping} {idx : ℕ} :
    checkFilterOp E entry idx = .ok () ↔ HasFilterOp entry := by
  unfold checkFilterOp HasFilterOp
  cases hop : entry.get "op" with
  | none => simp
  | some op =>
      simp only [Effect.except_bind_eq_ok, Option.some.injEq]
      rw [← memberOf_eq_true_iff]
      constructor
      · rintro ⟨b, hmember, h⟩
        split at h
        · rename_i hb
          rw [hmember, hb]
        · cases h
      · exact fun hmember => ⟨true, hmember, rfl⟩

/-- **The check of the filters is exact.** -/
lemma validateProfileFilterOps_eq_ok_iff {entries : List Mapping} :
    validateProfileFilterOps E entries = .ok () ↔ ∀ entry ∈ entries, HasFilterOp entry := by
  unfold validateProfileFilterOps
  rw [Effect.except_forM_eq_ok]
  simp only [checkFilterOp_eq_ok_iff]
  rw [← List.zipIdx_map_fst 0 entries, List.forall_mem_map, List.zipIdx_map_fst]

/-- Mappings as a value. -/
def ofDicts (dicts : List Mapping) : Value := .tuple (dicts.map .dict)

lemma normalizeProfileFilter_ofDicts (entries : List Mapping) :
    normalizeProfileFilter (some (ofDicts entries)) = .ok entries := by
  unfold normalizeProfileFilter ofDicts
  exact readItems_map (fun _ _ => rfl) entries

/-! ### Ids and kinds -/

/-- An id is in small letters. -/
lemma lower_id (id : AssetId) : E.lower id.val = id.val := by
  apply E.lower_of_ascii
  intro c hc
  have h := id.property
  unfold isAssetId at h
  rw [Bool.and_eq_true, Bool.and_eq_true, List.all_eq_true] at h
  exact ascii_of_isIdChar (h.1.2 c hc)

lemma normalizeId_val (id : AssetId) : normalizeId E.lower (.str id.val) = .ok id := by
  have hstrip : strip id.val = id.val := id.text.property.1
  have hclean : E.lower (strip id.val) = id.val := by rw [hstrip, lower_id]
  have hne : id.val ≠ "" := id.text.property.2
  unfold normalizeId
  simp only [hclean, hne, if_false]
  exact dif_pos id.property

lemma lower_strip_name (kind : AssetKind) : E.lower (strip kind.name) = kind.name := by
  have hall : (kind.name.toList.all fun c => c.toNat < 128 ∧ c.toLower = c) = true := by
    cases kind <;> decide +kernel
  have hascii : ∀ c ∈ kind.name.toList, c.toNat < 128 ∧ c.toLower = c := by
    intro c hc
    exact of_decide_eq_true (List.all_eq_true.mp hall c hc)
  have hstrip : strip kind.name = kind.name := by
    cases kind <;> decide +kernel
  rw [hstrip, E.lower_of_ascii _ hascii]

lemma normalizeKind_name (kind : AssetKind) : normalizeKind E (.str kind.name) = .ok kind := by
  unfold normalizeKind
  simp only [lower_strip_name, AssetKind.ofName?_name]

end Waywarden
