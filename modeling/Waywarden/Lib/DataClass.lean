import Waywarden.Lib.Json

/-!
# Record classes that check nothing

A record class lists its fields in order, some with a default.  Constructing an instance from a
dictionary of keyword arguments checks the names of the arguments and nothing about their values,
so an instance is known by the dictionary of its fields: `construct` returns that dictionary.

`DataClass α` presents such a class together with the type `α` of its well-typed instances, whose
field values are given by `values`.  Reading back the dictionary of an instance gives the instance
(`construct_asdict`), and an instance that cannot be told from a well-typed one after sorting the
keys is that one (`eq_asdict_of_sortKeys`).
-/

/-- A field of a record class. -/
structure DataField where
  name : String
  default : Option Json := none

/-- What may be wrong with the arguments of a construction. -/
inductive ArgumentError
  | notMapping
  | unexpected (key : String)
  | missing (name : String)
  deriving DecidableEq, Repr

/-- A record class and the field values of its well-typed instances. -/
structure DataClass (α : Type) where
  fields : List DataField
  values : α → List Json
  distinct : (fields.map DataField.name).Nodup
  length_values : ∀ a, (values a).length = fields.length
  values_injective : Function.Injective values

namespace DataClass

open Json

variable {α : Type} (C : DataClass α)

/-- The names of the fields, in order. -/
def names : List String := C.fields.map DataField.name

/-- The dictionary of an instance. -/
def asdict (a : α) : Json := .dict (C.names.zip (C.values a))

/-- The dictionaries of a list of instances. -/
def asdicts (as : List α) : Json := .list (as.map C.asdict)

/-- The value an argument list gives a field. -/
def argument (kwargs : List (String × Json)) (f : DataField) : Except ArgumentError Json :=
  match (Json.lookup f.name kwargs).or f.default with
  | some v => .ok v
  | none => .error (.missing f.name)

/-- `C(**kwargs)`, as the dictionary of the new instance. -/
def construct : Json → Except ArgumentError Json
  | .dict kwargs =>
      match kwargs.find? fun kw => kw.1 ∉ C.names with
      | some kw => .error (.unexpected kw.1)
      | none => do
          let vs ← C.fields.mapM (argument kwargs)
          .ok (.dict (C.names.zip vs))
  | _ => .error .notMapping

lemma length_names : C.names.length = C.fields.length := List.length_map ..

/-- The values of an instance are as many as the names. -/
lemma length_values_names (a : α) : (C.values a).length = C.names.length := by
  rw [C.length_values, C.length_names]

/-- Two instances with the same dictionary are the same. -/
lemma asdict_injective : Function.Injective C.asdict := by
  intro a b h
  have hzip := Json.dict.inj h
  refine C.values_injective (Json.zip_eq_of_perm C.distinct (C.length_values_names a)
    (C.length_values_names b) ?_)
  exact List.Perm.of_eq hzip

lemma asdicts_inj {as bs : List α} : C.asdicts as = C.asdicts bs ↔ as = bs := by
  rw [asdicts, asdicts, Json.list.injEq]
  exact (List.map_injective_iff.mpr C.asdict_injective).eq_iff

lemma length_of_mapM {β γ ε : Type} {f : β → Except ε γ} {bs : List β} {cs : List γ}
    (h : bs.mapM f = .ok cs) : cs.length = bs.length := by
  induction bs generalizing cs with
  | nil =>
      obtain rfl := Except.ok.inj h
      rfl
  | cons b bs ih =>
      rw [List.mapM_cons] at h
      cases hb : f b with
      | error e =>
          rw [hb] at h
          exact absurd h (by simp [bind, Except.bind])
      | ok c =>
          cases hbs : bs.mapM f with
          | error e =>
              rw [hb, hbs] at h
              exact absurd h (by simp [bind, Except.bind])
          | ok ds =>
              rw [hb, hbs] at h
              obtain rfl := Except.ok.inj h
              rw [List.length_cons, List.length_cons, ih hbs]

/-- An instance has a value for each field, in order. -/
lemma eq_zip_of_construct {kwargs o : Json} (h : C.construct kwargs = .ok o) :
    ∃ vs : List Json, vs.length = C.names.length ∧ o = .dict (C.names.zip vs) := by
  cases kwargs with
  | null | bool b | int i | float x | str s | list xs => exact absurd h (by simp [construct])
  | dict ms =>
      rw [construct] at h
      split at h
      · exact absurd h (by simp)
      · cases hvs : C.fields.mapM (argument ms) with
        | error e =>
            rw [hvs] at h
            exact absurd h (by simp [bind, Except.bind])
        | ok vs =>
            rw [hvs] at h
            obtain rfl := Except.ok.inj h
            exact ⟨vs, by rw [length_of_mapM hvs, C.length_names], rfl⟩

/-- Arguments that name each field once, in order, are read back. -/
lemma mapM_argument {fields : List DataField} {vs : List Json} {kwargs : List (String × Json)}
    (hlen : vs.length = fields.length) (hkeys : (kwargs.map Prod.fst).Nodup)
    (hsub : (fields.map DataField.name).zip vs ⊆ kwargs) :
    fields.mapM (argument kwargs) = .ok vs := by
  induction fields generalizing vs with
  | nil =>
      rw [List.eq_nil_of_length_eq_zero hlen]
      rfl
  | cons f fields ih =>
      obtain ⟨v, vs, rfl⟩ := List.exists_cons_of_length_eq_add_one hlen
      rw [List.map_cons, List.zip_cons_cons, List.cons_subset] at hsub
      have hv : argument kwargs f = .ok v := by
        rw [argument, Json.lookup_of_mem hkeys hsub.1, Option.some_or]
      rw [List.mapM_cons, hv, ih (Nat.succ.inj hlen) hsub.2]
      rfl

/-- **Reading back.**  The dictionary of an instance constructs that instance. -/
theorem construct_asdict (a : α) : C.construct (C.asdict a) = .ok (C.asdict a) := by
  have hkeys : (C.names.zip (C.values a)).map Prod.fst = C.names :=
    List.map_fst_zip (Nat.le_of_eq (C.length_values_names a).symm)
  have hknown : (C.names.zip (C.values a)).find? (fun kw => kw.1 ∉ C.names) = none := by
    rw [List.find?_eq_none]
    intro kw hkw
    have hmem : kw.1 ∈ C.names := (List.of_mem_zip hkw).1
    simp [hmem]
  have hvs : C.fields.mapM (argument (C.names.zip (C.values a))) = .ok (C.values a) :=
    mapM_argument (C.length_values a) (by rw [hkeys]; exact C.distinct) (fun _ h => h)
  simp only [asdict, construct, hknown, hvs]
  rfl

/-- Values that sort to flat ones are those. -/
lemma eq_of_map_sortKeys {vs ws : List Json} (hws : ∀ w ∈ ws, Flat w)
    (h : vs.map sortKeys = ws.map sortKeys) : vs = ws := by
  induction ws generalizing vs with
  | nil => exact List.map_eq_nil_iff.mp h
  | cons w ws ih =>
      obtain ⟨v, vs, rfl, hv, hrest⟩ := List.map_eq_cons_iff.mp h
      have hw : Flat w := hws w List.mem_cons_self
      rw [ih (fun u hu => hws u (List.mem_cons_of_mem w hu)) hrest,
        eq_of_sortKeys_flat hw (hv.trans (sortKeys_flat hw))]

/-- A dictionary with the fields of the class that sorts to the one of an instance has, up to
sorting, the values of that instance. -/
lemma map_sortKeys_values {vs : List Json} {a : α} (hvs : vs.length = C.names.length)
    (h : sortKeys (.dict (C.names.zip vs)) = sortKeys (C.asdict a)) :
    vs.map sortKeys = (C.values a).map sortKeys :=
  Json.sortKeys_zip_inj C.distinct hvs (C.length_values_names a) h

/-- Such a dictionary is the one of the instance when the instance's values are flat. -/
lemma zip_eq_asdict_of_sortKeys {vs : List Json} {a : α} (hflat : ∀ v ∈ C.values a, Flat v)
    (hvs : vs.length = C.names.length)
    (h : sortKeys (.dict (C.names.zip vs)) = sortKeys (C.asdict a)) :
    .dict (C.names.zip vs) = C.asdict a := by
  rw [eq_of_map_sortKeys hflat (C.map_sortKeys_values hvs h), asdict]

/-- **Sorting hides nothing.**  An instance whose dictionary sorts to that of a well-typed one
with flat field values is that one. -/
theorem eq_asdict_of_sortKeys {kwargs o : Json} {a : α} (hflat : ∀ v ∈ C.values a, Flat v)
    (ho : C.construct kwargs = .ok o) (h : sortKeys o = sortKeys (C.asdict a)) :
    o = C.asdict a := by
  obtain ⟨vs, hvs, rfl⟩ := C.eq_zip_of_construct ho
  exact C.zip_eq_asdict_of_sortKeys hflat hvs h

/-- Sorting hides nothing in a list of instances either. -/
theorem eq_asdicts_of_sortKeys {os : List Json} {as : List α}
    (hflat : ∀ a, ∀ v ∈ C.values a, Flat v) (hos : ∀ o ∈ os, ∃ kwargs, C.construct kwargs = .ok o)
    (h : sortKeys (.list os) = sortKeys (C.asdicts as)) : Json.list os = C.asdicts as := by
  have hmap := Json.sortKeys_list_inj h
  apply congrArg Json.list
  clear h
  induction as generalizing os with
  | nil => exact List.map_eq_nil_iff.mp hmap
  | cons a as ih =>
      obtain ⟨o, os, rfl, ho, hrest⟩ := List.map_eq_cons_iff.mp hmap
      obtain ⟨kwargs, hkwargs⟩ := hos o List.mem_cons_self
      rw [C.eq_asdict_of_sortKeys (hflat a) hkwargs ho,
        ih (fun p hp => hos p (List.mem_cons_of_mem o hp)) hrest, List.map_cons]

/-- The dictionary of an instance repeats no key when its values do not. -/
lemma distinct_asdict {a : α} (h : ∀ v ∈ C.values a, Json.Distinct v) :
    Json.Distinct (C.asdict a) := by
  have members : ∀ (keys : List String) (vs : List Json), (∀ v ∈ vs, Json.Distinct v) →
      Json.DistinctMembers (keys.zip vs) := by
    intro keys
    induction keys with
    | nil => intro vs _; trivial
    | cons k keys ih =>
        intro vs hvs
        cases vs with
        | nil => trivial
        | cons v vs =>
            exact ⟨hvs v List.mem_cons_self,
              ih vs fun u hu => hvs u (List.mem_cons_of_mem v hu)⟩
  refine ⟨?_, members C.names (C.values a) h⟩
  rw [List.map_fst_zip (Nat.le_of_eq (C.length_values_names a).symm)]
  exact C.distinct

lemma distinct_asdicts (h : ∀ a, ∀ v ∈ C.values a, Json.Distinct v) (as : List α) :
    Json.Distinct (C.asdicts as) :=
  Json.distinctItems_map (fun a => C.distinct_asdict (h a)) as

end DataClass
