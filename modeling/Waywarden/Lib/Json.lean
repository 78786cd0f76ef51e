import Mathlib.Tactic.Common
import Mathlib.Data.Int.Notation
import Mathlib.Data.List.Sort
import Mathlib.Data.String.Basic
import Waywarden.Lib.Decimal
import Waywarden.Lib.KeyedTable

/-!
# JSON values

The values a JSON text stands for.  A dictionary is its members in insertion order; reading a text
may give members with repeated keys, which `asDicts` collapses the way a hash table does: the first
member keeps its place, the last one gives the value.

`sortKeys` sorts the members of every dictionary by key.  It forgets the order of the members and
nothing else, so it can be undone on values whose member order is known:
`sortKeys_zip_inj` for dictionaries with the same keys, `eq_of_sortKeys_flat` for a value with no
dictionary in it.
-/

/-- A JSON value. -/
inductive Json
  | null
  | bool (b : Bool)
  | int (i : ℤ)
  | float (x : Decimal)
  | str (s : String)
  | list (xs : List Json)
  | dict (members : List (String × Json))

namespace Json

/-- An optional value, absent as `null`. -/
def ofOption {α : Type} (f : α → Json) : Option α → Json
  | none => .null
  | some a => f a

/-- A list of strings. -/
def strs (ss : List String) : Json := .list (ss.map .str)

lemma ofOption_inj {α : Type} {f : α → Json} (hf : Function.Injective f)
    (hnull : ∀ a, f a ≠ .null) {o o' : Option α} : ofOption f o = ofOption f o' ↔ o = o' := by
  constructor
  · intro h
    cases o with
    | none =>
        cases o' with
        | none => rfl
        | some a => exact absurd h.symm (hnull a)
    | some a =>
        cases o' with
        | none => exact absurd h (hnull a)
        | some b => exact congrArg some (hf h)
  · rintro rfl
    rfl

@[simp] lemma ofOption_str_inj {o o' : Option String} :
    ofOption .str o = ofOption .str o' ↔ o = o' :=
  ofOption_inj (fun _ _ h => Json.str.inj h) nofun

@[simp] lemma ofOption_int_inj {o o' : Option ℤ} :
    ofOption .int o = ofOption .int o' ↔ o = o' :=
  ofOption_inj (fun _ _ h => Json.int.inj h) nofun

@[simp] lemma strs_inj {ss ts : List String} : strs ss = strs ts ↔ ss = ts := by
  rw [strs, strs, Json.list.injEq]
  exact (List.map_injective_iff.mpr fun _ _ h => Json.str.inj h).eq_iff

/-- The value of a key. -/
def lookup (key : String) (members : List (String × Json)) : Option Json :=
  (KeyedTable.get Prod.fst key members).map Prod.snd

@[simp] lemma lookup_nil (key : String) : lookup key [] = none := rfl

lemma lookup_cons (key : String) (m : String × Json) (ms : List (String × Json)) :
    lookup key (m :: ms) = if m.1 = key then some m.2 else lookup key ms := by
  rw [lookup, KeyedTable.get_cons, apply_ite (Option.map Prod.snd)]
  rfl

/-- In a dictionary without repeated keys a member's key is mapped to its value. -/
lemma lookup_of_mem {key : String} {v : Json} {members : List (String × Json)}
    (hkeys : (members.map Prod.fst).Nodup) (h : (key, v) ∈ members) :
    lookup key members = some v := by
  induction members with
  | nil => exact absurd h List.not_mem_nil
  | cons m ms ih =>
      rw [List.map_cons, List.nodup_cons] at hkeys
      rw [lookup_cons]
      rcases List.mem_cons.mp h with rfl | h
      · rw [if_pos rfl]
      · have hne : m.1 ≠ key := by
          rintro rfl
          exact hkeys.1 (List.mem_map.mpr ⟨_, h, rfl⟩)
        rw [if_neg hne, ih hkeys.2 h]

/-! ## Repeated keys -/

/-- The members a hash table holds after they are put in one after another. -/
def collapse (members : List (String × Json)) : List (String × Json) :=
  members.foldl (fun table m => KeyedTable.upsert Prod.fst m table) []

mutual

/-- Every dictionary with its repeated keys collapsed. -/
def asDicts : Json → Json
  | .list xs => .list (asDictsItems xs)
  | .dict members => .dict (collapse (asDictsMembers members))
  | j => j

/-- `asDicts` on the items of a list. -/
def asDictsItems : List Json → List Json
  | [] => []
  | x :: xs => asDicts x :: asDictsItems xs

/-- `asDicts` on the values of a dictionary. -/
def asDictsMembers : List (String × Json) → List (String × Json)
  | [] => []
  | (k, v) :: ms => (k, asDicts v) :: asDictsMembers ms

end

/-- Members with distinct keys are all kept, in order. -/
lemma collapse_of_nodup {members : List (String × Json)} (h : (members.map Prod.fst).Nodup) :
    collapse members = members := by
  have fresh : ∀ (rest table : List (String × Json)), ((table ++ rest).map Prod.fst).Nodup →
      rest.foldl (fun table m => KeyedTable.upsert Prod.fst m table) table = table ++ rest := by
    intro rest
    induction rest with
    | nil => intro table _; rw [List.foldl_nil, List.append_nil]
    | cons m ms ih =>
        intro table hnodup
        rw [List.map_append, List.map_cons, List.nodup_middle, List.nodup_cons] at hnodup
        have hnone : KeyedTable.get Prod.fst m.1 table = none := by
          rw [KeyedTable.get, List.find?_eq_none]
          intro r hr heq
          refine hnodup.1 (List.mem_append_left _ ?_)
          rw [← of_decide_eq_true heq]
          exact List.mem_map_of_mem hr
        rw [List.foldl_cons, KeyedTable.upsert, hnone]
        show ms.foldl _ (table ++ [m]) = _
        rw [ih, List.append_assoc, List.singleton_append]
        rw [List.append_assoc, List.map_append, List.singleton_append, List.map_cons,
          List.nodup_middle, List.nodup_cons]
        exact hnodup
  exact fresh members [] (by rw [List.nil_append]; exact h)

mutual

/-- No dictionary of the value repeats a key. -/
def Distinct : Json → Prop
  | .list xs => DistinctItems xs
  | .dict members => (members.map Prod.fst).Nodup ∧ DistinctMembers members
  | _ => True

/-- `Distinct` on the items of a list. -/
def DistinctItems : List Json → Prop
  | [] => True
  | x :: xs => Distinct x ∧ DistinctItems xs

/-- `Distinct` on the values of a dictionary. -/
def DistinctMembers : List (String × Json) → Prop
  | [] => True
  | (_, v) :: ms => Distinct v ∧ DistinctMembers ms

end

mutual

/-- A value that repeats no key is not changed by collapsing repeated keys. -/
lemma asDicts_of_distinct {j : Json} (h : Distinct j) : asDicts j = j := by
  cases j with
  | null | bool b | int i | float x | str s => rfl
  | list xs => exact congrArg Json.list (asDictsItems_of_distinct h)
  | dict ms =>
      rw [asDicts, asDictsMembers_of_distinct h.2, collapse_of_nodup h.1]

lemma asDictsItems_of_distinct {xs : List Json} (h : DistinctItems xs) : asDictsItems xs = xs := by
  cases xs with
  | nil => rfl
  | cons x xs => rw [asDictsItems, asDicts_of_distinct h.1, asDictsItems_of_distinct h.2]

lemma asDictsMembers_of_distinct {ms : List (String × Json)} (h : DistinctMembers ms) :
    asDictsMembers ms = ms := by
  match ms with
  | [] => rfl
  | (k, v) :: ms => rw [asDictsMembers, asDicts_of_distinct h.1, asDictsMembers_of_distinct h.2]

end

lemma distinctItems_map {α : Type} {f : α → Json} (hf : ∀ a, Distinct (f a)) (as : List α) :
    DistinctItems (as.map f) := by
  induction as with
  | nil => trivial
  | cons a as ih => exact ⟨hf a, ih⟩

/-! ## Sorted keys -/

mutual

/-- The members of every dictionary sorted by key. -/
def sortKeys : Json → Json
  | .list xs => .list (sortItems xs)
  | .dict members => .dict ((sortMembers members).insertionSort fun a b => a.1 ≤ b.1)
  | j => j

/-- `sortKeys` on the items of a list. -/
def sortItems : List Json → List Json
  | [] => []
  | x :: xs => sortKeys x :: sortItems xs

/-- `sortKeys` on the values of a dictionary. -/
def sortMembers : List (String × Json) → List (String × Json)
  | [] => []
  | (k, v) :: ms => (k, sortKeys v) :: sortMembers ms

end

lemma sortItems_eq_map (xs : List Json) : sortItems xs = xs.map sortKeys := by
  induction xs with
  | nil => rfl
  | cons x xs ih => rw [sortItems, ih, List.map_cons]

lemma sortMembers_zip (keys : List String) (vs : List Json) :
    sortMembers (keys.zip vs) = keys.zip (vs.map sortKeys) := by
  induction keys generalizing vs with
  | nil => rfl
  | cons k keys ih =>
      cases vs with
      | nil => rfl
      | cons v vs => rw [List.zip_cons_cons, sortMembers, ih, List.map_cons, List.zip_cons_cons]

lemma sortKeys_list_inj {xs ys : List Json} (h : sortKeys (.list xs) = sortKeys (.list ys)) :
    xs.map sortKeys = ys.map sortKeys := by
  rw [sortKeys, sortKeys, sortItems_eq_map, sortItems_eq_map] at h
  exact Json.list.inj h

/-- Two lists of members with the same distinct keys in the same order are equal when one is a
permutation of the other. -/
lemma zip_eq_of_perm {keys : List String} (hkeys : keys.Nodup) {vs ws : List Json}
    (hvs : vs.length = keys.length) (hws : ws.length = keys.length)
    (h : (keys.zip vs).Perm (keys.zip ws)) : vs = ws := by
  induction keys generalizing vs ws with
  | nil =>
      rw [List.eq_nil_of_length_eq_zero hvs, List.eq_nil_of_length_eq_zero hws]
  | cons k keys ih =>
      obtain ⟨v, vs, rfl⟩ := List.exists_cons_of_length_eq_add_one hvs
      obtain ⟨w, ws, rfl⟩ := List.exists_cons_of_length_eq_add_one hws
      rw [List.zip_cons_cons, List.zip_cons_cons] at h
      rw [List.nodup_cons] at hkeys
      -- the key occurs once on each side
      have hv : v = w := by
        have hmem : (k, v) ∈ (k, w) :: keys.zip ws := h.subset List.mem_cons_self
        rcases List.mem_cons.mp hmem with heq | hmem
        · exact congrArg Prod.snd heq
        · exact absurd (List.of_mem_zip hmem).1 hkeys.1
      subst hv
      rw [ih hkeys.2 (Nat.succ.inj hvs) (Nat.succ.inj hws) h.cons_inv]

/-- **Sorting is injective on dictionaries with the same keys in the same order.** -/
lemma sortKeys_zip_inj {keys : List String} (hkeys : keys.Nodup) {vs ws : List Json}
    (hvs : vs.length = keys.length) (hws : ws.length = keys.length)
    (h : sortKeys (.dict (keys.zip vs)) = sortKeys (.dict (keys.zip ws))) :
    vs.map sortKeys = ws.map sortKeys := by
  rw [sortKeys, sortKeys, sortMembers_zip, sortMembers_zip] at h
  have hsorted := Json.dict.inj h
  apply zip_eq_of_perm hkeys (by rw [List.length_map, hvs]) (by rw [List.length_map, hws])
  have hperm := (List.perm_insertionSort (fun a b => a.1 ≤ b.1) (keys.zip (vs.map sortKeys))).symm
  rw [hsorted] at hperm
  exact hperm.trans (List.perm_insertionSort _ _)

/-! ## Values without dictionaries -/

mutual

/-- No dictionary occurs in the value. -/
def Flat : Json → Prop
  | .list xs => FlatItems xs
  | .dict _ => False
  | _ => True

/-- No dictionary occurs in the items. -/
def FlatItems : List Json → Prop
  | [] => True
  | x :: xs => Flat x ∧ FlatItems xs

end

mutual

/-- A value that sorts to a flat one is that one. -/
lemma eq_of_sortKeys_flat {j l : Json} (hl : Flat l) (h : sortKeys j = l) : j = l := by
  cases j with
  | null | bool b | int i | float x | str s => exact h
  | list xs =>
      subst h
      exact congrArg Json.list (eq_of_sortItems_flat hl rfl)
  | dict ms =>
      subst h
      exact hl.elim

/-- Items that sort to flat ones are those. -/
lemma eq_of_sortItems_flat {xs ys : List Json} (hys : FlatItems ys) (h : sortItems xs = ys) :
    xs = ys := by
  cases xs with
  | nil => exact h
  | cons x xs =>
      subst h
      rw [sortItems, ← eq_of_sortKeys_flat hys.1 rfl, ← eq_of_sortItems_flat hys.2 rfl]

end

mutual

/-- A flat value is sorted already. -/
lemma sortKeys_flat {l : Json} (hl : Flat l) : sortKeys l = l := by
  cases l with
  | null | bool b | int i | float x | str s => rfl
  | list xs => exact congrArg Json.list (sortItems_flat hl)
  | dict ms => exact hl.elim

/-- Flat items are sorted already. -/
lemma sortItems_flat {xs : List Json} (hxs : FlatItems xs) : sortItems xs = xs := by
  cases xs with
  | nil => rfl
  | cons x xs => rw [sortItems, sortKeys_flat hxs.1, sortItems_flat hxs.2]

end

@[simp] lemma flat_strs (ss : List String) : Flat (strs ss) := by
  show FlatItems (ss.map .str)
  induction ss with
  | nil => trivial
  | cons s ss ih => exact ⟨trivial, ih⟩

@[simp] lemma flat_ofOption_str (o : Option String) : Flat (ofOption .str o) := by
  cases o <;> trivial

@[simp] lemma flat_ofOption_int (o : Option ℤ) : Flat (ofOption .int o) := by
  cases o <;> trivial

mutual

/-- A flat value repeats no key. -/
lemma distinct_of_flat {j : Json} (h : Flat j) : Distinct j := by
  cases j with
  | null | bool b | int i | float x | str s => trivial
  | list xs => exact distinctItems_of_flat h
  | dict ms => exact h.elim

lemma distinctItems_of_flat {xs : List Json} (h : FlatItems xs) : DistinctItems xs := by
  cases xs with
  | nil => trivial
  | cons x xs => exact ⟨distinct_of_flat h.1, distinctItems_of_flat h.2⟩

end

end Json
