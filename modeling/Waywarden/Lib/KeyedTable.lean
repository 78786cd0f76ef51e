import Mathlib.Tactic.Common
import Mathlib.Data.List.Basic
import Mathlib.Data.List.Nodup

/-!
# Tables with a primary key

A table is a list of rows in insertion order, read through a key.  `get` is a lookup by primary
key, `update` rewrites the row with a given key, and `upsert` inserts a row or rewrites the one
already stored under its key.

The laws are the read-over-write equations: a lookup of the key just written sees the new row,
and a lookup of any other key sees the old table.
-/

namespace KeyedTable

variable {α κ : Type} [DecidableEq κ] (key : α → κ)

/-- Look a row up by its key. -/
def get (k : κ) (rows : List α) : Option α := rows.find? (fun r => key r = k)

/-- Rewrite the rows stored under a key. -/
def update (k : κ) (f : α → α) (rows : List α) : List α :=
  rows.map (fun r => if key r = k then f r else r)

/-- Insert a row, or rewrite the row stored under its key. -/
def upsert (row : α) (rows : List α) : List α :=
  match get key (key row) rows with
  | none => rows ++ [row]
  | some _ => update key (key row) (fun _ => row) rows

variable {key}

@[simp] lemma get_nil (k : κ) : get key k [] = none := rfl

lemma get_cons (k : κ) (r : α) (rows : List α) :
    get key k (r :: rows) = if key r = k then some r else get key k rows := by
  by_cases h : key r = k
  · simp [get, h]
  · simp [get, h]

/-- A row found under a key carries that key. -/
lemma key_of_get {k : κ} {rows : List α} {r : α} (h : get key k rows = some r) : key r = k := by
  simpa [get] using List.find?_some h

lemma mem_of_get {k : κ} {rows : List α} {r : α} (h : get key k rows = some r) : r ∈ rows :=
  List.mem_of_find?_eq_some h

/-- A key that is there is found. -/
lemma exists_get_of_mem {k : κ} {rows : List α} (h : k ∈ rows.map key) :
    ∃ r, get key k rows = some r := by
  obtain ⟨r, hr, rfl⟩ := List.mem_map.mp h
  apply Option.isSome_iff_exists.mp
  unfold get
  exact List.find?_isSome.mpr ⟨r, hr, decide_eq_true rfl⟩

lemma get_append (k : κ) (rows rows' : List α) :
    get key k (rows ++ rows') = (get key k rows).or (get key k rows') := by
  simp [get, List.find?_append]

/-- Appending a row stored under another key is not seen. -/
lemma get_concat_ne {k : κ} {r : α} (h : key r ≠ k) (rows : List α) :
    get key k (rows ++ [r]) = get key k rows := by
  rw [get_append, get_cons, if_neg h, get_nil, Option.or_none]

/-- A row appended under a fresh key is the one found there. -/
lemma get_concat_self {r : α} {rows : List α} (h : get key (key r) rows = none) :
    get key (key r) (rows ++ [r]) = some r := by
  rw [get_append, h, Option.none_or, get_cons, if_pos rfl]

/-- Read over write, same key. -/
lemma get_update_self {k : κ} {f : α → α} (hf : ∀ r, key r = k → key (f r) = k)
    (rows : List α) : get key k (update key k f rows) = (get key k rows).map f := by
  induction rows with
  | nil => rfl
  | cons r rows ih =>
      rw [update, List.map_cons, get_cons, get_cons]
      by_cases h : key r = k
      · simp [h, hf r h]
      · rw [if_neg h, if_neg h, if_neg h]
        exact ih

/-- Read over write, another key. -/
lemma get_update_ne {k k' : κ} {f : α → α} (hf : ∀ r, key r = k → key (f r) = k) (h : k' ≠ k)
    (rows : List α) : get key k' (update key k f rows) = get key k' rows := by
  induction rows with
  | nil => rfl
  | cons r rows ih =>
      rw [update, List.map_cons, get_cons, get_cons]
      by_cases hr : key r = k
      · rw [if_pos hr, if_neg (by rw [hf r hr]; exact h.symm), if_neg (by rw [hr]; exact h.symm)]
        exact ih
      · rw [if_neg hr]
        by_cases hr' : key r = k'
        · rw [if_pos hr', if_pos hr']
        · rw [if_neg hr', if_neg hr']
          exact ih

/-- An upserted row is the one found under its key. -/
@[simp] lemma get_upsert_self (row : α) (rows : List α) :
    get key (key row) (upsert key row rows) = some row := by
  rw [upsert]
  cases h : get key (key row) rows with
  | none => exact get_concat_self h
  | some r =>
      show get key (key row) (update key (key row) (fun _ => row) rows) = some row
      rw [get_update_self (fun _ _ => rfl), h, Option.map_some]

/-- An upsert is not seen under another key. -/
lemma get_upsert_ne {row : α} {k : κ} (h : k ≠ key row) (rows : List α) :
    get key k (upsert key row rows) = get key k rows := by
  rw [upsert]
  cases get key (key row) rows with
  | none => exact get_concat_ne h.symm rows
  | some r => exact get_update_ne (fun _ _ => rfl) h rows

/-- **Writing in sequence.**  After a sequence of upserts a key holds the last row written under it,
or what it held before. -/
lemma get_foldl_upsert (rows table : List α) (k : κ) :
    get key k (rows.foldl (fun table row => upsert key row table) table) =
      (rows.reverse.find? fun row => key row = k).or (get key k table) := by
  induction rows generalizing table with
  | nil => simp
  | cons row rows ih =>
      rw [List.foldl_cons, ih, List.reverse_cons, List.find?_append, Option.or_assoc]
      congr 1
      by_cases h : key row = k
      · rw [← h, get_upsert_self]
        simp
      · rw [get_upsert_ne (Ne.symm h)]
        simp [h]

/-! ## Keys -/

/-- A table with no key twice finds every row it has. -/
lemma get_of_mem {rows : List α} {row : α} (hnodup : (rows.map key).Nodup) (h : row ∈ rows) :
    get key (key row) rows = some row := by
  induction rows with
  | nil => exact absurd h List.not_mem_nil
  | cons first rows ih =>
      rw [List.map_cons, List.nodup_cons] at hnodup
      rw [get_cons]
      rcases List.mem_cons.mp h with rfl | hmem
      · rw [if_pos rfl]
      · have hne : key first ≠ key row := by
          intro heq
          exact hnodup.1 (heq ▸ List.mem_map_of_mem hmem)
        rw [if_neg hne, ih hnodup.2 hmem]

/-- What such a table finds depends on its rows alone, not on their order. -/
lemma get_of_perm {rows rows' : List α} (h : rows'.Perm rows) (hnodup : (rows.map key).Nodup)
    (k : κ) : get key k rows' = get key k rows := by
  have hnodup' : (rows'.map key).Nodup := (h.map key).nodup_iff.mpr hnodup
  rcases hget : get key k rows with _ | row
  · rcases hget' : get key k rows' with _ | row
    · rfl
    · have hmem := List.mem_map_of_mem (f := key) (h.mem_iff.mp (mem_of_get hget'))
      rw [key_of_get hget'] at hmem
      obtain ⟨other, hother⟩ := exists_get_of_mem hmem
      exact absurd (hget.symm.trans hother) (by simp)
  · rw [← key_of_get hget]
    exact get_of_mem hnodup' (h.mem_iff.mpr (mem_of_get hget))

/-- In which order the rows are searched does not matter when no key is there twice. -/
lemma get_reverse {rows : List α} (hnodup : (rows.map key).Nodup) (k : κ) :
    get key k rows.reverse = get key k rows := by
  cases hget : get key k rows with
  | none =>
      unfold get at hget ⊢
      rw [List.find?_eq_none] at hget ⊢
      exact fun row hrow => hget row (List.mem_reverse.mp hrow)
  | some row =>
      have hreverse : (rows.reverse.map key).Nodup := by
        rw [List.map_reverse, List.nodup_reverse]
        exact hnodup
      rw [← key_of_get hget]
      exact get_of_mem hreverse (List.mem_reverse.mpr (mem_of_get hget))

/-- An upsert leaves no key twice. -/
lemma nodup_upsert {row : α} {rows : List α} (h : (rows.map key).Nodup) :
    ((upsert key row rows).map key).Nodup := by
  unfold upsert
  cases hget : get key (key row) rows with
  | none =>
      have hfresh : key row ∉ rows.map key := by
        intro hmem
        obtain ⟨r, hr, hkey⟩ := List.mem_map.mp hmem
        rw [← hkey, get_of_mem h hr] at hget
        exact absurd hget (by simp)
      simp only [List.map_append, List.map_cons, List.map_nil]
      rw [List.nodup_append]
      refine ⟨h, List.nodup_singleton _, fun a ha b hb hab => ?_⟩
      obtain rfl := List.mem_singleton.mp hb
      exact hfresh (hab ▸ ha)
  | some found =>
      have hkeys : (update key (key row) (fun _ => row) rows).map key = rows.map key := by
        rw [update, List.map_map]
        refine List.map_congr_left fun r _ => ?_
        by_cases hr : key r = key row
        · simp [hr]
        · simp [hr]
      simp only [hkeys]
      exact h

/-- A table written by upserts alone has no key twice. -/
lemma nodup_foldl_upsert (rows : List α) {table : List α} (h : (table.map key).Nodup) :
    ((rows.foldl (fun table row => upsert key row table) table).map key).Nodup := by
  induction rows generalizing table with
  | nil => exact h
  | cons row rows ih => exact ih (nodup_upsert h)

/-! ## Rows that come first -/

variable (key) in
/-- Add a row, unless its key is taken. -/
def addNew (row : α) (rows : List α) : List α :=
  match get key (key row) rows with
  | none => rows ++ [row]
  | some _ => rows

lemma addNew_of_none {row : α} {rows : List α} (h : get key (key row) rows = none) :
    addNew key row rows = rows ++ [row] := by
  rw [addNew, h]

lemma addNew_of_some {row r : α} {rows : List α} (h : get key (key row) rows = some r) :
    addNew key row rows = rows := by
  rw [addNew, h]

/-- What is there stays, and a row is found where nothing was. -/
lemma get_addNew (k : κ) (row : α) (rows : List α) :
    get key k (addNew key row rows) = (get key k rows).or (get key k [row]) := by
  rcases h : get key (key row) rows with _ | r
  · rw [addNew_of_none h, get_append]
  · rw [addNew_of_some h, get_cons, get_nil]
    by_cases hk : key row = k
    · rw [if_pos hk, ← hk, h, Option.some_or]
    · rw [if_neg hk, Option.or_none]

lemma nodup_addNew {row : α} {rows : List α} (h : (rows.map key).Nodup) :
    ((addNew key row rows).map key).Nodup := by
  rcases hget : get key (key row) rows with _ | r
  · rw [addNew_of_none hget, List.map_append, List.map_singleton, ← List.concat_eq_append]
    refine h.concat fun hmem => ?_
    obtain ⟨r, hr⟩ := exists_get_of_mem hmem
    exact absurd (hget.symm.trans hr) (by simp)
  · rw [addNew_of_some hget]
    exact h

/-! ## Keys that come twice -/

/-- The first key that is there before. -/
def firstDuplicate : List κ → List κ → Option κ
  | _, [] => none
  | seen, k :: keys => if k ∈ seen then some k else firstDuplicate (k :: seen) keys

lemma firstDuplicate_eq_none_iff {seen keys : List κ} :
    firstDuplicate seen keys = none ↔ keys.Nodup ∧ ∀ k ∈ keys, k ∉ seen := by
  induction keys generalizing seen with
  | nil => exact iff_of_true rfl ⟨List.nodup_nil, nofun⟩
  | cons k keys ih =>
      rw [firstDuplicate, List.nodup_cons, List.forall_mem_cons]
      split
      · rename_i hseen
        exact iff_of_false (by simp) fun h => h.2.1 hseen
      · rename_i hseen
        rw [ih]
        constructor
        · rintro ⟨hnodup, hnew⟩
          refine ⟨⟨fun hmem => hnew k hmem List.mem_cons_self, hnodup⟩, hseen, ?_⟩
          exact fun x hx hmem => hnew x hx (List.mem_cons_of_mem k hmem)
        · rintro ⟨⟨hk, hnodup⟩, -, hnew⟩
          refine ⟨hnodup, fun x hx hmem => ?_⟩
          rcases List.mem_cons.mp hmem with rfl | hmem
          · exact hk hx
          · exact hnew x hx hmem

end KeyedTable
