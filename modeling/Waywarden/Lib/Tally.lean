import Mathlib.Algebra.BigOperators.Group.List.Basic
import Mathlib.Data.List.Induction
import Waywarden.Lib.KeyedTable

/-!
# Totals by key

A tally is a table of running totals, one entry for each key in the order the keys first occurred.
`charge` adds an amount under a key, which starts from zero when it is new; `tally` charges a list
of records one after the other.

Amounts are taken from any commutative monoid, so several counters can be kept in one entry.  The
tally of a list is its partition by key: the keys are those that occur (`mem_keys_tally`), the
entry of a key is the sum over its records (`amountAt_tally`), and the entries add up to the sum
over all records (`total_tally`).
-/

namespace Tally

variable {α κ M : Type} [DecidableEq κ] [AddCommMonoid M]

/-- The keys that have an entry. -/
def keys (table : List (κ × M)) : List κ := table.map Prod.fst

/-- Add an amount under a key; a new key starts from zero. -/
def charge (k : κ) (m : M) (table : List (κ × M)) : List (κ × M) :=
  KeyedTable.update Prod.fst k (fun entry => (entry.1, entry.2 + m))
    (if k ∈ keys table then table else table ++ [(k, 0)])

/-- The tally of a list of records. -/
def tally (key : α → κ) (amount : α → M) (rows : List α) : List (κ × M) :=
  rows.foldl (fun table row => charge (key row) (amount row) table) []

/-- The amount under a key, zero when it has no entry. -/
def amountAt (k : κ) (table : List (κ × M)) : M :=
  ((KeyedTable.get Prod.fst k table).map Prod.snd).getD 0

/-- All amounts together. -/
def total (table : List (κ × M)) : M := (table.map Prod.snd).sum

variable {key : α → κ} {amount : α → M} {k : κ} {m : M} {table : List (κ × M)}

/-! ## One charge -/

lemma keys_update : keys (KeyedTable.update Prod.fst k (fun e => (e.1, e.2 + m)) table) =
    keys table := by
  unfold keys KeyedTable.update
  rw [List.map_map]
  apply List.map_congr_left
  intro e _
  simp only [Function.comp_apply]
  split <;> rfl

lemma keys_charge : keys (charge k m table) =
    if k ∈ keys table then keys table else keys table ++ [k] := by
  unfold charge
  rw [keys_update]
  split
  · rfl
  · exact List.map_append

lemma nodup_keys_charge (h : (keys table).Nodup) : (keys (charge k m table)).Nodup := by
  rw [keys_charge]
  split
  · exact h
  · rename_i hk
    rw [← List.concat_eq_append]
    exact h.concat hk

lemma mem_keys_charge {k' : κ} : k' ∈ keys (charge k m table) ↔ k' = k ∨ k' ∈ keys table := by
  rw [keys_charge]
  split
  · rename_i hk
    constructor
    · exact Or.inr
    · rintro (rfl | h)
      · exact hk
      · exact h
  · rw [List.mem_append, List.mem_singleton, or_comm]

/-- Rewriting the one entry of a key adds to the total. -/
lemma total_update (h : (keys table).Nodup) (hk : k ∈ keys table) :
    total (KeyedTable.update Prod.fst k (fun e => (e.1, e.2 + m)) table) = total table + m := by
  unfold total keys at *
  induction table with
  | nil => exact absurd hk List.not_mem_nil
  | cons e table ih =>
      rw [List.map_cons, List.nodup_cons] at h
      unfold KeyedTable.update at ih ⊢
      rw [List.map_cons, List.map_cons, List.map_cons, List.sum_cons, List.sum_cons]
      by_cases he : e.1 = k
      · -- the other entries have other keys and stay
        have hrest : table.map (fun r => if r.1 = k then (r.1, r.2 + m) else r) = table := by
          conv_rhs => rw [← List.map_id table]
          apply List.map_congr_left
          intro r hr
          have hne : r.1 ≠ k := fun heq => h.1 (he ▸ heq ▸ List.mem_map_of_mem hr)
          exact if_neg hne
        rw [hrest, if_pos he, add_right_comm]
      · have hmem : k ∈ table.map Prod.fst := by
          rw [List.map_cons, List.mem_cons] at hk
          exact hk.resolve_left (Ne.symm he)
        rw [if_neg he, ih h.2 hmem, add_assoc]

lemma total_charge (h : (keys table).Nodup) : total (charge k m table) = total table + m := by
  unfold charge
  split
  · rename_i hk
    exact total_update h hk
  · rename_i hk
    have hkeys : keys (table ++ [(k, 0)]) = keys table ++ [k] := List.map_append
    have hzero : total (table ++ [(k, (0 : M))]) = total table := by
      unfold total
      rw [List.map_append, List.sum_append, List.map_singleton, List.sum_singleton, add_zero]
    have hnodup : (keys table ++ [k]).Nodup := by
      rw [← List.concat_eq_append]
      exact h.concat hk
    rw [total_update (by rw [hkeys]; exact hnodup) (by rw [hkeys]; simp), hzero]

/-- An entry that starts from zero reads as no entry. -/
lemma amountAt_concat_zero (k k' : κ) (table : List (κ × M)) :
    amountAt k' (table ++ [(k, 0)]) = amountAt k' table := by
  unfold amountAt
  rw [KeyedTable.get_append]
  cases KeyedTable.get Prod.fst k' table with
  | some e => rfl
  | none =>
      rw [Option.none_or, KeyedTable.get_cons]
      split <;> rfl

/-- A charge is seen under its key only. -/
lemma amountAt_charge {k' : κ} : amountAt k' (charge k m table) =
    if k' = k then amountAt k' table + m else amountAt k' table := by
  have hopened : amountAt k' (if k ∈ keys table then table else table ++ [(k, 0)]) =
      amountAt k' table := by
    split
    · rfl
    · exact amountAt_concat_zero k k' table
  have hmem : k ∈ keys (if k ∈ keys table then table else table ++ [(k, (0 : M))]) := by
    split
    · assumption
    · simp [keys]
  have hkey : ∀ e : κ × M, e.1 = k → (e.1, e.2 + m).1 = k := fun _ h => h
  rw [← hopened]
  unfold charge
  generalize (if k ∈ keys table then table else table ++ [(k, 0)]) = opened at hmem ⊢
  split
  · rename_i heq
    obtain ⟨e, he⟩ := KeyedTable.exists_get_of_mem hmem
    unfold amountAt
    rw [heq, KeyedTable.get_update_self hkey, he]
    rfl
  · rename_i hne
    unfold amountAt
    rw [KeyedTable.get_update_ne hkey hne]

/-! ## The tally of a list -/

lemma tally_concat (rows : List α) (row : α) : tally key amount (rows ++ [row]) =
    charge (key row) (amount row) (tally key amount rows) := by
  unfold tally
  rw [List.foldl_append, List.foldl_cons, List.foldl_nil]

/-- No key has two entries. -/
lemma nodup_keys_tally (rows : List α) : (keys (tally key amount rows)).Nodup := by
  induction rows using List.reverseRecOn with
  | nil => exact List.nodup_nil
  | append_singleton rows row ih =>
      rw [tally_concat]
      exact nodup_keys_charge ih

/-- The keys of a tally are those that occur. -/
theorem mem_keys_tally {rows : List α} :
    k ∈ keys (tally key amount rows) ↔ ∃ row ∈ rows, key row = k := by
  induction rows using List.reverseRecOn with
  | nil => exact iff_of_false List.not_mem_nil (by simp)
  | append_singleton rows row ih =>
      rw [tally_concat, mem_keys_charge, ih]
      constructor
      · rintro (rfl | ⟨r, hr, hkey⟩)
        · exact ⟨row, by simp, rfl⟩
        · exact ⟨r, List.mem_append_left _ hr, hkey⟩
      · rintro ⟨r, hr, hkey⟩
        rcases List.mem_append.mp hr with hr | hr
        · exact Or.inr ⟨r, hr, hkey⟩
        · obtain rfl := List.mem_singleton.mp hr
          exact Or.inl hkey.symm

/-- **The entry of a key** is the sum over its records. -/
theorem amountAt_tally (k : κ) (rows : List α) : amountAt k (tally key amount rows) =
    ((rows.filter fun row => key row = k).map amount).sum := by
  induction rows using List.reverseRecOn with
  | nil => rfl
  | append_singleton rows row ih =>
      rw [tally_concat, amountAt_charge, ih, List.filter_append, List.map_append, List.sum_append]
      by_cases h : key row = k
      · rw [if_pos h.symm]
        simp [h]
      · rw [if_neg (Ne.symm h)]
        simp [h]

/-- **The entries add up** to the sum over all records. -/
theorem total_tally (rows : List α) :
    total (tally key amount rows) = (rows.map amount).sum := by
  induction rows using List.reverseRecOn with
  | nil => rfl
  | append_singleton rows row ih =>
      rw [tally_concat, total_charge (nodup_keys_tally rows), ih, List.map_append,
        List.sum_append, List.map_singleton, List.sum_singleton]

/-- An entry of a tally is the sum over its key's records. -/
lemma snd_of_mem_tally {rows : List α} {e : κ × M} (h : e ∈ tally key amount rows) :
    e.2 = ((rows.filter fun row => key row = e.1).map amount).sum := by
  have hnodup : (keys (tally key amount rows)).Nodup := nodup_keys_tally rows
  have hget := KeyedTable.get_of_mem hnodup h
  rw [← amountAt_tally e.1 rows]
  unfold amountAt
  rw [hget]
  rfl

end Tally
