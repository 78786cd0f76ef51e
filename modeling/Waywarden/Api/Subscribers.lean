import Mathlib.Data.List.Count
import Waywarden.Lib.KeyedTable

/-!
# The subscribers of the event streams

The in-process notifications of `waywarden.api.streaming.sse`: a module-level dictionary has a list
of subscribers for each run.  A subscriber is known by its identity, and a list is dropped with its
last one.
-/

namespace Waywarden.Subscribers

variable {Sub : Type}

/-- `_publisher_subscribers`, in the order the keys came. -/
abbrev Registry (Sub : Type) : Type := List (String × List Sub)

/-- `_publisher_subscribers.get(run_id, [])`, and so the ones `_publish` notifies. -/
def subscribersOf (runId : String) (registry : Registry Sub) : List Sub :=
  ((KeyedTable.get Prod.fst runId registry).map Prod.snd).getD []

/-- The registry after the list of a run, if there is one, was changed in place. -/
def changeList (runId : String) (f : List Sub → List Sub) (registry : Registry Sub) :
    Registry Sub :=
  KeyedTable.update Prod.fst runId (fun entry => (entry.1, f entry.2)) registry

/-- The registry with a list for the run. -/
def withList (runId : String) (registry : Registry Sub) : Registry Sub :=
  if (KeyedTable.get Prod.fst runId registry).isSome then registry else registry ++ [(runId, [])]

/-- `_subscribe`. -/
def subscribe (runId : String) (sub : Sub) (registry : Registry Sub) : Registry Sub :=
  changeList runId (fun subs => subs ++ [sub]) (withList runId registry)

/-- `_unsubscribe`: the key of the run goes with its last subscriber. -/
def unsubscribe [DecidableEq Sub] (runId : String) (sub : Sub) (registry : Registry Sub) :
    Registry Sub :=
  if (subscribersOf runId (changeList runId (fun subs => subs.erase sub) registry)).isEmpty then
    (changeList runId (fun subs => subs.erase sub) registry).filter fun entry => entry.1 ≠ runId
  else changeList runId (fun subs => subs.erase sub) registry

/-- No key is there twice, and none has an empty list. -/
structure Tidy (registry : Registry Sub) : Prop where
  keys : (registry.map Prod.fst).Nodup
  nonempty : ∀ entry ∈ registry, entry.2 ≠ []

variable {registry : Registry Sub} {runId r : String} {f : List Sub → List Sub}

/-! ## The lists -/

/-- A changed list is the list of the same run. -/
lemma key_changed (f : List Sub → List Sub) (entry : String × List Sub) (h : entry.1 = runId) :
    (entry.1, f entry.2).1 = runId := h

lemma get_changeList_self (registry : Registry Sub) (runId : String) (f : List Sub → List Sub) :
    KeyedTable.get Prod.fst runId (changeList runId f registry) =
      (KeyedTable.get Prod.fst runId registry).map fun entry => (entry.1, f entry.2) :=
  KeyedTable.get_update_self (key_changed f) registry

lemma subscribersOf_changeList_ne (h : r ≠ runId) (registry : Registry Sub)
    (f : List Sub → List Sub) :
    subscribersOf r (changeList runId f registry) = subscribersOf r registry := by
  have hget : KeyedTable.get Prod.fst r (changeList runId f registry) =
      KeyedTable.get Prod.fst r registry := KeyedTable.get_update_ne (key_changed f) h registry
  rw [subscribersOf, hget, subscribersOf]

/-- The keys stay. -/
lemma keys_changeList (registry : Registry Sub) (runId : String) (f : List Sub → List Sub) :
    (changeList runId f registry).map Prod.fst = registry.map Prod.fst := by
  unfold changeList KeyedTable.update
  rw [List.map_map]
  refine List.map_congr_left fun entry _ => ?_
  show (if entry.1 = runId then (entry.1, f entry.2) else entry).1 = entry.1
  split <;> rfl

lemma mem_changeList {entry : String × List Sub} (h : entry ∈ changeList runId f registry) :
    (∃ old ∈ registry, old.1 = runId ∧ entry = (old.1, f old.2)) ∨
      entry ∈ registry ∧ entry.1 ≠ runId := by
  unfold changeList KeyedTable.update at h
  obtain ⟨old, hold, rfl⟩ := List.mem_map.mp h
  by_cases hkey : old.1 = runId
  · rw [if_pos hkey]
    exact Or.inl ⟨old, hold, hkey, rfl⟩
  · rw [if_neg hkey]
    exact Or.inr ⟨hold, hkey⟩

/-! ## Subscribing -/

lemma get_withList (registry : Registry Sub) (runId : String) :
    KeyedTable.get Prod.fst runId (withList runId registry) =
      some (runId, subscribersOf runId registry) := by
  unfold withList subscribersOf
  cases hget : KeyedTable.get Prod.fst runId registry with
  | none =>
      rw [Option.isSome_none, if_neg Bool.false_ne_true]
      exact @KeyedTable.get_concat_self _ _ _ Prod.fst (runId, []) registry hget
  | some entry =>
      have hkey : entry.1 = runId := KeyedTable.key_of_get hget
      rw [Option.isSome_some, if_pos rfl, hget, ← hkey]
      rfl

/-- A new subscriber comes last. -/
lemma subscribersOf_subscribe_self (registry : Registry Sub) (runId : String) (sub : Sub) :
    subscribersOf runId (subscribe runId sub registry) = subscribersOf runId registry ++ [sub] := by
  unfold subscribe
  rw [subscribersOf, get_changeList_self, get_withList]
  rfl

lemma subscribersOf_subscribe_ne (h : r ≠ runId) (registry : Registry Sub) (sub : Sub) :
    subscribersOf r (subscribe runId sub registry) = subscribersOf r registry := by
  unfold subscribe
  rw [subscribersOf_changeList_ne h]
  unfold withList
  split
  · rfl
  · rw [subscribersOf, KeyedTable.get_concat_ne (Ne.symm h), subscribersOf]

/-- Who is listed after a subscription. -/
lemma mem_subscribe {c sub : Sub} : c ∈ subscribersOf r (subscribe runId sub registry) ↔
    c ∈ subscribersOf r registry ∨ c = sub ∧ r = runId := by
  by_cases hr : r = runId
  · rw [hr, subscribersOf_subscribe_self, List.mem_append, List.mem_singleton, and_iff_left rfl]
  · rw [subscribersOf_subscribe_ne hr]
    exact (or_iff_left fun h => hr h.2).symm

lemma nodup_subscribe {sub : Sub} (h : ∀ r, (subscribersOf r registry).Nodup)
    (hnew : sub ∉ subscribersOf runId registry) (r : String) :
    (subscribersOf r (subscribe runId sub registry)).Nodup := by
  by_cases hr : r = runId
  · rw [hr, subscribersOf_subscribe_self, ← List.concat_eq_append]
    exact (h runId).concat hnew
  · rw [subscribersOf_subscribe_ne hr]
    exact h r

lemma nodup_withList (h : (registry.map Prod.fst).Nodup) (runId : String) :
    ((withList runId registry).map Prod.fst).Nodup := by
  unfold withList
  split
  · exact h
  · rename_i hnew
    rw [List.map_append, List.nodup_append]
    refine ⟨h, List.nodup_singleton _, fun k hk k' hk' heq => ?_⟩
    obtain rfl := List.mem_singleton.mp hk'
    obtain ⟨entry, hentry⟩ := KeyedTable.exists_get_of_mem (heq ▸ hk)
    exact hnew (by rw [hentry]; rfl)

lemma Tidy.subscribe (h : Tidy registry) (runId : String) (sub : Sub) :
    Tidy (subscribe runId sub registry) := by
  constructor
  · unfold Subscribers.subscribe
    rw [keys_changeList]
    exact nodup_withList h.keys runId
  · intro entry hentry
    rcases mem_changeList hentry with ⟨old, -, -, rfl⟩ | ⟨hentry, hother⟩
    · exact fun hnil => absurd (List.append_eq_nil_iff.mp hnil).2 (by simp)
    · unfold withList at hentry
      split at hentry
      · exact h.nonempty entry hentry
      · rcases List.mem_append.mp hentry with hentry | hentry
        · exact h.nonempty entry hentry
        · obtain rfl := List.mem_singleton.mp hentry
          exact absurd rfl hother

/-! ## Unsubscribing -/

/-- Entries of other runs are found as before. -/
lemma get_filter_ne (h : r ≠ runId) (registry : Registry Sub) :
    KeyedTable.get Prod.fst r (registry.filter fun entry => entry.1 ≠ runId) =
      KeyedTable.get Prod.fst r registry := by
  induction registry with
  | nil => rfl
  | cons entry registry ih =>
      by_cases hkey : entry.1 = runId
      · rw [List.filter_cons_of_neg (by simp [hkey]), ih, KeyedTable.get_cons,
          if_neg (by rw [hkey]; exact Ne.symm h)]
      · rw [List.filter_cons_of_pos (by simp [hkey]), KeyedTable.get_cons, KeyedTable.get_cons, ih]

/-- Without subscribers there are no keys, in a tidy registry. -/
lemma Tidy.eq_nil (h : Tidy registry) (hnone : ∀ runId, subscribersOf runId registry = []) :
    registry = [] := by
  refine List.eq_nil_iff_forall_not_mem.mpr fun entry hentry => ?_
  have hget := KeyedTable.get_of_mem h.keys hentry
  have hempty := hnone entry.1
  rw [subscribersOf, hget] at hempty
  exact h.nonempty entry hentry hempty

variable [DecidableEq Sub]

lemma subscribersOf_erased (registry : Registry Sub) (runId : String) (sub : Sub) :
    subscribersOf runId (changeList runId (fun subs => subs.erase sub) registry) =
      (subscribersOf runId registry).erase sub := by
  rw [subscribersOf, get_changeList_self, subscribersOf]
  cases KeyedTable.get Prod.fst runId registry with
  | none => rfl
  | some entry => rfl

lemma subscribersOf_unsubscribe_self (registry : Registry Sub) (runId : String) (sub : Sub) :
    subscribersOf runId (unsubscribe runId sub registry) =
      (subscribersOf runId registry).erase sub := by
  have herased := subscribersOf_erased registry runId sub
  unfold unsubscribe
  split
  · rename_i hempty
    rw [herased, List.isEmpty_iff] at hempty
    have hgone : KeyedTable.get Prod.fst runId
        ((changeList runId (fun subs => subs.erase sub) registry).filter
          fun entry => entry.1 ≠ runId) = none := by
      unfold KeyedTable.get
      rw [List.find?_eq_none]
      intro entry hentry
      have hkey := of_decide_eq_true (List.mem_filter.mp hentry).2
      exact fun hsame => hkey (of_decide_eq_true hsame)
    rw [hempty, subscribersOf, hgone]
    rfl
  · exact herased

lemma subscribersOf_unsubscribe_ne (h : r ≠ runId) (registry : Registry Sub) (sub : Sub) :
    subscribersOf r (unsubscribe runId sub registry) = subscribersOf r registry := by
  unfold unsubscribe
  split
  · rw [subscribersOf, get_filter_ne h, ← subscribersOf, subscribersOf_changeList_ne h]
  · exact subscribersOf_changeList_ne h registry _

/-- Who is listed after an end of a subscription. -/
lemma mem_unsubscribe {c sub : Sub} (h : ∀ r, (subscribersOf r registry).Nodup) :
    c ∈ subscribersOf r (unsubscribe runId sub registry) ↔
      c ∈ subscribersOf r registry ∧ ¬ (c = sub ∧ r = runId) := by
  by_cases hr : r = runId
  · rw [hr, subscribersOf_unsubscribe_self, (h runId).mem_erase_iff, and_iff_left rfl, and_comm]
  · rw [subscribersOf_unsubscribe_ne hr]
    exact (and_iff_left fun h => hr h.2).symm

lemma nodup_unsubscribe (h : ∀ r, (subscribersOf r registry).Nodup) (sub : Sub) (r : String) :
    (subscribersOf r (unsubscribe runId sub registry)).Nodup := by
  by_cases hr : r = runId
  · rw [hr, subscribersOf_unsubscribe_self]
    exact (h runId).erase sub
  · rw [subscribersOf_unsubscribe_ne hr]
    exact h r

lemma Tidy.unsubscribe (h : Tidy registry) (runId : String) (sub : Sub) :
    Tidy (unsubscribe runId sub registry) := by
  have hkeys := keys_changeList registry runId fun subs => subs.erase sub
  unfold Subscribers.unsubscribe
  split
  · refine ⟨?_, fun entry hentry => ?_⟩
    · exact (hkeys ▸ h.keys).sublist (List.filter_sublist.map _)
    · obtain ⟨hentry, hne⟩ := List.mem_filter.mp hentry
      rcases mem_changeList hentry with ⟨old, -, hkey, rfl⟩ | ⟨hentry, -⟩
      · exact absurd hkey (of_decide_eq_true hne)
      · exact h.nonempty entry hentry
  · rename_i hleft
    refine ⟨hkeys ▸ h.keys, fun entry hentry => ?_⟩
    by_cases hkey : entry.1 = runId
    · intro hnil
      have hget := KeyedTable.get_of_mem (hkeys ▸ h.keys) hentry
      rw [hkey] at hget
      rw [subscribersOf, hget] at hleft
      simp [hnil] at hleft
    · rcases mem_changeList hentry with ⟨old, -, hsame, rfl⟩ | ⟨hentry, -⟩
      · exact absurd hsame hkey
      · exact h.nonempty entry hentry

end Waywarden.Subscribers
