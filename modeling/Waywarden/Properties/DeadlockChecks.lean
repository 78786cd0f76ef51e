import Waywarden.Domain.Team

/-!
# The deadlock check, in any order

`_raise_on_deadlock` builds a dictionary of sets from the routes and searches it with two more
sets.  The keys of the dictionary come in the order of the routes and the members of a set in no
order at all.  Whatever the orders are, the search comes to an end, and it raises exactly when the
routes lead from some agent back to it (`raiseOnDeadlockIn_exact`), so it is the check of the
constructor (`raiseOnDeadlockIn_eq`).
-/

namespace Waywarden

/-- `graph`: a dictionary of sets. -/
abbrev HandoffGraph : Type := List (Text × List Text)

namespace HandoffGraph

/-- `graph.get(node, set())`. -/
def targets (graph : HandoffGraph) (node : Text) : List Text :=
  ((KeyedTable.get Prod.fst node graph).map Prod.snd).getD []

/-- `graph.setdefault(from_agent, set()).add(to_agent)`. -/
def addRoute (graph : HandoffGraph) (r : TeamHandoffRoute) : HandoffGraph :=
  KeyedTable.upsert Prod.fst (r.fromAgent, (graph.targets r.fromAgent).insert r.toAgent) graph

/-- The loop over the routes. -/
def ofRoutes (routes : List TeamHandoffRoute) : HandoffGraph := routes.foldl addRoute []

lemma targets_upsert (graph : HandoffGraph) (e : Text × List Text) (a : Text) :
    targets (KeyedTable.upsert Prod.fst e graph) a = if a = e.1 then e.2 else graph.targets a := by
  unfold targets
  split
  · rename_i ha
    rw [ha, KeyedTable.get_upsert_self]
    rfl
  · rename_i ha
    rw [KeyedTable.get_upsert_ne ha]

/-- One route adds its edge. -/
lemma mem_targets_addRoute {graph : HandoffGraph} {r : TeamHandoffRoute} {a b : Text} :
    b ∈ (graph.addRoute r).targets a ↔
      b ∈ graph.targets a ∨ (r.fromAgent = a ∧ r.toAgent = b) := by
  unfold addRoute
  rw [targets_upsert]
  split
  · rename_i ha
    subst ha
    rw [List.mem_insert_iff]
    tauto
  · rename_i ha
    exact ⟨Or.inl, fun h => h.resolve_right fun hr => ha hr.1.symm⟩

/-- **The graph has the edges the routes declare.** -/
lemma mem_targets_ofRoutes {routes : List TeamHandoffRoute} {a b : Text} :
    b ∈ (ofRoutes routes).targets a ↔ Declares routes a b := by
  induction routes using List.reverseRecOn with
  | nil =>
      refine iff_of_false (by simp [ofRoutes, targets]) ?_
      rintro ⟨r, hr, -⟩
      exact absurd hr List.not_mem_nil
  | append_singleton routes r ih =>
      unfold ofRoutes at ih ⊢
      rw [List.foldl_concat, mem_targets_addRoute, ih]
      unfold Declares
      simp only [List.mem_append, List.mem_singleton, or_and_right, exists_or, exists_eq_left]

/-- An agent with targets is a key. -/
lemma mem_keys_of_targets {graph : HandoffGraph} {a : Text} (h : graph.targets a ≠ []) :
    a ∈ graph.map Prod.fst := by
  unfold targets at h
  cases hget : KeyedTable.get Prod.fst a graph with
  | none =>
      rw [hget] at h
      exact absurd rfl h
  | some e => exact List.mem_map.mpr ⟨e, KeyedTable.mem_of_get hget, KeyedTable.key_of_get hget⟩

end HandoffGraph

/-- An order in which the targets of each agent are visited. -/
structure TargetOrder (routes : List TeamHandoffRoute) where
  targets : Text → List Text
  perm : ∀ a, (targets a).Perm ((HandoffGraph.ofRoutes routes).targets a)

/-- The exception for routes in a circle. -/
def deadlockError : PyError := ⟨.valueError, "team handoff routes contain a deadlock cycle", []⟩

/-- `_raise_on_deadlock`, or nothing when `visit` calls itself more deeply than there are keys. -/
def raiseOnDeadlockIn {routes : List TeamHandoffRoute} (order : TargetOrder routes) :
    Option (Except PyError Unit) :=
  match DepthFirst.visitAll order.targets ((HandoffGraph.ofRoutes routes).map Prod.fst) with
  | .ok _ => some (.ok ())
  | .error .cycle => some (.error deadlockError)
  | .error .outOfFuel => none

/-- The routes lead from some agent back to it. -/
def Cyclic (routes : List TeamHandoffRoute) : Prop :=
  ∃ a, Relation.TransGen (Declares routes) a a

section

variable {routes : List TeamHandoffRoute}

lemma edge_targetOrder (order : TargetOrder routes) :
    DepthFirst.Edge order.targets = Declares routes := by
  funext a b
  unfold DepthFirst.Edge
  rw [(order.perm a).mem_iff, HandoffGraph.mem_targets_ofRoutes]

lemma mem_keys_of_targetOrder (order : TargetOrder routes) (a : Text) (h : order.targets a ≠ []) :
    a ∈ (HandoffGraph.ofRoutes routes).map Prod.fst := by
  apply HandoffGraph.mem_keys_of_targets
  intro hnil
  have hperm := order.perm a
  rw [hnil] at hperm
  exact h hperm.eq_nil

/-- **The check is exact, in whatever order the targets are visited.** -/
lemma raiseOnDeadlockIn_cases (order : TargetOrder routes) :
    (Cyclic routes ∧ raiseOnDeadlockIn order = some (.error deadlockError)) ∨
      (¬ Cyclic routes ∧ raiseOnDeadlockIn order = some (.ok ())) := by
  have hroots := mem_keys_of_targetOrder order
  have hfound := DepthFirst.search_eq_found_iff hroots
  rw [edge_targetOrder] at hfound
  unfold raiseOnDeadlockIn Cyclic
  rw [DepthFirst.visitAll_eq, ← hfound]
  cases hsearch : DepthFirst.search order.targets
      ((HandoffGraph.ofRoutes routes).map Prod.fst) with
  | found => exact Or.inl ⟨rfl, rfl⟩
  | outOfFuel => exact absurd hsearch (DepthFirst.search_ne_outOfFuel hroots)
  | left visited => exact Or.inr ⟨by simp, rfl⟩

/-- The constructor's check raises nothing else. -/
lemma raiseOnDeadlock_of_ne_ok (h : raiseOnDeadlock routes ≠ .ok ()) :
    raiseOnDeadlock routes = .error deadlockError := by
  unfold raiseOnDeadlock at h ⊢
  generalize DepthFirst.search (routeTargets routes)
    (routes.map TeamHandoffRoute.fromAgent).eraseDups = outcome at h ⊢
  cases outcome with
  | found => rfl
  | _ => exact absurd rfl h

/-- **It is the check of the constructor.** -/
theorem raiseOnDeadlockIn_eq (order : TargetOrder routes) :
    raiseOnDeadlockIn order = some (raiseOnDeadlock routes) := by
  rcases raiseOnDeadlockIn_cases order with ⟨hcyclic, h⟩ | ⟨hcyclic, h⟩
  · have hnot : raiseOnDeadlock routes ≠ .ok () := by
      rw [Ne, raiseOnDeadlock_eq_ok_iff, not_forall_not]
      exact hcyclic
    rw [h, raiseOnDeadlock_of_ne_ok hnot]
  · rw [h, raiseOnDeadlock_eq_ok_iff.mpr fun a ha => hcyclic ⟨a, ha⟩]

/-- Routes in another order are as cyclic. -/
lemma cyclic_of_perm {routes' : List TeamHandoffRoute} (h : routes'.Perm routes) :
    Cyclic routes' ↔ Cyclic routes := by
  have hdeclares : Declares routes' = Declares routes := by
    funext a b
    unfold Declares
    simp only [h.mem_iff]
  unfold Cyclic
  rw [hdeclares]

end

/-- **The deadlock check is exact**: it comes to an end, it raises when the routes have a cycle and
only then, and neither the order of the routes nor that of the targets matters. -/
theorem raiseOnDeadlockIn_exact (routes : List TeamHandoffRoute) (order : TargetOrder routes) :
    raiseOnDeadlockIn order ≠ none ∧
      (raiseOnDeadlockIn order = some (.error deadlockError) ↔ Cyclic routes) ∧
      (raiseOnDeadlockIn order = some (.ok ()) ↔ ¬ Cyclic routes) ∧
      ∀ routes' (order' : TargetOrder routes'), routes'.Perm routes →
        raiseOnDeadlockIn order' = raiseOnDeadlockIn order := by
  refine ⟨?_, ?_, ?_, ?_⟩
  · rcases raiseOnDeadlockIn_cases order with ⟨-, h⟩ | ⟨-, h⟩ <;> simp [h]
  · rcases raiseOnDeadlockIn_cases order with ⟨hcyclic, h⟩ | ⟨hcyclic, h⟩ <;> simp [h, hcyclic]
  · rcases raiseOnDeadlockIn_cases order with ⟨hcyclic, h⟩ | ⟨hcyclic, h⟩ <;> simp [h, hcyclic]
  · intro routes' order' hperm
    have hsame := cyclic_of_perm hperm
    rcases raiseOnDeadlockIn_cases order with ⟨hcyclic, h⟩ | ⟨hcyclic, h⟩
    · rcases raiseOnDeadlockIn_cases order' with ⟨-, h'⟩ | ⟨hcyclic', -⟩
      · rw [h, h']
      · exact absurd (hsame.mpr hcyclic) hcyclic'
    · rcases raiseOnDeadlockIn_cases order' with ⟨hcyclic', -⟩ | ⟨-, h'⟩
      · exact absurd (hsame.mp hcyclic') hcyclic
      · rw [h, h']

end Waywarden
