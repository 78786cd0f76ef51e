import Mathlib.Data.List.Nodup
import Mathlib.Data.List.Perm.Subperm
import Mathlib.Logic.Relation

/-!
# Looking for a cycle depth first

`search` walks a graph depth first from a list of roots.  A vertex that is met on the path that led
to it closes a cycle; a vertex that was left before is not walked again.  The recursion is by fuel,
and one unit more than there are roots is enough as long as every vertex with successors is a root.

`search_eq_found_iff` is the outcome: a cycle is found exactly when there is one, in whatever order
the roots and the successors come.  The invariant of the walk is that the vertices left are
`Topological`, each in front of its successors.

`visit` is the same search with the path kept as a set beside the vertices left (`visitAll_eq`).
The last section adds one edge to a relation without cycles.
-/

namespace DepthFirst

variable {V : Type}

/-- How a walk ends. -/
inductive Outcome (V : Type)
  | found
  | left (visited : List V)
  | outOfFuel
  deriving DecidableEq

/-- A walk from each vertex of a list. -/
def walkAll (walk : V → List V → Outcome V) : List V → List V → Outcome V
  | [], visited => .left visited
  | v :: vs, visited =>
      match walk v visited with
      | .left visited => walkAll walk vs visited
      | outcome => outcome

/-- The edges of a graph. -/
def Edge (succ : V → List V) (v w : V) : Prop := w ∈ succ v

/-- Each vertex is listed once, in front of its successors, which are listed too. -/
def Topological (succ : V → List V) : List V → Prop
  | [] => True
  | v :: vs => v ∉ vs ∧ (∀ w ∈ succ v, w ∈ vs) ∧ Topological succ vs

/-! ## Walks from each vertex of a list -/

section

variable {walk : V → List V → Outcome V} {vs visited visited' : List V}

lemma walkAll_found {P : Prop} (h : walkAll walk vs visited = .found)
    (hwalk : ∀ v ∈ vs, ∀ visited, walk v visited = .found → P) : P := by
  induction vs generalizing visited with
  | nil => exact absurd h (by simp [walkAll])
  | cons v vs ih =>
      rw [List.forall_mem_cons] at hwalk
      rw [walkAll] at h
      cases hv : walk v visited with
      | found => exact hwalk.1 visited hv
      | outOfFuel => exact absurd h (by simp [hv])
      | left next =>
          rw [hv] at h
          exact ih h hwalk.2

lemma walkAll_ne_outOfFuel (hwalk : ∀ v ∈ vs, ∀ visited, walk v visited ≠ .outOfFuel) :
    walkAll walk vs visited ≠ .outOfFuel := by
  induction vs generalizing visited with
  | nil => simp [walkAll]
  | cons v vs ih =>
      rw [List.forall_mem_cons] at hwalk
      rw [walkAll]
      split
      · exact ih hwalk.2
      · exact hwalk.1 visited

/-- What every walk keeps, and adds to what is visited, so do the walks one after another. -/
lemma walkAll_left {I : List V → Prop} (h : walkAll walk vs visited = .left visited')
    (hvisited : I visited)
    (hwalk : ∀ v ∈ vs, ∀ visited visited', walk v visited = .left visited' → I visited →
      I visited' ∧ v ∈ visited' ∧ visited ⊆ visited') :
    I visited' ∧ vs ⊆ visited' ∧ visited ⊆ visited' := by
  induction vs generalizing visited with
  | nil =>
      injection h with h
      subst h
      exact ⟨hvisited, List.nil_subset _, fun _ hu => hu⟩
  | cons v vs ih =>
      rw [List.forall_mem_cons] at hwalk
      rw [walkAll] at h
      cases hv : walk v visited with
      | found => exact absurd h (by simp [hv])
      | outOfFuel => exact absurd h (by simp [hv])
      | left next =>
          rw [hv] at h
          obtain ⟨hnext, hmem, hsub⟩ := hwalk.1 visited next hv hvisited
          obtain ⟨hlast, hvs, hsub'⟩ := ih h hnext hwalk.2
          exact ⟨hlast, List.cons_subset.mpr ⟨hsub' hmem, hvs⟩, fun _ hu => hsub' (hsub hu)⟩

end

/-! ## Topological order -/

section

variable {succ : V → List V} {vs : List V} {v w : V}

/-- The successors of a vertex listed are listed. -/
lemma Topological.succ_mem (h : Topological succ vs) (hv : v ∈ vs) (hw : w ∈ succ v) :
    w ∈ vs := by
  induction vs with
  | nil => exact absurd hv List.not_mem_nil
  | cons u vs ih =>
      rcases List.mem_cons.mp hv with rfl | hv
      · exact List.mem_cons_of_mem v (h.2.1 w hw)
      · exact List.mem_cons_of_mem u (ih h.2.2 hv)

/-- So is what a vertex listed leads to. -/
lemma Topological.mem_of_transGen (h : Topological succ vs) (hv : v ∈ vs)
    (hvw : Relation.TransGen (Edge succ) v w) : w ∈ vs := by
  induction hvw with
  | single hw => exact h.succ_mem hv hw
  | tail _ hw ih => exact h.succ_mem ih hw

/-- **No vertex listed lies on a cycle.** -/
lemma Topological.acyclic (h : Topological succ vs) (hv : v ∈ vs) :
    ¬ Relation.TransGen (Edge succ) v v := by
  induction vs with
  | nil => exact absurd hv List.not_mem_nil
  | cons u vs ih =>
      intro hcycle
      rcases List.mem_cons.mp hv with rfl | hv
      · -- what the first vertex leads to is listed after it
        obtain ⟨w, hw, hback⟩ := Relation.TransGen.head'_iff.mp hcycle
        have hmem : w ∈ vs := h.2.1 w hw
        rcases Relation.reflTransGen_iff_eq_or_transGen.mp hback with rfl | hback
        · exact h.1 hmem
        · exact h.1 (h.2.2.mem_of_transGen hmem hback)
      · exact ih h.2.2 hv hcycle

end

/-! ## The search -/

section

variable [DecidableEq V] (succ : V → List V)

/-- The walk from a vertex that a path has led to. -/
def walk : ℕ → List V → V → List V → Outcome V
  | 0, _, _, _ => .outOfFuel
  | fuel + 1, path, v, visited =>
      if v ∈ path then .found
      else if v ∈ visited then .left visited
      else
        match walkAll (walk fuel (v :: path)) (succ v) visited with
        | .left visited => .left (v :: visited)
        | outcome => outcome

/-- The walk from every root. -/
def search (roots : List V) : Outcome V := walkAll (walk succ (roots.length + 1) []) roots []

variable {succ} {fuel : ℕ} {path visited visited' : List V} {v : V}

/-- **The walk finds cycles only.**  Every vertex on the path leads to the vertex walked. -/
lemma walk_sound (hpath : ∀ u ∈ path, Relation.TransGen (Edge succ) u v)
    (h : walk succ fuel path v visited = .found) : ∃ u, Relation.TransGen (Edge succ) u u := by
  induction fuel generalizing path v visited with
  | zero => exact absurd h (by simp [walk])
  | succ fuel ih =>
      rw [walk] at h
      split at h
      · rename_i hmem
        exact ⟨v, hpath v hmem⟩
      · split at h
        · exact absurd h (by simp)
        · cases hws : walkAll (walk succ fuel (v :: path)) (succ v) visited with
          | left next => exact absurd h (by simp [hws])
          | outOfFuel => exact absurd h (by simp [hws])
          | found =>
              refine walkAll_found hws fun w hw visited hfound => ih ?_ hfound
              intro u hu
              rcases List.mem_cons.mp hu with rfl | hu
              · exact Relation.TransGen.single hw
              · exact (hpath u hu).tail hw

/-- **What a walk leaves**: the vertices visited before and the one walked, in topological order,
and none that is on the path. -/
lemma walk_left (h : walk succ fuel path v visited = .left visited')
    (hvisited : Topological succ visited ∧ ∀ u ∈ path, u ∉ visited) :
    (Topological succ visited' ∧ ∀ u ∈ path, u ∉ visited') ∧ v ∈ visited' ∧
      visited ⊆ visited' := by
  induction fuel generalizing path v visited visited' with
  | zero => exact absurd h (by simp [walk])
  | succ fuel ih =>
      rw [walk] at h
      split at h
      · exact absurd h (by simp)
      · rename_i hnot
        split at h
        · rename_i hmem
          injection h with h
          subst h
          exact ⟨hvisited, hmem, fun _ hu => hu⟩
        · rename_i hnew
          cases hws : walkAll (walk succ fuel (v :: path)) (succ v) visited with
          | found => exact absurd h (by simp [hws])
          | outOfFuel => exact absurd h (by simp [hws])
          | left next =>
              rw [hws] at h
              injection h with h
              subst h
              obtain ⟨⟨hnext, hfresh⟩, hsucc, hsub⟩ := walkAll_left hws
                ⟨hvisited.1, List.forall_mem_cons.mpr ⟨hnew, hvisited.2⟩⟩
                fun w _ visited visited' hw hvisited => ih hw hvisited
              rw [List.forall_mem_cons] at hfresh
              refine ⟨⟨⟨hfresh.1, fun w hw => hsucc hw, hnext⟩, ?_⟩, List.mem_cons_self,
                fun _ hu => List.mem_cons_of_mem v (hsub hu)⟩
              intro u hu hmem
              rcases List.mem_cons.mp hmem with rfl | hmem
              · exact hnot hu
              · exact hfresh.2 u hu hmem

variable {roots : List V}

/-- **The fuel is enough.**  The vertices on the path are different roots. -/
lemma walk_ne_outOfFuel (hroots : ∀ v, succ v ≠ [] → v ∈ roots) (hpath : path.Nodup)
    (hsub : path ⊆ roots) (hfuel : roots.length < fuel + path.length) :
    walk succ fuel path v visited ≠ .outOfFuel := by
  induction fuel generalizing path v visited with
  | zero =>
      have hlength := (hpath.subperm hsub).length_le
      omega
  | succ fuel ih =>
      rw [walk]
      split
      · simp
      · rename_i hnot
        split
        · simp
        · split
          · simp
          · refine walkAll_ne_outOfFuel fun w hw visited => ?_
            have hv : v ∈ roots := hroots v (List.ne_nil_of_mem hw)
            refine ih (List.nodup_cons.mpr ⟨hnot, hpath⟩) (List.cons_subset.mpr ⟨hv, hsub⟩) ?_
            rw [List.length_cons]
            omega

/-- The search comes to an end. -/
theorem search_ne_outOfFuel (hroots : ∀ v, succ v ≠ [] → v ∈ roots) :
    search succ roots ≠ .outOfFuel := by
  refine walkAll_ne_outOfFuel fun v _ visited =>
    walk_ne_outOfFuel hroots List.nodup_nil (List.nil_subset _) ?_
  rw [List.length_nil]
  omega

/-- **The search finds a cycle exactly when there is one.** -/
theorem search_eq_found_iff (hroots : ∀ v, succ v ≠ [] → v ∈ roots) :
    search succ roots = .found ↔ ∃ v, Relation.TransGen (Edge succ) v v := by
  constructor
  · exact fun h => walkAll_found h fun v _ visited hfound =>
      walk_sound (fun _ hu => absurd hu List.not_mem_nil) hfound
  · rintro ⟨v, hcycle⟩
    cases hsearch : search succ roots with
    | found => rfl
    | outOfFuel => exact absurd hsearch (search_ne_outOfFuel hroots)
    | left visited =>
        obtain ⟨⟨htopological, -⟩, hsub, -⟩ := walkAll_left hsearch
          ⟨trivial, fun u hu => absurd hu List.not_mem_nil⟩
          fun w _ visited visited' hw hvisited => walk_left hw hvisited
        -- a vertex on a cycle has a successor, so it is a root
        obtain ⟨w, hw, -⟩ := Relation.TransGen.head'_iff.mp hcycle
        have hv : v ∈ visited := hsub (hroots v (List.ne_nil_of_mem hw))
        exact absurd hcycle (htopological.acyclic hv)

end

/-! ## Two sets

The search as it is mostly written: a set of vertices that are being visited and a set of those
that were left, both changed in place.  The first is the path of the walk. -/

/-- The two sets. -/
structure Colours (V : Type) where
  visiting : List V
  visited : List V

/-- Why a visit does not come back. -/
inductive Stop
  | cycle
  | outOfFuel
  deriving DecidableEq

section

variable [DecidableEq V] (succ : V → List V)

/-- `visit`. -/
def visit : ℕ → V → Colours V → Except Stop (Colours V)
  | 0, _, _ => .error .outOfFuel
  | fuel + 1, v, c =>
      if v ∈ c.visiting then .error .cycle
      else if v ∈ c.visited then .ok c
      else do
        let c ← (succ v).foldlM (fun c w => visit fuel w c) ⟨v :: c.visiting, c.visited⟩
        .ok ⟨c.visiting.erase v, v :: c.visited⟩

/-- A visit of every root. -/
def visitAll (roots : List V) : Except Stop (Colours V) :=
  roots.foldlM (fun c v => visit succ (roots.length + 1) v c) ⟨[], []⟩

/-- How a walk over a path ends, with the two sets. -/
def Outcome.colours (path : List V) : Outcome V → Except Stop (Colours V)
  | .found => .error .cycle
  | .outOfFuel => .error .outOfFuel
  | .left visited => .ok ⟨path, visited⟩

variable {succ} {fuel : ℕ} {path visited : List V}

lemma foldlM_visit_eq {vs : List V}
    (h : ∀ v ∈ vs, ∀ visited, visit succ fuel v ⟨path, visited⟩ =
      (walk succ fuel path v visited).colours path) :
    vs.foldlM (fun c w => visit succ fuel w c) ⟨path, visited⟩ =
      (walkAll (walk succ fuel path) vs visited).colours path := by
  induction vs generalizing visited with
  | nil => rfl
  | cons v vs ih =>
      rw [List.forall_mem_cons] at h
      rw [List.foldlM_cons, h.1, walkAll]
      cases walk succ fuel path v visited with
      | found => rfl
      | outOfFuel => rfl
      | left next => exact ih h.2

/-- **A visit is a walk**: what is being visited is the path, and it is put back as it was. -/
lemma visit_eq (v : V) : visit succ fuel v ⟨path, visited⟩ =
    (walk succ fuel path v visited).colours path := by
  induction fuel generalizing path v visited with
  | zero => rfl
  | succ fuel ih =>
      rw [visit, walk]
      dsimp only
      split_ifs with hpath hvisited
      · rfl
      · rfl
      · rw [foldlM_visit_eq fun w _ visited => ih w]
        cases walkAll (walk succ fuel (v :: path)) (succ v) visited with
        | found => rfl
        | outOfFuel => rfl
        | left next =>
            show Except.ok (Colours.mk ((v :: path).erase v) (v :: next)) = _
            rw [List.erase_cons_head]
            rfl

/-- **The search with two sets is the search.** -/
theorem visitAll_eq (roots : List V) :
    visitAll succ roots = (search succ roots).colours [] :=
  foldlM_visit_eq fun v _ _ => visit_eq v

end

/-! ## One more edge -/

section

variable {R : V → V → Prop} {d f : V}

/-- What a relation with one more edge connects. -/
lemma transGen_or_edge {a b : V}
    (h : Relation.TransGen (fun x y => R x y ∨ (x = d ∧ y = f)) a b) :
    Relation.TransGen R a b ∨
      (Relation.ReflTransGen R a d ∧ Relation.ReflTransGen R f b) ∨
      Relation.ReflTransGen R f d := by
  induction h with
  | single hstep =>
      rcases hstep with hstep | ⟨rfl, rfl⟩
      · exact Or.inl (Relation.TransGen.single hstep)
      · exact Or.inr (Or.inl ⟨.refl, .refl⟩)
  | tail _ hstep ih =>
      rcases ih with hab | ⟨had, hfb⟩ | hfd
      · rcases hstep with hstep | ⟨rfl, rfl⟩
        · exact Or.inl (hab.tail hstep)
        · exact Or.inr (Or.inl ⟨hab.to_reflTransGen, .refl⟩)
      · rcases hstep with hstep | ⟨rfl, rfl⟩
        · exact Or.inr (Or.inl ⟨had, hfb.tail hstep⟩)
        · exact Or.inr (Or.inr hfb)
      · exact Or.inr (Or.inr hfd)

/-- **One more edge closes a cycle** exactly when its target leads back to its source. -/
theorem cyclic_or_edge_iff (hacyclic : ∀ v, ¬ Relation.TransGen R v v) :
    (∃ v, Relation.TransGen (fun x y => R x y ∨ (x = d ∧ y = f)) v v) ↔
      Relation.ReflTransGen R f d := by
  constructor
  · rintro ⟨v, hcycle⟩
    rcases transGen_or_edge hcycle with h | ⟨hvd, hfv⟩ | hfd
    · exact absurd h (hacyclic v)
    · exact hfv.trans hvd
    · exact hfd
  · intro hfd
    refine ⟨d, Relation.TransGen.head' (Or.inr ⟨rfl, rfl⟩) ?_⟩
    exact Relation.ReflTransGen.mono (fun _ _ h => Or.inl h) _ _ hfd

end

end DepthFirst
