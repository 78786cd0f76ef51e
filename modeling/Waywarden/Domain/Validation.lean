import Waywarden.Lib.Effect
import Waywarden.Lib.PosixPath
import Waywarden.Domain.Manifest

/-!
# Manifest validation

`waywarden.domain.manifest.validation`: the rules of RT-001 on one manifest, checked in the order
of the source, each raising `ValueError`.

`Enforced` is what the checks together demand of a manifest, and `validateManifest_eq_ok_iff` says
that they demand nothing else.  Overlapping grants do not come into it: what the last check raises
about them it catches itself.
-/

namespace Waywarden

namespace Validation

open PosixPath

/-- `_is_absolute_normalized`. -/
def isAbsoluteNormalized (path : String) : Bool :=
  path.toList.head? = some '/' ∧ path.toList = normpath path.toList

/-- `path.relative_to(other)` for two `PurePosixPath`s, as far as it returns or raises. -/
def relativeTo (path other : String) : Except PyError Unit :=
  if (PurePosixPath.parse path.toList).isRelativeTo (PurePosixPath.parse other.toList) then .ok ()
  else .error ⟨.valueError, "% is not in the subpath of %", [path, other]⟩

/-- `try: body` with `except ValueError: handler`. -/
def exceptValueError (body handler : Except PyError Unit) : Except PyError Unit :=
  match body with
  | .ok () => .ok ()
  | .error e => if e.cls = .valueError then handler else .error e

/-- `_is_inside_any`. -/
def isInsideAny (path : String) (writablePaths : List WritablePath) : Bool :=
  writablePaths.any fun wp => relativeTo path wp.path = .ok ()

/-- `_identical_grant`. -/
def identicalGrant (a b : WritablePath) : Bool :=
  a.purpose == b.purpose && a.maxSizeMb == b.maxSizeMb && a.retention == b.retention

/-- The `ValueError` about two overlapping grants. -/
def overlapError (a b : WritablePath) : PyError :=
  ⟨.valueError, "writable paths % and % overlap with different grants — ambiguous",
    [a.path, b.path]⟩

/-- The check of one pair in `_validate_writable_overlaps`: the second `try` stands in the
handler of the first one, and each handler also catches what its own body raises. -/
def validateOverlap (a b : WritablePath) : Except PyError Unit :=
  exceptValueError
    (do
      relativeTo b.path a.path
      if identicalGrant a b then .ok () else .error (overlapError a b))
    (exceptValueError
      (do
        relativeTo a.path b.path
        if identicalGrant b a then .ok () else .error (overlapError a b))
      (.ok ()))

/-- `_validate_writable_overlaps`. -/
def validateWritableOverlaps (writablePaths : List WritablePath) : Except PyError Unit :=
  forM writablePaths.zipIdx fun (a, i) =>
    forM writablePaths.zipIdx fun (b, j) =>
      if i ≥ j then .ok () else validateOverlap a b

/-- The loop over one kind of path. -/
def checkPath (text path : String) : Except PyError Unit :=
  if isAbsoluteNormalized path then .ok () else .error ⟨.valueError, text, [path]⟩

/-- The loop over the target paths of the inputs, after those in `seen`. -/
def checkTargets (seen : List String) : List InputMount → Except PyError Unit
  | [] => .ok ()
  | inp :: inputs =>
      if inp.targetPath ∈ seen then
        .error ⟨.valueError, "duplicate input target_path: %", [inp.targetPath]⟩
      else checkTargets (inp.targetPath :: seen) inputs

/-- The check of one output against the writable paths. -/
def checkInside (writablePaths : List WritablePath) (out : OutputContract) :
    Except PyError Unit :=
  if isInsideAny out.path writablePaths then .ok ()
  else .error ⟨.valueError, "output path % is not inside any writable_path", [out.path]⟩

/-- The check of the network mode against an empty allow list. -/
def checkAllowlist (policy : NetworkPolicy) : Except PyError Unit :=
  if policy.mode = .allowlist ∧ policy.allow = [] then
    .error ⟨.valueError, "network_policy mode 'allowlist' with empty allow list is ambiguous; " ++
      "use 'deny' mode instead", []⟩
  else .ok ()

/-- The check of the network mode against `profile-default`. -/
def checkConcrete (policy : NetworkPolicy) : Except PyError Unit :=
  if policy.mode = .profileDefault then
    .error ⟨.valueError, "network_policy mode 'profile-default' must be normalized to a " ++
      "concrete mode before construction", []⟩
  else .ok ()

end Validation

open Validation

/-- `_validate_manifest`. -/
def validateManifest (m : WorkspaceManifest) : Except PyError Unit := do
  forM m.inputs fun inp =>
    checkPath "input target_path must be absolute and normalized: %" inp.targetPath
  forM m.writablePaths fun wp =>
    checkPath "writable_path must be absolute and normalized: %" wp.path
  forM m.outputs fun out =>
    checkPath "output path must be absolute and normalized: %" out.path
  checkTargets [] m.inputs
  forM m.outputs (checkInside m.writablePaths)
  checkAllowlist m.networkPolicy
  checkConcrete m.networkPolicy
  validateWritableOverlaps m.writablePaths

/-! ## What is demanded -/

/-- The paths a manifest declares. -/
def WorkspaceManifest.declaredPaths (m : WorkspaceManifest) : List String :=
  m.inputs.map InputMount.targetPath ++ m.writablePaths.map WritablePath.path ++
    m.outputs.map OutputContract.path

/-- A network policy that says what it permits. -/
def NetworkPolicy.Concrete (policy : NetworkPolicy) : Prop :=
  ¬ (policy.mode = .allowlist ∧ policy.allow = []) ∧ policy.mode ≠ .profileDefault

open PosixPath in
/-- What `_validate_manifest` demands of a manifest. -/
structure Enforced (m : WorkspaceManifest) : Prop where
  paths : ∀ path ∈ m.declaredPaths, Rooted path.toList
  targets : (m.inputs.map InputMount.targetPath).Nodup
  outputs : ∀ out ∈ m.outputs, ∃ wp ∈ m.writablePaths, Below out.path.toList wp.path.toList
  network : m.networkPolicy.Concrete

namespace Validation

open PosixPath

variable {e : PyError}

lemma isAbsoluteNormalized_iff {path : String} :
    isAbsoluteNormalized path = true ↔ Rooted path.toList := by
  unfold isAbsoluteNormalized
  rw [decide_eq_true_iff, normal_iff]

lemma checkPath_eq_ok_iff {text path : String} :
    checkPath text path = .ok () ↔ Rooted path.toList := by
  unfold checkPath
  rw [← isAbsoluteNormalized_iff]
  split <;> simp_all

lemma checkTargets_eq_ok_iff {seen : List String} {inputs : List InputMount} :
    checkTargets seen inputs = .ok () ↔
      (inputs.map InputMount.targetPath).Nodup ∧
        ∀ inp ∈ inputs, inp.targetPath ∉ seen := by
  induction inputs generalizing seen with
  | nil => simp [checkTargets]
  | cons inp inputs ih =>
      unfold checkTargets
      rw [List.map_cons, List.nodup_cons, List.forall_mem_cons]
      split
      · rename_i hseen
        exact iff_of_false (by simp) fun h => h.2.1 hseen
      · rename_i hfresh
        rw [ih]
        constructor
        · rintro ⟨hnodup, hrest⟩
          refine ⟨⟨?_, hnodup⟩, hfresh, fun other hother h => ?_⟩
          · intro hmem
            obtain ⟨other, hother, heq⟩ := List.mem_map.mp hmem
            exact hrest other hother (heq ▸ List.mem_cons_self)
          · exact hrest other hother (List.mem_cons_of_mem _ h)
        · rintro ⟨⟨hnew, hnodup⟩, -, hrest⟩
          refine ⟨hnodup, fun other hother h => ?_⟩
          rcases List.mem_cons.mp h with h | h
          · exact hnew (h ▸ List.mem_map_of_mem hother)
          · exact hrest other hother h

lemma relativeTo_eq_ok_iff {path other : String} (hpath : Rooted path.toList)
    (hother : Rooted other.toList) :
    relativeTo path other = .ok () ↔ Below path.toList other.toList := by
  unfold relativeTo
  rw [← isRelativeTo_iff hpath hother]
  split <;> simp_all

lemma checkInside_eq_ok_iff {writablePaths : List WritablePath} {out : OutputContract}
    (hpaths : ∀ wp ∈ writablePaths, Rooted wp.path.toList) (hout : Rooted out.path.toList) :
    checkInside writablePaths out = .ok () ↔
      ∃ wp ∈ writablePaths, Below out.path.toList wp.path.toList := by
  have hinside : isInsideAny out.path writablePaths = true ↔
      ∃ wp ∈ writablePaths, Below out.path.toList wp.path.toList := by
    unfold isInsideAny
    rw [List.any_eq_true]
    refine exists_congr fun wp => and_congr_right fun hwp => ?_
    rw [decide_eq_true_iff, relativeTo_eq_ok_iff hout (hpaths wp hwp)]
  unfold checkInside
  rw [← hinside]
  split <;> simp_all

lemma network_eq_ok_iff {policy : NetworkPolicy} :
    checkAllowlist policy = .ok () ∧ checkConcrete policy = .ok () ↔ policy.Concrete := by
  unfold checkAllowlist checkConcrete NetworkPolicy.Concrete
  refine and_congr ?_ ?_ <;> split <;> simp_all

/-! ## The overlap check -/

/-- A `try` whose body raises only `ValueError` and whose handler returns does not raise. -/
lemma exceptValueError_eq_ok {body handler : Except PyError Unit}
    (hbody : ∀ e, body = .error e → e.cls = .valueError) (hhandler : handler = .ok ()) :
    exceptValueError body handler = .ok () := by
  unfold exceptValueError
  split
  · rfl
  · rename_i e
    rw [if_pos (hbody e rfl), hhandler]

/-- What is raised about a pair of grants is a `ValueError`. -/
lemma valueError_of_pair {a b c d : WritablePath} {path other : String}
    (h : (do
      relativeTo path other
      if identicalGrant a b then .ok () else .error (overlapError c d)) = .error e) :
    e.cls = .valueError := by
  rcases Effect.except_bind_eq_error.mp h with h | ⟨-, -, h⟩
  · rw [Effect.eq_of_unless_eq_error h]
  · rw [Effect.eq_of_unless_eq_error h, overlapError]

/-- **The overlap check never raises**: the handler around its `ValueError` is its own. -/
theorem validateWritableOverlaps_eq_ok (writablePaths : List WritablePath) :
    validateWritableOverlaps writablePaths = .ok () := by
  unfold validateWritableOverlaps
  refine Effect.except_forM_eq_ok.mpr fun _ _ => Effect.except_forM_eq_ok.mpr fun _ _ => ?_
  dsimp only
  split
  · rfl
  · exact exceptValueError_eq_ok (fun _ => valueError_of_pair)
      (exceptValueError_eq_ok (fun _ => valueError_of_pair) rfl)

end Validation

open Validation

variable {m : WorkspaceManifest}

lemma forall_declaredPaths {P : String → Prop} : (∀ path ∈ m.declaredPaths, P path) ↔
    (∀ inp ∈ m.inputs, P inp.targetPath) ∧ (∀ wp ∈ m.writablePaths, P wp.path) ∧
      ∀ out ∈ m.outputs, P out.path := by
  simp only [WorkspaceManifest.declaredPaths, List.forall_mem_append, List.forall_mem_map,
    and_assoc]

/-- **Acceptance.**  `_validate_manifest` returns exactly when its demands are met. -/
theorem validateManifest_eq_ok_iff : validateManifest m = .ok () ↔ Enforced m := by
  have hseq : validateManifest m = .ok () ↔
      (∀ path ∈ m.declaredPaths, PosixPath.Rooted path.toList) ∧
        checkTargets [] m.inputs = .ok () ∧
        (∀ out ∈ m.outputs, checkInside m.writablePaths out = .ok ()) ∧
        checkAllowlist m.networkPolicy = .ok () ∧ checkConcrete m.networkPolicy = .ok () := by
    simp only [validateManifest, Effect.except_bind_eq_ok, Effect.except_forM_eq_ok,
      checkPath_eq_ok_iff, validateWritableOverlaps_eq_ok, forall_declaredPaths,
      Unique.exists_iff, PUnit.default_eq_unit, and_true, and_assoc]
  rw [hseq, checkTargets_eq_ok_iff, network_eq_ok_iff]
  constructor
  · rintro ⟨hpaths, ⟨htargets, -⟩, houtputs, hnetwork⟩
    obtain ⟨-, hwritable, hout⟩ := forall_declaredPaths.mp hpaths
    exact ⟨hpaths, htargets, fun out h =>
      (checkInside_eq_ok_iff hwritable (hout out h)).mp (houtputs out h), hnetwork⟩
  · rintro ⟨hpaths, htargets, houtputs, hnetwork⟩
    obtain ⟨-, hwritable, hout⟩ := forall_declaredPaths.mp hpaths
    exact ⟨hpaths, ⟨htargets, fun _ _ => List.not_mem_nil⟩, fun out h =>
      (checkInside_eq_ok_iff hwritable (hout out h)).mpr (houtputs out h), hnetwork⟩

lemma valueError_of_checkTargets {seen : List String} {inputs : List InputMount} {e : PyError}
    (h : checkTargets seen inputs = .error e) : e.cls = .valueError := by
  induction inputs generalizing seen with
  | nil => exact absurd h (by simp [checkTargets])
  | cons inp inputs ih =>
      unfold checkTargets at h
      split at h
      · exact (Except.error.inj h) ▸ rfl
      · exact ih h

/-- **Refusal.**  `_validate_manifest` raises nothing but `ValueError`. -/
theorem valueError_of_refused {e : PyError} (h : validateManifest m = .error e) :
    e.cls = .valueError := by
  have hpath : ∀ {text path : String}, checkPath text path = .error e → e.cls = .valueError := by
    intro text path h
    rw [Effect.eq_of_unless_eq_error h]
  simp only [validateManifest, Effect.except_bind_eq_error, validateWritableOverlaps_eq_ok] at h
  rcases h with h | ⟨-, -, h | ⟨-, -, h | ⟨-, -, h | ⟨-, -, h | ⟨-, -, h | ⟨-, -, h | h⟩⟩⟩⟩⟩⟩
  · obtain ⟨inp, -, h⟩ := Effect.exists_of_except_forM_eq_error h
    exact hpath h
  · obtain ⟨wp, -, h⟩ := Effect.exists_of_except_forM_eq_error h
    exact hpath h
  · obtain ⟨out, -, h⟩ := Effect.exists_of_except_forM_eq_error h
    exact hpath h
  · exact valueError_of_checkTargets h
  · obtain ⟨out, -, h⟩ := Effect.exists_of_except_forM_eq_error h
    rw [Effect.eq_of_unless_eq_error h]
  · rw [Effect.eq_of_when_eq_error h]
  · rw [Effect.eq_of_when_eq_error h]
  · exact absurd h (by simp)

end Waywarden
