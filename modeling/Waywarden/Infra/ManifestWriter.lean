import Waywarden.Infra.WorkspaceManifestRepository

/-!
# The writer of manifests

`_dc_to_dict` and `_manifest_to_dict` of `waywarden.infra.db.repositories.workspace_manifest_repo`,
as the source has them: generic over the fields of a dataclass, one level of lists deep.  A
dataclass they left in place would be refused by `json.dumps`.

The objects a manifest is made of nest no deeper than that, so the writer's dictionary serializes,
and to the one that lists the fields of every class (`toJson_writtenManifest`).
-/

namespace Waywarden

/-- A Python object: a JSON value, or an instance of a dataclass with its fields in order. -/
inductive PyObject
  | null
  | bool (b : Bool)
  | int (i : ℤ)
  | float (x : Decimal)
  | str (s : String)
  | list (xs : List PyObject)
  | dict (items : List (String × PyObject))
  | dataclass (className : String) (fields : List (String × PyObject))

namespace PyObject

mutual

/-- The object a JSON value stands for. -/
def ofJson : Json → PyObject
  | .null => .null
  | .bool b => .bool b
  | .int i => .int i
  | .float x => .float x
  | .str s => .str s
  | .list xs => .list (ofItems xs)
  | .dict members => .dict (ofMembers members)

/-- `ofJson` on the items of a list. -/
def ofItems : List Json → List PyObject
  | [] => []
  | x :: xs => ofJson x :: ofItems xs

/-- `ofJson` on the values of a dictionary. -/
def ofMembers : List (String × Json) → List (String × PyObject)
  | [] => []
  | (k, v) :: ms => (k, ofJson v) :: ofMembers ms

end

mutual

/-- What `json.dumps` takes an object for. -/
def toJson : PyObject → Except PyError Json
  | .null => .ok .null
  | .bool b => .ok (.bool b)
  | .int i => .ok (.int i)
  | .float x => .ok (.float x)
  | .str s => .ok (.str s)
  | .list xs => do .ok (.list (← toItems xs))
  | .dict items => do .ok (.dict (← toMembers items))
  | .dataclass className _ =>
      .error ⟨.typeError, "Object of type % is not JSON serializable", [className]⟩

/-- `toJson` on the items of a list. -/
def toItems : List PyObject → Except PyError (List Json)
  | [] => .ok []
  | x :: xs => do .ok ((← toJson x) :: (← toItems xs))

/-- `toJson` on the values of a dictionary. -/
def toMembers : List (String × PyObject) → Except PyError (List (String × Json))
  | [] => .ok []
  | (k, v) :: items => do .ok ((k, ← toJson v) :: (← toMembers items))

end

mutual

/-- `_dc_to_dict`. -/
def dcToDict : PyObject → PyObject
  | .dataclass _ fields => .dict (fieldsToDict fields)
  | o => o

/-- The loop of `_dc_to_dict`: a list is gone through once, its items that are no dataclasses are
kept. -/
def fieldsToDict : List (String × PyObject) → List (String × PyObject)
  | [] => []
  | (name, .list xs) :: fields => (name, .list (itemsToDict xs)) :: fieldsToDict fields
  | (name, value) :: fields => (name, dcToDict value) :: fieldsToDict fields

/-- The items of a list field. -/
def itemsToDict : List PyObject → List PyObject
  | [] => []
  | x :: xs => dcToDict x :: itemsToDict xs

end

/-! ## The objects of a manifest -/

/-- An instance of a class that has no dataclass in its fields. -/
def ofClass {α : Type} (C : DataClass α) (className : String) (a : α) : PyObject :=
  .dataclass className (C.names.zip ((C.values a).map ofJson))

/-- An instance of `NetworkPolicy`. -/
def ofNetworkPolicy (p : NetworkPolicy) : PyObject :=
  .dataclass "NetworkPolicy" [("mode", .str p.mode.name),
    ("allow", .list (p.allow.map (ofClass networkAllowRule "NetworkAllowRule"))),
    ("deny", .list (p.deny.map .str))]

/-- An instance of `ToolPolicy`. -/
def ofToolPolicy (p : ToolPolicy) : PyObject :=
  .dataclass "ToolPolicy" [("preset", .str p.preset.name),
    ("rules", .list (p.rules.map (ofClass toolDecisionRule "ToolDecisionRule"))),
    ("default_decision", .str p.defaultDecision.name)]

end PyObject

open PyObject

/-- `_manifest_to_dict`. -/
def writtenManifest (m : WorkspaceManifest) : PyObject :=
  .dict [("inputs", .list (m.inputs.map fun i => dcToDict (ofClass inputMount "InputMount" i))),
    ("writable_paths",
      .list (m.writablePaths.map fun p => dcToDict (ofClass writablePath "WritablePath" p))),
    ("outputs",
      .list (m.outputs.map fun o => dcToDict (ofClass outputContract "OutputContract" o))),
    ("network_policy", dcToDict (ofNetworkPolicy m.networkPolicy)),
    ("tool_policy", dcToDict (ofToolPolicy m.toolPolicy)),
    ("secret_scope", dcToDict (ofClass secretScope "SecretScope" m.secretScope)),
    ("snapshot_policy", dcToDict (ofClass snapshotPolicy "SnapshotPolicy" m.snapshotPolicy))]

/-- `json.dumps(_manifest_to_dict(m))`. -/
def writtenBody (m : WorkspaceManifest) : Except PyError Json := do
  .ok (.str (Json.dumps false (← (writtenManifest m).toJson)))

/-! ## What the writer writes -/

namespace PyObject

mutual

lemma toJson_ofJson (j : Json) : toJson (ofJson j) = .ok j := by
  cases j with
  | null | bool b | int i | float x | str s => rfl
  | list xs =>
      rw [ofJson, toJson, toItems_ofItems xs]
      rfl
  | dict ms =>
      rw [ofJson, toJson, toMembers_ofMembers ms]
      rfl

lemma toItems_ofItems (xs : List Json) : toItems (ofItems xs) = .ok xs := by
  match xs with
  | [] => rfl
  | x :: xs =>
      rw [ofItems, toItems, toJson_ofJson x, toItems_ofItems xs]
      rfl

lemma toMembers_ofMembers (ms : List (String × Json)) : toMembers (ofMembers ms) = .ok ms := by
  match ms with
  | [] => rfl
  | (k, v) :: ms =>
      rw [ofMembers, toMembers, toJson_ofJson v, toMembers_ofMembers ms]
      rfl

end

/-- The writer leaves a JSON value as it is. -/
lemma dcToDict_ofJson (j : Json) : dcToDict (ofJson j) = ofJson j := by
  cases j <;> rfl

lemma itemsToDict_ofItems (xs : List Json) : itemsToDict (ofItems xs) = ofItems xs := by
  induction xs with
  | nil => rfl
  | cons x xs ih => rw [ofItems, itemsToDict, dcToDict_ofJson, ih]

/-- Fields that hold JSON values are copied. -/
lemma toMembers_fieldsToDict (names : List String) (vs : List Json) :
    toMembers (fieldsToDict (names.zip (vs.map ofJson))) = .ok (names.zip vs) := by
  induction names generalizing vs with
  | nil => rfl
  | cons name names ih =>
      cases vs with
      | nil => rfl
      | cons v vs =>
          have hfield : fieldsToDict ((name, ofJson v) :: names.zip (vs.map ofJson)) =
              (name, ofJson v) :: fieldsToDict (names.zip (vs.map ofJson)) := by
            cases v with
            | null | bool b | int i | float x | str s => rfl
            | dict ms => rfl
            | list xs => rw [ofJson, fieldsToDict, itemsToDict_ofItems]
          rw [List.map_cons, List.zip_cons_cons, List.zip_cons_cons, hfield, toMembers,
            toJson_ofJson, ih]
          rfl

/-- **An instance without dataclasses in its fields** is written as its dictionary. -/
lemma toJson_dcToDict_ofClass {α : Type} (C : DataClass α) (className : String) (a : α) :
    toJson (dcToDict (ofClass C className a)) = .ok (C.asdict a) := by
  rw [ofClass, dcToDict, toJson, toMembers_fieldsToDict]
  rfl

lemma toItems_map {α : Type} {f : α → PyObject} {g : α → Json}
    (h : ∀ a, toJson (f a) = .ok (g a)) (as : List α) : toItems (as.map f) = .ok (as.map g) := by
  induction as with
  | nil => rfl
  | cons a as ih =>
      rw [List.map_cons, toItems, h, ih]
      rfl

lemma itemsToDict_map {α : Type} (f : α → PyObject) (as : List α) :
    itemsToDict (as.map f) = as.map fun a => dcToDict (f a) := by
  induction as with
  | nil => rfl
  | cons a as ih => rw [List.map_cons, itemsToDict, ih, List.map_cons]

/-- A list of such instances is written as their dictionaries. -/
lemma toItems_ofClass {α : Type} (C : DataClass α) (className : String) (as : List α) :
    toItems (as.map fun a => dcToDict (ofClass C className a)) = .ok (as.map C.asdict) :=
  toItems_map (toJson_dcToDict_ofClass C className) as

lemma toItems_strs (ss : List String) : toItems (ss.map .str) = .ok (ss.map .str) :=
  toItems_map (fun _ => rfl) ss

lemma toJson_dcToDict_ofNetworkPolicy (p : NetworkPolicy) :
    toJson (dcToDict (ofNetworkPolicy p)) = .ok (networkPolicy.asdict p) := by
  have hdeny : itemsToDict (p.deny.map .str) = p.deny.map .str := itemsToDict_map .str p.deny
  simp only [ofNetworkPolicy, dcToDict, fieldsToDict, itemsToDict_map, hdeny, toJson, toMembers,
    toItems_ofClass, toItems_strs, bind, Except.bind]
  rfl

lemma toJson_dcToDict_ofToolPolicy (p : ToolPolicy) :
    toJson (dcToDict (ofToolPolicy p)) = .ok (toolPolicy.asdict p) := by
  simp only [ofToolPolicy, dcToDict, fieldsToDict, itemsToDict_map, toJson, toMembers,
    toItems_ofClass, bind, Except.bind]
  rfl

end PyObject

/-- **The generic writer writes every field of every class**, and nothing it leaves in place is
refused. -/
theorem toJson_writtenManifest (m : WorkspaceManifest) :
    toJson (writtenManifest m) = .ok (WorkspaceManifestRepository.manifestToDict m) := by
  simp only [writtenManifest, toJson, toMembers, toItems_ofClass, toJson_dcToDict_ofClass,
    toJson_dcToDict_ofNetworkPolicy, toJson_dcToDict_ofToolPolicy, bind, Except.bind]
  rfl

/-- The body is the one `save` writes. -/
lemma writtenBody_eq (m : WorkspaceManifest) :
    writtenBody m = .ok (WorkspaceManifestRepository.bodyOf m) := by
  rw [writtenBody, toJson_writtenManifest]
  rfl

end Waywarden
