import Waywarden.Lib.Effect
import Waywarden.Lib.JsonText
import Waywarden.Domain.ManifestFields

/-!
# `WorkspaceManifestRepositoryImpl`

`waywarden.infra.db.repositories.workspace_manifest_repo`: the `workspace_manifests` table holds
one JSON body for each run.  `save` writes a manifest's fields as a JSON text; `get` reads the text
back and builds the dataclasses anew.

The dataclasses check the names of their arguments only, so a body written by someone else may be
read into a manifest whose fields hold any JSON value.  `get` therefore returns the dictionary of
the manifest it builds.  `get_of_saved` says that what `save` wrote is read back as the manifest
saved, and `eq_asdict_of_sortKeys` that sorting the keys hides no difference from a well-typed
manifest.
-/

namespace Waywarden

/-- A row of the `workspace_manifests` table. -/
structure ManifestRow where
  id : String
  runId : String
  body : Json

namespace WorkspaceManifestRepository

/-! ## Saving -/

/-- `_manifest_to_dict`.  On a dataclass whose fields are plain values, lists of them or lists of
such dataclasses, `_dc_to_dict` makes the dictionary `asdict` makes. -/
def manifestToDict (m : WorkspaceManifest) : Json :=
  .dict [("inputs", inputMount.asdicts m.inputs),
    ("writable_paths", writablePath.asdicts m.writablePaths),
    ("outputs", outputContract.asdicts m.outputs),
    ("network_policy", networkPolicy.asdict m.networkPolicy),
    ("tool_policy", toolPolicy.asdict m.toolPolicy),
    ("secret_scope", secretScope.asdict m.secretScope),
    ("snapshot_policy", snapshotPolicy.asdict m.snapshotPolicy)]

/-- The body `save` writes. -/
def bodyOf (m : WorkspaceManifest) : Json := .str (Json.dumps false (manifestToDict m))

/-- `save`: an upsert on the run where the database is Postgres, else a plain insert, which the
unique constraint on `run_id` refuses when the run has a manifest already. -/
def save (postgresql : Bool) (manifestId : String) (m : WorkspaceManifest) :
    Effect (List ManifestRow) PyError WorkspaceManifest := do
  match ← Effect.gets fun rows => KeyedTable.get ManifestRow.runId m.runId rows with
  | some _ =>
      if postgresql then do
        Effect.modify (KeyedTable.update ManifestRow.runId m.runId fun row =>
          { row with body := bodyOf m })
        pure m
      else
        Effect.raise ⟨.integrityError, "uq_workspace_manifests_run_id", [m.runId]⟩
  | none =>
      if ← Effect.gets fun rows : List ManifestRow => rows.any fun row => row.id = manifestId then
        Effect.raise ⟨.integrityError, "workspace_manifests_pkey", [manifestId]⟩
      else do
        Effect.modify fun rows => rows ++ [⟨manifestId, m.runId, bodyOf m⟩]
        pure m

/-! ## Reading -/

/-- `value[key]`. -/
def subscript (value : Json) (key : String) : Except PyError Json :=
  match value with
  | .dict members =>
      match Json.lookup key members with
      | some v => .ok v
      | none => .error ⟨.keyError, "%", [key]⟩
  | _ => .error ⟨.typeError, "value is not subscriptable by %", [key]⟩

/-- `for item in value`. -/
def iterate : Json → Except PyError (List Json)
  | .list xs => .ok xs
  | .str s => .ok (s.toList.map fun c => .str (String.singleton c))
  | .dict members => .ok (members.map fun member => .str member.1)
  | _ => .error ⟨.typeError, "value is not iterable", []⟩

/-- What the interpreter raises for the arguments of a constructor. -/
def argumentError (className : String) : ArgumentError → PyError
  | .notMapping => ⟨.typeError, "% argument after ** must be a mapping", [className]⟩
  | .unexpected key => ⟨.typeError, "% got an unexpected keyword argument %", [className, key]⟩
  | .missing name => ⟨.typeError, "% missing required argument %", [className, name]⟩

/-- `[C(**d) for d in value]`. -/
def constructAll {α : Type} (C : DataClass α) (className : String) (value : Json) :
    Except PyError Json := do
  let ds ← iterate value
  let os ← ds.mapM fun d => (C.construct d).mapError (argumentError className)
  .ok (.list os)

/-- `NetworkPolicy(…)`. -/
def readNetworkPolicy (data : Json) : Except PyError Json := do
  let mode ← subscript (← subscript data "network_policy") "mode"
  let rules ← subscript (← subscript data "network_policy") "allow"
  let allow ← constructAll networkAllowRule "NetworkAllowRule" rules
  let deny ← subscript (← subscript data "network_policy") "deny"
  .ok (.dict [("mode", mode), ("allow", allow), ("deny", deny)])

/-- `ToolPolicy(…)`. -/
def readToolPolicy (data : Json) : Except PyError Json := do
  let preset ← subscript (← subscript data "tool_policy") "preset"
  let rules ← subscript (← subscript data "tool_policy") "rules"
  let rules ← constructAll toolDecisionRule "ToolDecisionRule" rules
  let default ← subscript (← subscript data "tool_policy") "default_decision"
  .ok (.dict [("preset", preset), ("rules", rules), ("default_decision", default)])

/-- `C(k=data[section][k], …)` for every field `k` of the class. -/
def readSection {α : Type} (C : DataClass α) (sectionName : String) (data : Json) :
    Except PyError Json := do
  let vs ← C.names.mapM fun name => do subscript (← subscript data sectionName) name
  .ok (.dict (C.names.zip vs))

/-- `json.loads(body)`. -/
def loadBody : Json → Except PyError Json
  | .str text =>
      match Json.loads text with
      | some data => .ok data
      | none => .error ⟨.jsonDecodeError, "%", [text]⟩
  | _ => .error ⟨.typeError, "the JSON object must be str, bytes or bytearray", []⟩

/-- `_dict_to_manifest`, as the dictionary of the manifest. -/
def dictToManifest (runId : String) (body : Json) : Except PyError Json := do
  let data ← loadBody body
  let inputs ← constructAll inputMount "InputMount" (← subscript data "inputs")
  let writablePaths ← constructAll writablePath "WritablePath" (← subscript data "writable_paths")
  let outputs ← constructAll outputContract "OutputContract" (← subscript data "outputs")
  let networkPolicy ← readNetworkPolicy data
  let toolPolicy ← readToolPolicy data
  let secretScope ← readSection secretScope "secret_scope" data
  let snapshotPolicy ← readSection snapshotPolicy "snapshot_policy" data
  .ok (.dict [("run_id", .str runId), ("inputs", inputs), ("writable_paths", writablePaths),
    ("outputs", outputs), ("network_policy", networkPolicy), ("tool_policy", toolPolicy),
    ("secret_scope", secretScope), ("snapshot_policy", snapshotPolicy)])

/-- `get`. -/
def get (rows : List ManifestRow) (runId : String) : Except PyError (Option Json) :=
  match KeyedTable.get ManifestRow.runId runId rows with
  | none => .ok none
  | some row => (dictToManifest row.runId row.body).map some

/-! ## What was saved is read back -/

lemma mapM_eq_ok {β γ ε : Type} {f : β → Except ε γ} {g : β → γ} {bs : List β}
    (h : ∀ b ∈ bs, f b = .ok (g b)) : bs.mapM f = .ok (bs.map g) := by
  rw [Effect.except_mapM_eq_ok, List.forall₂_map_right_iff, List.forall₂_same]
  exact h

lemma constructAll_asdicts {α : Type} (C : DataClass α) (className : String) (as : List α) :
    constructAll C className (C.asdicts as) = .ok (C.asdicts as) := by
  have hall : (as.map C.asdict).mapM (fun d => (C.construct d).mapError (argumentError className)) =
      .ok ((as.map C.asdict).map id) := by
    refine mapM_eq_ok fun d hd => ?_
    obtain ⟨a, -, rfl⟩ := List.mem_map.mp hd
    rw [C.construct_asdict]
    rfl
  rw [List.map_id] at hall
  simp only [DataClass.asdicts, constructAll, iterate, bind, Except.bind, hall]

lemma distinct_manifestToDict (m : WorkspaceManifest) : Json.Distinct (manifestToDict m) := by
  have flat {vs : List Json} (h : ∀ v ∈ vs, Json.Flat v) : ∀ v ∈ vs, Json.Distinct v :=
    fun v hv => Json.distinct_of_flat (h v hv)
  have hrules : Json.Distinct (networkAllowRule.asdicts m.networkPolicy.allow) :=
    networkAllowRule.distinct_asdicts (fun x => flat (flat_networkAllowRule x)) _
  have hdecisions : Json.Distinct (toolDecisionRule.asdicts m.toolPolicy.rules) :=
    toolDecisionRule.distinct_asdicts (fun x => flat (flat_toolDecisionRule x)) _
  refine ⟨by simp, inputMount.distinct_asdicts (fun x => flat (flat_inputMount x)) _,
    writablePath.distinct_asdicts (fun x => flat (flat_writablePath x)) _,
    outputContract.distinct_asdicts (fun x => flat (flat_outputContract x)) _,
    networkPolicy.distinct_asdict ?_, toolPolicy.distinct_asdict ?_,
    secretScope.distinct_asdict (flat (flat_secretScope _)),
    snapshotPolicy.distinct_asdict (flat (flat_snapshotPolicy _)), trivial⟩
  · simp only [networkPolicy, List.mem_cons, List.not_mem_nil, or_false, forall_eq_or_imp,
      forall_eq]
    exact ⟨trivial, hrules, Json.distinct_of_flat (Json.flat_strs _)⟩
  · simp only [toolPolicy, List.mem_cons, List.not_mem_nil, or_false, forall_eq_or_imp, forall_eq]
    exact ⟨trivial, hdecisions, trivial⟩

/-- **What `save` writes is read back** as the manifest saved. -/
theorem dictToManifest_bodyOf (m : WorkspaceManifest) :
    dictToManifest m.runId (bodyOf m) = .ok m.asdict := by
  have hload : loadBody (bodyOf m) = .ok (manifestToDict m) := by
    rw [bodyOf, loadBody, Json.loads_dumps false (distinct_manifestToDict m)]
  have hnetwork : readNetworkPolicy (manifestToDict m) =
      .ok (networkPolicy.asdict m.networkPolicy) := by
    show (constructAll networkAllowRule "NetworkAllowRule"
      (networkAllowRule.asdicts m.networkPolicy.allow) >>= _) = _
    rw [constructAll_asdicts]
    rfl
  have htool : readToolPolicy (manifestToDict m) = .ok (toolPolicy.asdict m.toolPolicy) := by
    show (constructAll toolDecisionRule "ToolDecisionRule"
      (toolDecisionRule.asdicts m.toolPolicy.rules) >>= _) = _
    rw [constructAll_asdicts]
    rfl
  have hsecret : readSection secretScope "secret_scope" (manifestToDict m) =
      .ok (secretScope.asdict m.secretScope) := rfl
  have hsnapshot : readSection snapshotPolicy "snapshot_policy" (manifestToDict m) =
      .ok (snapshotPolicy.asdict m.snapshotPolicy) := rfl
  have hinputs : subscript (manifestToDict m) "inputs" = .ok (inputMount.asdicts m.inputs) := rfl
  have hwritable : subscript (manifestToDict m) "writable_paths" =
      .ok (writablePath.asdicts m.writablePaths) := rfl
  have houtputs : subscript (manifestToDict m) "outputs" =
      .ok (outputContract.asdicts m.outputs) := rfl
  simp only [dictToManifest, hload, hinputs, hwritable, houtputs, constructAll_asdicts,
    hnetwork, htool, hsecret, hsnapshot, bind, Except.bind]
  rfl

/-! ## Sorting the keys hides no difference -/

/-- Every item of a constructed list was constructed. -/
lemma eq_list_of_constructAll {α : Type} {C : DataClass α} {className : String} {value l : Json}
    (h : constructAll C className value = .ok l) :
    ∃ os : List Json, l = .list os ∧ ∀ o ∈ os, ∃ kwargs, C.construct kwargs = .ok o := by
  rw [constructAll, Effect.except_bind_eq_ok] at h
  obtain ⟨ds, -, h⟩ := h
  rw [Effect.except_bind_eq_ok] at h
  obtain ⟨os, hos, h⟩ := h
  refine ⟨os, (Except.ok.inj h).symm, ?_⟩
  clear h
  induction ds generalizing os with
  | nil =>
      obtain rfl := Except.ok.inj hos
      exact nofun
  | cons d ds ih =>
      rw [List.mapM_cons, Effect.except_bind_eq_ok] at hos
      obtain ⟨o, ho, hos⟩ := hos
      rw [Effect.except_bind_eq_ok] at hos
      obtain ⟨os', hos', hcons⟩ := hos
      obtain rfl := Except.ok.inj hcons
      intro o' ho'
      rcases List.mem_cons.mp ho' with rfl | ho'
      · cases hd : C.construct d with
        | error e =>
            rw [hd] at ho
            exact absurd ho (by simp [Except.mapError])
        | ok p =>
            rw [hd] at ho
            obtain rfl := Except.ok.inj ho
            exact ⟨d, hd⟩
      · exact ih os' hos' o' ho'

/-- A constructed list that sorts to the one of well-typed instances is that one. -/
lemma constructAll_of_sortKeys {α : Type} {C : DataClass α} {className : String} {value l : Json}
    {as : List α} (hflat : ∀ a, ∀ v ∈ C.values a, Json.Flat v)
    (hl : constructAll C className value = .ok l)
    (h : Json.sortKeys l = Json.sortKeys (C.asdicts as)) : l = C.asdicts as := by
  obtain ⟨os, rfl, hos⟩ := eq_list_of_constructAll hl
  exact C.eq_asdicts_of_sortKeys hflat hos h

lemma str_of_sortKeys {v : Json} {s : String} (h : Json.sortKeys v = Json.sortKeys (.str s)) :
    v = .str s :=
  Json.eq_of_sortKeys_flat trivial h

lemma readNetworkPolicy_of_sortKeys {data o : Json} {p : NetworkPolicy}
    (ho : readNetworkPolicy data = .ok o)
    (h : Json.sortKeys o = Json.sortKeys (networkPolicy.asdict p)) :
    o = networkPolicy.asdict p := by
  simp only [readNetworkPolicy, Effect.except_bind_eq_ok] at ho
  obtain ⟨_, -, mode, -, _, -, rules, -, allow, hallow, _, -, deny, -, ho⟩ := ho
  obtain rfl := Except.ok.inj ho
  have hvalues := @DataClass.map_sortKeys_values _ networkPolicy [mode, allow, deny] p rfl h
  simp only [networkPolicy, List.map_cons, List.map_nil, List.cons.injEq, and_true] at hvalues
  obtain ⟨hmode, hrules, hdeny⟩ := hvalues
  rw [str_of_sortKeys hmode, constructAll_of_sortKeys flat_networkAllowRule hallow hrules,
    Json.eq_of_sortKeys_flat (Json.flat_strs _)
      (hdeny.trans (Json.sortKeys_flat (Json.flat_strs _)))]
  rfl

lemma readToolPolicy_of_sortKeys {data o : Json} {p : ToolPolicy}
    (ho : readToolPolicy data = .ok o)
    (h : Json.sortKeys o = Json.sortKeys (toolPolicy.asdict p)) : o = toolPolicy.asdict p := by
  simp only [readToolPolicy, Effect.except_bind_eq_ok] at ho
  obtain ⟨_, -, preset, -, _, -, _, -, rules, hrules, _, -, default, -, ho⟩ := ho
  obtain rfl := Except.ok.inj ho
  have hvalues := @DataClass.map_sortKeys_values _ toolPolicy [preset, rules, default] p rfl h
  simp only [toolPolicy, List.map_cons, List.map_nil, List.cons.injEq, and_true] at hvalues
  obtain ⟨hpreset, hsorted, hdefault⟩ := hvalues
  rw [str_of_sortKeys hpreset, constructAll_of_sortKeys flat_toolDecisionRule hrules hsorted,
    str_of_sortKeys hdefault]
  rfl

lemma readSection_of_sortKeys {α : Type} {C : DataClass α} {sectionName : String} {data o : Json}
    {a : α} (hflat : ∀ v ∈ C.values a, Json.Flat v) (ho : readSection C sectionName data = .ok o)
    (h : Json.sortKeys o = Json.sortKeys (C.asdict a)) : o = C.asdict a := by
  rw [readSection, Effect.except_bind_eq_ok] at ho
  obtain ⟨vs, hvs, ho⟩ := ho
  obtain rfl := Except.ok.inj ho
  exact C.zip_eq_asdict_of_sortKeys hflat (DataClass.length_of_mapM hvs) h

/-- **Sorting the keys hides no difference.**  A manifest read from the table whose sorted
dictionary is that of a well-typed manifest is that manifest. -/
theorem eq_asdict_of_sortKeys {runId : String} {body o : Json} {m : WorkspaceManifest}
    (ho : dictToManifest runId body = .ok o)
    (h : Json.sortKeys o = Json.sortKeys m.asdict) : o = m.asdict := by
  simp only [dictToManifest, Effect.except_bind_eq_ok] at ho
  obtain ⟨data, -, _, -, inputs, hinputs, _, -, writable, hwritable, _, -, outputs, houtputs,
    network, hnetwork, tool, htool, secret, hsecret, snapshot, hsnapshot, ho⟩ := ho
  obtain rfl := Except.ok.inj ho
  have hvalues := @DataClass.map_sortKeys_values _ workspaceManifest
    [.str runId, inputs, writable, outputs, network, tool, secret, snapshot] m rfl h
  simp only [workspaceManifest, List.map_cons, List.map_nil, List.cons.injEq, and_true] at hvalues
  obtain ⟨hrun, hi, hw, hout, hn, ht, hs, hsnap⟩ := hvalues
  rw [str_of_sortKeys hrun, constructAll_of_sortKeys flat_inputMount hinputs hi,
    constructAll_of_sortKeys flat_writablePath hwritable hw,
    constructAll_of_sortKeys flat_outputContract houtputs hout,
    readNetworkPolicy_of_sortKeys hnetwork hn, readToolPolicy_of_sortKeys htool ht,
    readSection_of_sortKeys (flat_secretScope _) hsecret hs,
    readSection_of_sortKeys (flat_snapshotPolicy _) hsnapshot hsnap]
  rfl

/-! ## The table -/

/-- The row stored for the run of a manifest is the one `save` writes. -/
def Saved (rows : List ManifestRow) (m : WorkspaceManifest) : Prop :=
  ∃ row, KeyedTable.get ManifestRow.runId m.runId rows = some row ∧ row.body = bodyOf m

/-- What `get` returns is built from a stored body. -/
lemma row_of_get {rows : List ManifestRow} {runId : String} {o : Json}
    (h : get rows runId = .ok (some o)) :
    ∃ row : ManifestRow, dictToManifest row.runId row.body = .ok o := by
  rw [get] at h
  split at h
  · exact absurd (Except.ok.inj h) (by simp)
  · rename_i row _
    refine ⟨row, ?_⟩
    cases hdict : dictToManifest row.runId row.body with
    | error e =>
        rw [hdict] at h
        exact absurd h (by simp [Except.map])
    | ok o' =>
        rw [hdict] at h
        rw [Option.some.inj (Except.ok.inj h)]

/-- A manifest saved is read back. -/
theorem get_of_saved {rows : List ManifestRow} {m : WorkspaceManifest} (h : Saved rows m) :
    get rows m.runId = .ok (some m.asdict) := by
  obtain ⟨row, hrow, hbody⟩ := h
  have hrun : row.runId = m.runId := KeyedTable.key_of_get hrow
  have hread : dictToManifest row.runId row.body = .ok m.asdict := by
    rw [hrun, hbody, dictToManifest_bodyOf]
  simp only [get, hrow, hread]
  rfl

/-- `save` leaves the manifest saved, and the manifests of other runs as they are. -/
lemma wp_save {postgresql : Bool} {manifestId : String} {m : WorkspaceManifest}
    {rows : List ManifestRow} :
    Effect.wp (save postgresql manifestId m)
      (fun _ rows' => Saved rows' m ∧
        ∀ other : WorkspaceManifest, other.runId ≠ m.runId → Saved rows other → Saved rows' other)
      (fun _ rows' => rows' = rows) rows := by
  have hkey : ∀ row : ManifestRow, row.runId = m.runId →
      ({ row with body := bodyOf m } : ManifestRow).runId = m.runId := fun _ h => h
  rw [save, Effect.wp_bind, Effect.wp_gets]
  cases hrow : KeyedTable.get ManifestRow.runId m.runId rows with
  | some row =>
      cases postgresql with
      | false => exact (Effect.wp_raise _).mpr rfl
      | true =>
          simp only [if_true, Effect.wp_bind, Effect.wp_modify, Effect.wp_pure]
          constructor
          · refine ⟨{ row with body := bodyOf m }, ?_, rfl⟩
            rw [KeyedTable.get_update_self hkey, hrow, Option.map_some]
          · rintro other hne ⟨row', hrow', hbody⟩
            refine ⟨row', ?_, hbody⟩
            rw [KeyedTable.get_update_ne hkey hne, hrow']
  | none =>
      simp only [Effect.wp_bind, Effect.wp_gets]
      split
      · exact (Effect.wp_raise _).mpr rfl
      · simp only [Effect.wp_bind, Effect.wp_modify, Effect.wp_pure]
        constructor
        · refine ⟨⟨manifestId, m.runId, bodyOf m⟩, ?_, rfl⟩
          exact @KeyedTable.get_concat_self _ _ _ ManifestRow.runId
            ⟨manifestId, m.runId, bodyOf m⟩ rows hrow
        · rintro other hne ⟨row', hrow', hbody⟩
          refine ⟨row', ?_, hbody⟩
          rw [@KeyedTable.get_concat_ne _ _ _ ManifestRow.runId _ _ hne.symm rows, hrow']

end WorkspaceManifestRepository

end Waywarden
