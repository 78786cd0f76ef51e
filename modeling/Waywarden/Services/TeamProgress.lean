import Waywarden.Domain.Team
import Waywarden.Lib.KeyedTable
import Waywarden.Services.Milestones
import Waywarden.Services.PipelineExecution

/-!
# The progress of a team

`make_team_progress_event` of `waywarden.services.orchestration.team_progress`: one `run.progress`
event for a team, with an entry for each of its members.  The caller gives the statuses of the
members in a dictionary, and their runs in another one if they have runs of their own.

The keys of both have to be the members.  `makeTeamProgressEvent_eq_ok_iff` says what an event is
made of once that is checked.
-/

namespace Waywarden

open PipelineExecutionEngine (withCallerMetadata get_withCallerMetadata)

/-! ## Dictionaries -/

/-- A `dict[str, str]`, in insertion order. -/
structure TextDict where
  items : List (String × String)
  keys_nodup : (items.map Prod.fst).Nodup

namespace TextDict

variable {dict dict' : TextDict} {key value : String}

/-- The keys. -/
def keys (dict : TextDict) : List String := dict.items.map Prod.fst

/-- `dict[key]`. -/
def getItem (dict : TextDict) (key : String) : Except PyError String :=
  match KeyedTable.get Prod.fst key dict.items with
  | some item => .ok item.2
  | none => .error ⟨.keyError, "%", [key]⟩

lemma getItem_eq_ok_iff : dict.getItem key = .ok value ↔ (key, value) ∈ dict.items := by
  unfold getItem
  constructor
  · intro h
    rcases hget : KeyedTable.get Prod.fst key dict.items with _ | item
    · rw [hget] at h
      exact absurd h (by simp)
    · rw [hget] at h
      have hpair : (key, value) = item := by
        rw [← KeyedTable.key_of_get hget, ← Except.ok.inj h]
      rw [hpair]
      exact KeyedTable.mem_of_get hget
  · intro h
    have hget : KeyedTable.get Prod.fst key dict.items = some (key, value) :=
      KeyedTable.get_of_mem dict.keys_nodup h
    rw [hget]

/-- What is under a key depends on the items alone, not on their order. -/
lemma getItem_congr (h : dict'.items.Perm dict.items) (key : String) :
    dict'.getItem key = dict.getItem key := by
  unfold getItem
  rw [KeyedTable.get_of_perm h dict.keys_nodup]

lemma exists_getItem_iff : (∃ value, dict.getItem key = .ok value) ↔ key ∈ dict.keys := by
  unfold keys
  rw [List.mem_map]
  constructor
  · rintro ⟨value, h⟩
    exact ⟨(key, value), getItem_eq_ok_iff.mp h, rfl⟩
  · rintro ⟨⟨_, value⟩, hmem, rfl⟩
    exact ⟨value, getItem_eq_ok_iff.mpr hmem⟩

end TextDict

/-! ## The event -/

/-- The arguments of `make_team_progress_event`, without the team and what is given for its
members. -/
structure ProgressArgs where
  runId : String
  seq : ℤ
  milestone : String
  status : String
  summary : String
  correlation : Option RunCorrelation := none
  tokenBudget : Option TokenBudgetTelemetry := none
  toolActions : Option (List ToolActionMetadata) := none
  now : Option PyDatetime := none

namespace TeamProgress

/-- The ids of the members as strings. -/
def memberNames (team : Team) : List String := team.memberIds.map fun id => id.val

/-- What is not among the names. -/
def othersThan (names keys : List String) : List String := keys.filter fun key => key ∉ names

/-- The two checks of the keys of a dictionary: none is unknown, and none is missing. -/
def checkKeys (what : String) (names keys : List String) : Except PyError Unit :=
  if othersThan names keys ≠ [] then
    .error ⟨.valueError, "unknown team member " ++ what ++ ": %",
      [formatSorted (othersThan names keys)]⟩
  else if othersThan keys names ≠ [] then
    .error ⟨.valueError, "missing team member " ++ what ++ ": %",
      [formatSorted (othersThan keys names)]⟩
  else .ok ()

/-- The loop over `member_run_ids`. -/
def checkBlank (runIds : TextDict) : Except PyError Unit :=
  match runIds.items.find? fun item => strip item.2 == "" with
  | some item => .error ⟨.valueError, "member run id must not be blank for %", [item.1]⟩
  | none => .ok ()

/-- The checks of `member_run_ids`. -/
def checkRunIds (names : List String) : Option TextDict → Except PyError Unit
  | none => .ok ()
  | some runIds => do
      checkKeys "run ids" names runIds.keys
      checkBlank runIds

section

variable (env : Env) (team : Team) (args : ProgressArgs) (statuses : TextDict)
  (runIds : Option TextDict)

/-- The run of a member: its own, or that of the event. -/
def memberRunId (id : String) : Except PyError String :=
  match runIds with
  | some runIds => runIds.getItem id
  | none => .ok args.runId

/-- An entry of `agent_progress`. -/
def memberEntry (id runId status : String) : Mapping :=
  [("agent_id", .str id), ("run_id", .str runId), ("status", .str status),
    ("milestone_ref", .str ("handoff." ++ args.milestone))] ++
    (args.correlation.map fun correlation =>
      ("parent_run_id", Value.str correlation.parentRunId)).toList

/-- One turn of the loop over the members. -/
def agentEntry (id : String) : Except PyError Mapping := do
  let runId ← memberRunId args runIds id
  let status ← statuses.getItem id
  .ok (memberEntry args id runId status)

/-- An item of `normalized_statuses`. -/
def statusItem (id : String) : Except PyError (String × Value) := do
  let status ← statuses.getItem id
  .ok (id, .str status)

/-- What the event says of the team. -/
def teamPayload (normalizedStatuses : Mapping) (agentProgress : List Mapping) : Mapping :=
  [("phase", .str "handoff"), ("milestone", .str args.milestone),
    ("milestone_ref", .str ("handoff." ++ args.milestone)), ("run_id", .str args.runId),
    ("team_id", .str team.id), ("dispatcher_id", .str team.dispatcher.id),
    ("specialist_ids", .tuple (team.specialists.map fun agent => .str agent.id)),
    ("status", .str args.status), ("summary", .str (strip args.summary)),
    ("member_statuses", .dict normalizedStatuses),
    ("agent_progress", .tuple (agentProgress.map .dict))]

/-- A payload with the tool actions of the caller. -/
def withToolActions (toolActions : Option (List ToolActionMetadata)) (payload : Mapping) :
    Mapping :=
  match toolActionsPayload toolActions with
  | none => payload
  | some actions => payload.update [("tool_actions", actions)]

/-- The whole payload. -/
def payload (normalizedStatuses : Mapping) (agentProgress : List Mapping) : Mapping :=
  withToolActions args.toolActions (withCallerMetadata args.correlation args.tokenBudget
    (teamPayload team args normalizedStatuses agentProgress))

/-- The constructor call of the event. -/
def progressEvent (normalizedStatuses : Mapping) (agentProgress : List Mapping) :
    Except PyError RunEvent :=
  RunEvent.new
    ("evt-" ++ args.runId ++ "-" ++ team.id ++ "-" ++ args.milestone ++ "-" ++ env.uuid4 0)
    args.runId args.seq .runProgress (payload team args normalizedStatuses agentProgress)
    (args.now.getD (.aware (env.now 0)))
    (some { eventId := none, action := some args.milestone, requestId := some team.id.val })
    (some ⟨.system, some team.id.val, some team.id.val⟩)

/-- `make_team_progress_event`. -/
def makeTeamProgressEvent : Except PyError RunEvent :=
  if !isValidMilestone "handoff" args.milestone then
    .error ⟨.valueError, "milestone not cataloged: phase='handoff' milestone=%",
      [args.milestone]⟩
  else if strip args.summary = "" then .error ⟨.valueError, "summary must not be blank", []⟩
  else do
    checkKeys "statuses" (memberNames team) statuses.keys
    checkRunIds (memberNames team) runIds
    let normalizedStatuses ← (memberNames team).mapM (statusItem statuses)
    let agentProgress ← (memberNames team).mapM (agentEntry args statuses runIds)
    progressEvent env team args normalizedStatuses agentProgress

end

/-! ## The checks -/

lemma othersThan_eq_nil_iff {names keys : List String} :
    othersThan names keys = [] ↔ ∀ key ∈ keys, key ∈ names := by
  unfold othersThan
  rw [List.filter_eq_nil_iff]
  simp only [decide_eq_true_eq, not_not]

/-- The keys are the names. -/
def SameNames (names keys : List String) : Prop := ∀ name, name ∈ keys ↔ name ∈ names

lemma checkKeys_eq_ok_iff {what : String} {names keys : List String} :
    checkKeys what names keys = .ok () ↔ SameNames names keys := by
  unfold checkKeys SameNames
  by_cases hunknown : othersThan names keys = []
  · rw [if_neg (not_not.mpr hunknown)]
    by_cases hmissing : othersThan keys names = []
    · rw [if_neg (not_not.mpr hmissing)]
      exact iff_of_true rfl fun name =>
        ⟨othersThan_eq_nil_iff.mp hunknown name, othersThan_eq_nil_iff.mp hmissing name⟩
    · rw [if_pos hmissing]
      exact iff_of_false (by simp) fun h =>
        hmissing (othersThan_eq_nil_iff.mpr fun name hname => (h name).mpr hname)
  · rw [if_pos hunknown]
    exact iff_of_false (by simp) fun h =>
      hunknown (othersThan_eq_nil_iff.mpr fun name hname => (h name).mp hname)

/-- What is asked of the runs of the members. -/
def RunsNamed (names : List String) (runIds : Option TextDict) : Prop :=
  ∀ dict ∈ runIds, SameNames names dict.keys ∧ ∀ item ∈ dict.items, strip item.2 ≠ ""

lemma checkBlank_eq_ok_iff {dict : TextDict} :
    checkBlank dict = .ok () ↔ ∀ item ∈ dict.items, strip item.2 ≠ "" := by
  unfold checkBlank
  rcases hfind : dict.items.find? fun item => strip item.2 == "" with _ | item
  · rw [hfind]
    refine iff_of_true rfl fun item hitem => ?_
    simpa using List.find?_eq_none.mp hfind item hitem
  · rw [hfind]
    refine iff_of_false (by simp) fun h => ?_
    exact h item (List.mem_of_find?_eq_some hfind) (by simpa using List.find?_some hfind)

lemma checkRunIds_eq_ok_iff {names : List String} {runIds : Option TextDict} :
    checkRunIds names runIds = .ok () ↔ RunsNamed names runIds := by
  cases runIds with
  | none => exact iff_of_true rfl fun _ h => absurd h (by simp)
  | some dict =>
      unfold checkRunIds RunsNamed
      rw [Effect.except_bind_eq_ok]
      constructor
      · rintro ⟨_, hkeys, hblank⟩ found hfound
        obtain rfl := Option.some.inj hfound
        exact ⟨checkKeys_eq_ok_iff.mp hkeys, checkBlank_eq_ok_iff.mp hblank⟩
      · intro h
        obtain ⟨hkeys, hblank⟩ := h dict rfl
        exact ⟨(), checkKeys_eq_ok_iff.mpr hkeys, checkBlank_eq_ok_iff.mpr hblank⟩

/-! ## What an event is made of -/

section

variable {env : Env} {team : Team} {args : ProgressArgs} {statuses : TextDict}
  {runIds : Option TextDict} {event : RunEvent}

/-- What is asked of the arguments, apart from the event itself. -/
structure Asked (team : Team) (args : ProgressArgs) (statuses : TextDict)
    (runIds : Option TextDict) : Prop where
  cataloged : isValidMilestone "handoff" args.milestone = true
  summary : strip args.summary ≠ ""
  statuses : SameNames (memberNames team) statuses.keys
  runs : RunsNamed (memberNames team) runIds

lemma makeTeamProgressEvent_eq_ok_iff :
    makeTeamProgressEvent env team args statuses runIds = .ok event ↔
      Asked team args statuses runIds ∧ ∃ normalizedStatuses agentProgress,
        (memberNames team).mapM (statusItem statuses) = .ok normalizedStatuses ∧
        (memberNames team).mapM (agentEntry args statuses runIds) = .ok agentProgress ∧
        progressEvent env team args normalizedStatuses agentProgress = .ok event := by
  unfold makeTeamProgressEvent
  by_cases hmilestone : isValidMilestone "handoff" args.milestone = true
  · rw [hmilestone, Bool.not_true, if_neg Bool.false_ne_true]
    by_cases hsummary : strip args.summary = ""
    · rw [if_pos hsummary]
      exact iff_of_false (by simp) fun h => h.1.summary hsummary
    · rw [if_neg hsummary]
      simp only [Effect.except_bind_eq_ok]
      constructor
      · rintro ⟨_, hkeys, _, hruns, normalized, hnormalized, entries, hentries, hevent⟩
        exact ⟨⟨hmilestone, hsummary, checkKeys_eq_ok_iff.mp hkeys,
          checkRunIds_eq_ok_iff.mp hruns⟩, normalized, entries, hnormalized, hentries, hevent⟩
      · rintro ⟨hasked, normalized, entries, hnormalized, hentries, hevent⟩
        exact ⟨(), checkKeys_eq_ok_iff.mpr hasked.statuses, (),
          checkRunIds_eq_ok_iff.mpr hasked.runs, normalized, hnormalized, entries, hentries,
          hevent⟩
  · rw [Bool.eq_false_of_not_eq_true hmilestone, Bool.not_false, if_pos rfl]
    exact iff_of_false (by simp) fun h => hmilestone h.1.cataloged

/-- Under these conditions the members have their statuses and their runs. -/
lemma exists_entries (h : Asked team args statuses runIds) :
    (∃ normalized, (memberNames team).mapM (statusItem statuses) = .ok normalized) ∧
      ∃ entries, (memberNames team).mapM (agentEntry args statuses runIds) = .ok entries := by
  have hstatus : ∀ id ∈ memberNames team, ∃ status, statuses.getItem id = .ok status :=
    fun id hid => TextDict.exists_getItem_iff.mpr ((h.statuses id).mpr hid)
  have hrun : ∀ id ∈ memberNames team, ∃ runId, memberRunId args runIds id = .ok runId := by
    intro id hid
    cases hruns : runIds with
    | none => exact ⟨args.runId, rfl⟩
    | some dict =>
        exact TextDict.exists_getItem_iff.mpr (((h.runs dict hruns).1 id).mpr hid)
  constructor
  · refine Effect.exists_except_mapM_iff.mpr fun id hid => ?_
    obtain ⟨status, hstatus⟩ := hstatus id hid
    exact ⟨_, Effect.except_bind_eq_ok.mpr ⟨status, hstatus, rfl⟩⟩
  · refine Effect.exists_except_mapM_iff.mpr fun id hid => ?_
    obtain ⟨status, hstatus⟩ := hstatus id hid
    obtain ⟨runId, hrunId⟩ := hrun id hid
    exact ⟨_, Effect.except_bind_eq_ok.mpr ⟨runId, hrunId,
      Effect.except_bind_eq_ok.mpr ⟨status, hstatus, rfl⟩⟩⟩

/-- The keys of what the caller adds. -/
def callerKeys : List String := correlationKeys ++ ["token_budget", "tool_actions"]

/-- What the caller adds has keys of its own. -/
lemma get_payload {normalized : Mapping} {entries : List Mapping} {key : String}
    (hkey : key ∉ callerKeys) :
    (payload team args normalized entries).get key =
      (teamPayload team args normalized entries).get key := by
  unfold callerKeys at hkey
  rw [List.mem_append, List.mem_pair, not_or, not_or] at hkey
  obtain ⟨hcorrelation, hbudget, hactions⟩ := hkey
  have hcaller : (withCallerMetadata args.correlation args.tokenBudget
      (teamPayload team args normalized entries)).get key =
        (teamPayload team args normalized entries).get key :=
    get_withCallerMetadata _ hcorrelation hbudget
  unfold payload withToolActions
  rcases toolActionsPayload args.toolActions with _ | actions
  · exact hcaller
  · have hother : Mapping.get [("tool_actions", actions)] key = none := by
      simp [Mapping.get, Ne.symm hactions]
    dsimp only
    rw [Mapping.get_update (by simp), hother, Option.none_or, hcaller]

/-- The constructor accepts the event of a cataloged milestone by its number and its time. -/
lemma exists_progressEvent_iff {normalized : Mapping} {entries : List Mapping} :
    (∃ event, progressEvent env team args normalized entries = .ok event) ↔
      1 ≤ args.seq ∧ ∀ naive, args.now ≠ some (.naive naive) := by
  have hphase : (payload team args normalized entries).get "phase" = some (.str "handoff") :=
    get_payload (by decide)
  have hmilestone : (payload team args normalized entries).get "milestone" =
      some (.str args.milestone) := get_payload (by decide)
  have hvalid : validatePayload .runProgress (payload team args normalized entries) = true := by
    refine validatePayload_of_get fun field hfield => ?_
    rcases List.mem_pair.mp hfield with rfl | rfl
    · rw [hphase]
      simp
    · rw [hmilestone]
      simp
  unfold progressEvent RunEvent.new
  by_cases hseq : args.seq < 1
  · rw [dif_pos hseq]
    exact iff_of_false (by simp) fun h => absurd h.1 (by omega)
  · rw [dif_neg hseq]
    cases hnow : args.now with
    | none =>
        rw [Option.getD_none]
        dsimp only
        rw [dif_pos hvalid]
        exact iff_of_true ⟨_, rfl⟩ ⟨by omega, fun _ h => absurd h (by simp)⟩
    | some now =>
        rw [Option.getD_some]
        cases now with
        | naive t => exact iff_of_false (by simp) fun h => h.2 t rfl
        | aware t =>
            dsimp only
            rw [dif_pos hvalid]
            exact iff_of_true ⟨_, rfl⟩ ⟨by omega, fun _ h => absurd h (by simp)⟩

end

end TeamProgress

end Waywarden
