import Waywarden.Lib.KeyedTable
import Waywarden.Lib.SeqLog
import Waywarden.Domain.Run
import Waywarden.Domain.RunEvent
import Waywarden.Domain.Approval
import Waywarden.Domain.Task

/-!
# The shared store

The database the repositories of `waywarden.infra.db` read and write, as seen through one
session: the `runs`, `run_events`, `approvals` and `tasks` tables, rows in insertion order.  A
method of a service is a `Session` computation on it; an exception leaves the writes made so far
in place, since no service rolls back.

A row of `run_events` is the event it stores: the JSON and text encodings of its columns are
taken to be lossless (`EventRows.append_refines`, `EventRows.list_refines`).
-/

namespace Waywarden

/-- The tables. -/
structure Store where
  runs : List RunRow
  runEvents : List RunEvent
  approvals : List Approval
  tasks : List Task

/-- The primary key of `runs`. -/
def RunRow.key (row : RunRow) : String := row.id.val

/-- The primary key of `approvals`. -/
def Approval.key (a : Approval) : String := a.id.val

/-- The primary key of `tasks`. -/
def Task.key (t : Task) : String := t.id.val

/-- The columns an `UPDATE` of a run's state writes. -/
def RunRow.setState (newState : RunState) (now : Timestamp) (terminalSeq : Option ℕ)
    (row : RunRow) : RunRow :=
  { row with state := newState, updatedAt := now, terminalSeq := terminalSeq }

/-- A coroutine of a service or a repository. -/
abbrev Session (α : Type) : Type := Effect Store PyError α

namespace Store

/-- The empty database. -/
def empty : Store := ⟨[], [], [], []⟩

/-- The `runs` row with a given id. -/
def run? (s : Store) (runId : String) : Option RunRow :=
  KeyedTable.get RunRow.key runId s.runs

/-- The approval with a given id. -/
def approval? (s : Store) (approvalId : String) : Option Approval :=
  KeyedTable.get Approval.key approvalId s.approvals

/-- The task with a given id. -/
def task? (s : Store) (taskId : String) : Option Task :=
  KeyedTable.get Task.key taskId s.tasks

/-- The events stored for a run, in the order they were appended. -/
def log (s : Store) (runId : String) : List RunEvent :=
  s.runEvents.filter fun e => e.runId = runId

/-- `SELECT COALESCE(MAX(seq), 0)` over the events of a run. -/
def latestSeq (s : Store) (runId : String) : ℕ :=
  SeqLog.maxSeq RunEvent.seq (s.log runId)

/-- Whether an event id is already a primary key of `run_events`. -/
def hasEvent (s : Store) (eventId : String) : Bool :=
  s.runEvents.any fun e => e.id = eventId

/-- Whether the run's row is in a terminal state: the condition the append guard tests. -/
def settled (s : Store) (runId : String) : Bool :=
  (s.run? runId).any fun row => row.state.isTerminal

/-- Whether the run's log holds a terminal event. -/
def ended (s : Store) (runId : String) : Bool :=
  (s.log runId).any fun e => e.type.isTerminal

/-- The event as `append` stores it: numbered one past the latest of its run. -/
def stamp (s : Store) (event : RunEvent) : RunEvent :=
  event.withSeq ⟨s.latestSeq event.runId + 1, Nat.le_add_left 1 _⟩

/-- The store with one more row in `run_events`. -/
def push (s : Store) (event : RunEvent) : Store :=
  { s with runEvents := s.runEvents ++ [event] }

/-- The store after an `UPDATE` of a run's state. -/
def setRunState (s : Store) (runId : String) (newState : RunState) (now : Timestamp)
    (terminalSeq : Option ℕ) : Store :=
  { s with
    runs := KeyedTable.update RunRow.key runId (RunRow.setState newState now terminalSeq) s.runs }

/-- The store with one more row in `runs`. -/
def addRun (s : Store) (row : RunRow) : Store := { s with runs := s.runs ++ [row] }

/-- The store after an approval was saved. -/
def putApproval (s : Store) (approval : Approval) : Store :=
  { s with approvals := KeyedTable.upsert Approval.key approval s.approvals }

/-- The store after a task was saved. -/
def putTask (s : Store) (task : Task) : Store :=
  { s with tasks := KeyedTable.upsert Task.key task s.tasks }

/-! ## What each write leaves readable -/

@[simp] lemma stamp_id (s : Store) (e : RunEvent) : (s.stamp e).id = e.id := rfl

@[simp] lemma stamp_runId (s : Store) (e : RunEvent) : (s.stamp e).runId = e.runId := rfl

@[simp] lemma stamp_type (s : Store) (e : RunEvent) : (s.stamp e).type = e.type := rfl

@[simp] lemma stamp_seq (s : Store) (e : RunEvent) :
    (s.stamp e).seq = s.latestSeq e.runId + 1 := rfl

section Push

variable (s : Store) (e : RunEvent)

@[simp] lemma runEvents_push : (s.push e).runEvents = s.runEvents ++ [e] := rfl

@[simp] lemma run?_push (runId : String) : (s.push e).run? runId = s.run? runId := rfl

@[simp] lemma approval?_push (id : String) : (s.push e).approval? id = s.approval? id := rfl

lemma log_push (runId : String) :
    (s.push e).log runId = if e.runId = runId then s.log runId ++ [e] else s.log runId := by
  rw [log, runEvents_push, List.filter_append]
  by_cases h : e.runId = runId
  · simp [h, log]
  · simp [h, log]

lemma log_push_ne {runId : String} (h : e.runId ≠ runId) :
    (s.push e).log runId = s.log runId := by
  rw [log_push, if_neg h]

lemma latestSeq_push_ne {runId : String} (h : e.runId ≠ runId) :
    (s.push e).latestSeq runId = s.latestSeq runId := by
  rw [latestSeq, log_push_ne s e h, latestSeq]

/-- A stored event never lowers the latest number. -/
lemma latestSeq_le_push (runId : String) : s.latestSeq runId ≤ (s.push e).latestSeq runId := by
  by_cases h : e.runId = runId
  · rw [latestSeq, latestSeq, log_push, if_pos h, SeqLog.maxSeq_append]
    exact le_max_left _ _
  · rw [latestSeq_push_ne s e h]

lemma stamp_push_ne {event : RunEvent} (h : e.runId ≠ event.runId) :
    (s.push e).stamp event = s.stamp event := by
  simp only [stamp, latestSeq_push_ne s e h]

lemma ended_push (runId : String) :
    (s.push e).ended runId =
      (s.ended runId || (decide (e.runId = runId) && e.type.isTerminal)) := by
  rw [ended, log_push]
  by_cases h : e.runId = runId
  · simp [h, ended]
  · simp [h, ended]

lemma hasEvent_push (eventId : String) :
    (s.push e).hasEvent eventId = (s.hasEvent eventId || decide (e.id = eventId)) := by
  simp [hasEvent]

end Push

section SetRunState

variable (s : Store) (runId : String) (newState : RunState) (now : Timestamp)
  (terminalSeq : Option ℕ)

@[simp] lemma log_setRunState (r : String) :
    (s.setRunState runId newState now terminalSeq).log r = s.log r := rfl

@[simp] lemma ended_setRunState (r : String) :
    (s.setRunState runId newState now terminalSeq).ended r = s.ended r := rfl

/-- Rewriting a run's state keeps its primary key. -/
lemma key_setState {newState : RunState} {now : Timestamp} {terminalSeq : Option ℕ}
    (row : RunRow) (h : row.key = runId) :
    (row.setState newState now terminalSeq).key = runId := h

lemma run?_setRunState_self :
    (s.setRunState runId newState now terminalSeq).run? runId =
      (s.run? runId).map (RunRow.setState newState now terminalSeq) :=
  KeyedTable.get_update_self (key_setState runId) s.runs

lemma run?_setRunState_ne {r : String} (h : r ≠ runId) :
    (s.setRunState runId newState now terminalSeq).run? r = s.run? r :=
  KeyedTable.get_update_ne (key_setState runId) h s.runs

end SetRunState

section AddRun

variable (s : Store) (row : RunRow)

@[simp] lemma log_addRun (r : String) : (s.addRun row).log r = s.log r := rfl

@[simp] lemma latestSeq_addRun (r : String) : (s.addRun row).latestSeq r = s.latestSeq r := rfl

lemma run?_addRun_self (h : s.run? row.id.val = none) :
    (s.addRun row).run? row.id.val = some row :=
  @KeyedTable.get_concat_self _ _ _ RunRow.key row s.runs h

lemma run?_addRun_ne {r : String} (h : r ≠ row.id.val) : (s.addRun row).run? r = s.run? r :=
  @KeyedTable.get_concat_ne _ _ _ RunRow.key r row h.symm s.runs

end AddRun

section PutApproval

variable (s : Store) (a : Approval)

@[simp] lemma settled_putApproval (r : String) : (s.putApproval a).settled r = s.settled r := rfl

@[simp] lemma hasEvent_putApproval (id : String) :
    (s.putApproval a).hasEvent id = s.hasEvent id := rfl

@[simp] lemma latestSeq_putApproval (r : String) :
    (s.putApproval a).latestSeq r = s.latestSeq r := rfl

@[simp] lemma approval?_putApproval_self :
    (s.putApproval a).approval? a.id.val = some a :=
  @KeyedTable.get_upsert_self _ _ _ Approval.key a s.approvals

lemma approval?_putApproval_ne {id : String} (h : id ≠ a.id.val) :
    (s.putApproval a).approval? id = s.approval? id :=
  @KeyedTable.get_upsert_ne _ _ _ Approval.key a id h s.approvals

end PutApproval

section PutTask

variable (s : Store) (t : Task)

@[simp] lemma task?_putTask_self : (s.putTask t).task? t.id.val = some t :=
  @KeyedTable.get_upsert_self _ _ _ Task.key t s.tasks

lemma task?_putTask_ne {id : String} (h : id ≠ t.id.val) :
    (s.putTask t).task? id = s.task? id :=
  @KeyedTable.get_upsert_ne _ _ _ Task.key t id h s.tasks

end PutTask

/-- Storing an event numbered by its run's log keeps a log contiguous. -/
lemma contiguous_push_stamp {s : Store} {runId : String}
    (h : SeqLog.Contiguous RunEvent.seq (s.log runId)) (e : RunEvent) :
    SeqLog.Contiguous RunEvent.seq ((s.push (s.stamp e)).log runId) := by
  rw [log_push, stamp_runId]
  split
  · rename_i hrun
    apply h.concat
    rw [← h.maxSeq_eq, stamp_seq, hrun, latestSeq]
  · exact h

/-- The latest number of a run is zero when nothing is stored for it. -/
lemma log_eq_nil_of_latestSeq {s : Store} {runId : String} (h : s.latestSeq runId = 0) :
    s.log runId = [] := by
  rw [List.eq_nil_iff_forall_not_mem]
  intro e he
  have hle : e.seq ≤ s.latestSeq runId := SeqLog.le_maxSeq he
  have hpos := e.seq_pos
  omega

/-- A row found under an id carries it. -/
lemma id_of_run? {s : Store} {runId : String} {row : RunRow} (h : s.run? runId = some row) :
    row.id.val = runId :=
  @KeyedTable.key_of_get _ _ _ RunRow.key _ _ _ h

lemma id_of_approval? {s : Store} {id : String} {a : Approval} (h : s.approval? id = some a) :
    a.id.val = id :=
  @KeyedTable.key_of_get _ _ _ Approval.key _ _ _ h

lemma id_of_task? {s : Store} {id : String} {t : Task} (h : s.task? id = some t) :
    t.id.val = id :=
  @KeyedTable.key_of_get _ _ _ Task.key _ _ _ h

lemma settled_iff {s : Store} {runId : String} :
    s.settled runId = true ↔ ∃ row, s.run? runId = some row ∧ row.state.isTerminal = true := by
  simp [settled, Option.any_eq_true]

end Store

end Waywarden
