import Mathlib.Data.Fintype.Basic
import Waywarden.Lib.Machine
import Waywarden.Infra.RunEventRepository

/-!
# Concurrent appends

Transactions that each make one `append`, interleaved step by step: read the run's state, read the
next sequence number over the committed rows and the transaction's own, insert under the two
constraints, commit or roll back.  An insert that collides with a committed row aborts its
transaction; one that collides with an uncommitted row waits.

The next number is read with or without the `FOR UPDATE` lock.  A locking read waits for the
locks others hold on the run's committed rows; on an empty log there is none to wait for.  A read
that waited and then returned what it had seen before is a plain read made earlier.
-/

namespace Waywarden.ConcurrentAppend

open Machine

/-- Where a transaction stands in its `append`.  The rows it holds locked go with the number it
read; once the row is inserted, `append` has returned it. -/
inductive Phase
  | started
  | guarded
  | numbered (nextSeq : {n : ℕ // 1 ≤ n}) (locks : List String)
  | inserted (row : RunEvent) (locks : List String)
  | committed (row : RunEvent)
  | aborted

/-- The transaction has not ended. -/
def Phase.live : Phase → Bool
  | .committed _ | .aborted => false
  | _ => true

/-- The ids of the rows a transaction holds locked. -/
def Phase.locks : Phase → List String
  | .numbered _ locks | .inserted _ locks => locks
  | _ => []

/-- The uncommitted row of a transaction. -/
def Phase.pending : Phase → Option RunEvent
  | .inserted row _ => some row
  | _ => none

/-- The committed tables, each event with the transaction that wrote it (none for the events that
were there before), and where every transaction stands. -/
structure Database (Tid : Type) where
  runs : List RunRow
  rows : List (Option Tid × RunEvent)
  phase : Tid → Phase

/-- The two queries of `_compute_next_seq`. -/
inductive NextSeqQuery
  | forUpdate
  | fallback
  deriving DecidableEq

/-- One step of one transaction, or a write of the `runs` table by somebody else. -/
inductive Action (Tid : Type)
  | readState (t : Tid)
  | readSeq (t : Tid) (query : NextSeqQuery)
  | insert (t : Tid)
  | commit (t : Tid)
  | rollBack (t : Tid)
  | writeRuns (rows : List RunRow)

/-- Two rows violate a constraint together: the primary key, or `UNIQUE(run_id, seq)`. -/
def collides (a b : RunEvent) : Bool :=
  a.id == b.id || (a.runId == b.runId && a.seq == b.seq)

variable {Tid : Type}

namespace Database

/-- The committed tables as a store. -/
def store (db : Database Tid) : Store :=
  { Store.empty with runs := db.runs, runEvents := db.rows.map Prod.snd }

/-- What a transaction sees: the committed rows and its own. -/
def visible (db : Database Tid) (t : Tid) : Store :=
  { db.store with runEvents := db.store.runEvents ++ (db.phase t).pending.toList }

/-- Before its insert a transaction sees what is committed. -/
lemma visible_of_pending {db : Database Tid} {t : Tid} (h : (db.phase t).pending = none) :
    db.visible t = db.store := by
  rw [visible, h]
  exact congrArg (fun events => { db.store with runEvents := events }) (List.append_nil _)

/-- A store no transaction has touched yet. -/
def start (s : Store) : Database Tid where
  runs := s.runs
  rows := s.runEvents.map fun e => (none, e)
  phase := fun _ => .started

section

variable [DecidableEq Tid]

/-- Move a transaction on. -/
def goTo (db : Database Tid) (t : Tid) (p : Phase) : Database Tid :=
  { db with phase := Function.update db.phase t p }

/-- Commit a transaction's row. -/
def commitRow (db : Database Tid) (t : Tid) (row : RunEvent) : Database Tid :=
  { db.goTo t (.committed row) with rows := db.rows ++ [(some t, row)] }

variable (db : Database Tid) (t : Tid)

@[simp] lemma phase_goTo_self (p : Phase) : (db.goTo t p).phase t = p := by
  simp [goTo]

lemma phase_goTo_ne {u : Tid} (h : u ≠ t) (p : Phase) : (db.goTo t p).phase u = db.phase u := by
  simp [goTo, h]

/-- A commit pushes the row on the committed store. -/
@[simp] lemma store_commitRow (row : RunEvent) :
    (db.commitRow t row).store = db.store.push row := by
  simp [store, commitRow, goTo, Store.push]

@[simp] lemma phase_commitRow_self (row : RunEvent) :
    (db.commitRow t row).phase t = .committed row :=
  db.phase_goTo_self t (.committed row)

lemma phase_commitRow_ne {u : Tid} (h : u ≠ t) (row : RunEvent) :
    (db.commitRow t row).phase u = db.phase u :=
  db.phase_goTo_ne t h (.committed row)

end

end Database

variable [DecidableEq Tid] [Fintype Tid]

/-- Another transaction holds one of the rows locked. -/
def lockedByOther (db : Database Tid) (t : Tid) (ids : List String) : Bool :=
  decide (∃ u, u ≠ t ∧ ∃ id ∈ (db.phase u).locks, id ∈ ids)

/-- Another transaction has inserted a colliding row and not ended. -/
def collidesWithOther (db : Database Tid) (t : Tid) (row : RunEvent) : Bool :=
  decide (∃ u, u ≠ t ∧ ((db.phase u).pending.any fun other => collides row other) = true)

/-- One step, where `event t` is the event transaction `t` appends; `none` when the transaction
is not at that step, or waits. -/
def perform (event : Tid → RunEvent) (db : Database Tid) : Action Tid → Option (Database Tid)
  | .readState t =>
      match db.phase t with
      | .started =>
          if db.store.settled (event t).runId then some (db.goTo t .aborted)
          else some (db.goTo t .guarded)
      | _ => none
  | .readSeq t query =>
      match db.phase t with
      | .guarded =>
          let ids := (db.store.log (event t).runId).map RunEvent.id
          let nextSeq : {n : ℕ // 1 ≤ n} :=
            ⟨(db.visible t).latestSeq (event t).runId + 1, Nat.le_add_left 1 _⟩
          match query with
          | .forUpdate =>
              if lockedByOther db t ids then none else some (db.goTo t (.numbered nextSeq ids))
          | .fallback => some (db.goTo t (.numbered nextSeq []))
      | _ => none
  | .insert t =>
      match db.phase t with
      | .numbered nextSeq locks =>
          let row := (event t).withSeq nextSeq
          if db.store.runEvents.any fun other => collides row other then
            some (db.goTo t .aborted)
          else if collidesWithOther db t row then none
          else some (db.goTo t (.inserted row locks))
      | _ => none
  | .commit t =>
      match db.phase t with
      | .inserted row _ => some (db.commitRow t row)
      | _ => none
  | .rollBack t => if (db.phase t).live then some (db.goTo t .aborted) else none
  | .writeRuns rows => some { db with runs := rows }

/-- The database under concurrent appends; the reply says whether the step was possible. -/
def appendMachine (event : Tid → RunEvent) : Machine (Database Tid) (Action Tid) Bool :=
  ⟨fun db a =>
    match perform event db a with
    | some db' => (true, db')
    | none => (false, db)⟩

/-! ## What a step does -/

/-- What one step may do to the database. -/
inductive Step (event : Tid → RunEvent) (db : Database Tid) : Database Tid → Prop
  | wait : Step event db db
  | writeRuns (rows : List RunRow) : Step event db { db with runs := rows }
  | guard (t : Tid) (at_start : db.phase t = .started)
      (isOpen : db.store.settled (event t).runId = false) : Step event db (db.goTo t .guarded)
  | number (t : Tid) (nextSeq : {n : ℕ // 1 ≤ n}) (locks : List String)
      (guarded : db.phase t = .guarded)
      (latest : nextSeq.val = (db.visible t).latestSeq (event t).runId + 1) :
      Step event db (db.goTo t (.numbered nextSeq locks))
  | insert (t : Tid) (nextSeq : {n : ℕ // 1 ≤ n}) (locks : List String)
      (numbered : db.phase t = .numbered nextSeq locks)
      (committed : ∀ other ∈ db.store.runEvents,
        collides ((event t).withSeq nextSeq) other = false)
      (pending : ∀ u other, u ≠ t → (db.phase u).pending = some other →
        collides ((event t).withSeq nextSeq) other = false) :
      Step event db (db.goTo t (.inserted ((event t).withSeq nextSeq) locks))
  | commit (t : Tid) (row : RunEvent) (locks : List String)
      (inserted : db.phase t = .inserted row locks) : Step event db (db.commitRow t row)
  | abort (t : Tid) (live : (db.phase t).live = true) : Step event db (db.goTo t .aborted)

lemma not_collides_of_collidesWithOther {db : Database Tid} {t : Tid} {row : RunEvent}
    (h : collidesWithOther db t row = false) (u : Tid) (other : RunEvent) (hu : u ≠ t)
    (hother : (db.phase u).pending = some other) : collides row other = false := by
  rw [Bool.eq_false_iff]
  intro hcollides
  refine of_decide_eq_false h ⟨u, hu, ?_⟩
  rw [hother, Option.any_some, hcollides]

/-- The ways in which the actions are possible. -/
inductive Performed (event : Tid → RunEvent) (db : Database Tid) :
    Action Tid → Database Tid → Prop
  | guard (t : Tid) (at_start : db.phase t = .started)
      (isOpen : db.store.settled (event t).runId = false) :
      Performed event db (.readState t) (db.goTo t .guarded)
  | refuse (t : Tid) (at_start : db.phase t = .started) :
      Performed event db (.readState t) (db.goTo t .aborted)
  | number (t : Tid) (query : NextSeqQuery) (nextSeq : {n : ℕ // 1 ≤ n}) (locks : List String)
      (guarded : db.phase t = .guarded)
      (latest : nextSeq.val = (db.visible t).latestSeq (event t).runId + 1) :
      Performed event db (.readSeq t query) (db.goTo t (.numbered nextSeq locks))
  | insert (t : Tid) (nextSeq : {n : ℕ // 1 ≤ n}) (locks : List String)
      (numbered : db.phase t = .numbered nextSeq locks)
      (committed : ∀ other ∈ db.store.runEvents,
        collides ((event t).withSeq nextSeq) other = false)
      (pending : ∀ u other, u ≠ t → (db.phase u).pending = some other →
        collides ((event t).withSeq nextSeq) other = false) :
      Performed event db (.insert t) (db.goTo t (.inserted ((event t).withSeq nextSeq) locks))
  | clash (t : Tid) (nextSeq : {n : ℕ // 1 ≤ n}) (locks : List String)
      (numbered : db.phase t = .numbered nextSeq locks) :
      Performed event db (.insert t) (db.goTo t .aborted)
  | commit (t : Tid) (row : RunEvent) (locks : List String)
      (inserted : db.phase t = .inserted row locks) :
      Performed event db (.commit t) (db.commitRow t row)
  | rollBack (t : Tid) (live : (db.phase t).live = true) :
      Performed event db (.rollBack t) (db.goTo t .aborted)
  | writeRuns (rows : List RunRow) :
      Performed event db (.writeRuns rows) { db with runs := rows }

/-- **An action that was possible** was so in one of these ways. -/
lemma performed_of_perform {event : Tid → RunEvent} {db db' : Database Tid} {a : Action Tid}
    (h : perform event db a = some db') : Performed event db a db' := by
  cases a with
  | readState t =>
      rw [perform] at h
      split at h
      · rename_i hphase
        split at h
        · obtain rfl := Option.some.inj h
          exact .refuse t hphase
        · rename_i hopen
          obtain rfl := Option.some.inj h
          exact .guard t hphase (Bool.eq_false_iff.mpr hopen)
      · cases h
  | readSeq t query =>
      rw [perform] at h
      split at h
      · rename_i hphase
        cases query with
        | forUpdate =>
            simp only at h
            split at h
            · cases h
            · obtain rfl := Option.some.inj h
              exact .number t _ _ _ hphase rfl
        | fallback =>
            obtain rfl := Option.some.inj h
            exact .number t _ _ _ hphase rfl
      · cases h
  | insert t =>
      rw [perform] at h
      split at h
      · rename_i nextSeq locks hphase
        simp only at h
        split at h
        · obtain rfl := Option.some.inj h
          exact .clash t nextSeq locks hphase
        · rename_i hcommitted
          split at h
          · cases h
          · rename_i hpending
            obtain rfl := Option.some.inj h
            refine .insert t nextSeq locks hphase (fun other hother => ?_)
              (not_collides_of_collidesWithOther (Bool.eq_false_iff.mpr hpending))
            rw [Bool.eq_false_iff]
            exact fun hcollides => hcommitted (List.any_eq_true.mpr ⟨other, hother, hcollides⟩)
      · cases h
  | commit t =>
      rw [perform] at h
      split at h
      · rename_i row locks hphase
        obtain rfl := Option.some.inj h
        exact .commit t row locks hphase
      · cases h
  | rollBack t =>
      rw [perform] at h
      split at h
      · rename_i hlive
        obtain rfl := Option.some.inj h
        exact .rollBack t hlive
      · cases h
  | writeRuns rows =>
      obtain rfl := Option.some.inj h
      exact .writeRuns rows

/-- A step that was possible is one of these. -/
lemma step_of_perform {event : Tid → RunEvent} {db db' : Database Tid} {a : Action Tid}
    (h : perform event db a = some db') : Step event db db' := by
  cases performed_of_perform h with
  | guard t at_start isOpen => exact .guard t at_start isOpen
  | refuse t at_start => exact .abort t (by rw [at_start]; rfl)
  | number t query nextSeq locks guarded latest => exact .number t nextSeq locks guarded latest
  | insert t nextSeq locks numbered committed pending =>
      exact .insert t nextSeq locks numbered committed pending
  | clash t nextSeq locks numbered => exact .abort t (by rw [numbered]; rfl)
  | commit t row locks inserted => exact .commit t row locks inserted
  | rollBack t live => exact .abort t live
  | writeRuns rows => exact .writeRuns rows

/-- **Every step** of the machine is one of these. -/
theorem step_next (event : Tid → RunEvent) (db : Database Tid) (a : Action Tid) :
    Step event db ((appendMachine event).next db a) := by
  have hnext : (appendMachine event).next db a = (perform event db a).getD db := by
    show (match perform event db a with
      | some db' => (true, db')
      | none => (false, db)).2 = _
    cases perform event db a with
    | none => rfl
    | some db' => rfl
  rw [hnext]
  cases h : perform event db a with
  | none => exact .wait
  | some db' => exact step_of_perform h

end Waywarden.ConcurrentAppend
