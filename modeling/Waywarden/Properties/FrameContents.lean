import Mathlib.Data.List.Perm.Basic
import Waywarden.Api.EventFrames

/-!
# What a frame carries of its event

A client should find the whole envelope in the data of a frame.  The encoder copies every attribute
of an object with a `__dict__`; a `RunEvent` has slots, and the fallback lists five names.  So no
frame has the timestamp, the causation or the actor (`not_carriesEnvelope`).

The payload among the five is copied with its nested values, but for tuples: they become texts
(`convert_eq_valueJson`).
-/

namespace Waywarden.EventFrames

open Json

/-! ## The envelope -/

mutual

/-- A value as JSON has it, a tuple as an array. -/
def valueJson : Value → Json
  | .null => .null
  | .bool b => .bool b
  | .int i => .int i
  | .float x => .float x
  | .str s => .str s
  | .list xs | .tuple xs => .list (valueJsonItems xs)
  | .dict items => .dict (valueJsonMembers items)

/-- `valueJson` on the items of a list. -/
def valueJsonItems : List Value → List Json
  | [] => []
  | x :: xs => valueJson x :: valueJsonItems xs

/-- `valueJson` on the values of a mapping. -/
def valueJsonMembers : Mapping → List (String × Json)
  | [] => []
  | (k, v) :: items => (k, valueJson v) :: valueJsonMembers items

end

/-- A causation as an object. -/
def causationJson (c : Causation) : Json :=
  .dict [("event_id", ofOption .str c.eventId), ("action", ofOption .str c.action),
    ("request_id", ofOption .str c.requestId)]

/-- The kind as the source spells it. -/
def actorKindName : ActorKind → String
  | .operator => "operator"
  | .system => "system"
  | .scheduler => "scheduler"
  | .worker => "worker"
  | .policyEngine => "policy-engine"

/-- An actor as an object. -/
def actorJson (a : Actor) : Json :=
  .dict [("kind", .str (actorKindName a.kind)), ("id", ofOption .str a.id),
    ("display", ofOption .str a.display)]

/-- The eight fields of the envelope, with the timestamp in the form `isoformat` gives it. -/
def envelope (isoformat : Timestamp → String) (e : RunEvent) : List (String × Json) :=
  [("id", .str e.id), ("run_id", .str e.runId), ("seq", .int e.seq), ("type", .str e.type.name),
    ("payload", valueJson (.dict e.payload)), ("timestamp", .str (isoformat e.timestamp)),
    ("causation", ofOption causationJson e.causation), ("actor", ofOption actorJson e.actor)]

/-- The frame has the number of the event on its first field, and its data are an object with the
fields of the envelope, in any order. -/
def CarriesEnvelope (str : Value → String) (isoformat : Timestamp → String) (e : RunEvent) : Prop :=
  field "id: " (jsonSseFrame str e) = some (toString e.seq) ∧
    ∃ object, (field "data: " (jsonSseFrame str e)).bind loads = some (.dict object) ∧
      object.Perm (envelope isoformat e)

/-- **No frame carries the envelope of its event.** -/
theorem not_carriesEnvelope (str : Value → String) (isoformat : Timestamp → String)
    (e : RunEvent) : ¬ CarriesEnvelope str isoformat e := by
  rintro ⟨-, object, hdata, hperm⟩
  rw [field_data, Option.bind_some, loads_frameData] at hdata
  -- the frame has five fields, the envelope eight
  have hobject := Json.dict.inj (Option.some.inj hdata)
  have hlength : object.length = 8 := hperm.length_eq
  rw [← hobject] at hlength
  exact absurd hlength (by simp)

/-- The event of a run that has completed. -/
def completedEvent : RunEvent where
  id := "evt-run-1-completed"
  runId := "run-1"
  seq := 1
  type := .runCompleted
  payload := [("outcome", .str "ok")]
  timestamp := 0
  causation := some (.ofAction "engine")
  actor := some systemActor
  seq_pos := Nat.zero_lt_one
  payload_ok := rfl

/-- The frame of a completed run's event has no timestamp. -/
theorem not_carriesEnvelope_completed :
    ¬ CarriesEnvelope (fun _ => "()") (fun _ => "1970-01-01T00:00:00+00:00") completedEvent := by
  rintro ⟨-, object, hdata, hperm⟩
  rw [field_data, Option.bind_some, loads_frameData] at hdata
  have hobject := Json.dict.inj (Option.some.inj hdata)
  have htimestamp : "timestamp" ∈ object.map Prod.fst :=
    (hperm.map Prod.fst).symm.subset (by simp [envelope])
  rw [← hobject] at htimestamp
  exact absurd htimestamp (by decide)

/-! ## The payload -/

mutual

/-- No tuple occurs in the value. -/
def TupleFree : Value → Prop
  | .list xs => TupleFreeItems xs
  | .tuple _ => False
  | .dict items => TupleFreeMembers items
  | _ => True

/-- `TupleFree` on the items of a list. -/
def TupleFreeItems : List Value → Prop
  | [] => True
  | x :: xs => TupleFree x ∧ TupleFreeItems xs

/-- `TupleFree` on the values of a mapping. -/
def TupleFreeMembers : Mapping → Prop
  | [] => True
  | (_, v) :: items => TupleFree v ∧ TupleFreeMembers items

end

section

variable (str : Value → String)

mutual

/-- **The encoder keeps a value exactly when no tuple occurs in it.** -/
theorem convert_eq_valueJson (v : Value) : convert str v = valueJson v ↔ TupleFree v := by
  match v with
  | .null | .bool _ | .int _ | .float _ | .str _ => exact iff_of_true rfl trivial
  | .list xs =>
      rw [convert, valueJson, Json.list.injEq, TupleFree]
      exact convertItems_eq_valueJsonItems xs
  | .tuple xs => exact iff_of_false nofun id
  | .dict items =>
      rw [convert, valueJson, Json.dict.injEq, TupleFree]
      exact convertMembers_eq_valueJsonMembers items

theorem convertItems_eq_valueJsonItems (xs : List Value) :
    convertItems str xs = valueJsonItems xs ↔ TupleFreeItems xs := by
  match xs with
  | [] => exact iff_of_true rfl trivial
  | x :: xs =>
      rw [convertItems, valueJsonItems, List.cons.injEq, TupleFreeItems]
      exact and_congr (convert_eq_valueJson x) (convertItems_eq_valueJsonItems xs)

theorem convertMembers_eq_valueJsonMembers (items : Mapping) :
    convertMembers str items = valueJsonMembers items ↔ TupleFreeMembers items := by
  match items with
  | [] => exact iff_of_true rfl trivial
  | (k, v) :: items =>
      rw [convertMembers, valueJsonMembers, List.cons.injEq, TupleFreeMembers, Prod.mk.injEq]
      exact and_congr (and_iff_right rfl |>.trans (convert_eq_valueJson v))
        (convertMembers_eq_valueJsonMembers items)

end

end

end Waywarden.EventFrames
