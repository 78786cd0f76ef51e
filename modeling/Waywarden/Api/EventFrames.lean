import Waywarden.Domain.RunEvent
import Waywarden.Lib.JsonText
import Waywarden.Lib.Lines

/-!
# Server-sent event frames

`waywarden.api.streaming.sse`: the frame an event is sent in.  `_json_sse_frame` asks an object for
`model_dump`, for a `__dict__`, and whether it is a dictionary; a `RunEvent` is a dataclass with
slots and has none of these, so five of its attributes are read by name.

What is sent is a string rather than its bytes, since every character of it is ASCII.  The function
`str` is Python's, on the values JSON has no form for.
-/

namespace Waywarden.EventFrames

open Json Lines

variable (str : Value → String)

mutual

/-- `_convert`. -/
def convert : Value → Json
  | .null => .null
  | .bool b => .bool b
  | .int i => .int i
  | .float x => .float x
  | .str s => .str s
  | .list xs => .list (convertItems xs)
  | .dict items => .dict (convertMembers items)
  -- a tuple is none of the types the function knows
  | .tuple xs => .str (str (.tuple xs))

/-- `_convert` on the items of a list. -/
def convertItems : List Value → List Json
  | [] => []
  | x :: xs => convert x :: convertItems xs

/-- `_convert` on the values of a mapping. -/
def convertMembers : Mapping → List (String × Json)
  | [] => []
  | (k, v) :: items => (k, convert v) :: convertMembers items

end

/-- `_convert(data)`. -/
def frameData (e : RunEvent) : Json :=
  .dict [("seq", .int e.seq), ("type", .str e.type.name),
    ("payload", .dict (convertMembers str e.payload)), ("id", .str e.id), ("run_id", .str e.runId)]

/-- `_json_sse_frame`. -/
def jsonSseFrame (e : RunEvent) : String :=
  "id: " ++ toString e.seq ++ "\ndata: " ++ dumps false (frameData str e) ++ "\n\n\n"

/-- The concatenation of the frames of a list of events. -/
def frames (events : List RunEvent) : String := String.join (events.map (jsonSseFrame str))

/-! ## The lines of a frame -/

/-- The line with the number. -/
def idLine (e : RunEvent) : List Char := "id: ".toList ++ (toString e.seq).toList

/-- The line with the data. -/
def dataLine (e : RunEvent) : List Char := "data: ".toList ++ (dumps false (frameData str e)).toList

lemma isBreak_of_isPrintable {c : Char} (h : IsPrintable c) : isBreak c = false := by
  unfold IsPrintable at h
  unfold isBreak
  simp only [List.contains_cons, List.contains_nil, Bool.or_false, Bool.or_eq_false_iff,
    beq_eq_false_iff_ne, ne_eq]
  omega

lemma isBreak_idLine (e : RunEvent) : ∀ c ∈ idLine e, isBreak c = false := by
  intro c hc
  refine isBreak_of_isPrintable (Printable.append (by decide) ?_ c hc)
  have hdigits : (toString e.seq).toList = Nat.toDigits 10 e.seq := Nat.toList_repr
  rw [hdigits]
  exact printable_toDigits e.seq

lemma isBreak_dataLine (e : RunEvent) : ∀ c ∈ dataLine str e, isBreak c = false := by
  intro c hc
  refine isBreak_of_isPrintable (Printable.append (by decide) ?_ c hc)
  rw [dumps, String.toList_ofList]
  exact printable_encode false _

/-- The characters of a text laid out like a frame. -/
lemma toList_layout {tag seq sep tag' data tail : String} (hsep : sep.toList = '\n' :: tag'.toList)
    (htail : tail.toList = '\n' :: '\n' :: ['\n']) :
    (tag ++ seq ++ sep ++ data ++ tail).toList =
      (tag.toList ++ seq.toList) ++
        '\n' :: ((tag'.toList ++ data.toList) ++ '\n' :: '\n' :: ['\n']) := by
  simp only [String.toList_append, hsep, htail, List.append_assoc, List.cons_append]

lemma toList_jsonSseFrame (e : RunEvent) :
    (jsonSseFrame str e).toList =
      idLine e ++ '\n' :: (dataLine str e ++ '\n' :: '\n' :: ['\n']) :=
  toList_layout (by decide) (by decide)

/-- **A frame is four lines**: the number, the data and two blank ones. -/
theorem splitLines_frame (e : RunEvent) (rest : List Char) :
    splitLines ((jsonSseFrame str e).toList ++ rest) =
      idLine e :: dataLine str e :: [] :: [] :: splitLines rest := by
  have hblank : ∀ cs, splitLines ('\n' :: cs) = [] :: splitLines cs :=
    @splitLines_line [] nofun
  have hlines : (jsonSseFrame str e).toList ++ rest =
      idLine e ++ '\n' :: (dataLine str e ++ '\n' :: '\n' :: '\n' :: rest) := by
    simp only [toList_jsonSseFrame, List.append_assoc, List.cons_append, List.nil_append]
  rw [hlines, splitLines_line (isBreak_idLine e), splitLines_line (isBreak_dataLine str e), hblank,
    hblank]

/-! ## Reading a frame -/

/-- The value of a field of a frame: what follows the tag on the first line that starts with it. -/
def field (tag : String) (frame : String) : Option String :=
  ((splitLines frame.toList).findSome? fun line => line.dropPrefix? tag.toList).map String.ofList

lemma dropPrefix?_dataLine (e : RunEvent) :
    (dataLine str e).dropPrefix? "data: ".toList = some (dumps false (frameData str e)).toList :=
  List.dropPrefix?_append_of_beq _ (beq_self_eq_true _)

lemma dropPrefix?_idLine (e : RunEvent) : (idLine e).dropPrefix? "data: ".toList = none := by
  rfl

/-- The data of a frame. -/
lemma field_data (e : RunEvent) :
    field "data: " (jsonSseFrame str e) = some (dumps false (frameData str e)) := by
  have hlines := splitLines_frame str e []
  rw [List.append_nil] at hlines
  rw [field, hlines, List.findSome?_cons, dropPrefix?_idLine, List.findSome?_cons,
    dropPrefix?_dataLine, Option.map_some, String.ofList_toList]

/-- What JSON reads from the data: the five attributes, with the repeated keys of the payload
collapsed. -/
lemma loads_frameData (e : RunEvent) : loads (dumps false (frameData str e)) =
    some (.dict [("seq", .int e.seq), ("type", .str e.type.name),
      ("payload", asDicts (.dict (convertMembers str e.payload))), ("id", .str e.id),
      ("run_id", .str e.runId)]) := by
  rw [loads, parse_dumps, Option.map_some, frameData, asDicts]
  simp only [asDictsMembers]
  rw [collapse_of_nodup]
  · rfl
  · simp only [List.map_cons, List.map_nil]
    decide

end Waywarden.EventFrames
