import Mathlib.Tactic.Common

/-!
# Lines of a text

`splitLines` cuts a text at its line boundaries: every character Unicode gives that meaning to ends
a line, a carriage return together with a line feed after it ends one line, and the text after the
last boundary is a line only when it is not empty.

A line that has no boundary in it and is ended by a line feed is read back as it was written
(`splitLines_line`), so a text that writes only such lines is read back line by line.
-/

namespace Lines

/-- The characters that end a line. -/
def isBreak (c : Char) : Bool :=
  [0x0a, 0x0b, 0x0c, 0x0d, 0x1c, 0x1d, 0x1e, 0x85, 0x2028, 0x2029].contains c.toNat

/-- The lines of a text that goes on from the characters `line` of the current one, last first. -/
def splitFrom (line : List Char) : List Char → List (List Char)
  | [] => if line.isEmpty then [] else [line.reverse]
  | '\r' :: '\n' :: rest => line.reverse :: splitFrom [] rest
  | c :: rest =>
      if isBreak c then line.reverse :: splitFrom [] rest else splitFrom (c :: line) rest

/-- The lines of a text. -/
def splitLines (text : List Char) : List (List Char) := splitFrom [] text

@[simp] lemma splitLines_nil : splitLines [] = [] := rfl

/-- A character that is no boundary belongs to the current line. -/
lemma splitFrom_cons {c : Char} (hc : isBreak c = false) (line rest : List Char) :
    splitFrom line (c :: rest) = splitFrom (c :: line) rest := by
  rw [splitFrom]
  · rw [hc, if_neg (by simp)]
  · rintro tail rfl
    exact absurd hc (by decide)

/-- A text without a boundary in front of a text is the beginning of its first line. -/
lemma splitFrom_append {text : List Char} (h : ∀ c ∈ text, isBreak c = false)
    (line rest : List Char) :
    splitFrom line (text ++ rest) = splitFrom (text.reverse ++ line) rest := by
  induction text generalizing line with
  | nil => rfl
  | cons c text ih =>
      have hc : isBreak c = false := h c List.mem_cons_self
      have htext : ∀ d ∈ text, isBreak d = false := fun d hd => h d (List.mem_cons_of_mem c hd)
      rw [List.cons_append, splitFrom_cons hc, ih htext, List.reverse_cons, List.append_assoc,
        List.singleton_append]

/-- **A line is read back.** -/
theorem splitLines_line {line : List Char} (h : ∀ c ∈ line, isBreak c = false) (rest : List Char) :
    splitLines (line ++ '\n' :: rest) = line :: splitLines rest := by
  have hfeed : isBreak '\n' = true := by decide
  rw [splitLines, splitFrom_append h, splitFrom, hfeed, if_pos rfl, List.append_nil,
    List.reverse_reverse]
  · rfl
  · rintro tail heq
    exact absurd heq (by decide)

end Lines
