import AppendLog.Renderer.Run

/-!
# The lines of an input

`Lines` says how bytes are split at newlines, one carriage return in front of each being dropped,
and `splitLines` does it: `lines_iff`. An input that ends with a newline, or is empty, has its own
lines whatever follows it: `splitLines_append`.
-/

namespace AppendLog.Renderer

/-! ## Splitting at newlines -/

/-- A line less one carriage return at its end. -/
def dropReturn (line : List UInt8) : List UInt8 :=
  if line.getLast? = some carriageReturn then line.dropLast else line

/-- Bytes with their lines. -/
inductive Lines : List UInt8 → List (List UInt8) → Prop where
  | empty : Lines [] []
  /-- What follows the last newline is a line as it stands, if it is anything. -/
  | last {line : List UInt8} (hsome : line ≠ []) (h : newline ∉ line) : Lines line [line]
  | ended {line rest : List UInt8} {lines : List (List UInt8)} (h : newline ∉ line)
      (hrest : Lines rest lines) : Lines (line ++ newline :: rest) (dropReturn line :: lines)

variable {line bytes rest : List UInt8} {lines lines' : List (List UInt8)}

theorem endLine_eq (current : List UInt8) : endLine current = dropReturn current.reverse := by
  cases current with
  | nil => rfl
  | cons byte bytes =>
    rw [endLine, dropReturn, List.getLast?_reverse, List.dropLast_reverse]
    simp

/-- The bytes of a first line that were taken already stand in front of the others. -/
theorem lines_splitFrom {current : List UInt8} (h : newline ∉ current) (bytes : List UInt8) :
    Lines (current.reverse ++ bytes) (splitFrom current bytes) := by
  induction bytes generalizing current with
  | nil =>
    rw [splitFrom, List.append_nil]
    split
    · next hempty =>
      subst hempty
      exact .empty
    · next hsome => exact .last (by simpa using hsome) (by simpa using h)
  | cons byte bytes ih =>
    rw [splitFrom]
    split
    · next hend =>
      subst hend
      rw [endLine_eq]
      exact .ended (by simpa using h) (ih List.not_mem_nil)
    · next hmore =>
      have hnext : newline ∉ byte :: current := by
        intro hmem
        rcases List.mem_cons.1 hmem with heq | hmem
        · exact hmore heq.symm
        · exact h hmem
      simpa using ih hnext

theorem lines_splitLines (bytes : List UInt8) : Lines bytes (splitLines bytes) :=
  lines_splitFrom List.not_mem_nil bytes

theorem splitFrom_of_notMem (h : newline ∉ line) (current rest : List UInt8) :
    splitFrom current (line ++ newline :: rest) =
      dropReturn (current.reverse ++ line) :: splitLines rest := by
  induction line generalizing current with
  | nil => rw [List.nil_append, splitFrom, if_pos rfl, endLine_eq, List.append_nil, splitLines]
  | cons byte line ih =>
    have hbyte : byte ≠ newline := by
      rintro rfl
      exact h List.mem_cons_self
    have hline : newline ∉ line := fun hmem => h (List.mem_cons_of_mem byte hmem)
    rw [List.cons_append, splitFrom, if_neg hbyte, ih hline]
    simp

theorem splitFrom_last (h : newline ∉ line) (current : List UInt8) :
    splitFrom current line =
      if current.reverse ++ line = [] then [] else [current.reverse ++ line] := by
  induction line generalizing current with
  | nil => simp [splitFrom]
  | cons byte line ih =>
    have hbyte : byte ≠ newline := by
      rintro rfl
      exact h List.mem_cons_self
    have hline : newline ∉ line := fun hmem => h (List.mem_cons_of_mem byte hmem)
    rw [splitFrom, if_neg hbyte, ih hline]
    simp

/-- Bytes have one list of lines, the one that they are split into. -/
theorem lines_iff : Lines bytes lines ↔ splitLines bytes = lines := by
  constructor
  · intro h
    induction h with
    | empty => rfl
    | last hsome h =>
      rw [splitLines, splitFrom_last h, if_neg (by simpa using hsome)]
      rfl
    | ended h _ ih =>
      rw [splitLines, splitFrom_of_notMem h, ih]
      rfl
  · rintro rfl
    exact lines_splitLines bytes

/-! ## One input after another -/

/-- An input does not stop within a line. -/
def Complete (bytes : List UInt8) : Prop := ∀ byte, bytes.getLast? = some byte → byte = newline

theorem Lines.append (h : Lines bytes lines) (hcomplete : Complete bytes)
    (hrest : Lines rest lines') : Lines (bytes ++ rest) (lines ++ lines') := by
  induction h with
  | empty => exact hrest
  | @last line hsome h =>
    -- The last byte of such an input is no newline.
    have hlast := List.getLast?_eq_some_getLast hsome
    have hmem := List.getLast_mem hsome
    rw [hcomplete _ hlast] at hmem
    exact absurd hmem h
  | @ended line after lines h _ ih =>
    have hafter : Complete after := by
      intro byte hbyte
      apply hcomplete
      rw [List.getLast?_append, List.getLast?_cons, hbyte]
      rfl
    rw [List.append_assoc, List.cons_append]
    exact .ended h (ih hafter)

theorem splitLines_append (hcomplete : Complete bytes) (rest : List UInt8) :
    splitLines (bytes ++ rest) = splitLines bytes ++ splitLines rest :=
  lines_iff.1 ((lines_splitLines bytes).append hcomplete (lines_splitLines rest))

end AppendLog.Renderer
