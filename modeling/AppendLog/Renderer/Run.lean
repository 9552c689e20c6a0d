import AppendLog.Renderer.Answer
import AppendLog.Text.Blank

/-!
# Runs

The renderer goes through its input line by line and answers each line by itself. It stops after an
answer that says so, and fails at a line that is not UTF-8.

`Renderer.run` is a whole run over the bytes of the input; `Renderer.respond` is its step.
-/

namespace AppendLog.Renderer

/-! ## Lines -/

def newline : UInt8 := 10

/-- The byte that is dropped in front of the end of a line. -/
def carriageReturn : UInt8 := 13

/-- A line that was ended, given in reverse: one carriage return at its end is dropped. -/
def endLine : List UInt8 → List UInt8
  | [] => []
  | byte :: bytes => if byte = carriageReturn then bytes.reverse else (byte :: bytes).reverse

/-- The lines of bytes of which `current`, in reverse, is the beginning of the first. What follows
the last end of a line is a line too, unless it is empty. -/
def splitFrom (current : List UInt8) : List UInt8 → List (List UInt8)
  | [] => if current = [] then [] else [current.reverse]
  | byte :: bytes =>
    if byte = newline then endLine current :: splitFrom [] bytes
    else splitFrom (byte :: current) bytes

def splitLines (bytes : List UInt8) : List (List UInt8) := splitFrom [] bytes

/-! ## Steps -/

inductive Response where
  /-- A blank line leads to nothing. -/
  | nothing
  | answer (answer : Answer)
  /-- A line that is no text ends the run. -/
  | failure
  deriving DecidableEq

def respond (line : List UInt8) : Response :=
  match String.fromUTF8? ⟨line.toArray⟩ with
  | none => .failure
  | some text => if Text.isBlank text then .nothing else .answer (answerLine text)

/-! ## Runs -/

/-- The outcome of a run: its answers in order, and whether it failed at the end. -/
structure Run where
  answers : List Answer
  failed : Bool
  deriving DecidableEq

namespace Run

/-- The exit code of the program. -/
def exitCode (run : Run) : Nat := if run.failed then 1 else 0

end Run

def runLines : List (List UInt8) → Run
  | [] => ⟨[], false⟩
  | line :: lines =>
    match respond line with
    | .nothing => runLines lines
    | .failure => ⟨[], true⟩
    | .answer .stopping => ⟨[.stopping], false⟩
    | .answer answer =>
      let rest := runLines lines
      ⟨answer :: rest.answers, rest.failed⟩

def run (bytes : List UInt8) : Run := runLines (splitLines bytes)

end AppendLog.Renderer
