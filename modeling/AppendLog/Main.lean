import AppendLog.Renderer.Run

/-!
# The renderer as a program

Reads instructions from standard input, one a line, and writes an answer for each as it comes.
-/

namespace AppendLog.Main

open Renderer

/-- Read up to the end of a line; the line as it would be split off, or nothing at the end of the
input. The bytes so far are in reverse. -/
partial def nextLine (input : IO.FS.Stream) (current : List UInt8) : IO (Option (List UInt8)) := do
  let bytes ← input.read 1
  match bytes.data.toList with
  | [] => return if current = [] then none else some current.reverse
  | byte :: _ =>
    if byte = newline then return some (endLine current) else nextLine input (byte :: current)

/-- Answer line after line until the run is over. -/
partial def serve (input output : IO.FS.Stream) : IO UInt32 := do
  match ← nextLine input [] with
  | none => return 0
  | some line =>
    match respond line with
    | .nothing => serve input output
    | .failure =>
      (← IO.getStderr).putStrLn "Error: the input is not valid UTF-8"
      return 1
    | .answer answer =>
      output.putStrLn answer.line
      output.flush
      if answer = .stopping then return 0 else serve input output

end AppendLog.Main

/-- Run the renderer over standard input. -/
def main : IO UInt32 := do
  AppendLog.Main.serve (← IO.getStdin) (← IO.getStdout)
