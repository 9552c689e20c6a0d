import AppendLog.Command

/-!
# Requests

A request is a command with its arguments, each a token of bytes. What is sent is the words of the
command followed by the arguments.
-/

namespace AppendLog

/-- A piece of a request or a reply: any bytes. -/
abbrev Token := ByteArray

/-- A command with its arguments. -/
structure Request where
  command : Command
  arguments : List Token

instance : DecidableEq Request := fun a b =>
  have : DecidableEq Token := ByteArray.instDecidableEq
  decidable_of_iff (a.command = b.command ∧ a.arguments = b.arguments) (by cases a; cases b; simp)

namespace Request

def ofTexts (command : Command) (arguments : List String) : Request :=
  ⟨command, arguments.map String.toUTF8⟩

/-- Everything that is sent, in order. -/
def tokens (request : Request) : List Token :=
  request.command.words.map String.toUTF8 ++ request.arguments

/-- The key of the stream that a request is about, when there is exactly one. -/
def key? (request : Request) : Option String :=
  match request.command with
  | .read | .readAsConsumer => none
  | _ => request.arguments.head?.bind String.fromUTF8?

end Request

end AppendLog
