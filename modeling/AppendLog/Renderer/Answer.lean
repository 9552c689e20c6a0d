import AppendLog.Json.Printer
import AppendLog.Json.Reader
import AppendLog.Json.Values
import AppendLog.Renderer.Instruction

/-!
# Answers

What the renderer answers to an instruction, and the JSON form of it. The tokens of a request are
given as texts when every one of them is a text, and in base64 otherwise.
-/

namespace AppendLog.Renderer

/-- The version that the renderer reports. -/
def version : String := "0.1.0"

inductive Answer where
  | ready
  | rendered (request : Request)
  | identified (id : EntryId)
  /-- The renderer stops after this. -/
  | stopping
  /-- What was asked for cannot be given; `subject` repeats what that was. -/
  | refused (subject code message : String)
  deriving DecidableEq

namespace Answer

def ofFault (subject : String) (fault : Fault) : Answer := refused subject fault.code fault.message

/-- The tokens of a request as texts, with the name of their encoding. -/
def encodeTokens (tokens : List Token) : List String × String :=
  match tokens.mapM String.fromUTF8? with
  | some texts => (texts, "utf8")
  | none => (tokens.map Base64.encode, "base64")

def toJson : Answer → Json
  | ready => .ofMembers [
      ("type", .ofText "init"),
      ("success", .bool true),
      ("adapterVersion", .ofText version)]
  | rendered request =>
    let (tokens, encoding) := encodeTokens request.tokens
    .ofMembers [
      ("type", .ofText "render"),
      ("success", .bool true),
      ("tokens", .array (tokens.map .ofText)),
      ("encoding", .ofText encoding),
      ("commandType", .ofText request.command.name)]
  | identified id => .ofMembers [
      ("type", .ofText "parse-id"),
      ("success", .bool true),
      ("id", id.toJson),
      ("timestamp", .ofWord id.timestamp),
      ("sequence", .ofWord id.sequence)]
  | stopping => .ofMembers [
      ("type", .ofText "shutdown"),
      ("success", .bool true)]
  | refused subject code message => .ofMembers [
      ("type", .ofText "error"),
      ("success", .bool false),
      ("commandType", .ofText subject),
      ("errorCode", .ofText code),
      ("message", .ofText message)]

def line (answer : Answer) : String := answer.toJson.print

end Answer

namespace Instruction

def answer (instruction : Instruction) : Answer :=
  match instruction.kind with
  | "init" => .ready
  | "render" =>
    match instruction.request with
    | .ok request => .rendered request
    | .error fault => .ofFault (orEmpty instruction.operation) fault
  | "parse-id" =>
    match EntryId.parse (orEmpty instruction.input) with
    | .ok id => .identified id
    | .error fault => .ofFault "parse-id" fault
  | "shutdown" => .stopping
  | kind => .refused kind "NOT_SUPPORTED" ("unknown command type: " ++ kind)

end Instruction

/-- Why a line is no instruction. -/
inductive LineDefect where
  | notJson
  | notInstruction
  deriving DecidableEq

namespace LineDefect

/-- What the refusal of a line says. Only the beginning is fixed, up to the colon; what follows is a
wording of this reader and stands in the place of that of the JSON library, which is not
reproduced. -/
def message : LineDefect → String
  | notJson => "failed to parse command: not a JSON value"
  | notInstruction => "failed to parse command: not an instruction"

end LineDefect

def readLine (line : String) : Except LineDefect Instruction :=
  match Json.parse? line with
  | none => .error .notJson
  | some json =>
    match Instruction.ofJson? json with
    | none => .error .notInstruction
    | some instruction => .ok instruction

def answerLine (line : String) : Answer :=
  match readLine line with
  | .ok instruction => instruction.answer
  | .error defect => .refused "unknown" "PARSE_ERROR" defect.message

end AppendLog.Renderer
