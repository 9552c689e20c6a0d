import AppendLog.Base64
import AppendLog.Json.Record
import AppendLog.Request.Group

/-!
# Instructions

An instruction asks the renderer for one thing, mostly for the request of an operation whose
arguments it gives as texts and numbers. Every field of it may be left out.

`Instruction.ofJson?` reads one, and `Instruction.request` builds the request that it asks for.
-/

namespace AppendLog.Renderer

/-- What is asked for. Ids, positions and the ends of a range are given by their texts. -/
structure Instruction where
  kind : String := ""
  operation : Option String := none
  key : Option String := none
  group : Option String := none
  consumer : Option String := none
  id : Option String := none
  ids : List String := []
  position : Option String := none
  lower : Option String := none
  upper : Option String := none
  /-- Keys of streams with the texts of positions. -/
  streams : List (String × String) := []
  body : List (String × String) := []
  /-- The values of the body are in base64. -/
  binary : Bool := false
  count : Option UInt64 := none
  /-- Milliseconds to block. -/
  block : Option UInt64 := none
  noAck : Bool := false
  maxLength : Option UInt64 := none
  approximately : Bool := false
  /-- Milliseconds of idle time to claim from. -/
  minIdle : UInt64 := 0
  /-- Milliseconds of idle time to set. -/
  idle : Option UInt64 := none
  time : Option UInt64 := none
  retryCount : Option UInt64 := none
  force : Bool := false
  idsOnly : Bool := false
  makeStream : Bool := false
  /-- The text to read as an id. -/
  input : Option String := none
  deriving DecidableEq

namespace Instruction

def fieldNames : List String :=
  ["type", "op", "key", "group", "consumer", "id", "ids", "offset", "lower", "upper", "streams",
    "fields", "binary", "count", "blockMs", "noAck", "maxLen", "approximate", "minIdleMs", "idleMs",
    "time", "retryCount", "force", "justId", "mkstream", "input"]

def ofJson? (json : Json) : Option Instruction := do
  let record ← json.partialRecord? fieldNames
  let text (name : String) : Option (Option String) := record.nullable? name Json.text?
  let word (name : String) : Option (Option UInt64) := record.nullable? name Json.word?
  let flag (name : String) : Option Bool := record.withDefault? name Json.bool? false
  let pairs (name : String) : Option (List (String × String)) :=
    record.withDefault? name (Json.list? Json.textPair?) []
  return {
    kind := ← record.withDefault? "type" Json.text? ""
    operation := ← text "op"
    key := ← text "key"
    group := ← text "group"
    consumer := ← text "consumer"
    id := ← text "id"
    ids := ← record.withDefault? "ids" (Json.list? Json.text?) []
    position := ← text "offset"
    lower := ← text "lower"
    upper := ← text "upper"
    streams := ← pairs "streams"
    body := ← pairs "fields"
    binary := ← flag "binary"
    count := ← word "count"
    block := ← word "blockMs"
    noAck := ← flag "noAck"
    maxLength := ← word "maxLen"
    approximately := ← flag "approximate"
    minIdle := ← record.withDefault? "minIdleMs" Json.word? 0
    idle := ← word "idleMs"
    time := ← word "time"
    retryCount := ← word "retryCount"
    force := ← flag "force"
    idsOnly := ← flag "justId"
    makeStream := ← flag "mkstream"
    input := ← text "input" }

/-! ## Arguments -/

/-- The text of a field, empty when it was left out. -/
def orEmpty (text : Option String) : String := text.getD ""

def readConsumer (instruction : Instruction) : Except Fault Consumer :=
  Consumer.ofNames (orEmpty instruction.group) (orEmpty instruction.consumer)

def readIds (instruction : Instruction) : Except Fault (List EntryId) :=
  instruction.ids.mapM EntryId.parse

/-- The position that is given, the beginning when it was left out. -/
def readPosition (instruction : Instruction) : Except Fault Position :=
  match instruction.position with
  | none => .ok .beginning
  | some text => Position.parse text

/-- The range that is given; an end that was left out is unbounded. -/
def readRange (instruction : Instruction) : Except Fault Range :=
  Range.parse (instruction.lower.getD "-") (instruction.upper.getD "+")

def limit (instruction : Instruction) : Limit := .ofCount? instruction.count

def readValue (binary : Bool) (value : String) : Except Fault ByteArray :=
  if binary then
    match Base64.decode? value with
    | some bytes => .ok bytes
    | none => .error (.misuse (.worded "field value is not valid base64"))
  else .ok value.toUTF8

def readBody (instruction : Instruction) : Except Fault Fields :=
  instruction.body.foldlM (fun fields (name, value) => do
    fields.insert name (← readValue instruction.binary value)) .empty

def readOptions (instruction : Instruction) : ReadOptions where
  count := instruction.count
  block := instruction.block.map Duration.ofMilliseconds
  noAck := instruction.noAck

def claimOptions (instruction : Instruction) : ClaimOptions where
  minIdle := .ofMilliseconds instruction.minIdle
  idle := instruction.idle.map Duration.ofMilliseconds
  time := instruction.time
  retryCount := instruction.retryCount
  force := instruction.force

def appendOptions (instruction : Instruction) : Except Fault AppendOptions := do
  let id ← instruction.id.mapM EntryId.parse
  return { id, maxLength := instruction.maxLength, approximately := instruction.approximately }

/-- Streams with what is read from the texts of their positions. -/
def readStreams {α : Type} (read : String → Except Fault α) (instruction : Instruction) :
    Except Fault (List (String × α)) :=
  instruction.streams.mapM fun (key, text) => return (key, ← read text)

/-- Whether pending entries are asked for one by one. -/
def asksForDetail (instruction : Instruction) : Bool :=
  instruction.lower.isSome || instruction.upper.isSome || instruction.count.isSome ||
    instruction.consumer.isSome

/-! ## Requests -/

/-- The request that is asked for. Of several faults in the arguments, the one that is read first is
reported. -/
def request (instruction : Instruction) : Except Fault Request := do
  let key := orEmpty instruction.key
  let group := orEmpty instruction.group
  match orEmpty instruction.operation with
  | "xack" => Request.acknowledge key group (← instruction.readIds)
  | "xadd" =>
    let options ← instruction.appendOptions
    Request.append key options (← instruction.readBody)
  | "xclaim" =>
    let consumer ← instruction.readConsumer
    let ids ← instruction.readIds
    Request.claim key consumer instruction.claimOptions ids instruction.idsOnly
  | "xgroup-create" =>
    Request.createGroup key group (← instruction.readPosition) instruction.makeStream
  | "xgroup-setid" => Request.moveGroup key group (← instruction.readPosition)
  | "xgroup-delconsumer" => return Request.removeConsumer key (← instruction.readConsumer)
  | "xlen" => return Request.length key
  | "xpending" =>
    if instruction.asksForDetail then
      Request.pendingList key group instruction.consumer (← instruction.readRange)
        instruction.limit
    else Request.pendingOverview key group
  | "xrange" => return Request.range key (← instruction.readRange) instruction.limit
  | "xrevrange" => return Request.reverseRange key (← instruction.readRange) instruction.limit
  | "xread" => Request.read instruction.readOptions (← instruction.readStreams Position.parse)
  | "xreadgroup" =>
    let streams ← instruction.readStreams GroupPosition.parse
    Request.readAsConsumer (← instruction.readConsumer) instruction.readOptions streams
  | _ => throw (.misuse (.worded "unknown operation"))

end Instruction

end AppendLog.Renderer
