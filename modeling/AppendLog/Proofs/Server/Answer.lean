import AppendLog.Exchange
import AppendLog.Proofs.Server.Stream
import AppendLog.Proofs.Wire.Entry
import AppendLog.Request.Stream

/-!
# What a server answers from a stream

The server reads a request off its tokens, `Query.ofRequest?`, and answers it from the stream that
it holds under one name. A range is answered with its first entries in the order of the traversal, a
read with the first entries after an id, or with nil when there are none. `Fate` says what becomes
of a request and its answer on the way.
-/

namespace AppendLog

/-! ## Reading requests -/

/-- What a request wants of a stream. -/
inductive Query where
  /-- The first `count` entries of a range. -/
  | range (name : String) (range : Range) (descending : Bool) (count : UInt64)
  /-- The first `count` entries from a position on. -/
  | read (name : String) (position : Position) (count : UInt64)

namespace Query

/-- The query for a range whose ends and count are given by text. -/
def ofRangeTexts? (name lower upper count : String) (descending : Bool) : Option Query :=
  match Range.parse lower upper, Decimal.word? count.toList with
  | .ok within, some count => some (.range name within descending count)
  | _, _ => none

/-- The query for a read whose position and count are given by text. -/
def ofReadTexts? (name position count : String) : Option Query :=
  match Position.parse position, Decimal.word? count.toList with
  | .ok position, some count => some (.read name position count)
  | _, _ => none

/-- The query that a request states: a range with a count in either direction, or a blocking read of
one stream with a count. -/
def ofRequest? (request : Request) : Option Query :=
  match request.command, request.arguments.mapM String.fromUTF8? with
  | .range, some [name, lower, upper, "COUNT", count] =>
    ofRangeTexts? name lower upper count false
  -- The upper end stands first here.
  | .reverseRange, some [name, upper, lower, "COUNT", count] =>
    ofRangeTexts? name lower upper count true
  | .read, some ["COUNT", count, "BLOCK", _, "STREAMS", name, position] =>
    ofReadTexts? name position count
  | _, _ => none

theorem ofRangeTexts?_text (name : String) (range : Range) (descending : Bool) (count : UInt64) :
    ofRangeTexts? name range.lowerText range.upperText (Decimal.write count.toNat) descending =
      some (.range name range descending count) := by
  rw [ofRangeTexts?, range.parse_text, Decimal.word?_write]

theorem ofRequest?_range (name : String) (range : Range) (count : UInt64) :
    ofRequest? (Request.range name range (.atMost count)) =
      some (.range name range false count) := by
  have hargs : (Request.range name range (.atMost count)).arguments.mapM String.fromUTF8? =
      some [name, range.lowerText, range.upperText, "COUNT", Decimal.write count.toNat] :=
    mapM_fromUTF8?_toUTF8 _
  rw [ofRequest?, hargs]
  exact ofRangeTexts?_text name range false count

theorem ofRequest?_reverseRange (name : String) (range : Range) (count : UInt64) :
    ofRequest? (Request.reverseRange name range (.atMost count)) =
      some (.range name range true count) := by
  have hargs : (Request.reverseRange name range (.atMost count)).arguments.mapM String.fromUTF8? =
      some [name, range.upperText, range.lowerText, "COUNT", Decimal.write count.toNat] :=
    mapM_fromUTF8?_toUTF8 _
  rw [ofRequest?, hargs]
  exact ofRangeTexts?_text name range true count

end Query

/-! ## Answering them -/

namespace Stream

/-- The first `count` entries after an id. -/
def after (stream : Stream) (id : EntryId) (count : Nat) : List Entry :=
  stream.page { lower := .excluded id } false count

/-- What a server that holds a stream under a name answers. -/
def answer (name : String) (stream : Stream) (request : Request) : Reply :=
  match Query.ofRequest? request with
  | some (.range asked range descending count) =>
    if asked = name then .array ((stream.page range descending count.toNat).map Entry.toReply)
    else .array []
  | some (.read asked (.after id) count) =>
    let found := if asked = name then stream.after id count.toNat else []
    if found.isEmpty then .nil
    else .array [.array [.bulk name.toUTF8, .array (found.map Entry.toReply)]]
  -- Nothing is there yet after the latest entry.
  | some (.read ..) => .nil
  | none => .error "ERR syntax error"

end Stream

/-! ## On the way -/

/-- What becomes of a request. -/
inductive Fate where
  /-- The server answers it, and the answer comes back after a delay. -/
  | answered (delay : Duration)
  /-- The other side sees its own deadline pass. -/
  | timedOut (delay : Duration)
  /-- The link fails, before the request arrived or after. -/
  | failed (delay : Duration) (failure : LinkFailure)
  /-- Nothing ever comes back. -/
  | stalled

/-- What the other side of a link does with a request of this fate. -/
def Fate.turn (fate : Fate) (name : String) (stream : Stream) (request : Request) : Turn :=
  match fate with
  | answered delay => .answers delay (.reply (stream.answer name request))
  | timedOut delay => .answers delay .timedOut
  | failed delay failure => .answers delay (.failed failure)
  | stalled => .stalls

end AppendLog
