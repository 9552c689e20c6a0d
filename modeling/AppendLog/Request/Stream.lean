import AppendLog.Duration
import AppendLog.Fields
import AppendLog.Position
import AppendLog.Range
import AppendLog.Request
import AppendLog.Request.Clause

/-!
# Requests about streams

Appending to a stream, its length, its ranges, and reads of several streams at once. Each function
checks its arguments first and refuses before there is a request.
-/

namespace AppendLog

structure AppendOptions where
  /-- The id of the new entry; without one the server assigns it. -/
  id : Option EntryId := none
  /-- Trim the stream to at most this many entries. -/
  maxLength : Option UInt64 := none
  /-- Let the server trim when it suits it. -/
  approximately : Bool := false
  deriving DecidableEq

structure ReadOptions where
  /-- The most entries to take from each stream. -/
  count : Option UInt64 := none
  /-- Wait this long when there is nothing to read. Zero waits forever. -/
  block : Option Duration := none
  /-- Do not add what is delivered to the pending entries of the group. -/
  noAck : Bool := false
  deriving DecidableEq

namespace AppendOptions

/-- The words that trim the stream. The flag alone leaves none. -/
def trimWords (options : AppendOptions) : List String :=
  match options.maxLength with
  | none => []
  | some n => "MAXLEN" :: Clause.flag "~" options.approximately ++ [Decimal.write n.toNat]

/-- The word for the id of the new entry: its text, or a star for one that the server assigns. -/
def idWord (options : AppendOptions) : String :=
  match options.id with
  | none => "*"
  | some id => id.text

end AppendOptions

namespace ReadOptions

def words (options : ReadOptions) : List String :=
  Clause.number "COUNT" (options.count.map UInt64.toNat) ++
    Clause.number "BLOCK" (options.block.map fun d => d.blockMilliseconds.toNat) ++
    Clause.flag "NOACK" options.noAck

end ReadOptions

namespace Request

/-- All keys, then all positions, in the order of the streams. -/
def streamWords (streams : List (String × String)) : List String :=
  "STREAMS" :: streams.map Prod.fst ++ streams.map Prod.snd

/-- Append an entry. The body may not be empty. -/
def append (key : String) (options : AppendOptions) (body : Fields) : Except Fault Request :=
  if body.isEmpty then .error (.misuse .emptyBody)
  else .ok ⟨.append,
    (key :: options.trimWords ++ [options.idWord]).map String.toUTF8 ++
      body.pairs.flatMap fun (name, value) => [name.toUTF8, value]⟩

def length (key : String) : Request := ofTexts .length [key]

def range (key : String) (range : Range) (limit : Limit) : Request :=
  ofTexts .range (key :: range.lowerText :: range.upperText ::
    Clause.number "COUNT" (limit.count?.map UInt64.toNat))

/-- The entries of a range, descending. The texts of the ends trade places; their meaning does
not. -/
def reverseRange (key : String) (range : Range) (limit : Limit) : Request :=
  ofTexts .reverseRange (key :: range.upperText :: range.lowerText ::
    Clause.number "COUNT" (limit.count?.map UInt64.toNat))

/-- Read from several streams. There must be one at least, and only group reads can be told not to
wait for an acknowledgement. -/
def read (options : ReadOptions) (streams : List (String × Position)) : Except Fault Request :=
  if streams.isEmpty then .error (.misuse .noStreams)
  else if options.noAck then .error (.misuse .noAckOutsideGroup)
  else .ok (ofTexts .read (options.words ++
    streamWords (streams.map fun (key, position) => (key, position.text))))

end Request

end AppendLog
