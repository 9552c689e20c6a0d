import AppendLog.Text.Quoted
import AppendLog.Text.Search
import AppendLog.Decimal

/-!
# Faults

Everything that can go wrong between a caller and the server, as causes. The wording of each cause
is in one function, `Fault.message`; `Fault.isLocal` says which faults arise before anything is
sent, and `Fault.ofServer` sorts the server's own error texts.
-/

namespace AppendLog

/-! ## Causes -/

/-- Why a text is not an entry id. -/
inductive IdDefect where
  | emptyText
  | missingPart
  | nonNumericPart
  | partOutOfRange
  | worded (text : String)
  deriving DecidableEq

namespace IdDefect

def message : IdDefect → String
  | emptyText => "empty id"
  | missingPart => "missing id component"
  | nonNumericPart => "non-numeric id component"
  | partOutOfRange => "id component out of range"
  | worded text => text

end IdDefect

/-- A rule of use that a caller broke. -/
inductive Misuse where
  | emptyGroupName
  | emptyConsumerName
  | noIds
  | emptyBody
  | noStreams
  | noAckOutsideGroup
  | duplicateFieldName
  | liveScanShape
  /-- A rule given by its wording, for rules that belong to a caller of this library. -/
  | worded (text : String)
  deriving DecidableEq

namespace Misuse

def message : Misuse → String
  | emptyGroupName => "group name must not be empty"
  | emptyConsumerName => "consumer name must not be empty"
  | noIds => "at least one message id is required"
  | emptyBody => "append body must not be empty"
  | noStreams => "at least one stream is required"
  | noAckOutsideGroup => "NOACK applies to group reads only"
  | duplicateFieldName => "duplicate field name"
  | liveScanShape => "live scans must be forward with an unbounded upper end"
  | worded text => text

end Misuse

/-- How a reply differs from the shape that its command returns. -/
inductive Mismatch where
  /-- Something else stands where `expected` should; `got` names the kind of reply found. -/
  | kind (expected got : String)
  | length (expected got : Nat)
  | textNotUtf8
  | idMalformed (text : String)
  | idNil
  | integerNegative
  | countNegative
  | numberMalformed (text : String)
  | fieldCountOdd
  | fieldNameRepeated
  deriving DecidableEq

namespace Mismatch

def message : Mismatch → String
  | kind expected got => "expected " ++ expected ++ ", got " ++ got
  | length expected got =>
    "expected " ++ Decimal.write expected ++ " elements, got " ++ Decimal.write got
  | textNotUtf8 => "non-utf8 text"
  | idMalformed text => "malformed id " ++ Text.quote text
  | idNil => "nil id"
  | integerNegative => "negative integer"
  | countNegative => "negative count"
  | numberMalformed text => "non-numeric " ++ Text.quote text
  | fieldCountOdd => "odd field/value count"
  | fieldNameRepeated => "duplicate field name"

end Mismatch

/-- Why a command failed after it was sent. -/
inductive Refusal where
  | server (text : String)
  /-- The reply has a shape that the command never returns. -/
  | mismatch (mismatch : Mismatch)
  deriving DecidableEq

namespace Refusal

def message : Refusal → String
  | server text => text
  | mismatch found => "unexpected reply: " ++ found.message

end Refusal

/-! ## Faults -/

/-- What an operation fails with. The command is carried by its name. -/
inductive Fault where
  /-- A text was given as an id and is none. -/
  | malformedId (text : String) (defect : IdDefect)
  | misuse (rule : Misuse)
  /-- A command failed, or its reply could not be read. -/
  | protocol (command : String) (refusal : Refusal)
  /-- An explicit id is not above the top of the stream. -/
  | idOrdering (command text : String)
  /-- The consumer group to create is there already. -/
  | groupExists (text : String)
  /-- The connection was closed while the call was waiting. -/
  | cancelled
  | transport (text : String)
  deriving DecidableEq

namespace Fault

def message : Fault → String
  | malformedId text defect => "invalid stream id " ++ Text.quote text ++ ": " ++ defect.message
  | misuse rule => "invalid usage: " ++ rule.message
  | protocol command refusal => command ++ " failed: " ++ refusal.message
  | idOrdering command text => command ++ " rejected id: " ++ text
  | groupExists text => "consumer group already exists: " ++ text
  | cancelled => "cancelled"
  | transport text => "transport error: " ++ text

/-- A stable code for each kind of fault. -/
def code : Fault → String
  | malformedId .. => "PARSE_ERROR"
  | misuse .. => "USAGE_ERROR"
  | protocol .. => "PROTOCOL_ERROR"
  | idOrdering .. => "ID_ORDERING"
  | groupExists .. => "GROUP_EXISTS"
  | cancelled => "CANCELLED"
  | transport .. => "TRANSPORT_ERROR"

/-- Whether the fault was found before anything was sent. -/
def isLocal : Fault → Bool
  | malformedId .. | misuse .. => true
  | _ => false

/-- Whether the call was interrupted by closing its connection. -/
def isCancelled : Fault → Bool
  | cancelled => true
  | _ => false

/-- How the server begins its error when a consumer group exists already. -/
def groupExistsMark : String := "BUSYGROUP"

/-- What the server's error holds when an explicit id is not above the top of the stream. -/
def idOrderingMark : String := "equal or smaller than the target stream top item"

/-- Sort an error text of the server. The text is kept as it is, and only the kind of fault depends
on it: the mark of an existing group counts at the start, the ordering mark anywhere. -/
def ofServer (command text : String) : Fault :=
  if Text.beginsWith text groupExistsMark then groupExists text
  else if Text.holds text idOrderingMark then idOrdering command text
  else protocol command (.server text)

def ofMismatch (command : String) (mismatch : Mismatch) : Fault :=
  protocol command (.mismatch mismatch)

@[simp] theorem isLocal_ofServer (command text : String) :
    (ofServer command text).isLocal = false := by
  unfold ofServer
  split
  · rfl
  · split <;> rfl

@[simp] theorem isLocal_ofMismatch (command : String) (mismatch : Mismatch) :
    (ofMismatch command mismatch).isLocal = false := rfl

end Fault

/-! ## Failures of the connection -/

inductive LinkFailure where
  /-- Closed or interrupted, possibly while waiting. -/
  | closed
  | broken (text : String)
  deriving DecidableEq

namespace LinkFailure

def message : LinkFailure → String
  | closed => "transport closed"
  | broken text => "io error: " ++ text

/-- The fault that a failed connection is to the caller of an operation. -/
def fault : LinkFailure → Fault
  | closed => .cancelled
  | broken text => .transport text

end LinkFailure

end AppendLog
