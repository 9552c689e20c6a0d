import AppendLog.Consumer
import AppendLog.Request.Stream

/-!
# Requests about consumer groups

The life of a group, reading as one of its consumers, and the entries that are pending in it. A
group that is given by name must have one, and a list of ids must not be empty.
-/

namespace AppendLog

structure ClaimOptions where
  /-- Claim only entries that were idle for this long. -/
  minIdle : Duration := .ofMilliseconds 0
  idle : Option Duration := none
  /-- Set the time of the last delivery, in milliseconds of the server's clock. -/
  time : Option UInt64 := none
  retryCount : Option UInt64 := none
  /-- Claim ids that are not pending as well. -/
  force : Bool := false
  deriving DecidableEq

namespace ClaimOptions

/-- The words after the ids. The idle time is given in full, however long it is. -/
def words (options : ClaimOptions) : List String :=
  Clause.number "IDLE" (options.idle.map Duration.wholeMilliseconds) ++
    Clause.number "TIME" (options.time.map UInt64.toNat) ++
    Clause.number "RETRYCOUNT" (options.retryCount.map UInt64.toNat) ++
    Clause.flag "FORCE" options.force

end ClaimOptions

namespace Request

/-- The count that stands for no limit where the server insists on one. -/
def unlimitedPending : UInt64 := UInt64.ofNat (UInt64.size / 2 - 1)

/-- Refuse an empty group name, else go on. -/
def withGroup (group : String) (request : Request) : Except Fault Request :=
  if group = "" then .error (.misuse .emptyGroupName) else .ok request

def acknowledge (key group : String) (ids : List EntryId) : Except Fault Request :=
  if group = "" then .error (.misuse .emptyGroupName)
  else if ids.isEmpty then .error (.misuse .noIds)
  else .ok (ofTexts .acknowledge (key :: group :: ids.map EntryId.text))

/-- Claim pending entries for a consumer; with `idsOnly` the reply carries ids and no bodies. -/
def claim (key : String) (consumer : Consumer) (options : ClaimOptions) (ids : List EntryId)
    (idsOnly : Bool) : Except Fault Request :=
  if ids.isEmpty then .error (.misuse .noIds)
  else .ok (ofTexts .claim (key :: consumer.group :: consumer.name ::
    Decimal.write options.minIdle.milliseconds.toNat :: ids.map EntryId.text ++ options.words ++
    Clause.flag "JUSTID" idsOnly))

/-- Create a group, and with `makeStream` the stream when there is none. -/
def createGroup (key group : String) (position : Position) (makeStream : Bool) :
    Except Fault Request :=
  withGroup group (ofTexts .createGroup (key :: group :: position.text ::
    Clause.flag "MKSTREAM" makeStream))

/-- Move the place from which a group is delivered to. -/
def moveGroup (key group : String) (position : Position) : Except Fault Request :=
  withGroup group (ofTexts .moveGroup [key, group, position.text])

def removeConsumer (key : String) (consumer : Consumer) : Request :=
  ofTexts .removeConsumer [key, consumer.group, consumer.name]

/-- The pending entries of a group in sum. -/
def pendingOverview (key group : String) : Except Fault Request :=
  withGroup group (ofTexts .pending [key, group])

/-- The pending entries of a group one by one, of one consumer if one is given. -/
def pendingList (key group : String) (consumer : Option String) (range : Range)
    (limit : Limit) : Except Fault Request :=
  withGroup group (ofTexts .pending (key :: group :: range.lowerText :: range.upperText ::
    Decimal.write (limit.count?.getD unlimitedPending).toNat :: consumer.toList))

/-- Read as a consumer of a group, from one stream at least. -/
def readAsConsumer (consumer : Consumer) (options : ReadOptions)
    (streams : List (String × GroupPosition)) : Except Fault Request :=
  if streams.isEmpty then .error (.misuse .noStreams)
  else .ok (ofTexts .readAsConsumer ("GROUP" :: consumer.group :: consumer.name :: options.words ++
    streamWords (streams.map fun (key, position) => (key, position.text))))

end Request

end AppendLog
