import AppendLog.Exchange
import AppendLog.Reply.Reading
import AppendLog.Request.Group

/-!
# Operations

What a caller can do over a link: append to a stream and read it, and everything about consumer
groups. An operation is prepared locally, which may fail, into the one exchange that it consists of.
-/

namespace AppendLog

/-- An operation with a value of type `α`. -/
inductive Operation (α : Type) where
  /-- It fails before anything is sent. -/
  | refused (fault : Fault)
  | sends (exchange : Exchange α)

/-- What a read that may block comes to. -/
inductive ReadResult where
  /-- The messages by stream, in the order of the request. -/
  | messages (messages : List Message)
  /-- Nothing came in time. -/
  | timedOut
  deriving DecidableEq

namespace ReadResult

def isTimedOut : ReadResult → Bool
  | messages _ => false
  | timedOut => true

/-- The messages; none when nothing came in time. -/
def toMessages : ReadResult → List Message
  | messages found => found
  | timedOut => []

end ReadResult

namespace Operation

variable {α β : Type}

def map (f : α → β) : Operation α → Operation β
  | refused fault => refused fault
  | sends exchange => sends (exchange.map f)

def run (grace : Duration) (operation : Operation α) (link : Link) : Ending α × Link :=
  match operation with
  | refused fault => (.finished (.error fault), link)
  | sends exchange => exchange.run grace link

/-- The operation whose exchange is built from a request, refused when there is none. -/
def prepare (request : Except Fault Request) (exchange : Request → Exchange α) : Operation α :=
  match request with
  | .error fault => refused fault
  | .ok request => sends (exchange request)

/-- Send a request and read its reply by the command it was sent with. -/
def ask (request : Except Fault Request) (read : Command → Reply → Except Fault α) : Operation α :=
  prepare request fun request => .prompt request (read request.command)

/-- Read the reply to a read, which is absent when the time passed. -/
def readResult (command : Command) : Option Reply → Except Fault ReadResult
  | none => .ok .timedOut
  | some reply => .messages <$> reply.messages command

/-- Send a read, which blocks when it was given a time. -/
def await (request : Except Fault Request) (block : Option Duration) : Operation ReadResult :=
  prepare request fun request =>
    match block with
    | none => .prompt request fun reply => readResult request.command (some reply)
    | some block => .blocking request block (readResult request.command)

/-! ## Streams -/

/-- Append an entry with an id of the server's choice, and learn the id. -/
def append (key : String) (body : Fields) : Operation EntryId :=
  ask (Request.append key {} body) Reply.assignedId

def appendWith (key : String) (options : AppendOptions) (body : Fields) : Operation EntryId :=
  ask (Request.append key options body) Reply.assignedId

def length (key : String) : Operation UInt64 := ask (.ok (Request.length key)) Reply.count

def range (key : String) (range : Range) (limit : Limit) : Operation (List Entry) :=
  ask (.ok (Request.range key range limit)) Reply.entries

def reverseRange (key : String) (range : Range) (limit : Limit) : Operation (List Entry) :=
  ask (.ok (Request.reverseRange key range limit)) Reply.entries

/-- Read what is there in several streams. -/
def read (streams : List (String × Position)) : Operation (List Message) :=
  ask (Request.read {} streams) Reply.messages

/-- Read from several streams, possibly waiting. -/
def readWith (options : ReadOptions) (streams : List (String × Position)) :
    Operation ReadResult :=
  await (Request.read options streams) options.block

/-! ## Consumer groups -/

/-- Acknowledge entries, and learn how many were pending. -/
def acknowledge (key group : String) (ids : List EntryId) : Operation UInt64 :=
  ask (Request.acknowledge key group ids) Reply.count

def claim (key : String) (consumer : Consumer) (options : ClaimOptions) (ids : List EntryId) :
    Operation (List Entry) :=
  ask (Request.claim key consumer options ids false) Reply.entries

/-- Claim pending entries, and learn their ids only. -/
def claimIdsOnly (key : String) (consumer : Consumer) (options : ClaimOptions)
    (ids : List EntryId) : Operation (List EntryId) :=
  ask (Request.claim key consumer options ids true) Reply.ids

def createGroup (key group : String) (position : Position) : Operation Unit :=
  ask (Request.createGroup key group position false) Reply.done

/-- Create a group, and the stream as well if `makeStream` is set. -/
def createGroupWith (key group : String) (position : Position) (makeStream : Bool) :
    Operation Unit :=
  ask (Request.createGroup key group position makeStream) Reply.done

def moveGroup (key group : String) (position : Position) : Operation Unit :=
  ask (Request.moveGroup key group position) Reply.done

/-- Remove a consumer, and learn how many entries it owed. -/
def removeConsumer (key : String) (consumer : Consumer) : Operation UInt64 :=
  ask (.ok (Request.removeConsumer key consumer)) Reply.count

def pendingWithin (key group : String) (range : Range) (limit : Limit) :
    Operation (List PendingDelivery) :=
  ask (Request.pendingList key group none range limit) Reply.pendingList

def pending (key group : String) : Operation (List PendingDelivery) :=
  pendingWithin key group {} .unlimited

def pendingWithinOf (key : String) (consumer : Consumer) (range : Range) (limit : Limit) :
    Operation (List PendingDelivery) :=
  ask (Request.pendingList key consumer.group (some consumer.name) range limit) Reply.pendingList

def pendingOf (key : String) (consumer : Consumer) : Operation (List PendingDelivery) :=
  pendingWithinOf key consumer {} .unlimited

def pendingOverview (key group : String) : Operation PendingOverview :=
  ask (Request.pendingOverview key group) Reply.pendingOverview

/-- Read what was never delivered to the group from several streams. -/
def readAsConsumer (consumer : Consumer) (keys : List String) : Operation (List Message) :=
  ask (Request.readAsConsumer consumer {} (keys.map fun key => (key, .undelivered))) Reply.messages

/-- Read from several streams as a consumer of a group, possibly waiting. -/
def readAsConsumerWith (consumer : Consumer) (options : ReadOptions)
    (streams : List (String × GroupPosition)) : Operation ReadResult :=
  await (Request.readAsConsumer consumer options streams) options.block

end Operation

end AppendLog
