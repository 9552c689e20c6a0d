import AppendLog.Operation

/-!
# Calls

Every operation with its arguments as one type, so that a statement can range over all of them.
-/

namespace AppendLog

/-- An operation with its arguments. -/
inductive Call where
  | acknowledge (key group : String) (ids : List EntryId)
  | append (key : String) (body : Fields)
  | appendWith (key : String) (options : AppendOptions) (body : Fields)
  | claim (key : String) (consumer : Consumer) (options : ClaimOptions) (ids : List EntryId)
  | claimIdsOnly (key : String) (consumer : Consumer) (options : ClaimOptions) (ids : List EntryId)
  | createGroup (key group : String) (position : Position)
  | createGroupWith (key group : String) (position : Position) (makeStream : Bool)
  | moveGroup (key group : String) (position : Position)
  | removeConsumer (key : String) (consumer : Consumer)
  | length (key : String)
  | pending (key group : String)
  | pendingOf (key : String) (consumer : Consumer)
  | pendingWithin (key group : String) (range : Range) (limit : Limit)
  | pendingWithinOf (key : String) (consumer : Consumer) (range : Range) (limit : Limit)
  | pendingOverview (key group : String)
  | range (key : String) (range : Range) (limit : Limit)
  | reverseRange (key : String) (range : Range) (limit : Limit)
  | read (streams : List (String × Position))
  | readWith (options : ReadOptions) (streams : List (String × Position))
  | readAsConsumer (consumer : Consumer) (keys : List String)
  | readAsConsumerWith (consumer : Consumer) (options : ReadOptions)
      (streams : List (String × GroupPosition))
  deriving DecidableEq

inductive Value where
  | done
  | count (n : UInt64)
  | id (id : EntryId)
  | ids (ids : List EntryId)
  | entries (entries : List Entry)
  | messages (messages : List Message)
  | outcome (outcome : ReadResult)
  | pending (entries : List PendingDelivery)
  | summary (summary : PendingOverview)
  deriving DecidableEq

namespace Call

/-- The operation that a call stands for. -/
def operation : Call → Operation Value
  | acknowledge key group ids => (Operation.acknowledge key group ids).map .count
  | append key body => (Operation.append key body).map .id
  | appendWith key options body => (Operation.appendWith key options body).map .id
  | claim key consumer options ids => (Operation.claim key consumer options ids).map .entries
  | claimIdsOnly key consumer options ids =>
    (Operation.claimIdsOnly key consumer options ids).map .ids
  | createGroup key group position =>
    (Operation.createGroup key group position).map fun _ => .done
  | createGroupWith key group position makeStream =>
    (Operation.createGroupWith key group position makeStream).map fun _ => .done
  | moveGroup key group position => (Operation.moveGroup key group position).map fun _ => .done
  | removeConsumer key consumer => (Operation.removeConsumer key consumer).map .count
  | length key => (Operation.length key).map .count
  | pending key group => (Operation.pending key group).map .pending
  | pendingOf key consumer => (Operation.pendingOf key consumer).map .pending
  | pendingWithin key group within limit =>
    (Operation.pendingWithin key group within limit).map .pending
  | pendingWithinOf key consumer within limit =>
    (Operation.pendingWithinOf key consumer within limit).map .pending
  | pendingOverview key group => (Operation.pendingOverview key group).map .summary
  | range key within limit => (Operation.range key within limit).map .entries
  | reverseRange key within limit => (Operation.reverseRange key within limit).map .entries
  | read streams => (Operation.read streams).map .messages
  | readWith options streams => (Operation.readWith options streams).map .outcome
  | readAsConsumer consumer keys => (Operation.readAsConsumer consumer keys).map .messages
  | readAsConsumerWith consumer options streams =>
    (Operation.readAsConsumerWith consumer options streams).map .outcome

def run (grace : Duration) (call : Call) (link : Link) : Ending Value × Link :=
  call.operation.run grace link

end Call

end AppendLog
