import AppendLog.EntryId
import AppendLog.Fault
import AppendLog.Duration

/-!
# Consumers and what they owe

A consumer is named within its group. Delivered entries that were not acknowledged are pending: one
by one with their owner, or summed up per group.
-/

namespace AppendLog

/-- A consumer of a group, by name. -/
structure Consumer where
  group : String
  name : String
  deriving DecidableEq

namespace Consumer

/-- The consumer of these names. Neither may be empty. -/
def ofNames (group name : String) : Except Fault Consumer :=
  if group = "" then .error (.misuse .emptyGroupName)
  else if name = "" then .error (.misuse .emptyConsumerName)
  else .ok ⟨group, name⟩

end Consumer

/-- A delivered entry that was not acknowledged. -/
structure PendingDelivery where
  id : EntryId
  consumer : String
  /-- The time since the entry was last delivered. -/
  idle : Duration
  deliveries : UInt64
  deriving DecidableEq

/-- The number of entries that one consumer owes. -/
structure ConsumerLoad where
  consumer : String
  pending : UInt64
  deriving DecidableEq

/-- The pending entries of a group in sum. -/
structure PendingOverview where
  count : UInt64
  /-- The least pending id, absent when nothing is pending. -/
  lowest : Option EntryId
  /-- The greatest pending id, absent when nothing is pending. -/
  highest : Option EntryId
  consumers : List ConsumerLoad
  deriving DecidableEq

end AppendLog
