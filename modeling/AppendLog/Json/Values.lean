import AppendLog.Consumer
import AppendLog.EntryId.Text
import AppendLog.Json.Record

/-!
# Ids, consumers and pending entries in JSON

The JSON forms of the values that travel beyond this library, each written and read. An id is its
text, and an idle time is its whole milliseconds. A consumer that is read is not checked for empty
names.
-/

namespace AppendLog

namespace EntryId

def toJson (id : EntryId) : Json := .ofText id.text

def ofJson? (json : Json) : Option EntryId := do
  (read (← json.text?).toList).toOption

end EntryId

namespace Consumer

def fieldNames : List String := ["group", "consumer"]

def toJson (consumer : Consumer) : Json :=
  .ofMembers [("group", .ofText consumer.group), ("consumer", .ofText consumer.name)]

def ofJson? (json : Json) : Option Consumer := do
  let record ← json.record? fieldNames
  return {
    group := ← record.required? "group" Json.text?
    name := ← record.required? "consumer" Json.text? }

end Consumer

namespace PendingDelivery

def fieldNames : List String := ["id", "consumer", "idle", "deliveryCount"]

def toJson (entry : PendingDelivery) : Json :=
  .ofMembers [
    ("id", entry.id.toJson),
    ("consumer", .ofText entry.consumer),
    ("idle", .ofWord entry.idle.milliseconds),
    ("deliveryCount", .ofWord entry.deliveries)]

def ofJson? (json : Json) : Option PendingDelivery := do
  let record ← json.record? fieldNames
  return {
    id := ← record.required? "id" EntryId.ofJson?
    consumer := ← record.required? "consumer" Json.text?
    idle := .ofMilliseconds (← record.required? "idle" Json.word?)
    deliveries := ← record.required? "deliveryCount" Json.word? }

end PendingDelivery

namespace ConsumerLoad

def fieldNames : List String := ["consumer", "pending"]

def toJson (load : ConsumerLoad) : Json :=
  .ofMembers [("consumer", .ofText load.consumer), ("pending", .ofWord load.pending)]

def ofJson? (json : Json) : Option ConsumerLoad := do
  let record ← json.record? fieldNames
  return {
    consumer := ← record.required? "consumer" Json.text?
    pending := ← record.required? "pending" Json.word? }

end ConsumerLoad

namespace PendingOverview

def fieldNames : List String := ["count", "lowest", "highest", "consumers"]

/-- An id that may be absent, as JSON. -/
def idToJson : Option EntryId → Json
  | none => .null
  | some id => id.toJson

def toJson (summary : PendingOverview) : Json :=
  .ofMembers [
    ("count", .ofWord summary.count),
    ("lowest", idToJson summary.lowest),
    ("highest", idToJson summary.highest),
    ("consumers", .array (summary.consumers.map ConsumerLoad.toJson))]

/-- The summary of a JSON record. Either id may be missing or null. -/
def ofJson? (json : Json) : Option PendingOverview := do
  let record ← json.record? fieldNames
  return {
    count := ← record.required? "count" Json.word?
    lowest := ← record.nullable? "lowest" EntryId.ofJson?
    highest := ← record.nullable? "highest" EntryId.ofJson?
    consumers := ← record.required? "consumers" (Json.list? ConsumerLoad.ofJson?) }

end PendingOverview

end AppendLog
