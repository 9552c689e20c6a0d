import AppendLog.Command
import AppendLog.Consumer
import AppendLog.EntryId.Text
import AppendLog.Fields
import AppendLog.Reply

/-!
# Reading replies

One reader for each shape that a command returns. A reader refuses a server error at the top with
the server's own text, and any other reply of the wrong shape with what is wrong in it; of several
mismatches it reports the first it meets. The command only names the fault.
-/

namespace AppendLog.Reply

/-! ## Pieces of a reply -/

def mismatch (command : Command) (mismatch : Mismatch) : Fault :=
  .ofMismatch command.name mismatch

def wrongKind (command : Command) (expected : String) (found : Reply) : Fault :=
  mismatch command (.kind expected found.kind)

/-- Pass on a reply that is no server error. -/
def accepted (command : Command) : Reply → Except Fault Reply
  | error text => .error (.ofServer command.name text)
  | reply => .ok reply

/-- Read a text: a status, or bytes that are UTF-8. -/
def readText (command : Command) : Reply → Except Fault String
  | status text => .ok text
  | bulk bytes =>
    match String.fromUTF8? bytes with
    | some text => .ok text
    | none => .error (mismatch command .textNotUtf8)
  | reply => .error (wrongKind command "text" reply)

def readId (command : Command) (reply : Reply) : Except Fault EntryId := do
  let text ← readText command reply
  match EntryId.read text.toList with
  | .ok id => return id
  | .error _ => throw (mismatch command (.idMalformed text))

/-- The number that a text stands for where numbers may be sent as texts: a numeral of 64 bits,
which may have a plus sign in front. -/
def numberOfText? (cs : List Char) : Option UInt64 :=
  match cs with
  | '+' :: digits => Decimal.word? digits
  | digits => Decimal.word? digits

/-- Read a number that is not negative, sent as an integer or as a text. -/
def readNumber (command : Command) : Reply → Except Fault UInt64
  | integer n =>
    if 0 ≤ n then .ok n.toUInt64 else .error (mismatch command .integerNegative)
  | nil => .error (wrongKind command "integer" nil)
  | array items => .error (wrongKind command "integer" (array items))
  | error text => .error (wrongKind command "integer" (error text))
  | reply => do
    let text ← readText command reply
    match numberOfText? text.toList with
    | some n => return n
    | none => throw (mismatch command (.numberMalformed text))

/-- Read an array, for which nil stands when it is empty. -/
def readArray (command : Command) : Reply → Except Fault (List Reply)
  | array items => .ok items
  | nil => .ok []
  | reply => .error (wrongKind command "array" reply)

def readPair (command : Command) : Reply → Except Fault (Reply × Reply)
  | array [a, b] => .ok (a, b)
  | array items => .error (mismatch command (.length 2 items.length))
  | reply => .error (wrongKind command "array" reply)

def readFour (command : Command) : Reply → Except Fault (Reply × Reply × Reply × Reply)
  | array [a, b, c, d] => .ok (a, b, c, d)
  | array items => .error (mismatch command (.length 4 items.length))
  | reply => .error (wrongKind command "array" reply)

/-! ## Single values -/

/-- The id that an append assigned. -/
def assignedId (command : Command) (reply : Reply) : Except Fault EntryId := do
  match ← accepted command reply with
  | nil => throw (mismatch command .idNil)
  | found => readId command found

/-- A count, which is sent as an integer. -/
def count (command : Command) (reply : Reply) : Except Fault UInt64 := do
  match ← accepted command reply with
  | integer n => if 0 ≤ n then return n.toUInt64 else throw (mismatch command .countNegative)
  | found => throw (wrongKind command "integer" found)

/-- The status that says a command was carried out, in capitals or not. -/
def done (command : Command) (reply : Reply) : Except Fault Unit := do
  match ← accepted command reply with
  | status text =>
    if text.toList.map Char.toLower = ['o', 'k'] then return ()
    else throw (wrongKind command "OK" (status text))
  | found => throw (wrongKind command "OK" found)

/-! ## Entries -/

/-- The value of a field: bytes, or the bytes of a status. -/
def readValue (command : Command) : Reply → Except Fault ByteArray
  | bulk bytes => .ok bytes
  | status text => .ok text.toUTF8
  | reply => .error (wrongKind command "field value" reply)

/-- Add names and values that follow each other. -/
def readFields (command : Command) : Fields → List Reply → Except Fault Fields
  | fields, name :: value :: rest => do
    let name ← readText command name
    let value ← readValue command value
    match fields.insert name value with
    | .ok fields => readFields command fields rest
    | .error _ => throw (mismatch command .fieldNameRepeated)
  | fields, _ => .ok fields

/-- The body of an entry, absent when the entry was deleted. -/
def readBody? (command : Command) : Reply → Except Fault (Option Fields)
  | nil => .ok none
  | array items =>
    if items.length % 2 ≠ 0 then .error (mismatch command .fieldCountOdd)
    else some <$> readFields command .empty items
  | reply => .error (wrongKind command "field array" reply)

/-- An entry, absent when it was deleted: nil, or an id without a body. -/
def readElement (command : Command) : Reply → Except Fault (Option Entry)
  | nil => .ok none
  | reply => do
    let (id, body) ← readPair command reply
    let id ← readId command id
    let body ← readBody? command body
    return body.map fun fields => ⟨id, fields⟩

/-- A list of entries. Deleted ones are left out. -/
def entries (command : Command) (reply : Reply) : Except Fault (List Entry) := do
  let items ← readArray command (← accepted command reply)
  let found ← items.mapM (readElement command)
  return found.filterMap id

def readStream (command : Command) (reply : Reply) : Except Fault (List Message) := do
  let (key, body) ← readPair command reply
  let key ← readText command key
  let found ← entries command body
  return found.map fun entry => ⟨key, entry⟩

/-- The entries of several streams, in the order of the reply. -/
def messages (command : Command) (reply : Reply) : Except Fault (List Message) := do
  let streams ← readArray command (← accepted command reply)
  let found ← streams.mapM (readStream command)
  return found.flatten

/-- A list of ids. Nil stands for one that is gone and is left out. -/
def ids (command : Command) (reply : Reply) : Except Fault (List EntryId) := do
  let items ← readArray command (← accepted command reply)
  (items.filter fun item => !item.isNil).mapM (readId command)

/-! ## Pending entries -/

/-- One pending entry: its id, its owner, the idle time and the number of deliveries. -/
def readPending (command : Command) (reply : Reply) : Except Fault PendingDelivery := do
  let (id, consumer, idle, deliveries) ← readFour command reply
  return {
    id := ← readId command id
    consumer := ← readText command consumer
    idle := .ofMilliseconds (← readNumber command idle)
    deliveries := ← readNumber command deliveries }

def pendingList (command : Command) (reply : Reply) : Except Fault (List PendingDelivery) := do
  let items ← readArray command (← accepted command reply)
  items.mapM (readPending command)

/-- The load of one consumer: its name and a number. -/
def readLoad (command : Command) (reply : Reply) : Except Fault ConsumerLoad := do
  let (consumer, pending) ← readPair command reply
  return { consumer := ← readText command consumer, pending := ← readNumber command pending }

def readId? (command : Command) : Reply → Except Fault (Option EntryId)
  | nil => .ok none
  | reply => some <$> readId command reply

/-- Pending entries in sum. The consumers are read before the other parts. -/
def pendingOverview (command : Command) (reply : Reply) : Except Fault PendingOverview := do
  let (count, lowest, highest, consumers) ← readFour command (← accepted command reply)
  let consumers ← (← readArray command consumers).mapM (readLoad command)
  return {
    count := ← readNumber command count
    lowest := ← readId? command lowest
    highest := ← readId? command highest
    consumers }

end AppendLog.Reply
