import AppendLog.Proofs.Reply.Results
import AppendLog.Reply.Reading

/-!
# What readers fail with

A reader of a reply fails with nothing but what is wrong in the reply: an error of the server,
sorted by its text, or a mismatch, both under the name of the command. No such fault is a local
one. `Reader` is the family of the readers of whole replies, and `Reader.blamedOn_read` says so of
each.
-/

namespace AppendLog

/-- A fault that is found in the reply to a command: an error of the server, or a mismatch. -/
inductive Fault.Blames (command : Command) : Fault → Prop where
  | server (text : String) : Blames command (.ofServer command.name text)
  | mismatch (found : Mismatch) : Blames command (.ofMismatch command.name found)

theorem Fault.Blames.isLocal_eq_false {command : Command} {fault : Fault}
    (h : fault.Blames command) : fault.isLocal = false := by
  cases h with
  | server text => exact isLocal_ofServer _ _
  | mismatch found => exact isLocal_ofMismatch _ _

namespace Reply

variable {α β : Type}

/-- Whatever a result fails with is found in the reply to a command. -/
def BlamedOn (command : Command) (result : Except Fault α) : Prop :=
  ∀ fault, result = .error fault → fault.Blames command

namespace BlamedOn

variable {command : Command}

theorem ok (a : α) : BlamedOn command (.ok a) := FailsOnly.ok a

theorem error {fault : Fault} (hfault : fault.Blames command) :
    BlamedOn command (.error fault : Except Fault α) :=
  FailsOnly.error hfault

theorem mismatch (found : Mismatch) :
    BlamedOn command (.error (Reply.mismatch command found) : Except Fault α) :=
  error (.mismatch found)

theorem bind {result : Except Fault α} {next : α → Except Fault β} (h : BlamedOn command result)
    (hnext : ∀ a, BlamedOn command (next a)) : BlamedOn command (result >>= next) :=
  FailsOnly.bind h fun a _ => hnext a

theorem map (f : α → β) {result : Except Fault α} (h : BlamedOn command result) :
    BlamedOn command (f <$> result) :=
  FailsOnly.map f h

theorem mapM {f : α → Except Fault β} (h : ∀ a, BlamedOn command (f a)) (xs : List α) :
    BlamedOn command (xs.mapM f) :=
  FailsOnly.mapM h xs

end BlamedOn

/-! ## Pieces of a reply -/

variable (command : Command) (reply : Reply)

theorem blamedOn_accepted : BlamedOn command (accepted command reply) := by
  cases reply with
  | error text => exact .error (.server text)
  | _ => exact .ok _

theorem blamedOn_readText : BlamedOn command (readText command reply) := by
  cases reply with
  | status text => exact .ok text
  | bulk bytes =>
    rw [readText]
    split
    · exact .ok _
    · exact .mismatch _
  | _ => exact .mismatch _

theorem blamedOn_readId : BlamedOn command (readId command reply) := by
  apply (blamedOn_readText command reply).bind
  intro text
  split
  · exact .ok _
  · exact .mismatch _

theorem blamedOn_readNumber : BlamedOn command (readNumber command reply) := by
  rw [readNumber.eq_def]
  split
  · split
    · exact .ok _
    · exact .mismatch _
  · exact .mismatch _
  · exact .mismatch _
  · exact .mismatch _
  · -- A text is read as a number the same way whether it is a status or bytes.
    apply (blamedOn_readText command _).bind
    intro text
    split
    · exact .ok _
    · exact .mismatch _

theorem blamedOn_readArray : BlamedOn command (readArray command reply) := by
  cases reply with
  | nil => exact .ok []
  | array items => exact .ok items
  | _ => exact .mismatch _

/-- Most replies are read item by item, once they are accepted as an array. -/
theorem blamedOn_ofItems {next : List Reply → Except Fault α}
    (hnext : ∀ items, BlamedOn command (next items)) :
    BlamedOn command
      (accepted command reply >>= fun found => readArray command found >>= next) := by
  apply (blamedOn_accepted command reply).bind
  intro found
  exact (blamedOn_readArray command found).bind hnext

theorem blamedOn_readPair : BlamedOn command (readPair command reply) := by
  unfold readPair
  split
  · exact .ok _
  · exact .mismatch _
  · exact .mismatch _

theorem blamedOn_readFour : BlamedOn command (readFour command reply) := by
  unfold readFour
  split
  · exact .ok _
  · exact .mismatch _
  · exact .mismatch _

/-! ## Entries -/

theorem blamedOn_readValue : BlamedOn command (readValue command reply) := by
  cases reply with
  | status text => exact .ok _
  | bulk bytes => exact .ok bytes
  | _ => exact .mismatch _

/-- A name that stands twice is the caller's misuse for `insert`, but here it is a mismatch. -/
theorem blamedOn_readFields (fields : Fields) (items : List Reply) :
    BlamedOn command (readFields command fields items) := by
  fun_induction readFields command fields items with
  | case1 fields name value rest ih =>
    apply (blamedOn_readText command name).bind
    intro name
    apply (blamedOn_readValue command value).bind
    intro value
    split
    · next fields _ => exact ih fields
    · exact .mismatch _
  | case2 => exact .ok _

theorem blamedOn_readBody? : BlamedOn command (readBody? command reply) := by
  cases reply with
  | nil => exact .ok none
  | array items =>
    rw [readBody?]
    split
    · exact .mismatch _
    · exact (blamedOn_readFields command .empty items).map some
  | _ => exact .mismatch _

theorem blamedOn_readElement : BlamedOn command (readElement command reply) := by
  unfold readElement
  split
  · exact .ok none
  · apply (blamedOn_readPair command _).bind
    rintro ⟨id, body⟩
    apply (blamedOn_readId command id).bind
    intro id
    exact (blamedOn_readBody? command body).bind fun body => .ok _

theorem blamedOn_entries : BlamedOn command (entries command reply) := by
  apply blamedOn_ofItems
  intro items
  exact (BlamedOn.mapM (blamedOn_readElement command) items).bind fun found => .ok _

theorem blamedOn_readStream : BlamedOn command (readStream command reply) := by
  apply (blamedOn_readPair command reply).bind
  rintro ⟨key, body⟩
  apply (blamedOn_readText command key).bind
  intro key
  exact (blamedOn_entries command body).bind fun found => .ok _

/-! ## Pending entries -/

theorem blamedOn_readPending : BlamedOn command (readPending command reply) := by
  apply (blamedOn_readFour command reply).bind
  rintro ⟨id, consumer, idle, deliveries⟩
  apply (blamedOn_readId command id).bind
  intro id
  apply (blamedOn_readText command consumer).bind
  intro consumer
  apply (blamedOn_readNumber command idle).bind
  intro idle
  exact (blamedOn_readNumber command deliveries).bind fun deliveries => .ok _

theorem blamedOn_readLoad : BlamedOn command (readLoad command reply) := by
  apply (blamedOn_readPair command reply).bind
  rintro ⟨consumer, pending⟩
  apply (blamedOn_readText command consumer).bind
  intro consumer
  exact (blamedOn_readNumber command pending).bind fun pending => .ok _

theorem blamedOn_readId? : BlamedOn command (readId? command reply) := by
  unfold readId?
  split
  · exact .ok none
  · exact (blamedOn_readId command _).map some

end Reply

/-! ## Whole replies -/

/-- The readers of whole replies, one for each shape that a command returns. -/
inductive Reader where
  | assignedId
  | count
  | done
  | entries
  | messages
  | ids
  | pendingList
  | pendingOverview

namespace Reader

/-- What a reader makes of a reply. -/
def Found : Reader → Type
  | assignedId => EntryId
  | count => UInt64
  | done => Unit
  | entries => List Entry
  | messages => List Message
  | ids => List EntryId
  | pendingList => List PendingDelivery
  | pendingOverview => PendingOverview

def read : (reader : Reader) → Command → Reply → Except Fault reader.Found
  | assignedId => Reply.assignedId
  | count => Reply.count
  | done => Reply.done
  | entries => Reply.entries
  | messages => Reply.messages
  | ids => Reply.ids
  | pendingList => Reply.pendingList
  | pendingOverview => Reply.pendingOverview

open Reply in
/-- A reader fails with nothing but what it finds in the reply. -/
theorem blamedOn_read (reader : Reader) (command : Command) (reply : Reply) :
    BlamedOn command (reader.read command reply) := by
  have haccepted := blamedOn_accepted command reply
  cases reader with
  | assignedId =>
    apply haccepted.bind
    intro found
    split
    · exact .mismatch _
    · exact blamedOn_readId command _
  | count =>
    apply haccepted.bind
    intro found
    split
    · split
      · exact .ok _
      · exact .mismatch _
    · exact .mismatch _
  | done =>
    apply haccepted.bind
    intro found
    split
    · split
      · exact .ok ()
      · exact .mismatch _
    · exact .mismatch _
  | entries => exact blamedOn_entries command reply
  | messages =>
    apply blamedOn_ofItems
    intro streams
    exact (BlamedOn.mapM (blamedOn_readStream command) streams).bind fun found => .ok _
  | ids =>
    apply blamedOn_ofItems
    intro items
    exact BlamedOn.mapM (blamedOn_readId command) _
  | pendingList =>
    apply blamedOn_ofItems
    intro items
    exact BlamedOn.mapM (blamedOn_readPending command) items
  | pendingOverview =>
    apply haccepted.bind
    intro found
    apply (blamedOn_readFour command found).bind
    rintro ⟨total, lowest, highest, consumers⟩
    apply (blamedOn_readArray command consumers).bind
    intro items
    apply (BlamedOn.mapM (blamedOn_readLoad command) items).bind
    intro consumers
    apply (blamedOn_readNumber command total).bind
    intro total
    apply (blamedOn_readId? command lowest).bind
    intro lowest
    exact (blamedOn_readId? command highest).bind fun highest => .ok _

end Reader

end AppendLog
