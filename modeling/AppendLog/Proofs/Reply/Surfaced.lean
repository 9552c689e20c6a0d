import AppendLog.Proofs.Reply.Messages
import AppendLog.Proofs.Reply.Numbers

/-!
# Errors that are handed on

A reader tells an error of the server from a reply of the wrong shape only where the error stands in
the place of something that it accepts: the whole reply, or the entries of a stream. `Surfaces` says
where that is, and `Reader.read_eq_ofServer_iff` that nothing else has the fault of an error.
-/

namespace AppendLog

/-! ## Faults of errors and of shapes -/

namespace Fault

theorem ofServer_ne_ofMismatch (name text : String) (found : Mismatch) :
    ofServer name text ≠ ofMismatch name found := by
  intro h
  cases (sortedFrom_iff.2 h.symm : (ofMismatch name found).SortedFrom name text)

/-- The text is kept, so one fault comes of one text. -/
theorem ofServer_inj {name text text' : String} :
    ofServer name text = ofServer name text' ↔ text = text' := by
  constructor
  · intro h
    have hsorted := sortedFrom_ofServer name text
    rw [h] at hsorted
    generalize hfault : ofServer name text' = fault at hsorted
    have hsorted' := sortedFrom_iff.2 hfault.symm
    cases hsorted <;> cases hsorted' <;> rfl
  · rintro rfl
    rfl

/-- A fault found in the reply to a command: for its shape, or for an error with one of these
texts. -/
inductive Quotes (command : Command) (texts : String → Prop) : Fault → Prop where
  | shape (why : Mismatch) : Quotes command texts (.ofMismatch command.name why)
  | server {text : String} (h : texts text) : Quotes command texts (.ofServer command.name text)

end Fault

namespace Reply

variable {α : Type} {command : Command} {reply : Reply} {result : Except Fault α}

/-- A result fails only for the shape of a reply. -/
def Misread (command : Command) (result : Except Fault α) : Prop :=
  FailsOnly (fun fault => ∃ why, fault = mismatch command why) result

theorem Exact.misread {form : α → Prop} {defect : Mismatch → Prop}
    (h : Exact command result form defect) : Misread command result := by
  intro fault hfault
  obtain ⟨why, -, hwhy⟩ := h.error_iff.1 hfault
  exact ⟨why, hwhy⟩

theorem misread_mismatch (why : Mismatch) :
    Misread command (.error (mismatch command why) : Except Fault α) :=
  FailsOnly.error ⟨why, rfl⟩

/-- Where a result fails only for a shape, no text of the server is in its fault. -/
theorem Misread.quotes (h : Misread command result) (texts : String → Prop) :
    FailsOnly (Fault.Quotes command texts) result := by
  intro fault hfault
  obtain ⟨why, rfl⟩ := h fault hfault
  exact .shape why

theorem misread_readArray (command : Command) (reply : Reply) :
    Misread command (readArray command reply) := by
  cases reply with
  | nil => exact FailsOnly.ok []
  | array items => exact FailsOnly.ok items
  | _ => exact misread_mismatch _

theorem accepted_of_ne_error (hserver : ∀ text, reply ≠ error text) :
    accepted command reply = .ok reply := by
  cases reply with
  | error text => exact absurd rfl (hserver text)
  | _ => rfl

variable (hserver : ∀ text, reply ≠ error text)

include hserver

theorem misread_assignedId : Misread command (assignedId command reply) := by
  rw [assignedId, accepted_of_ne_error hserver]
  refine FailsOnly.bind (FailsOnly.ok reply) ?_
  intro found _
  split
  · exact misread_mismatch _
  · exact (exact_readId command _).misread

theorem misread_count : Misread command (count command reply) := by
  rw [count, accepted_of_ne_error hserver]
  cases reply with
  | integer n =>
    change Misread command (if 0 ≤ n then .ok n.toUInt64 else .error (mismatch command _))
    split
    · exact FailsOnly.ok _
    · exact misread_mismatch _
  | _ => exact misread_mismatch _

theorem misread_done : Misread command (done command reply) := by
  rw [done, accepted_of_ne_error hserver]
  cases reply with
  | status text =>
    change Misread command (if _ then .ok () else .error (mismatch command _))
    split
    · exact FailsOnly.ok ()
    · exact misread_mismatch _
  | _ => exact misread_mismatch _

theorem misread_ids : Misread command (ids command reply) := by
  rw [ids, accepted_of_ne_error hserver]
  apply (misread_readArray command reply).bind
  intro items _
  exact FailsOnly.mapM (fun item => (exact_readId command item).misread) _

end Reply

/-! ## Where errors are handed on -/

/-- The places of an error that is handed on: that of the reply, and that of the entries of a
stream, behind streams that can be read. -/
inductive Surfaces (command : Command) (text : String) : Reader → Reply → Prop where
  | top (reader : Reader) : Surfaces command text reader (.error text)
  | stream {before after : List Reply} {key : Reply} {name : String}
      (hbefore : ∀ one ∈ before, ∃ name live, one.IsStream command name live)
      (hkey : key.IsText name) :
      Surfaces command text .messages (.array (before ++ .array [key, .error text] :: after))

namespace Reply

variable {command : Command} {stream reply : Reply}

/-- A stream fails for its shape, or for an error in the place of its entries. -/
theorem quotes_readStream (command : Command) (stream : Reply) :
    FailsOnly (Fault.Quotes command fun text =>
      ∃ key name, stream = array [key, error text] ∧ key.IsText name)
      (readStream command stream) := by
  unfold readStream
  refine ((exact_readPair command stream).misread.quotes _).bind ?_
  rintro ⟨key, body⟩ hpair
  refine ((exact_readText command key).misread.quotes _).bind ?_
  intro name hname
  refine FailsOnly.bind ?_ fun found _ => .ok _
  by_cases hserver : ∃ text, body = error text
  · obtain ⟨text, rfl⟩ := hserver
    have hkey : key.IsText name := (exact_readText command key).ok_iff.1 hname
    exact .error (.server ⟨key, name, eq_of_readPair hpair, hkey⟩)
  · have hexact := exact_entries command fun text h => hserver ⟨text, h⟩
    exact hexact.misread.quotes _

/-- Streams fail for the shape of the reply, or for the error of the first that cannot be read. -/
theorem quotes_messages (hserver : ∀ text, reply ≠ error text) :
    FailsOnly (Fault.Quotes command fun text => Surfaces command text .messages reply)
      (messages command reply) := by
  rw [messages, accepted_of_ne_error hserver]
  refine ((misread_readArray command reply).quotes _).bind ?_
  intro streams hstreams
  refine FailsOnly.bind ?_ fun found _ => .ok _
  intro fault hfault
  obtain ⟨before, stream, after, rfl, hbefore, hfirst⟩ := exists_of_mapM_eq_error hfault
  have hread : ∀ one ∈ before, ∃ name live, one.IsStream command name live := by
    intro one hmem
    obtain ⟨found, hfound⟩ := hbefore one hmem
    obtain ⟨name, live, hstream, -⟩ := readStream_eq_ok_iff.1 hfound
    exact ⟨name, live, hstream⟩
  cases quotes_readStream command stream fault hfirst with
  | shape why => exact .shape why
  | server h =>
    obtain ⟨key, name, rfl, hkey⟩ := h
    cases reply with
    | nil => simp [readArray] at hstreams
    | array items =>
      obtain rfl := Except.ok.inj hstreams
      exact .server (.stream hread hkey)
    | _ => cases hstreams

end Reply

namespace Reader

variable {command : Command} {reply : Reply} {text : String}

/-- A reader fails for the shape of a reply, or for an error that it hands on. -/
theorem quotes_read (reader : Reader) (command : Command) (reply : Reply) :
    FailsOnly (Fault.Quotes command fun text => Surfaces command text reader reply)
      (reader.read command reply) := by
  by_cases hserver : ∃ text, reply = .error text
  · obtain ⟨text, rfl⟩ := hserver
    rw [read_error]
    exact .error (.server (.top reader))
  · have hserver : ∀ text, reply ≠ .error text := fun text h => hserver ⟨text, h⟩
    cases reader with
    | assignedId => exact (Reply.misread_assignedId hserver).quotes _
    | count => exact (Reply.misread_count hserver).quotes _
    | done => exact (Reply.misread_done hserver).quotes _
    | entries => exact (Reply.exact_entries command hserver).misread.quotes _
    | messages => exact Reply.quotes_messages hserver
    | ids => exact (Reply.misread_ids hserver).quotes _
    | pendingList => exact (Reply.exact_pendingList command hserver).misread.quotes _
    | pendingOverview => exact (Reply.exact_pendingOverview command hserver).misread.quotes _

/-- **What has the fault of an error is that error.** A reader fails with the fault of a text of the
server exactly if an error of that text stands where it is handed on. -/
theorem read_eq_ofServer_iff {reader : Reader} :
    reader.read command reply = .error (.ofServer command.name text) ↔
      Surfaces command text reader reply := by
  constructor
  · intro h
    generalize hfault : Fault.ofServer command.name text = fault at h
    cases reader.quotes_read command reply fault h with
    | shape why => exact absurd hfault (Fault.ofServer_ne_ofMismatch _ _ _)
    | server hsurfaces =>
      rw [Fault.ofServer_inj.1 hfault]
      exact hsurfaces
  · intro h
    cases h with
    | top => exact reader.read_error command text
    | @stream before after key name hbefore hkey =>
      have hread : ∀ one ∈ before, ∃ found, Reply.readStream command one = .ok found := by
        intro one hmem
        obtain ⟨name, live, hstream⟩ := hbefore one hmem
        exact ⟨_, Reply.readStream_eq_ok_iff.2 ⟨name, live, hstream, rfl⟩⟩
      have hstreams : (before ++ .array [key, .error text] :: after).mapM
          (Reply.readStream command) = .error (.ofServer command.name text) :=
        mapM_eq_error hread (Reply.readStream_error command hkey text)
      change Reply.messages command _ = _
      rw [Reply.messages_eq, hstreams]
      rfl

end Reader

end AppendLog
