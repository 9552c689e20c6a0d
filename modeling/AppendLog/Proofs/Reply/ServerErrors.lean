import AppendLog.Proofs.Reply.Blame
import AppendLog.Proofs.Wire.Entry

/-!
# Errors of the server

An error of the server may stand anywhere in a reply. No reader passes over one: what a reader takes
is clean, `Reader.clean_of_read`, deleted entries and parts that are skipped included. An error in
the place of the reply is handed on with its text, sorted by that text, `Fault.SortedFrom`.
`Reader.error_surfaces` puts both together.
-/

namespace AppendLog

/-! ## Sorting -/

/-- What a text of the server is sorted into: the mark of an existing group counts only at the start
and before all else, the ordering mark anywhere. The text is kept. -/
inductive Fault.SortedFrom (command text : String) : Fault → Prop where
  | groupExists (hstart : "BUSYGROUP".toList <+: text.toList) :
      SortedFrom command text (.groupExists text)
  | idOrdering (hstart : ¬ "BUSYGROUP".toList <+: text.toList)
      (hholds : "equal or smaller than the target stream top item".toList <:+: text.toList) :
      SortedFrom command text (.idOrdering command text)
  | other (hstart : ¬ "BUSYGROUP".toList <+: text.toList)
      (hholds : ¬ "equal or smaller than the target stream top item".toList <:+: text.toList) :
      SortedFrom command text (.protocol command (.server text))

namespace Fault

theorem sortedFrom_ofServer (command text : String) :
    (ofServer command text).SortedFrom command text := by
  simp only [ofServer, groupExistsMark, idOrderingMark, Text.beginsWith_iff, Text.holds_iff]
  split
  · next hstart => exact .groupExists hstart
  · next hstart =>
    split
    · next hholds => exact .idOrdering hstart hholds
    · next hholds => exact .other hstart hholds

theorem SortedFrom.eq_ofServer {command text : String} {fault : Fault}
    (h : fault.SortedFrom command text) : fault = ofServer command text := by
  simp only [ofServer, groupExistsMark, idOrderingMark, Text.beginsWith_iff, Text.holds_iff]
  cases h with
  | groupExists hstart => rw [if_pos hstart]
  | idOrdering hstart hholds => rw [if_neg hstart, if_pos hholds]
  | other hstart hholds => rw [if_neg hstart, if_neg hholds]

/-- A text is sorted into one fault, and into no other. -/
theorem sortedFrom_iff {command text : String} {fault : Fault} :
    fault.SortedFrom command text ↔ fault = ofServer command text := by
  constructor
  · exact SortedFrom.eq_ofServer
  · rintro rfl
    exact sortedFrom_ofServer command text

end Fault

/-! ## Clean replies -/

/-- No error of the server stands in the tree. -/
def Reply.Clean (reply : Reply) : Prop := ¬ reply.HoldsError

namespace Reply

@[simp] theorem clean_nil : Clean nil := by
  intro h
  cases h

@[simp] theorem clean_integer (n : Int64) : Clean (integer n) := by
  intro h
  cases h

@[simp] theorem clean_status (text : String) : Clean (status text) := by
  intro h
  cases h

@[simp] theorem clean_bulk (bytes : ByteArray) : Clean (bulk bytes) := by
  intro h
  cases h

@[simp] theorem clean_array {items : List Reply} :
    Clean (array items) ↔ ∀ item ∈ items, item.Clean := by
  constructor
  · intro h item hmem hitem
    exact h (.inside hmem hitem)
  · intro h harray
    cases harray with
    | inside hmem hitem => exact h _ hmem hitem

variable {command : Command} {reply : Reply}

/-! ## What is read is clean -/

/-- What follows on a reply that was accepted follows on the reply itself. -/
theorem next_of_accepted {α : Type} {next : Reply → Except Fault α} {a : α}
    (h : accepted command reply >>= next = .ok a) : next reply = .ok a := by
  cases reply with
  | error text => cases h
  | _ => exact h

/-- What is read item by item is read of the items of the reply. -/
theorem exists_items_of_eq_ok {α : Type} {next : List Reply → Except Fault α} {a : α}
    (h : (accepted command reply >>= fun found => readArray command found >>= next) = .ok a) :
    ∃ items, readArray command reply = .ok items ∧ next items = .ok a :=
  exists_of_bind_eq_ok (next_of_accepted h)

theorem clean_of_readText {text : String} (h : readText command reply = .ok text) :
    reply.Clean := by
  cases reply with
  | status text => simp
  | bulk bytes => simp
  | _ => cases h

theorem clean_of_readId {id : EntryId} (h : readId command reply = .ok id) : reply.Clean := by
  obtain ⟨text, htext, -⟩ := exists_of_bind_eq_ok h
  exact clean_of_readText htext

theorem clean_of_readNumber {n : UInt64} (h : readNumber command reply = .ok n) :
    reply.Clean := by
  cases reply with
  | integer n => simp
  | status text => simp
  | bulk bytes => simp
  | _ => cases h

theorem clean_iff_of_readArray {items : List Reply} (h : readArray command reply = .ok items) :
    reply.Clean ↔ ∀ item ∈ items, item.Clean := by
  cases reply with
  | nil =>
    obtain rfl := Except.ok.inj h
    simp
  | array items =>
    obtain rfl := Except.ok.inj h
    simp
  | _ => cases h

/-- An array is clean when each of its items can be read by a reader of clean items. -/
theorem clean_of_mapM {α : Type} {read : Reply → Except Fault α}
    (hread : ∀ {item a}, read item = .ok a → item.Clean) {items : List Reply} {found : List α}
    (hitems : readArray command reply = .ok items) (h : items.mapM read = .ok found) :
    reply.Clean := by
  rw [clean_iff_of_readArray hitems]
  intro item hmem
  obtain ⟨a, ha⟩ := exists_of_mapM_eq_ok h item hmem
  exact hread ha

theorem eq_of_readPair {a b : Reply} (h : readPair command reply = .ok (a, b)) :
    reply = array [a, b] := by
  unfold readPair at h
  split at h
  · obtain ⟨rfl, rfl⟩ := Prod.mk.inj (Except.ok.inj h)
    rfl
  · cases h
  · cases h

theorem eq_of_readFour {a b c d : Reply} (h : readFour command reply = .ok (a, b, c, d)) :
    reply = array [a, b, c, d] := by
  unfold readFour at h
  split at h
  · obtain ⟨rfl, rfl, rfl, rfl⟩ := by simpa only [Except.ok.injEq, Prod.mk.injEq] using h
    rfl
  · cases h
  · cases h

theorem clean_of_readValue {value : ByteArray} (h : readValue command reply = .ok value) :
    reply.Clean := by
  cases reply with
  | status text => simp
  | bulk bytes => simp
  | _ => cases h

/-- Names and values are read two by two, so of an even number of replies none is left unread. -/
theorem clean_of_readFields {fields found : Fields} {items : List Reply}
    (h : readFields command fields items = .ok found) (heven : items.length % 2 = 0) :
    ∀ item ∈ items, item.Clean := by
  fun_induction readFields command fields items with
  | case1 fields name value rest ih =>
    obtain ⟨nameText, hname, h⟩ := exists_of_bind_eq_ok h
    obtain ⟨bytes, hvalue, h⟩ := exists_of_bind_eq_ok h
    split at h
    · next next _ =>
      have hrest := ih next h (by simp only [List.length_cons] at heven; omega)
      intro item hmem
      simp only [List.mem_cons] at hmem
      rcases hmem with rfl | rfl | hmem
      · exact clean_of_readText hname
      · exact clean_of_readValue hvalue
      · exact hrest item hmem
    · cases h
  | case2 items fields hshort =>
    -- Fewer than two replies are left, and one alone would make the number odd.
    rcases items with _ | ⟨name, _ | ⟨value, rest⟩⟩
    · simp
    · simp at heven
    · exact absurd rfl (hshort name value rest)

theorem clean_of_readBody? {body : Option Fields} (h : readBody? command reply = .ok body) :
    reply.Clean := by
  cases reply with
  | nil => simp
  | array items =>
    rw [readBody?] at h
    split at h
    · cases h
    · next heven =>
      obtain ⟨found, hfields, -⟩ := exists_of_map_eq_ok h
      exact clean_array.2 (clean_of_readFields hfields (Decidable.not_not.1 heven))
  | _ => cases h

/-- The id of a deleted entry is read as well, so nothing of it goes unseen. -/
theorem clean_of_readElement {found : Option Entry} (h : readElement command reply = .ok found) :
    reply.Clean := by
  unfold readElement at h
  split at h
  · simp
  · obtain ⟨⟨id, body⟩, hpair, h⟩ := exists_of_bind_eq_ok h
    obtain ⟨_, hid, h⟩ := exists_of_bind_eq_ok h
    obtain ⟨_, hbody, -⟩ := exists_of_bind_eq_ok h
    rw [eq_of_readPair hpair]
    simp [clean_of_readId hid, clean_of_readBody? hbody]

theorem clean_of_entries {found : List Entry} (h : entries command reply = .ok found) :
    reply.Clean := by
  obtain ⟨items, hitems, h⟩ := exists_items_of_eq_ok h
  obtain ⟨elements, helements, -⟩ := exists_of_bind_eq_ok h
  exact clean_of_mapM clean_of_readElement hitems helements

theorem clean_of_readStream {found : List Message} (h : readStream command reply = .ok found) :
    reply.Clean := by
  obtain ⟨⟨key, body⟩, hpair, h⟩ := exists_of_bind_eq_ok h
  obtain ⟨_, hkey, h⟩ := exists_of_bind_eq_ok h
  obtain ⟨_, hbody, -⟩ := exists_of_bind_eq_ok h
  rw [eq_of_readPair hpair]
  simp [clean_of_readText hkey, clean_of_entries hbody]

theorem clean_of_readPending {found : PendingDelivery}
    (h : readPending command reply = .ok found) : reply.Clean := by
  obtain ⟨⟨id, consumer, idle, deliveries⟩, hfour, h⟩ := exists_of_bind_eq_ok h
  obtain ⟨_, hid, h⟩ := exists_of_bind_eq_ok h
  obtain ⟨_, hconsumer, h⟩ := exists_of_bind_eq_ok h
  obtain ⟨_, hidle, h⟩ := exists_of_bind_eq_ok h
  obtain ⟨_, hdeliveries, -⟩ := exists_of_bind_eq_ok h
  rw [eq_of_readFour hfour]
  simp [clean_of_readId hid, clean_of_readText hconsumer, clean_of_readNumber hidle,
    clean_of_readNumber hdeliveries]

theorem clean_of_readLoad {found : ConsumerLoad} (h : readLoad command reply = .ok found) :
    reply.Clean := by
  obtain ⟨⟨consumer, pending⟩, hpair, h⟩ := exists_of_bind_eq_ok h
  obtain ⟨_, hconsumer, h⟩ := exists_of_bind_eq_ok h
  obtain ⟨_, hpending, -⟩ := exists_of_bind_eq_ok h
  rw [eq_of_readPair hpair]
  simp [clean_of_readText hconsumer, clean_of_readNumber hpending]

theorem clean_of_readId? {found : Option EntryId} (h : readId? command reply = .ok found) :
    reply.Clean := by
  unfold readId? at h
  split at h
  · simp
  · obtain ⟨id, hid, -⟩ := exists_of_map_eq_ok h
    exact clean_of_readId hid

end Reply

/-! ## Whole replies -/

namespace Reader

open Reply in
/-- What a reader takes holds no error. -/
theorem clean_of_read {reader : Reader} {command : Command} {reply : Reply} {found : reader.Found}
    (h : reader.read command reply = .ok found) : reply.Clean := by
  cases reader with
  | assignedId =>
    have h := next_of_accepted h
    split at h
    · simp
    · exact clean_of_readId h
  | count =>
    have h := next_of_accepted h
    split at h
    · simp
    · cases h
  | done =>
    have h := next_of_accepted h
    split at h
    · simp
    · cases h
  | entries => exact clean_of_entries h
  | messages =>
    obtain ⟨streams, hstreams, h⟩ := exists_items_of_eq_ok h
    obtain ⟨found, hfound, -⟩ := exists_of_bind_eq_ok h
    exact clean_of_mapM clean_of_readStream hstreams hfound
  | ids =>
    obtain ⟨items, hitems, h⟩ := exists_items_of_eq_ok h
    rw [clean_iff_of_readArray hitems]
    intro item hmem
    -- An item that is left out is nil; every other one is read.
    cases hnil : item.isNil with
    | true =>
      cases item with
      | nil => simp
      | _ => cases hnil
    | false =>
      obtain ⟨id, hid⟩ := exists_of_mapM_eq_ok h item (by simp [hmem, hnil])
      exact clean_of_readId hid
  | pendingList =>
    obtain ⟨items, hitems, h⟩ := exists_items_of_eq_ok h
    exact clean_of_mapM clean_of_readPending hitems h
  | pendingOverview =>
    have h := next_of_accepted h
    obtain ⟨⟨total, lowest, highest, consumers⟩, hfour, h⟩ := exists_of_bind_eq_ok h
    obtain ⟨items, hitems, h⟩ := exists_of_bind_eq_ok h
    obtain ⟨_, hloads, h⟩ := exists_of_bind_eq_ok h
    obtain ⟨_, htotal, h⟩ := exists_of_bind_eq_ok h
    obtain ⟨_, hlowest, h⟩ := exists_of_bind_eq_ok h
    obtain ⟨_, hhighest, -⟩ := exists_of_bind_eq_ok h
    rw [eq_of_readFour hfour]
    simp [clean_of_readNumber htotal, clean_of_readId? hlowest, clean_of_readId? hhighest,
      clean_of_mapM clean_of_readLoad hitems hloads]

/-- An error in the place of the reply is the fault, whatever the reader. -/
theorem read_error (reader : Reader) (command : Command) (text : String) :
    reader.read command (.error text) = .error (.ofServer command.name text) := by
  cases reader <;> rfl

end Reader

/-- An error in the place of the entries of a stream is the fault of the stream. -/
theorem Reply.readStream_error (command : Command) {key : Reply} {name : String}
    (hkey : key.IsText name) (text : String) :
    readStream command (array [key, error text]) = .error (.ofServer command.name text) := by
  simp only [readStream, readPair, readText_of_isText command hkey, Bind.bind, Except.bind,
    entries, accepted]

/-- An error in the place of the entries of the first stream is the fault. -/
theorem Reply.messages_error (command : Command) {key : Reply} {name : String}
    (hkey : key.IsText name) (text : String) (rest : List Reply) :
    messages command (array (array [key, error text] :: rest)) =
      .error (.ofServer command.name text) := by
  simp only [messages, accepted, readArray, List.mapM_cons, readStream_error command hkey text,
    Bind.bind, Except.bind]

/-- **No error of the server is passed over.** A reader fails on every reply in which an error
stands, at whatever depth, with a fault found in that reply. If the error stands in the place of
the reply, or in the place of the entries of the first stream that was read, the fault is that
error: its text as it is, sorted by the text, under the name of the command. -/
theorem Reader.error_surfaces (command : Command) :
    (∀ (reader : Reader) (reply : Reply), reply.HoldsError →
      ∃ fault, reader.read command reply = .error fault ∧ fault.Blames command) ∧
    (∀ (reader : Reader) (text : String),
      reader.read command (.error text) = .error (.ofServer command.name text)) ∧
    (∀ (key : Reply) (name text : String) (rest : List Reply), key.IsText name →
      Reply.messages command (.array (.array [key, .error text] :: rest)) =
        .error (.ofServer command.name text)) ∧
    ∀ (text : String) (fault : Fault),
      fault = .ofServer command.name text ↔ fault.SortedFrom command.name text := by
  refine ⟨?_, ?_, ?_, ?_⟩
  · intro reader reply herror
    cases hread : reader.read command reply with
    | error fault => exact ⟨fault, rfl, reader.blamedOn_read command reply fault hread⟩
    | ok found => exact absurd herror (clean_of_read hread)
  · intro reader text
    exact reader.read_error command text
  · intro key name text rest hkey
    exact Reply.messages_error command hkey text rest
  · intro text fault
    exact Fault.sortedFrom_iff.symm

/-- An error in the place of a value, behind two deleted entries, and one in the place of the
entries of a stream. -/
theorem Reader.error_surfaces_behind_deleted :
    let deleted : Reply := .array [.bulk (EntryId.text ⟨1, 0⟩).toUTF8, .nil]
    let broken : Reply := .array [.bulk (EntryId.text ⟨2, 0⟩).toUTF8,
      .array [.bulk "k".toUTF8, .error "ERR no value"]]
    let reply : Reply := .array [.nil, deleted, broken]
    (reply.HoldsError ∧
      ∃ fault, Reply.entries .range reply = .error fault ∧ fault.Blames .range) ∧
    ((Reply.status "s").IsText "s" ∧
      Reply.messages .read (.array [.array [.status "s", .error "BUSYGROUP no group"], .nil]) =
        .error (.ofServer "XREAD" "BUSYGROUP no group")) := by
  intro deleted broken reply
  have hvalue : (Reply.array [.bulk "k".toUTF8, .error "ERR no value"]).HoldsError :=
    .inside (by simp) (.top "ERR no value")
  have hbroken : broken.HoldsError := .inside (by simp) hvalue
  have herror : reply.HoldsError := .inside (by simp) hbroken
  refine ⟨⟨herror, (error_surfaces .range).1 .entries reply herror⟩, .status, ?_⟩
  exact (error_surfaces .read).2.2.1 _ "s" "BUSYGROUP no group" [.nil] .status

end AppendLog
