import AppendLog.Proofs.Reply.Results
import AppendLog.Proofs.Wire.Text
import AppendLog.Reply.Reading

/-!
# Entries that come back from the wire

An entry in a reply is its id and its body, the body being names and values that follow each other.
A server that answers with entries written so is understood: `Reply.entries_map_toReply` for one
stream, `Reply.messages_singleton` for a read of one stream.
-/

namespace AppendLog

/-- The names and values of a body, one after the other. -/
def Fields.toReplies (fields : Fields) : List Reply :=
  fields.pairs.flatMap fun (name, value) => [.bulk name.toUTF8, .bulk value]

/-- An entry as an element of a reply. -/
def Entry.toReply (entry : Entry) : Reply :=
  .array [.bulk entry.id.text.toUTF8, .array entry.fields.toReplies]

theorem Fields.insert_of_notMem {fields : Fields} {name : String} (h : name ∉ fields.names)
    (value : ByteArray) :
    fields.insert name value = .ok ⟨fields.pairs ++ [(name, value)], nodup_push h value⟩ :=
  dif_neg h

namespace Reply

variable (command : Command)

/-! ## Texts and values -/

/-- A reply that is a text: the status of it, or its bytes. -/
inductive IsText (text : String) : Reply → Prop where
  | status : IsText text (status text)
  | bulk : IsText text (bulk text.toUTF8)

/-- A reply that is bytes: those of a bulk, or those of a status. -/
inductive IsValue : ByteArray → Reply → Prop where
  | bulk (bytes : ByteArray) : IsValue bytes (bulk bytes)
  | status (text : String) : IsValue text.toUTF8 (status text)

theorem readText_of_isText {reply : Reply} {text : String} (h : reply.IsText text) :
    readText command reply = .ok text := by
  cases h with
  | status => rfl
  | bulk => rw [readText, fromUTF8?_toUTF8]

theorem readValue_of_isValue {reply : Reply} {value : ByteArray} (h : reply.IsValue value) :
    readValue command reply = .ok value := by
  cases h <;> rfl

theorem readId_of_isText {reply : Reply} {id : EntryId} (h : reply.IsText id.text) :
    readId command reply = .ok id := by
  simp only [readId, readText_of_isText command h, EntryId.read_text, Bind.bind, Except.bind]
  rfl

/-! ## Bodies -/

/-- Names and values that follow each other. -/
inductive IsPairs : List (String × ByteArray) → List Reply → Prop where
  | nil : IsPairs [] []
  | cons {n : String} {v : ByteArray} {pairs : List (String × ByteArray)} {name value : Reply}
      {rest : List Reply} (hname : name.IsText n) (hvalue : value.IsValue v)
      (hrest : IsPairs pairs rest) : IsPairs ((n, v) :: pairs) (name :: value :: rest)

theorem isPairs_flatMap (pairs : List (String × ByteArray)) :
    IsPairs pairs (pairs.flatMap fun (name, value) => [.bulk name.toUTF8, .bulk value]) := by
  induction pairs with
  | nil => exact .nil
  | cons pair rest ih => exact .cons .bulk (.bulk pair.2) ih

theorem IsPairs.even_length {pairs : List (String × ByteArray)} {items : List Reply}
    (h : IsPairs pairs items) : items.length % 2 = 0 := by
  induction h with
  | nil => rfl
  | cons _ _ _ ih =>
    simp only [List.length_cons]
    omega

/-- Reading goes on from the fields read so far, whose names must not come again. -/
theorem readFields_of_isPairs {pairs : List (String × ByteArray)} {items : List Reply}
    (h : IsPairs pairs items) (fields : Fields)
    (distinct : ((fields.pairs ++ pairs).map Prod.fst).Nodup) :
    readFields command fields items = .ok ⟨fields.pairs ++ pairs, distinct⟩ := by
  induction h generalizing fields with
  | nil =>
    simp only [List.append_nil]
    rfl
  | @cons n v pairs name value rest hname hvalue _ ih =>
    -- A name that was read before would stand twice in the whole list.
    have hfresh : n ∉ fields.names := by
      intro hmem
      rw [List.map_append, List.nodup_append] at distinct
      exact distinct.2.2 n hmem n (by simp) rfl
    have hnext := ih ⟨fields.pairs ++ [(n, v)], Fields.nodup_push hfresh v⟩ (by simpa using distinct)
    simp only [readFields, readText_of_isText command hname, readValue_of_isValue command hvalue,
      Bind.bind, Except.bind, Fields.insert_of_notMem hfresh]
    rw [hnext]
    simp only [List.append_assoc, List.cons_append, List.nil_append]

theorem readBody?_of_isPairs {pairs : List (String × ByteArray)} {items : List Reply}
    (h : IsPairs pairs items) (distinct : (pairs.map Prod.fst).Nodup) :
    readBody? command (array items) = .ok (some ⟨pairs, distinct⟩) := by
  have heven : ¬ items.length % 2 ≠ 0 := by simp [h.even_length]
  rw [readBody?, if_neg heven, readFields_of_isPairs command h .empty distinct]
  rfl

/-! ## Entries and messages -/

theorem readElement_toReply (entry : Entry) :
    readElement command entry.toReply = .ok (some entry) := by
  have hbody := readBody?_of_isPairs command (isPairs_flatMap entry.fields.pairs)
    entry.fields.distinct
  simp only [readElement, Entry.toReply, Fields.toReplies, readPair, Bind.bind, Except.bind,
    readId_of_isText command .bulk, hbody]
  rfl

/-- The element of a deleted entry is its id without a body. -/
theorem readElement_deleted (id : EntryId) :
    readElement command (.array [.bulk id.text.toUTF8, .nil]) = .ok none := by
  simp only [readElement, readPair, Bind.bind, Except.bind, readId_of_isText command .bulk,
    readBody?]
  rfl

/-- Elements that can be read give the entries that were not deleted. -/
theorem entries_of_mapM {items : List Reply} {found : List (Option Entry)}
    (h : items.mapM (readElement command) = .ok found) :
    entries command (.array items) = .ok (found.filterMap id) := by
  simp only [entries, accepted, readArray, Bind.bind, Except.bind, h]
  rfl

/-- What is written as entries is read as the same entries. -/
theorem entries_map_toReply (found : List Entry) :
    entries command (.array (found.map Entry.toReply)) = .ok found := by
  rw [entries_of_mapM command (mapM_map_of_ok (readElement_toReply command) found),
    List.filterMap_map]
  exact congrArg _ (List.filterMap_some)

/-- The entries of a stream are its messages, each with the name of the stream. -/
theorem readStream_of_entries {key body : Reply} {name : String} {found : List Entry}
    (hkey : key.IsText name) (hbody : entries command body = .ok found) :
    readStream command (.array [key, body]) = .ok (found.map fun entry => ⟨name, entry⟩) := by
  simp only [readStream, readPair, Bind.bind, Except.bind, readText_of_isText command hkey, hbody]
  rfl

/-- A read of one stream gives the messages of that stream. -/
theorem messages_of_entries {key body : Reply} {name : String} {found : List Entry}
    (hkey : key.IsText name) (hbody : entries command body = .ok found) :
    messages command (.array [.array [key, body]]) =
      .ok (found.map fun entry => ⟨name, entry⟩) := by
  simp only [messages, accepted, readArray, List.mapM_cons, List.mapM_nil, Bind.bind,
    Except.bind, readStream_of_entries command hkey hbody, Pure.pure, Except.pure]
  simp

theorem messages_singleton (key : String) (found : List Entry) :
    messages command
        (.array [.array [.bulk key.toUTF8, .array (found.map Entry.toReply)]]) =
      .ok (found.map fun entry => ⟨key, entry⟩) :=
  messages_of_entries command .bulk (entries_map_toReply command found)

end Reply

end AppendLog
