import AppendLog.Proofs.Reply.Exact
import AppendLog.Proofs.Wire.Entry

/-!
# The form of entries

A list of entries in a reply has a form, and what has not that form is defective. `HoldsEntries`
says what a reply stands for: an element is nil, or an id with nil for a deleted entry, or an id
with names and values. `NoEntries` says what is wrong with a reply that stands for nothing: the
first element that is none, and in it the first thing that is not as it should be. Neither mentions
a reader of replies. `Reply.entries_exact` says that the reader follows both.
-/

namespace AppendLog

theorem toUTF8_of_fromUTF8? {bytes : ByteArray} {text : String}
    (h : String.fromUTF8? bytes = some text) : text.toUTF8 = bytes := by
  unfold String.fromUTF8? at h
  split at h
  · obtain rfl := Option.some.inj h
    rfl
  · cases h

namespace Reply

/-! ## Texts and ids -/

/-- What is wrong with a reply that is no bytes. -/
def NoValue (why : Mismatch) (reply : Reply) : Prop :=
  (∀ value, ¬ reply.IsValue value) ∧ why = .kind "field value" reply.kind

/-- What is wrong with a reply that is no text. -/
inductive NoText : Mismatch → Reply → Prop where
  | kind {reply : Reply} (h : ∀ value, ¬ reply.IsValue value) :
      NoText (.kind "text" reply.kind) reply
  | notUtf8 {bytes : ByteArray} (h : ∀ text : String, text.toUTF8 ≠ bytes) :
      NoText .textNotUtf8 (bulk bytes)

/-- A reply that is a text from which an id can be read. -/
def IsId (id : EntryId) (reply : Reply) : Prop :=
  ∃ text, reply.IsText text ∧ EntryId.parse text = .ok id

theorem isId_of_isText {id : EntryId} {text : String} {reply : Reply} (hid : id.text = text)
    (h : reply.IsText text) : reply.IsId id :=
  ⟨text, h, hid ▸ id.parse_text⟩

/-- What is wrong with a reply that is no id. -/
def NoId (why : Mismatch) (reply : Reply) : Prop :=
  reply.NoText why ∨
    ∃ text, reply.IsText text ∧ (∀ id, EntryId.parse text ≠ .ok id) ∧ why = .idMalformed text

/-! ## Elements -/

/-- What is wrong first with names and values of which none may be named as one before. -/
inductive NoPairs : List String → Mismatch → List Reply → Prop where
  | name {names : List String} {why : Mismatch} {name value : Reply} {rest : List Reply}
      (h : name.NoText why) : NoPairs names why (name :: value :: rest)
  | value {names : List String} {why : Mismatch} {n : String} {name value : Reply}
      {rest : List Reply} (hname : name.IsText n) (h : value.NoValue why) :
      NoPairs names why (name :: value :: rest)
  | repeated {names : List String} {n : String} {v : ByteArray} {name value : Reply}
      {rest : List Reply} (hname : name.IsText n) (hvalue : value.IsValue v) (h : n ∈ names) :
      NoPairs names .fieldNameRepeated (name :: value :: rest)
  | later {names : List String} {why : Mismatch} {n : String} {v : ByteArray} {name value : Reply}
      {rest : List Reply} (hname : name.IsText n) (hvalue : value.IsValue v) (h : n ∉ names)
      (hrest : NoPairs (names ++ [n]) why rest) : NoPairs names why (name :: value :: rest)

/-- An element of a list of entries with the entry that it stands for, if it was not deleted. -/
inductive IsElement : Option Entry → Reply → Prop where
  | nil : IsElement none nil
  | deleted {id : EntryId} {raw : Reply} (hid : raw.IsId id) : IsElement none (array [raw, nil])
  | live {id : EntryId} {raw : Reply} {pairs : List (String × ByteArray)} {items : List Reply}
      (hid : raw.IsId id) (distinct : (pairs.map Prod.fst).Nodup) (hpairs : IsPairs pairs items) :
      IsElement (some ⟨id, ⟨pairs, distinct⟩⟩) (array [raw, array items])

/-- What is wrong first with a reply that is no element. The id counts before the body, also where
the body is nil. -/
inductive NoElement : Mismatch → Reply → Prop where
  | kind {reply : Reply} (hnil : reply ≠ nil) (harray : ∀ items, reply ≠ array items) :
      NoElement (.kind "array" reply.kind) reply
  | length {items : List Reply} (h : items.length ≠ 2) :
      NoElement (.length 2 items.length) (array items)
  | id {why : Mismatch} {raw body : Reply} (h : raw.NoId why) : NoElement why (array [raw, body])
  | body {id : EntryId} {raw body : Reply} (hid : raw.IsId id) (hnil : body ≠ nil)
      (harray : ∀ items, body ≠ array items) :
      NoElement (.kind "field array" body.kind) (array [raw, body])
  | odd {id : EntryId} {raw : Reply} {items : List Reply} (hid : raw.IsId id)
      (h : items.length % 2 = 1) : NoElement .fieldCountOdd (array [raw, array items])
  | pairs {id : EntryId} {why : Mismatch} {raw : Reply} {items : List Reply} (hid : raw.IsId id)
      (heven : items.length % 2 = 0) (h : NoPairs [] why items) :
      NoElement why (array [raw, array items])

/-! ## Lists of entries -/

/-- A list of entries with those that were not deleted, in order. -/
inductive HoldsEntries : List Entry → Reply → Prop where
  | nil : HoldsEntries [] nil
  | array {items : List Reply} {found : List (Option Entry)}
      (h : List.Forall₂ (fun item entry => item.IsElement entry) items found) :
      HoldsEntries (found.filterMap id) (array items)

/-- What is wrong first with a reply that is no list of entries: all elements before the one that it
blames are well formed. -/
inductive NoEntries : Mismatch → Reply → Prop where
  | kind {reply : Reply} (hnil : reply ≠ nil) (harray : ∀ items, reply ≠ array items) :
      NoEntries (.kind "array" reply.kind) reply
  | element {why : Mismatch} {before after : List Reply} {item : Reply}
      (hbefore : ∀ one ∈ before, ∃ entry, one.IsElement entry) (h : item.NoElement why) :
      NoEntries why (array (before ++ item :: after))

/-! ## A form or a defect -/

theorem isText_or_noText (reply : Reply) :
    (∃ text, reply.IsText text) ∨ ∃ why, reply.NoText why := by
  cases reply with
  | status text => exact .inl ⟨text, .status⟩
  | bulk bytes =>
    by_cases htext : ∃ text : String, text.toUTF8 = bytes
    · obtain ⟨text, rfl⟩ := htext
      exact .inl ⟨text, .bulk⟩
    · exact .inr ⟨_, .notUtf8 fun text h => htext ⟨text, h⟩⟩
  | _ => exact .inr ⟨_, .kind fun _ h => by cases h⟩

theorem isValue_or_noValue (reply : Reply) :
    (∃ value, reply.IsValue value) ∨ ∃ why, reply.NoValue why := by
  by_cases h : ∃ value, reply.IsValue value
  · exact .inl h
  · exact .inr ⟨_, fun value hvalue => h ⟨value, hvalue⟩, rfl⟩

theorem isId_or_noId (reply : Reply) : (∃ id, reply.IsId id) ∨ ∃ why, reply.NoId why := by
  rcases isText_or_noText reply with ⟨text, htext⟩ | ⟨why, hwhy⟩
  · by_cases hid : ∃ id, EntryId.parse text = .ok id
    · obtain ⟨id, hid⟩ := hid
      exact .inl ⟨id, text, htext, hid⟩
    · exact .inr ⟨_, .inr ⟨text, htext, fun id h => hid ⟨id, h⟩, rfl⟩⟩
  · exact .inr ⟨why, .inl hwhy⟩

/-- An even number of replies are names and values that are all different, or something is wrong
with them. -/
theorem isPairs_or_noPairs {names : List String} (hnames : names.Nodup) :
    (items : List Reply) → items.length % 2 = 0 →
      (∃ pairs, IsPairs pairs items ∧ (names ++ pairs.map Prod.fst).Nodup) ∨
        ∃ why, NoPairs names why items
  | [], _ => .inl ⟨[], .nil, by simpa using hnames⟩
  | [_], heven => absurd heven (by simp)
  | name :: value :: rest, heven => by
    have hrest : rest.length % 2 = 0 := by
      simp only [List.length_cons] at heven
      omega
    rcases isText_or_noText name with ⟨n, hname⟩ | ⟨why, hwhy⟩
    · rcases isValue_or_noValue value with ⟨v, hvalue⟩ | ⟨why, hwhy⟩
      · by_cases hn : n ∈ names
        · exact .inr ⟨_, .repeated hname hvalue hn⟩
        · have hnext : (names ++ [n]).Nodup := by
            rw [List.nodup_append]
            refine ⟨hnames, by simp, ?_⟩
            rintro other hmem last hlast rfl
            exact hn (List.mem_singleton.1 hlast ▸ hmem)
          rcases isPairs_or_noPairs hnext rest hrest with
            ⟨pairs, hpairs, hdistinct⟩ | ⟨why, hwhy⟩
          · exact .inl ⟨(n, v) :: pairs, .cons hname hvalue hpairs, by simpa using hdistinct⟩
          · exact .inr ⟨why, .later hname hvalue hn hwhy⟩
      · exact .inr ⟨why, .value hname hwhy⟩
    · exact .inr ⟨why, .name hwhy⟩

/-- Behind an id, only the body can be wrong. -/
theorem isElement_or_noElement_of_isId {id : EntryId} {raw : Reply} (hid : raw.IsId id)
    (body : Reply) : (∃ entry, (array [raw, body]).IsElement entry) ∨
      ∃ why, (array [raw, body]).NoElement why := by
  cases body with
  | nil => exact .inl ⟨none, .deleted hid⟩
  | array items =>
    rcases Nat.mod_two_eq_zero_or_one items.length with heven | hodd
    · rcases isPairs_or_noPairs List.nodup_nil items heven with
        ⟨pairs, hpairs, hdistinct⟩ | ⟨why, hwhy⟩
      · exact .inl ⟨_, .live hid hdistinct hpairs⟩
      · exact .inr ⟨why, .pairs hid heven hwhy⟩
    · exact .inr ⟨_, .odd hid hodd⟩
  | _ => exact .inr ⟨_, .body hid (by simp) (by simp)⟩

theorem isElement_or_noElement (reply : Reply) :
    (∃ entry, reply.IsElement entry) ∨ ∃ why, reply.NoElement why := by
  cases reply with
  | nil => exact .inl ⟨none, .nil⟩
  | array items =>
    by_cases hlength : items.length = 2
    · obtain ⟨raw, body, rfl⟩ := List.length_eq_two.1 hlength
      rcases isId_or_noId raw with ⟨id, hid⟩ | ⟨why, hwhy⟩
      · exact isElement_or_noElement_of_isId hid body
      · exact .inr ⟨why, .id hwhy⟩
    · exact .inr ⟨_, .length hlength⟩
  | _ => exact .inr ⟨_, .kind (by simp) (by simp)⟩

/-! ## The readers are exact -/

variable (command : Command) (reply : Reply)

theorem exact_readText : Exact command (readText command reply) (fun text => reply.IsText text)
    (fun why => reply.NoText why) where
  takes text h := readText_of_isText command h
  refuses := by
    intro why h
    cases h with
    | kind h =>
      cases reply with
      | status text => exact absurd (.status text) (h _)
      | bulk bytes => exact absurd (.bulk bytes) (h _)
      | _ => rfl
    | @notUtf8 bytes h =>
      rw [readText]
      split
      · next text htext => exact absurd (toUTF8_of_fromUTF8? htext) (h text)
      · rfl
  covers := isText_or_noText reply

theorem exact_readValue : Exact command (readValue command reply) (fun value => reply.IsValue value)
    (fun why => reply.NoValue why) where
  takes value h := readValue_of_isValue command h
  refuses := by
    rintro why ⟨h, rfl⟩
    cases reply with
    | status text => exact absurd (.status text) (h _)
    | bulk bytes => exact absurd (.bulk bytes) (h _)
    | _ => rfl
  covers := isValue_or_noValue reply

theorem exact_readId : Exact command (readId command reply) (fun id => reply.IsId id)
    (fun why => reply.NoId why) where
  takes := by
    rintro id ⟨text, htext, hid⟩
    simp only [readId, (exact_readText command reply).takes text htext,
      EntryId.parse_eq_ok_iff.1 hid, Bind.bind, Except.bind]
    rfl
  refuses := by
    rintro why (hwhy | ⟨text, htext, hid, rfl⟩)
    · simp only [readId, (exact_readText command reply).refuses why hwhy, Bind.bind, Except.bind]
    · simp only [readId, (exact_readText command reply).takes text htext, Bind.bind, Except.bind]
      split
      · next id hread => exact absurd (EntryId.parse_eq_ok_iff.2 hread) (hid id)
      · rfl
  covers := isId_or_noId reply

theorem readFields_of_noPairs {names : List String} {why : Mismatch} {items : List Reply}
    (h : NoPairs names why items) (fields : Fields) (hnames : fields.names = names) :
    readFields command fields items = .error (mismatch command why) := by
  induction h generalizing fields with
  | @name names why name value rest h =>
    simp only [readFields, (exact_readText command name).refuses why h, Bind.bind, Except.bind]
  | @value names why n name value rest hname h =>
    simp only [readFields, readText_of_isText command hname,
      (exact_readValue command value).refuses why h, Bind.bind, Except.bind]
  | @repeated names n v name value rest hname hvalue h =>
    have hinsert : fields.insert n v = .error (.misuse .duplicateFieldName) := dif_pos (hnames ▸ h)
    simp only [readFields, readText_of_isText command hname, readValue_of_isValue command hvalue,
      Bind.bind, Except.bind, hinsert]
    rfl
  | @later names why n v name value rest hname hvalue h _ ih =>
    have hfresh : n ∉ fields.names := hnames ▸ h
    simp only [readFields, readText_of_isText command hname, readValue_of_isValue command hvalue,
      Bind.bind, Except.bind, Fields.insert_of_notMem hfresh]
    apply ih
    simp [Fields.names, ← hnames]

/-- Behind an id, an element is what its body says. -/
theorem readElement_of_isId {id : EntryId} {raw : Reply} (hid : raw.IsId id) (body : Reply) :
    readElement command (array [raw, body]) =
      (readBody? command body).map fun found => found.map fun fields => ⟨id, fields⟩ := by
  simp only [readElement, readPair, (exact_readId command raw).takes id hid, Bind.bind,
    Except.bind]
  cases readBody? command body <;> rfl

theorem exact_readElement : Exact command (readElement command reply)
    (fun entry => reply.IsElement entry) (fun why => reply.NoElement why) where
  takes := by
    intro entry h
    cases h with
    | nil => rfl
    | deleted hid =>
      rw [readElement_of_isId command hid]
      rfl
    | live hid distinct hpairs =>
      rw [readElement_of_isId command hid, readBody?_of_isPairs command hpairs distinct]
      rfl
  refuses := by
    intro why h
    cases h with
    | kind hnil harray =>
      cases reply with
      | nil => exact absurd rfl hnil
      | array items => exact absurd rfl (harray items)
      | _ => rfl
    | @length items h =>
      rcases items with _ | ⟨a, _ | ⟨b, _ | ⟨c, rest⟩⟩⟩
      · rfl
      · rfl
      · exact absurd rfl h
      · rfl
    | @id _ raw body h =>
      simp only [readElement, readPair, (exact_readId command raw).refuses why h, Bind.bind,
        Except.bind]
    | @body id raw body hid hnil harray =>
      rw [readElement_of_isId command hid]
      cases body with
      | nil => exact absurd rfl hnil
      | array items => exact absurd rfl (harray items)
      | _ => rfl
    | odd hid h =>
      rw [readElement_of_isId command hid, readBody?, if_pos (by simp [h])]
      rfl
    | pairs hid heven h =>
      rw [readElement_of_isId command hid, readBody?, if_neg (by simp [heven]),
        readFields_of_noPairs command h .empty rfl]
      rfl
  covers := isElement_or_noElement reply

/-- The reader of a list of entries is exact, but for an error of the server, which has a fault of
its own. -/
theorem exact_entries {reply : Reply} (hserver : ∀ text, reply ≠ error text) :
    Exact command (entries command reply) (fun found => reply.HoldsEntries found)
      (fun why => reply.NoEntries why) where
  takes := by
    intro found h
    cases h with
    | nil => rfl
    | array h => exact entries_of_mapM command ((Exact.mapM (exact_readElement command) _).takes _ h)
  refuses := by
    intro why hwhy
    cases hwhy with
    | kind hnil harray =>
      cases reply with
      | nil => exact absurd rfl hnil
      | array items => exact absurd rfl (harray items)
      | error text => exact absurd rfl (hserver text)
      | _ => rfl
    | @element _ before after item hbefore hitem =>
      have hitems : (before ++ item :: after).mapM (readElement command) =
          .error (mismatch command why) :=
        (Exact.mapM (exact_readElement command) _).refuses why
          ⟨before, item, after, rfl, hbefore, hitem⟩
      simp only [entries, accepted, readArray, hitems, Bind.bind, Except.bind]
  covers := by
    cases reply with
    | nil => exact .inl ⟨[], .nil⟩
    | array items =>
      rcases (Exact.mapM (exact_readElement command) items).covers with
        ⟨found, hfound⟩ | ⟨why, before, item, after, rfl, hbefore, hitem⟩
      · exact .inl ⟨_, .array hfound⟩
      · exact .inr ⟨why, .element hbefore hitem⟩
    | _ => exact .inr ⟨_, .kind (by simp) (by simp)⟩

/-- An element of a deleted entry leaves no trace, wherever it stands. -/
theorem entries_skip {item : Reply} (h : item.IsElement none) (before after : List Reply) :
    entries command (array (before ++ item :: after)) =
      entries command (array (before ++ after)) := by
  have hitem := (exact_readElement command item).takes none h
  simp only [entries, accepted, readArray, Bind.bind, Except.bind, List.mapM_append,
    List.mapM_cons, hitem]
  cases before.mapM (readElement command) with
  | error fault => rfl
  | ok front =>
    cases after.mapM (readElement command) with
    | error fault => rfl
    | ok back => simp [Pure.pure, Except.pure]

/-- **A list of entries is taken exactly.** A reply that is no error of the server is taken if and
only if it is a list of entries, and as the entries that were not deleted, in their order. Every
other is refused with what is wrong in its first element that is none, and so with nothing else.
Elements of deleted entries may stand anywhere and leave no trace. -/
theorem entries_exact (command : Command) (reply : Reply) (hserver : ∀ text, reply ≠ error text) :
    (∀ found, entries command reply = .ok found ↔ reply.HoldsEntries found) ∧
    (∀ fault, entries command reply = .error fault ↔
      ∃ why, reply.NoEntries why ∧ fault = .protocol command.name (.mismatch why)) ∧
    ∀ before item after, reply = array (before ++ item :: after) → item.IsElement none →
      entries command reply = entries command (array (before ++ after)) := by
  have hexact := exact_entries command hserver
  refine ⟨fun found => hexact.ok_iff, fun fault => hexact.error_iff, ?_⟩
  rintro before item after rfl hitem
  exact entries_skip command hitem before after

/-- An entry with odd fields behind two deleted ones, and an element that is refused for its id
though its entry was deleted, whatever comes behind it. -/
theorem entries_exact_among_deleted :
    let gone : Reply := array [bulk "1-0".toUTF8, nil]
    let kept : Reply := array [status "2-0",
      array [bulk "".toUTF8, bulk ⟨#[0xff]⟩, status "k", status "v"]]
    let bad : Reply := array [status "x", nil]
    let entry : Entry := ⟨⟨2, 0⟩, ⟨[("", ⟨#[0xff]⟩), ("k", "v".toUTF8)], by decide⟩⟩
    ((∀ text, array [nil, gone, kept] ≠ error text) ∧ gone.IsElement none ∧
      entries .range (array [nil, gone, kept]) = .ok [entry] ∧
      entries .range (array [nil, gone, kept]) = entries .range (array [nil, kept])) ∧
    (∀ text, array [gone, bad, error "ERR"] ≠ error text) ∧
      entries .claim (array [gone, bad, error "ERR"]) =
        .error (.protocol "XCLAIM" (.mismatch (.idMalformed "x"))) := by
  intro gone kept bad entry
  have hserver (items : List Reply) : ∀ text, array items ≠ error text := by simp
  have hfirst : (⟨1, 0⟩ : EntryId).text = "1-0" := by decide
  have hsecond : (⟨2, 0⟩ : EntryId).text = "2-0" := by decide
  have hgone : gone.IsElement none := .deleted (isId_of_isText hfirst .bulk)
  have hkept : kept.IsElement (some entry) :=
    .live (isId_of_isText hsecond .status) _
      (.cons .bulk (.bulk _) (.cons .status (.status _) .nil))
  have hlist : (array [nil, gone, kept]).HoldsEntries [entry] :=
    .array (.cons .nil (.cons hgone (.cons hkept .nil)))
  have hid : bad.NoElement (.idMalformed "x") := by
    refine .id (.inr ⟨"x", .status, ?_, rfl⟩)
    exact EntryId.parse_ne_ok_of_mark (show "x".toList = ['x'] from rfl) rfl
  have hbad : (array [gone, bad, error "ERR"]).NoEntries (.idMalformed "x") := by
    refine @NoEntries.element _ [gone] [error "ERR"] bad (fun one hmem => ?_) hid
    exact ⟨none, List.mem_singleton.1 hmem ▸ hgone⟩
  obtain ⟨hok, -, hskip⟩ := entries_exact .range (array [nil, gone, kept]) (hserver _)
  obtain ⟨-, herror, -⟩ := entries_exact .claim (array [gone, bad, error "ERR"]) (hserver _)
  exact ⟨⟨hserver _, hgone, (hok _).2 hlist, hskip [nil] gone [kept] rfl hgone⟩, hserver _,
    (herror _).2 ⟨_, hbad, rfl⟩⟩

end Reply

end AppendLog
