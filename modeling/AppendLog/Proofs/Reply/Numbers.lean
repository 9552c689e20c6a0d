import AppendLog.Proofs.EntryId.Grammar
import AppendLog.Proofs.Reply.Entries
import AppendLog.Proofs.Reply.Pending

/-!
# Numbers in pending entries

A number in a reply is an integer that is not negative, or a text. The texts that are read are the
numerals of 64 bits, as in the parts of ids, but a plus sign may stand in front:
`Reply.IsNumberText`. With that the readers of pending entries are exact, `Reply.exact_pendingList`
and `Reply.exact_pendingOverview`: each form has what is wrong with all else beside it. So these
readers keep to the numerals of ids exactly where no number is sent with a plus sign,
`Reader.strict_iff_unsigned`.
-/

namespace AppendLog

namespace Reply

/-! ## Numbers -/

/-- The texts that are taken for a number: its numerals, and these behind a plus sign. -/
inductive IsNumberText (n : UInt64) : List Char → Prop where
  | plain {cs : List Char} (h : Decimal.Denotes cs n) : IsNumberText n cs
  | signed {digits : List Char} (h : Decimal.Denotes digits n) : IsNumberText n ('+' :: digits)

/-- A reply that is taken for a number. -/
inductive HoldsNumber (n : UInt64) : Reply → Prop where
  | integer {m : Int64} (h : 0 ≤ m) (hn : m.toUInt64 = n) : HoldsNumber n (integer m)
  | text {reply : Reply} {text : String} (htext : reply.IsText text)
      (h : IsNumberText n text.toList) : HoldsNumber n reply

/-- What is wrong with a reply that is no number. -/
inductive NoNumber : Mismatch → Reply → Prop where
  | kind {reply : Reply} (hinteger : ∀ m, reply ≠ integer m) (h : ∀ value, ¬ reply.IsValue value) :
      NoNumber (.kind "integer" reply.kind) reply
  | negative {m : Int64} (h : ¬ 0 ≤ m) : NoNumber .integerNegative (integer m)
  | text {why : Mismatch} {value : ByteArray} {reply : Reply} (hvalue : reply.IsValue value)
      (h : reply.NoText why) : NoNumber why reply
  | malformed {reply : Reply} {text : String} (htext : reply.IsText text)
      (h : ∀ n, ¬ IsNumberText n text.toList) : NoNumber (.numberMalformed text) reply

/-- Without a sign a number is a numeral. -/
theorem IsNumberText.isNumeral {n : UInt64} {cs : List Char} (h : IsNumberText n cs)
    (hplus : cs.head? ≠ some '+') : Decimal.IsNumeral cs := by
  cases h with
  | plain h => exact h.numeral
  | signed h => exact absurd rfl hplus

theorem numberOfText?_eq_some_iff {cs : List Char} {n : UInt64} :
    numberOfText? cs = some n ↔ IsNumberText n cs := by
  unfold numberOfText?
  split
  · next digits =>
    rw [Decimal.word?_eq_some_iff]
    constructor
    · exact .signed
    · intro h
      cases h with
      | plain h => exact absurd List.mem_cons_self (h.numeral.notMem rfl)
      | signed h => exact h
  · next hplus =>
    rw [Decimal.word?_eq_some_iff]
    constructor
    · exact .plain
    · intro h
      cases h with
      | plain h => exact h
      | @signed digits _ => exact absurd rfl (hplus digits)

theorem isValue_of_isText {reply : Reply} {text : String} (h : reply.IsText text) :
    reply.IsValue text.toUTF8 := by
  cases h with
  | status => exact .status text
  | bulk => exact .bulk _

theorem IsText.unique {reply : Reply} {a b : String} (ha : reply.IsText a) (hb : reply.IsText b) :
    a = b := by
  have hread := readText_of_isText .pending ha
  rw [readText_of_isText .pending hb] at hread
  exact (Except.ok.inj hread).symm

/-- Any text is a number, or something is wrong with it as one. -/
theorem holdsNumber_or_noNumber_of_isValue {value : ByteArray} {reply : Reply}
    (hvalue : reply.IsValue value) : (∃ n, reply.HoldsNumber n) ∨ ∃ why, reply.NoNumber why := by
  rcases isText_or_noText reply with ⟨text, htext⟩ | ⟨why, hwhy⟩
  · by_cases h : ∃ n, IsNumberText n text.toList
    · obtain ⟨n, hn⟩ := h
      exact .inl ⟨n, .text htext hn⟩
    · exact .inr ⟨_, .malformed htext fun n hn => h ⟨n, hn⟩⟩
  · exact .inr ⟨why, .text hvalue hwhy⟩

theorem holdsNumber_or_noNumber (reply : Reply) :
    (∃ n, reply.HoldsNumber n) ∨ ∃ why, reply.NoNumber why := by
  cases reply with
  | integer m =>
    by_cases h : 0 ≤ m
    · exact .inl ⟨_, .integer h rfl⟩
    · exact .inr ⟨_, .negative h⟩
  | status text => exact holdsNumber_or_noNumber_of_isValue (.status text)
  | bulk bytes => exact holdsNumber_or_noNumber_of_isValue (.bulk bytes)
  | _ => exact .inr ⟨_, .kind (by simp) fun _ h => by cases h⟩

variable (command : Command) (reply : Reply)

/-- A text is read first, and then what it stands for. -/
theorem readNumber_of_isValue {value : ByteArray} {reply : Reply} (h : reply.IsValue value) :
    readNumber command reply = (readText command reply).bind fun text =>
      match numberOfText? text.toList with
      | some n => .ok n
      | none => .error (mismatch command (.numberMalformed text)) := by
  cases h <;> rfl

theorem exact_readNumber : Exact command (readNumber command reply)
    (fun n => reply.HoldsNumber n) (fun why => reply.NoNumber why) where
  takes := by
    intro n h
    cases h with
    | integer h hn => rw [readNumber, if_pos h, hn]
    | text htext h =>
      rw [readNumber_of_isValue command (isValue_of_isText htext), readText_of_isText command htext]
      simp only [Except.bind, numberOfText?_eq_some_iff.2 h]
  refuses := by
    intro why hwhy
    cases hwhy with
    | kind hinteger h =>
      cases reply with
      | integer m => exact absurd rfl (hinteger m)
      | status text => exact absurd (.status text) (h _)
      | bulk bytes => exact absurd (.bulk bytes) (h _)
      | _ => rfl
    | negative h => rw [readNumber, if_neg h]
    | text hvalue h =>
      rw [readNumber_of_isValue command hvalue, (exact_readText command reply).refuses why h]
      rfl
    | @malformed _ text htext h =>
      have hnone : numberOfText? text.toList = none :=
        Option.eq_none_iff_forall_ne_some.2 fun n hn => h n (numberOfText?_eq_some_iff.1 hn)
      rw [readNumber_of_isValue command (isValue_of_isText htext), readText_of_isText command htext]
      simp only [Except.bind, hnone]
  covers := holdsNumber_or_noNumber reply

/-! ## Arrays of a fixed length -/

/-- What is wrong with a reply that is no array of so many. -/
inductive NoTuple (size : Nat) : Mismatch → Reply → Prop where
  | kind {reply : Reply} (h : ∀ items, reply ≠ array items) :
      NoTuple size (.kind "array" reply.kind) reply
  | length {items : List Reply} (h : items.length ≠ size) :
      NoTuple size (.length size items.length) (array items)

theorem exact_readPair : Exact command (readPair command reply)
    (fun parts => reply = array [parts.1, parts.2]) (fun why => reply.NoTuple 2 why) where
  takes := by
    rintro ⟨a, b⟩ rfl
    rfl
  refuses := by
    intro why hwhy
    cases hwhy with
    | kind h =>
      cases reply with
      | array items => exact absurd rfl (h items)
      | _ => rfl
    | @length items h =>
      rcases items with _ | ⟨a, _ | ⟨b, _ | ⟨c, rest⟩⟩⟩
      · rfl
      · rfl
      · exact absurd rfl h
      · rfl
  covers := by
    cases reply with
    | array items =>
      by_cases hlength : items.length = 2
      · obtain ⟨a, b, rfl⟩ := List.length_eq_two.1 hlength
        exact .inl ⟨(a, b), rfl⟩
      · exact .inr ⟨_, .length hlength⟩
    | _ => exact .inr ⟨_, .kind (by simp)⟩

theorem exact_readFour : Exact command (readFour command reply)
    (fun parts => reply = array [parts.1, parts.2.1, parts.2.2.1, parts.2.2.2])
    (fun why => reply.NoTuple 4 why) where
  takes := by
    rintro ⟨a, b, c, d⟩ rfl
    rfl
  refuses := by
    intro why hwhy
    cases hwhy with
    | kind h =>
      cases reply with
      | array items => exact absurd rfl (h items)
      | _ => rfl
    | @length items h =>
      rcases items with _ | ⟨a, _ | ⟨b, _ | ⟨c, _ | ⟨d, _ | ⟨e, rest⟩⟩⟩⟩⟩
      · rfl
      · rfl
      · rfl
      · rfl
      · exact absurd rfl h
      · rfl
  covers := by
    cases reply with
    | array items =>
      by_cases hlength : items.length = 4
      · match items, hlength with
        | [a, b, c, d], _ => exact .inl ⟨(a, b, c, d), rfl⟩
      · exact .inr ⟨_, .length hlength⟩
    | _ => exact .inr ⟨_, .kind (by simp)⟩

/-! ## Items -/

/-- A pending entry as it is read: its number of deliveries and its idle time in milliseconds are
numbers. -/
inductive HoldsPending : PendingDelivery → Reply → Prop where
  | four {id : EntryId} {name : String} {ms n : UInt64} {raw consumer idle deliveries : Reply}
      (hid : raw.IsId id) (hconsumer : consumer.IsText name) (hidle : idle.HoldsNumber ms)
      (hdeliveries : deliveries.HoldsNumber n) :
      HoldsPending ⟨id, name, .ofMilliseconds ms, n⟩ (array [raw, consumer, idle, deliveries])

/-- What is wrong first with a reply that is no pending entry. -/
inductive NoPending : Mismatch → Reply → Prop where
  | shape {why : Mismatch} {reply : Reply} (h : reply.NoTuple 4 why) : NoPending why reply
  | id {why : Mismatch} {raw consumer idle deliveries : Reply} (h : raw.NoId why) :
      NoPending why (array [raw, consumer, idle, deliveries])
  | consumer {why : Mismatch} {id : EntryId} {raw consumer idle deliveries : Reply}
      (hid : raw.IsId id) (h : consumer.NoText why) :
      NoPending why (array [raw, consumer, idle, deliveries])
  | idle {why : Mismatch} {id : EntryId} {name : String} {raw consumer idle deliveries : Reply}
      (hid : raw.IsId id) (hconsumer : consumer.IsText name) (h : idle.NoNumber why) :
      NoPending why (array [raw, consumer, idle, deliveries])
  | deliveries {why : Mismatch} {id : EntryId} {name : String} {ms : UInt64}
      {raw consumer idle deliveries : Reply} (hid : raw.IsId id) (hconsumer : consumer.IsText name)
      (hidle : idle.HoldsNumber ms) (h : deliveries.NoNumber why) :
      NoPending why (array [raw, consumer, idle, deliveries])

theorem exact_readPending : Exact command (readPending command reply)
    (fun pending => reply.HoldsPending pending) (fun why => reply.NoPending why) := by
  refine ((exact_readFour command reply).bind fun parts =>
    (exact_readId command parts.1).bind fun id =>
    (exact_readText command parts.2.1).bind fun name =>
    (exact_readNumber command parts.2.2.1).bind fun ms =>
    (exact_readNumber command parts.2.2.2).bind fun n =>
    .ok (⟨id, name, .ofMilliseconds ms, n⟩ : PendingDelivery)).congr (fun pending => ?_) (fun why => ?_)
  · constructor
    · intro h
      cases h with
      | four hid hconsumer hidle hdeliveries =>
        exact ⟨(_, _, _, _), rfl, _, hid, _, hconsumer, _, hidle, _, hdeliveries, rfl⟩
    · rintro ⟨_, rfl, id, hid, name, hconsumer, ms, hidle, n, hdeliveries, rfl⟩
      exact .four hid hconsumer hidle hdeliveries
  · constructor
    · intro h
      cases h with
      | shape h => exact .inl h
      | id h => exact .inr ⟨(_, _, _, _), rfl, .inl h⟩
      | consumer hid h => exact .inr ⟨(_, _, _, _), rfl, .inr ⟨_, hid, .inl h⟩⟩
      | idle hid hconsumer h =>
        exact .inr ⟨(_, _, _, _), rfl, .inr ⟨_, hid, .inr ⟨_, hconsumer, .inl h⟩⟩⟩
      | deliveries hid hconsumer hidle h =>
        exact .inr ⟨(_, _, _, _), rfl,
          .inr ⟨_, hid, .inr ⟨_, hconsumer, .inr ⟨_, hidle, .inl h⟩⟩⟩⟩
    · rintro (h | ⟨_, rfl, h | ⟨id, hid, h | ⟨name, hconsumer, h | ⟨ms, hidle, h | ⟨n, -, ⟨⟩⟩⟩⟩⟩⟩)
      · exact .shape h
      · exact .id h
      · exact .consumer hid h
      · exact .idle hid hconsumer h
      · exact .deliveries hid hconsumer hidle h

/-- The load of a consumer as it is read. -/
inductive HoldsLoad : ConsumerLoad → Reply → Prop where
  | pair {name : String} {n : UInt64} {consumer pending : Reply} (hconsumer : consumer.IsText name)
      (hpending : pending.HoldsNumber n) : HoldsLoad ⟨name, n⟩ (array [consumer, pending])

/-- What is wrong first with a reply that is no load. -/
inductive NoLoad : Mismatch → Reply → Prop where
  | shape {why : Mismatch} {reply : Reply} (h : reply.NoTuple 2 why) : NoLoad why reply
  | consumer {why : Mismatch} {consumer pending : Reply} (h : consumer.NoText why) :
      NoLoad why (array [consumer, pending])
  | pending {why : Mismatch} {name : String} {consumer pending : Reply}
      (hconsumer : consumer.IsText name) (h : pending.NoNumber why) :
      NoLoad why (array [consumer, pending])

theorem exact_readLoad : Exact command (readLoad command reply)
    (fun load => reply.HoldsLoad load) (fun why => reply.NoLoad why) := by
  refine ((exact_readPair command reply).bind fun parts =>
    (exact_readText command parts.1).bind fun name =>
    (exact_readNumber command parts.2).bind fun n =>
    .ok (⟨name, n⟩ : ConsumerLoad)).congr (fun load => ?_) (fun why => ?_)
  · constructor
    · intro h
      cases h with
      | pair hconsumer hpending => exact ⟨(_, _), rfl, _, hconsumer, _, hpending, rfl⟩
    · rintro ⟨_, rfl, name, hconsumer, n, hpending, rfl⟩
      exact .pair hconsumer hpending
  · constructor
    · intro h
      cases h with
      | shape h => exact .inl h
      | consumer h => exact .inr ⟨(_, _), rfl, .inl h⟩
      | pending hconsumer h => exact .inr ⟨(_, _), rfl, .inr ⟨_, hconsumer, .inl h⟩⟩
    · rintro (h | ⟨_, rfl, h | ⟨name, hconsumer, h | ⟨n, -, ⟨⟩⟩⟩⟩)
      · exact .shape h
      · exact .consumer h
      · exact .pending hconsumer h

/-- An id as it is read, or nil where there is none. -/
inductive HoldsId? : Option EntryId → Reply → Prop where
  | none : HoldsId? none nil
  | some {id : EntryId} {reply : Reply} (h : reply.IsId id) : HoldsId? (some id) reply

theorem exact_readId? : Exact command (readId? command reply) (fun id => reply.HoldsId? id)
    (fun why => reply ≠ nil ∧ reply.NoId why) where
  takes := by
    intro id h
    cases h with
    | none => rfl
    | some hid =>
      have hread := (exact_readId command reply).takes _ hid
      cases reply with
      | nil => cases hread
      | _ => simp only [readId?, hread, Functor.map, Except.map]
  refuses := by
    rintro why ⟨hnil, h⟩
    have hread := (exact_readId command reply).refuses why h
    cases reply with
    | nil => exact absurd rfl hnil
    | _ => simp only [readId?, hread, Functor.map, Except.map]
  covers := by
    by_cases hnil : reply = nil
    · exact .inl ⟨none, hnil ▸ .none⟩
    · rcases isId_or_noId reply with ⟨id, hid⟩ | ⟨why, h⟩
      · exact .inl ⟨some id, .some hid⟩
      · exact .inr ⟨why, hnil, h⟩

/-! ## Lists and overviews -/

/-- What is wrong first with a reply that is no list of items: all items before the one that it
blames are well formed. -/
inductive NoListOf {α : Type} (form : α → Reply → Prop) (defect : Mismatch → Reply → Prop) :
    Mismatch → Reply → Prop where
  | kind {reply : Reply} (hnil : reply ≠ nil) (harray : ∀ items, reply ≠ array items) :
      NoListOf form defect (.kind "array" reply.kind) reply
  | item {why : Mismatch} {before after : List Reply} {item : Reply}
      (hbefore : ∀ one ∈ before, ∃ a, form a one) (h : defect why item) :
      NoListOf form defect why (array (before ++ item :: after))

/-- A list is read exactly when its items are. -/
theorem exact_readList {α : Type} {read : Reply → Except Fault α} {form : α → Reply → Prop}
    {defect : Mismatch → Reply → Prop}
    (h : ∀ item, Exact command (read item) (fun a => form a item) (fun why => defect why item)) :
    Exact command (readArray command reply >>= List.mapM read)
      (fun found => reply.IsListOf form found) (fun why => reply.NoListOf form defect why) where
  takes := by
    rintro found ⟨items, hlists, hitems⟩
    simp only [readArray_of_lists command hlists]
    exact (Exact.mapM h items).takes found hitems.flip
  refuses := by
    intro why hwhy
    cases hwhy with
    | kind hnil harray =>
      cases reply with
      | nil => exact absurd rfl hnil
      | array items => exact absurd rfl (harray items)
      | _ => rfl
    | item hbefore hitem =>
      exact (Exact.mapM h _).refuses why ⟨_, _, _, rfl, hbefore, hitem⟩
  covers := by
    cases reply with
    | nil => exact .inl ⟨[], [], .nil, .nil⟩
    | array items =>
      rcases (Exact.mapM h items).covers with
        ⟨found, hfound⟩ | ⟨why, before, item, after, rfl, hbefore, hitem⟩
      · exact .inl ⟨found, items, .array items, hfound.flip⟩
      · exact .inr ⟨why, .item hbefore hitem⟩
    | _ => exact .inr ⟨_, .kind (by simp) (by simp)⟩

theorem exists_of_isListOf {α : Type} {form : α → Reply → Prop} {found : List α}
    {items : List Reply} (h : (array items).IsListOf form found) :
    ∀ item ∈ items, ∃ a, form a item := by
  obtain ⟨_, hlists, hitems⟩ := h
  cases hlists
  intro item hmem
  obtain ⟨a, -, ha⟩ := exists_of_forall₂ hitems.flip item hmem
  exact ⟨a, ha⟩

/-- The reader of pending entries is exact, but for an error of the server, which has a fault of its
own. -/
theorem exact_pendingList {reply : Reply} (hserver : ∀ text, reply ≠ error text) :
    Exact command (pendingList command reply) (fun found => reply.IsListOf HoldsPending found)
      (fun why => reply.NoListOf HoldsPending NoPending why) := by
  have hexact := exact_readList command reply (exact_readPending command)
  cases reply with
  | error text => exact absurd rfl (hserver text)
  | _ => exact hexact

/-- Pending entries in sum, as they are read. -/
inductive HoldsOverview : PendingOverview → Reply → Prop where
  | four {n : UInt64} {least greatest : Option EntryId} {loads : List ConsumerLoad}
      {count lowest highest consumers : Reply} (hconsumers : consumers.IsListOf HoldsLoad loads)
      (hcount : count.HoldsNumber n) (hlowest : lowest.HoldsId? least)
      (hhighest : highest.HoldsId? greatest) :
      HoldsOverview ⟨n, least, greatest, loads⟩ (array [count, lowest, highest, consumers])

/-- What is wrong first with a reply that is no overview. The consumers count before the rest. -/
inductive NoOverview : Mismatch → Reply → Prop where
  | shape {why : Mismatch} {reply : Reply} (h : reply.NoTuple 4 why) : NoOverview why reply
  | consumers {why : Mismatch} {count lowest highest consumers : Reply}
      (h : consumers.NoListOf HoldsLoad NoLoad why) :
      NoOverview why (array [count, lowest, highest, consumers])
  | count {why : Mismatch} {loads : List ConsumerLoad} {count lowest highest consumers : Reply}
      (hconsumers : consumers.IsListOf HoldsLoad loads) (h : count.NoNumber why) :
      NoOverview why (array [count, lowest, highest, consumers])
  | lowest {why : Mismatch} {loads : List ConsumerLoad} {n : UInt64}
      {count lowest highest consumers : Reply} (hconsumers : consumers.IsListOf HoldsLoad loads)
      (hcount : count.HoldsNumber n) (hnil : lowest ≠ nil) (h : lowest.NoId why) :
      NoOverview why (array [count, lowest, highest, consumers])
  | highest {why : Mismatch} {loads : List ConsumerLoad} {n : UInt64} {least : Option EntryId}
      {count lowest highest consumers : Reply} (hconsumers : consumers.IsListOf HoldsLoad loads)
      (hcount : count.HoldsNumber n) (hlowest : lowest.HoldsId? least) (hnil : highest ≠ nil)
      (h : highest.NoId why) : NoOverview why (array [count, lowest, highest, consumers])

/-- The parts of an overview, in the order in which they are read. -/
theorem pendingOverview_eq {reply : Reply} (hserver : ∀ text, reply ≠ error text) :
    pendingOverview command reply = (do
      let parts ← readFour command reply
      let loads ← readArray command parts.2.2.2 >>= List.mapM (readLoad command)
      let n ← readNumber command parts.1
      let least ← readId? command parts.2.1
      let greatest ← readId? command parts.2.2.1
      return ⟨n, least, greatest, loads⟩) := by
  simp only [bind_assoc]
  cases reply with
  | error text => exact absurd rfl (hserver text)
  | _ => rfl

/-- The reader of an overview is exact, but for an error of the server. -/
theorem exact_pendingOverview {reply : Reply} (hserver : ∀ text, reply ≠ error text) :
    Exact command (pendingOverview command reply) (fun overview => reply.HoldsOverview overview)
      (fun why => reply.NoOverview why) := by
  rw [pendingOverview_eq command hserver]
  refine ((exact_readFour command reply).bind fun parts =>
    (exact_readList command parts.2.2.2 (exact_readLoad command)).bind fun loads =>
    (exact_readNumber command parts.1).bind fun n =>
    (exact_readId? command parts.2.1).bind fun least =>
    (exact_readId? command parts.2.2.1).bind fun greatest =>
    .ok (⟨n, least, greatest, loads⟩ : PendingOverview)).congr (fun overview => ?_) (fun why => ?_)
  · constructor
    · intro h
      cases h with
      | four hconsumers hcount hlowest hhighest =>
        exact ⟨(_, _, _, _), rfl, _, hconsumers, _, hcount, _, hlowest, _, hhighest, rfl⟩
    · rintro ⟨_, rfl, loads, hconsumers, n, hcount, least, hlowest, greatest, hhighest, rfl⟩
      exact .four hconsumers hcount hlowest hhighest
  · constructor
    · intro h
      cases h with
      | shape h => exact .inl h
      | consumers h => exact .inr ⟨(_, _, _, _), rfl, .inl h⟩
      | count hconsumers h => exact .inr ⟨(_, _, _, _), rfl, .inr ⟨_, hconsumers, .inl h⟩⟩
      | lowest hconsumers hcount hnil h =>
        exact .inr ⟨(_, _, _, _), rfl, .inr ⟨_, hconsumers, .inr ⟨_, hcount, .inl ⟨hnil, h⟩⟩⟩⟩
      | highest hconsumers hcount hlowest hnil h =>
        exact .inr ⟨(_, _, _, _), rfl,
          .inr ⟨_, hconsumers, .inr ⟨_, hcount, .inr ⟨_, hlowest, .inl ⟨hnil, h⟩⟩⟩⟩⟩
    · rintro (h | ⟨_, rfl, h | ⟨loads, hconsumers, h | ⟨n, hcount, ⟨hnil, h⟩ |
        ⟨least, hlowest, ⟨hnil, h⟩ | ⟨greatest, -, ⟨⟩⟩⟩⟩⟩⟩)
      · exact .shape h
      · exact .consumers h
      · exact .count hconsumers h
      · exact .lowest hconsumers hcount hnil h
      · exact .highest hconsumers hcount hlowest hnil h

end Reply

/-! ## The texts of numbers -/

namespace Reader

open Reply

/-- The numbers of a reply about pending entries, by where they stand: the idle time and the number
of deliveries of each pending entry, and the total and the loads of an overview. -/
inductive Counts : Reader → Reply → Reply → Prop where
  | idle {id consumer idle deliveries : Reply} {items : List Reply}
      (mem : array [id, consumer, idle, deliveries] ∈ items) :
      Counts .pendingList idle (array items)
  | deliveries {id consumer idle deliveries : Reply} {items : List Reply}
      (mem : array [id, consumer, idle, deliveries] ∈ items) :
      Counts .pendingList deliveries (array items)
  | total (count lowest highest consumers : Reply) :
      Counts .pendingOverview count (array [count, lowest, highest, consumers])
  | load {count lowest highest consumer pending : Reply} {loads : List Reply}
      (mem : array [consumer, pending] ∈ loads) :
      Counts .pendingOverview pending (array [count, lowest, highest, array loads])

variable {reader : Reader} {command : Command} {reply number : Reply}

/-- Every number of a reply that is taken is read as one. -/
theorem Counts.holdsNumber (h : reader.Counts number reply) {found : reader.Found}
    (hread : reader.read command reply = .ok found) : ∃ n, number.HoldsNumber n := by
  cases h with
  | idle mem =>
    obtain ⟨pending, hpending⟩ :=
      exists_of_isListOf ((exact_pendingList command (by simp)).ok_iff.1 hread) _ mem
    cases hpending with
    | four _ _ hidle _ => exact ⟨_, hidle⟩
  | deliveries mem =>
    obtain ⟨pending, hpending⟩ :=
      exists_of_isListOf ((exact_pendingList command (by simp)).ok_iff.1 hread) _ mem
    cases hpending with
    | four _ _ _ hdeliveries => exact ⟨_, hdeliveries⟩
  | total count lowest highest consumers =>
    cases (exact_pendingOverview command (by simp)).ok_iff.1 hread with
    | four _ hcount _ _ => exact ⟨_, hcount⟩
  | load mem =>
    cases (exact_pendingOverview command (by simp)).ok_iff.1 hread with
    | four hconsumers _ _ _ =>
      obtain ⟨load, hload⟩ := exists_of_isListOf hconsumers _ mem
      cases hload with
      | pair _ hpending => exact ⟨_, hpending⟩

/-- A reply in which numbers stand is taken, or refused for a mismatch. -/
theorem Counts.taken_or_refused (h : reader.Counts number reply) (command : Command) :
    (∃ found, reader.read command reply = .ok found) ∨
      ∃ why, reader.read command reply = .error (.protocol command.name (.mismatch why)) := by
  cases h with
  | idle _ => exact (exact_pendingList command (by simp)).taken_or_refused
  | deliveries _ => exact (exact_pendingList command (by simp)).taken_or_refused
  | total _ _ _ _ => exact (exact_pendingOverview command (by simp)).taken_or_refused
  | load _ => exact (exact_pendingOverview command (by simp)).taken_or_refused

/-- The numbers of a reply that is taken are sent as texts of numbers, if they are sent as texts. -/
theorem Counts.exists_text (h : reader.Counts number reply) {found : reader.Found}
    (hread : reader.read command reply = .ok found) {bytes : ByteArray}
    (hbytes : number.IsValue bytes) :
    ∃ text n, number.IsText text ∧ text.toUTF8 = bytes ∧ IsNumberText n text.toList := by
  obtain ⟨n, hn⟩ := h.holdsNumber hread
  cases hn with
  | integer _ _ => cases hbytes
  | @text _ text htext hnumber =>
    refine ⟨text, n, htext, ?_, hnumber⟩
    cases htext <;> cases hbytes <;> rfl

/-- The numbers of a reply that are sent as texts follow a grammar: a reply is taken only if each of
them does, and refused for a mismatch if one does not. -/
structure Obeys (grammar : List Char → Prop) (reader : Reader) (command : Command) (reply : Reply) :
    Prop where
  taken : ∀ found, reader.read command reply = .ok found → ∀ number bytes,
    reader.Counts number reply → number.IsValue bytes →
    ∃ text : String, text.toUTF8 = bytes ∧ grammar text.toList
  refused : ∀ number bytes, reader.Counts number reply → number.IsValue bytes →
    (∀ text : String, text.toUTF8 = bytes → ¬ grammar text.toList) →
    ∃ why, reader.read command reply = .error (.protocol command.name (.mismatch why))

/-- What is not taken is refused, so it is enough to look at what is taken. -/
theorem Obeys.of_taken {grammar : List Char → Prop}
    (h : ∀ found, reader.read command reply = .ok found → ∀ number bytes,
      reader.Counts number reply → number.IsValue bytes →
      ∃ text : String, text.toUTF8 = bytes ∧ grammar text.toList) :
    Obeys grammar reader command reply where
  taken := h
  refused := by
    intro number bytes hcounts hbytes hbad
    rcases hcounts.taken_or_refused command with ⟨found, hread⟩ | hrefused
    · obtain ⟨text, htext, hgrammar⟩ := h found hread number bytes hcounts hbytes
      exact absurd hgrammar (hbad text htext)
    · exact hrefused

/-- **Numbers are numerals where no plus sign is sent.** The texts of the numbers in a reply about
pending entries are the numerals of 64 bits, with or without a plus sign in front: with any other
text the reply is refused for a mismatch. So they follow the grammar of the parts of an id, which
are digits alone, exactly if the reply is refused or none of them begins with a plus sign. -/
theorem strict_iff_unsigned (reader : Reader) (command : Command) (reply : Reply) :
    reader.Obeys (fun cs => ∃ n, IsNumberText n cs) command reply ∧
    (reader.Obeys Decimal.IsNumeral command reply ↔
      ∀ found, reader.read command reply = .ok found → ∀ number text,
        reader.Counts number reply → number.IsText text → text.toList.head? ≠ some '+') := by
  refine ⟨Obeys.of_taken ?_, ?_, ?_⟩
  · intro found hread number bytes hcounts hbytes
    obtain ⟨text, n, -, htext, hnumber⟩ := hcounts.exists_text hread hbytes
    exact ⟨text, htext, n, hnumber⟩
  · intro hstrict found hread number text hcounts htext hplus
    obtain ⟨text', hsame, hnumeral⟩ :=
      hstrict.taken found hread number _ hcounts (isValue_of_isText htext)
    obtain rfl : text' = text := String.toByteArray_inj.1 hsame
    exact hnumeral.notMem rfl (List.mem_of_mem_head? hplus)
  · intro hunsigned
    apply Obeys.of_taken
    intro found hread number bytes hcounts hbytes
    obtain ⟨text, n, htext, hsame, hnumber⟩ := hcounts.exists_text hread hbytes
    exact ⟨text, hsame, hnumber.isNumeral (hunsigned found hread number text hcounts htext)⟩

/-- Zeros in front are no sign. -/
theorem strict_of_zeros :
    let reply : Reply := array [array [status "1-0", status "c", bulk "007".toUTF8, integer 1]]
    Reply.pendingList .pending reply = .ok [⟨⟨1, 0⟩, "c", .ofMilliseconds 7, 1⟩] ∧
    pendingList.Obeys Decimal.IsNumeral .pending reply := by
  intro reply
  have hid : (⟨1, 0⟩ : EntryId).text = "1-0" := by decide
  have hnumeral : Decimal.Denotes "007".toList 7 :=
    ⟨Decimal.isNumeral_of_all nofun rfl, by decide⟩
  have hseven : (bulk "007".toUTF8).HoldsNumber 7 := .text .bulk (.plain hnumeral)
  have hone : (integer 1).HoldsNumber 1 := .integer (by decide) rfl
  have hlist : reply.IsListOf HoldsPending [⟨⟨1, 0⟩, "c", .ofMilliseconds 7, 1⟩] :=
    ⟨_, .array _, .cons (.four (isId_of_isText hid .status) .status hseven hone) .nil⟩
  refine ⟨(exact_pendingList .pending (by simp [reply])).takes _ hlist, ?_⟩
  refine (strict_iff_unsigned .pendingList .pending reply).2.2 ?_
  intro found _ number text hcounts htext
  simp only [reply] at hcounts
  cases hcounts with
  | idle mem =>
    obtain ⟨-, -, rfl, -⟩ : _ ∧ _ ∧ _ = bulk "007".toUTF8 ∧ _ := by simpa using mem
    obtain rfl := htext.unique .bulk
    decide
  | deliveries mem =>
    obtain ⟨-, -, -, rfl⟩ : _ ∧ _ ∧ _ ∧ _ = integer 1 := by simpa using mem
    cases htext

/-- A number with a plus sign is taken, among pending entries and in an overview. -/
theorem signed_number_taken :
    let listed : Reply := array [array [status "1-0", status "c", bulk "+5".toUTF8, integer 1]]
    let summed : Reply := array [status "+0", nil, nil, nil]
    (Reply.pendingList .pending listed = .ok [⟨⟨1, 0⟩, "c", .ofMilliseconds 5, 1⟩] ∧
      ¬ pendingList.Obeys Decimal.IsNumeral .pending listed) ∧
    Reply.pendingOverview .pending summed = .ok ⟨0, none, none, []⟩ ∧
      ¬ pendingOverview.Obeys Decimal.IsNumeral .pending summed := by
  intro listed summed
  have hid : (⟨1, 0⟩ : EntryId).text = "1-0" := by decide
  have hfive : (bulk "+5".toUTF8).HoldsNumber 5 :=
    .text .bulk (.signed ⟨Decimal.isNumeral_of_all nofun rfl, by decide⟩)
  have hone : (integer 1).HoldsNumber 1 := .integer (by decide) rfl
  have hzero : (status "+0").HoldsNumber 0 :=
    .text .status (.signed ⟨Decimal.isNumeral_of_all nofun rfl, by decide⟩)
  have hlisted : Reply.pendingList .pending listed =
      .ok [⟨⟨1, 0⟩, "c", .ofMilliseconds 5, 1⟩] :=
    (exact_pendingList .pending (by simp [listed])).takes _
      ⟨_, .array _, .cons (.four (isId_of_isText hid .status) .status hfive hone) .nil⟩
  have hsummed : Reply.pendingOverview .pending summed = .ok ⟨0, none, none, []⟩ :=
    (exact_pendingOverview .pending (by simp [summed])).takes _
      (.four ⟨_, .nil, .nil⟩ hzero .none .none)
  refine ⟨⟨hlisted, fun hstrict => ?_⟩, hsummed, fun hstrict => ?_⟩
  · obtain ⟨text, hsame, hnumeral⟩ :=
      hstrict.taken _ hlisted _ _ (.idle List.mem_cons_self) (.bulk _)
    obtain rfl := String.toByteArray_inj.1 hsame
    exact hnumeral.notMem (show '+'.isDigit = false from rfl) (by decide)
  · obtain ⟨text, hsame, hnumeral⟩ := hstrict.taken _ hsummed _ _ (.total _ _ _ _) (.status _)
    obtain rfl := String.toByteArray_inj.1 hsame
    exact hnumeral.notMem (show '+'.isDigit = false from rfl) (by decide)

end Reader

end AppendLog
