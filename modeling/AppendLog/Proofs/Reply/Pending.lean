import AppendLog.Proofs.Reply.ServerErrors

/-!
# Pending entries that come back from the wire

A server has a choice in how it writes pending entries: a text is a status or a bulk, and a number
that a signed integer can hold is an integer or a numeral, any other a numeral. `IsPending` and
`IsOverview` say what may be written, `ReadsBack` that something can be written and is read as what
it was written from, whatever choices were made. The readers keep only whole milliseconds of an
idle time, so pending entries read back when their idle times are whole: `Reply.pending_read_back`.
-/

namespace AppendLog

/-- As many milliseconds as some 64-bit number says. -/
def Duration.IsWhole (span : Duration) : Prop := ∃ ms : UInt64, span = .ofMilliseconds ms

theorem Duration.ofMilliseconds_milliseconds {span : Duration} (h : span.IsWhole) :
    ofMilliseconds span.milliseconds = span := by
  obtain ⟨ms, rfl⟩ := h
  rw [milliseconds_ofMilliseconds]

theorem zero_le_toInt64 {n : UInt64} (h : n.toNat < 0x8000000000000000) : 0 ≤ n.toInt64 := by
  have hbound : 2 * n.toBitVec.toNat < 2 ^ 64 := by
    change 2 * n.toNat < _
    omega
  have hsign : n.toInt64.toInt = n.toNat := BitVec.toInt_eq_toNat_of_lt hbound
  rw [Int64.le_iff_toInt_le, hsign]
  exact Int.natCast_nonneg _

/-- A value can be written, and however it is written it is read back. -/
def ReadsBack {α β : Type} (written : α → β → Prop) (read : β → Except Fault α) (a : α) : Prop :=
  (∃ b, written a b) ∧ ∀ b, written a b → read b = .ok a

/-- What is written one by one is read back when each part is. -/
theorem ReadsBack.mapM {α β : Type} {written : α → β → Prop} {read : β → Except Fault α}
    {found : List α} (h : ∀ a ∈ found, ReadsBack written read a) :
    ReadsBack (List.Forall₂ written) (List.mapM read) found := by
  induction found with
  | nil =>
    refine ⟨⟨[], .nil⟩, fun items hitems => ?_⟩
    cases hitems
    rfl
  | cons a rest ih =>
    obtain ⟨⟨b, hb⟩, hread⟩ := h a List.mem_cons_self
    obtain ⟨⟨items, hitems⟩, hrest⟩ := ih fun a' hmem => h a' (List.mem_cons_of_mem a hmem)
    refine ⟨⟨b :: items, .cons hb hitems⟩, fun items' hitems' => ?_⟩
    cases hitems' with
    | cons hb' hitems' =>
      rw [List.mapM_cons, hread _ hb', hrest _ hitems']
      rfl

namespace Reply

/-! ## What may be written -/

/-- A list of items: an array of them, or nil when there are none. -/
inductive Lists : List Reply → Reply → Prop where
  | nil : Lists [] nil
  | array (items : List Reply) : Lists items (array items)

/-- A number that is not negative: an integer if it is below `2 ^ 63`, where the sign bit is free, or
its numeral. -/
inductive IsNumber (n : UInt64) : Reply → Prop where
  | integer (h : n.toNat < 0x8000000000000000) : IsNumber n (integer n.toInt64)
  | numeral {reply : Reply} (h : reply.IsText (Decimal.write n.toNat)) : IsNumber n reply

/-- An id, or nil where there is none. -/
inductive IsId? : Option EntryId → Reply → Prop where
  | none : IsId? none nil
  | some {id : EntryId} {reply : Reply} (h : reply.IsText id.text) : IsId? (some id) reply

/-- The values of a list, each written in its place. -/
def IsListOf {α : Type} (written : α → Reply → Prop) (found : List α) (reply : Reply) : Prop :=
  ∃ items, reply.Lists items ∧ List.Forall₂ written found items

/-- One pending entry, its idle time in whole milliseconds. -/
inductive IsPending (pending : PendingDelivery) : Reply → Prop where
  | four {id consumer idle deliveries : Reply} (hid : id.IsText pending.id.text)
      (hconsumer : consumer.IsText pending.consumer)
      (hidle : idle.IsNumber pending.idle.milliseconds)
      (hdeliveries : deliveries.IsNumber pending.deliveries) :
      IsPending pending (array [id, consumer, idle, deliveries])

inductive IsLoad (load : ConsumerLoad) : Reply → Prop where
  | pair {consumer pending : Reply} (hconsumer : consumer.IsText load.consumer)
      (hpending : pending.IsNumber load.pending) : IsLoad load (array [consumer, pending])

inductive IsOverview (overview : PendingOverview) : Reply → Prop where
  | four {count lowest highest consumers : Reply} (hcount : count.IsNumber overview.count)
      (hlowest : lowest.IsId? overview.lowest) (hhighest : highest.IsId? overview.highest)
      (hconsumers : consumers.IsListOf IsLoad overview.consumers) :
      IsOverview overview (array [count, lowest, highest, consumers])

/-! ## Parts of a reply -/

variable (command : Command) {reply : Reply}

theorem readArray_of_lists {items : List Reply} (h : reply.Lists items) :
    readArray command reply = .ok items := by
  cases h <;> rfl

theorem lists_of_readArray {items : List Reply} (h : readArray command reply = .ok items) :
    reply.Lists items := by
  cases reply with
  | nil =>
    obtain rfl := Except.ok.inj h
    exact .nil
  | array items =>
    obtain rfl := Except.ok.inj h
    exact .array _
  | _ => cases h

/-- No numeral starts with a plus sign, so all of it is read. -/
theorem numberOfText?_write (n : UInt64) :
    numberOfText? (Decimal.write n.toNat).toList = some n := by
  unfold numberOfText?
  split
  · next digits h =>
    exact absurd ((Decimal.isNumeral_write n.toNat).2 '+' (by simp [h])) (by decide)
  · exact Decimal.word?_write n

theorem readsBack_text (text : String) : ReadsBack IsText (readText command) text :=
  ⟨⟨_, .bulk⟩, fun _ h => readText_of_isText command h⟩

theorem readsBack_id (id : EntryId) :
    ReadsBack (fun id reply => reply.IsText id.text) (readId command) id :=
  ⟨⟨_, .bulk⟩, fun _ h => readId_of_isText command h⟩

theorem readsBack_id? (id : Option EntryId) : ReadsBack IsId? (readId? command) id := by
  cases id with
  | none =>
    refine ⟨⟨_, .none⟩, fun reply h => ?_⟩
    cases h
    rfl
  | some id =>
    refine ⟨⟨_, .some .bulk⟩, fun reply h => ?_⟩
    cases h with
    | some htext =>
      have hread := (readsBack_id command id).2 reply htext
      have hmap : readId? command reply = some <$> readId command reply := by
        cases htext <;> rfl
      rw [hmap, hread]
      rfl

theorem readsBack_number (n : UInt64) : ReadsBack IsNumber (readNumber command) n := by
  refine ⟨⟨_, .numeral .bulk⟩, fun reply h => ?_⟩
  cases h with
  | integer h => rw [readNumber, if_pos (zero_le_toInt64 h), UInt64.toUInt64_toInt64]
  | numeral htext =>
    have hread := readText_of_isText command htext
    cases htext <;>
      simp only [readNumber, hread, numberOfText?_write, Bind.bind, Except.bind] <;> rfl

/-- The values of a list in a reply are read back when each of them is. -/
theorem readsBack_list {α : Type} {written : α → Reply → Prop} {read : Reply → Except Fault α}
    {found : List α} (h : ∀ a ∈ found, ReadsBack written read a) :
    ReadsBack (IsListOf written) (fun reply => readArray command reply >>= List.mapM read)
      found := by
  obtain ⟨⟨items, hitems⟩, hread⟩ := ReadsBack.mapM h
  refine ⟨⟨array items, items, .array items, hitems⟩, ?_⟩
  rintro reply ⟨items', hlists, hitems'⟩
  simp only [readArray_of_lists command hlists]
  exact hread items' hitems'

/-! ## Pending entries -/

theorem readsBack_pending {pending : PendingDelivery} (h : pending.idle.IsWhole) :
    ReadsBack IsPending (readPending command) pending := by
  obtain ⟨⟨id, hid⟩, hreadId⟩ := readsBack_id command pending.id
  obtain ⟨⟨consumer, hconsumer⟩, hreadText⟩ := readsBack_text command pending.consumer
  obtain ⟨⟨idle, hidle⟩, hreadIdle⟩ := readsBack_number command pending.idle.milliseconds
  obtain ⟨⟨count, hcount⟩, hreadCount⟩ := readsBack_number command pending.deliveries
  refine ⟨⟨_, .four hid hconsumer hidle hcount⟩, fun reply hreply => ?_⟩
  cases hreply with
  | four hid hconsumer hidle hcount =>
    simp only [readPending, readFour, hreadId _ hid, hreadText _ hconsumer, hreadIdle _ hidle,
      hreadCount _ hcount, Bind.bind, Except.bind, Duration.ofMilliseconds_milliseconds h]
    rfl

theorem isWhole_of_readPending {pending : PendingDelivery}
    (h : readPending command reply = .ok pending) : pending.idle.IsWhole := by
  obtain ⟨_, -, h⟩ := exists_of_bind_eq_ok h
  obtain ⟨_, -, h⟩ := exists_of_bind_eq_ok h
  obtain ⟨_, -, h⟩ := exists_of_bind_eq_ok h
  obtain ⟨ms, -, h⟩ := exists_of_bind_eq_ok h
  obtain ⟨_, -, h⟩ := exists_of_bind_eq_ok h
  obtain rfl := Except.ok.inj h
  exact ⟨ms, rfl⟩

theorem readsBack_load (load : ConsumerLoad) : ReadsBack IsLoad (readLoad command) load := by
  obtain ⟨⟨consumer, hconsumer⟩, hreadText⟩ := readsBack_text command load.consumer
  obtain ⟨⟨count, hcount⟩, hreadCount⟩ := readsBack_number command load.pending
  refine ⟨⟨_, .pair hconsumer hcount⟩, fun reply hreply => ?_⟩
  cases hreply with
  | pair hconsumer hcount =>
    simp only [readLoad, readPair, hreadText _ hconsumer, hreadCount _ hcount, Bind.bind,
      Except.bind]
    rfl

theorem readsBack_overview (overview : PendingOverview) :
    ReadsBack IsOverview (pendingOverview command) overview := by
  obtain ⟨⟨count, hcount⟩, hreadCount⟩ := readsBack_number command overview.count
  obtain ⟨⟨lowest, hlowest⟩, hreadLowest⟩ := readsBack_id? command overview.lowest
  obtain ⟨⟨highest, hhighest⟩, hreadHighest⟩ := readsBack_id? command overview.highest
  have hloads : ∀ load ∈ overview.consumers, ReadsBack IsLoad (readLoad command) load :=
    fun load _ => readsBack_load command load
  obtain ⟨⟨consumers, hconsumers⟩, hreadConsumers⟩ := readsBack_list command hloads
  refine ⟨⟨_, .four hcount hlowest hhighest hconsumers⟩, fun reply hreply => ?_⟩
  cases hreply with
  | four hcount hlowest hhighest hconsumers =>
    obtain ⟨items, hitems, hfound⟩ := exists_of_bind_eq_ok (hreadConsumers _ hconsumers)
    simp only [pendingOverview, accepted, readFour, hitems, hfound, hreadCount _ hcount,
      hreadLowest _ hlowest, hreadHighest _ hhighest, Bind.bind, Except.bind]
    rfl

theorem readsBack_pendingList {found : List PendingDelivery}
    (h : ∀ pending ∈ found, pending.idle.IsWhole) :
    ReadsBack (IsListOf IsPending) (pendingList command) found := by
  obtain ⟨hwritten, hread⟩ := readsBack_list command fun pending hmem =>
    readsBack_pending command (h pending hmem)
  refine ⟨hwritten, fun reply hreply => ?_⟩
  rw [← hread reply hreply]
  obtain ⟨items, hlists, -⟩ := hreply
  cases hlists <;> rfl

/-! ## What was read -/

/-- One value for each item of a list, and none of the items is nil. -/
def OneEach {α : Type} (found : List α) (reply : Reply) : Prop :=
  ∃ items, reply.Lists items ∧ nil ∉ items ∧ found.length = items.length

variable {command}

theorem oneEach_of_mapM {α : Type} {read : Reply → Except Fault α} {items : List Reply}
    {found : List α} (hnil : ∃ fault, read nil = .error fault)
    (hitems : readArray command reply = .ok items) (h : items.mapM read = .ok found) :
    reply.OneEach found := by
  refine ⟨items, lists_of_readArray command hitems, fun hmem => ?_, ?_⟩
  · obtain ⟨a, ha⟩ := exists_of_mapM_eq_ok h nil hmem
    obtain ⟨fault, hfault⟩ := hnil
    rw [hfault] at ha
    cases ha
  · exact (mapM_eq_ok_iff.1 h).length_eq.symm

theorem oneEach_of_pendingList {found : List PendingDelivery}
    (h : pendingList command reply = .ok found) : reply.OneEach found := by
  obtain ⟨items, hitems, hfound⟩ := exists_items_of_eq_ok h
  exact oneEach_of_mapM ⟨_, rfl⟩ hitems hfound

theorem isWhole_of_pendingList {found : List PendingDelivery}
    (h : pendingList command reply = .ok found) : ∀ pending ∈ found, pending.idle.IsWhole := by
  obtain ⟨items, -, hfound⟩ := exists_items_of_eq_ok h
  intro pending hmem
  obtain ⟨item, -, hitem⟩ := exists_item_of_mapM_eq_ok hfound pending hmem
  exact isWhole_of_readPending command hitem

theorem oneEach_of_pendingOverview {overview : PendingOverview}
    (h : pendingOverview command reply = .ok overview) :
    ∃ count lowest highest consumers, reply = array [count, lowest, highest, consumers] ∧
      consumers.OneEach overview.consumers := by
  obtain ⟨⟨count, lowest, highest, consumers⟩, hfour, h⟩ :=
    exists_of_bind_eq_ok (next_of_accepted h)
  obtain ⟨items, hitems, h⟩ := exists_of_bind_eq_ok h
  obtain ⟨loads, hloads, h⟩ := exists_of_bind_eq_ok h
  obtain ⟨_, -, h⟩ := exists_of_bind_eq_ok h
  obtain ⟨_, -, h⟩ := exists_of_bind_eq_ok h
  obtain ⟨_, -, h⟩ := exists_of_bind_eq_ok h
  obtain rfl := Except.ok.inj h
  exact ⟨count, lowest, highest, consumers, eq_of_readFour hfour,
    oneEach_of_mapM ⟨_, rfl⟩ hitems hloads⟩

/-- **Pending entries come back as they were sent.** Pending entries with whole idle times can be
written, and however they are written they are read back; so is every overview. Conversely, what was
read once is read back again however it is written anew, and nothing was skipped: there is one
pending entry for each item of the reply, and one load for each consumer of an overview. -/
theorem pending_read_back (command : Command) :
    (∀ found : List PendingDelivery, (∀ pending ∈ found, pending.idle.IsWhole) →
      ReadsBack (IsListOf IsPending) (pendingList command) found) ∧
    (∀ overview, ReadsBack IsOverview (pendingOverview command) overview) ∧
    (∀ reply found, pendingList command reply = .ok found →
      ReadsBack (IsListOf IsPending) (pendingList command) found ∧ reply.OneEach found) ∧
    ∀ reply overview, pendingOverview command reply = .ok overview →
      ReadsBack IsOverview (pendingOverview command) overview ∧
      ∃ count lowest highest consumers, reply = array [count, lowest, highest, consumers] ∧
        consumers.OneEach overview.consumers := by
  refine ⟨fun found => readsBack_pendingList command, readsBack_overview command, ?_, ?_⟩
  · intro reply found h
    exact ⟨readsBack_pendingList command (isWhole_of_pendingList h), oneEach_of_pendingList h⟩
  · intro reply overview h
    exact ⟨readsBack_overview command overview, oneEach_of_pendingOverview h⟩

/-- A number that no signed integer holds, and numbers and texts written in either way, in a list and
in an overview. -/
theorem pending_read_back_large_number :
    let pending : PendingDelivery := ⟨⟨1, 2⟩, "c", .ofMilliseconds 9223372036854775808, 7⟩
    let sent : Reply := array [array [status "1-2", bulk "c".toUTF8, status "9223372036854775808",
      integer 7]]
    let overview : PendingOverview := ⟨0, some ⟨1, 2⟩, none, [⟨"c", 7⟩]⟩
    let consumers : Reply := array [array [status "c", integer 7]]
    let summed : Reply := array [bulk "0".toUTF8, bulk "1-2".toUTF8, nil, consumers]
    pending.idle.IsWhole ∧ sent.IsListOf IsPending [pending] ∧ summed.IsOverview overview ∧
      pendingList .pending sent = .ok [pending] ∧ sent.OneEach [pending] ∧
      pendingOverview .pending summed = .ok overview ∧ consumers.OneEach overview.consumers := by
  intro pending sent overview consumers summed
  have hwhole : pending.idle.IsWhole := ⟨_, rfl⟩
  have hid : (⟨1, 2⟩ : EntryId).text = "1-2" := by decide
  have hzero : Decimal.write (0 : UInt64).toNat = "0" := by decide
  have hidle : (status "9223372036854775808").IsNumber pending.idle.milliseconds := by
    rw [Duration.milliseconds_ofMilliseconds]
    exact .numeral .status
  have hseven : (integer 7).IsNumber 7 := .integer (by decide)
  have hsent : sent.IsListOf IsPending [pending] :=
    ⟨_, .array _, .cons (.four (hid ▸ .status) .bulk hidle hseven) .nil⟩
  have hsummed : summed.IsOverview overview :=
    .four (.numeral (hzero ▸ .bulk)) (.some (hid ▸ .bulk)) .none
      ⟨_, .array _, .cons (.pair .status hseven) .nil⟩
  obtain ⟨hlist, hoverview, hagain, hparts⟩ := pending_read_back .pending
  have hread : pendingList .pending sent = .ok [pending] := by
    refine (hlist [pending] fun one hmem => ?_).2 sent hsent
    exact List.mem_singleton.1 hmem ▸ hwhole
  have hsum : pendingOverview .pending summed = .ok overview := (hoverview overview).2 summed hsummed
  obtain ⟨-, _, _, _, _, hfour, heach⟩ := hparts summed overview hsum
  obtain ⟨-, -, -, rfl⟩ : _ ∧ _ ∧ _ ∧ consumers = _ := by simpa [summed] using hfour
  exact ⟨hwhole, hsent, hsummed, hread, (hagain sent [pending] hread).2, hsum, heach⟩

end Reply

end AppendLog
