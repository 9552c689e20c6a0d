import AppendLog.Proofs.EntryId.Grammar
import AppendLog.Proofs.Json.Record
import AppendLog.Proofs.Reply.Pending
import AppendLog.Proofs.Wire.MinIdle
import AppendLog.Proofs.Wire.Names

/-!
# Values that come back from JSON

Ids, consumers and what they owe are written to JSON and read from it. Only an idle time loses
something on the way, what it has beside whole milliseconds of 64 bits: `PendingDelivery.whole` is
what is left. `Json.IgnoresOthers` and `Json.NeedsId` say how forgiving the readers are, and
`json_read_back` puts all of it together.
-/

namespace AppendLog

/-! ## Reading what was written -/

namespace Json

variable {α : Type}

/-- What is written to JSON is read as this value, from the JSON and from the text of it. -/
structure Rereads (toJson : α → Json) (ofJson? : Json → Option α) (a b : α) : Prop where
  value : ofJson? (toJson a) = some b
  text : (parse? (toJson a).print).bind ofJson? = some b

theorem Rereads.of_plain {toJson : α → Json} {ofJson? : Json → Option α} {a b : α}
    (hplain : (toJson a).Plain) (h : ofJson? (toJson a) = some b) :
    Rereads toJson ofJson? a b where
  value := h
  text := by rw [parse?_print hplain, Option.bind_some, h]

/-- An object is read the same when it has members more that are no fields. -/
def IgnoresOthers (names : List String) (ofJson? : Json → Option α) : Prop :=
  ∀ json wider, Widens names json wider → ofJson? wider = ofJson? json

/-- Nothing is read when the text that is given for this field is no id. -/
def NeedsId (names : List String) (name : String) (ofJson? : Json → Option α) : Prop :=
  ∀ json text fault, EntryId.parse text = .error fault → Gives names name (ofText text) json →
    ofJson? json = none

variable {names : List String} {name : String} {ofJson? : Json → Option α}
  {read : Record → Option α}

theorem IgnoresOthers.of_record (h : ∀ json, ofJson? json = (json.record? names).bind read) :
    IgnoresOthers names ofJson? := by
  intro json wider hwider
  rw [h, h, record?_of_widens hwider]

theorem NeedsId.of_record (h : ∀ json, ofJson? json = (json.record? names).bind read)
    (hnames : names.Nodup) (hname : name ∈ names)
    (hread : ∀ record value, record.lookup name = some value → value ≠ null →
      EntryId.ofJson? value = none → read record = none) : NeedsId names name ofJson? := by
  intro json text fault hparse hgives
  have hvalue : EntryId.ofJson? (ofText text) = none := by
    rw [EntryId.ofJson?_ofText, hparse]
    rfl
  rw [h]
  cases hrecord : json.record? names with
  | none => rfl
  | some record =>
    exact hread record _ (lookup_of_gives hnames hname hgives hrecord) nofun hvalue

theorem plain_ofText (text : String) : (ofText text).Plain := .string text

theorem plain_ofWord (n : UInt64) : (ofWord n).Plain := .natural n.toNat

/-- A list is read when each of its items is, in its place. -/
theorem list?_of_forall₂ {found : List α} {items : List Json}
    (h : List.Forall₂ (fun a item => ofJson? item = some a) found items) :
    (array items).list? ofJson? = some found := by
  rw [list?]
  induction h with
  | nil => rfl
  | cons hitem _ ih =>
    rw [List.mapM_cons, hitem, ih]
    rfl

end Json

/-! ## Ids -/

namespace EntryId

theorem ofJson?_toJson (id : EntryId) : ofJson? id.toJson = some id :=
  ofJson?_eq_some_iff.2 ⟨id.text, rfl, id.parse_text⟩

theorem plain_toJson (id : EntryId) : id.toJson.Plain := Json.plain_ofText id.text

end EntryId

/-! ## Consumers -/

namespace Consumer

theorem plain_toJson (consumer : Consumer) : consumer.toJson.Plain := by
  simp [toJson, Json.plain_ofMembers, Json.plain_ofText]

theorem ignoresOthers : Json.IgnoresOthers fieldNames ofJson? := .of_record fun _ => rfl

end Consumer

namespace ConsumerLoad

theorem ofJson?_toJson (load : ConsumerLoad) : ofJson? load.toJson = some load := by
  have hrecord : load.toJson.record? fieldNames = some _ := Json.record?_ofMembers rfl (by decide)
  simp [ofJson?, hrecord, Json.Record.required?, List.lookup_cons]

theorem plain_toJson (load : ConsumerLoad) : load.toJson.Plain := by
  simp [toJson, Json.plain_ofMembers, Json.plain_ofText, Json.plain_ofWord]

theorem ignoresOthers : Json.IgnoresOthers fieldNames ofJson? := .of_record fun _ => rfl

end ConsumerLoad

/-! ## Pending entries -/

namespace PendingDelivery

/-- The entry with its idle time as it is written: whole milliseconds, at most as many as 64 bits
hold. -/
def whole (entry : PendingDelivery) : PendingDelivery :=
  { entry with idle := .ofMilliseconds entry.idle.milliseconds }

variable {entry : PendingDelivery}

theorem whole_of_isWhole (h : entry.idle.IsWhole) : entry.whole = entry := by
  rw [whole, Duration.ofMilliseconds_milliseconds h]

/-- What an idle time lost is not missed when it is written again. -/
theorem toJson_whole (entry : PendingDelivery) : entry.whole.toJson = entry.toJson := by
  simp only [toJson, whole, Duration.milliseconds_ofMilliseconds]

theorem ofJson?_toJson (entry : PendingDelivery) : ofJson? entry.toJson = some entry.whole := by
  have hrecord : entry.toJson.record? fieldNames = some _ := Json.record?_ofMembers rfl (by decide)
  simp [ofJson?, hrecord, Json.Record.required?, List.lookup_cons, EntryId.ofJson?_toJson, whole]

theorem plain_toJson (entry : PendingDelivery) : entry.toJson.Plain := by
  simp [toJson, Json.plain_ofMembers, Json.plain_ofText, Json.plain_ofWord, EntryId.plain_toJson]

theorem ignoresOthers : Json.IgnoresOthers fieldNames ofJson? := .of_record fun _ => rfl

theorem needsId : Json.NeedsId fieldNames "id" ofJson? := by
  refine .of_record (fun _ => rfl) (by decide) (by decide) ?_
  intro record value hlookup _ hvalue
  simp [Json.Record.required?, hlookup, hvalue]

theorem rereads (entry : PendingDelivery) : Json.Rereads toJson ofJson? entry entry.whole :=
  .of_plain entry.plain_toJson entry.ofJson?_toJson

end PendingDelivery

namespace PendingOverview

/-- An overview as it is written, but with these items for its consumers. -/
def toJsonOver (overview : PendingOverview) (items : List Json) : Json :=
  .ofMembers [
    ("count", .ofWord overview.count),
    ("lowest", idToJson overview.lowest),
    ("highest", idToJson overview.highest),
    ("consumers", .array items)]

theorem nullable?_idToJson (id? : Option EntryId) :
    Json.nullable? EntryId.ofJson? (idToJson id?) = some id? := by
  cases id? with
  | none => rfl
  | some id =>
    change some <$> EntryId.ofJson? id.toJson = some (some id)
    rw [EntryId.ofJson?_toJson]
    rfl

theorem nullable?_eq_none {value : Json} (hnull : value ≠ .null)
    (h : EntryId.ofJson? value = none) : Json.nullable? EntryId.ofJson? value = none := by
  unfold Json.nullable?
  split
  · exact absurd rfl hnull
  · rw [h]
    rfl

/-- An overview is read whatever its consumers are read from. -/
theorem ofJson?_toJsonOver {overview : PendingOverview} {items : List Json}
    (h : List.Forall₂ (fun load item => ConsumerLoad.ofJson? item = some load)
      overview.consumers items) : ofJson? (overview.toJsonOver items) = some overview := by
  have hrecord : (overview.toJsonOver items).record? fieldNames = some _ :=
    Json.record?_ofMembers rfl (by decide)
  simp [ofJson?, hrecord, Json.Record.required?, Json.Record.nullable?, Json.Record.withDefault?,
    List.lookup_cons, nullable?_idToJson, Json.list?_of_forall₂ h]

theorem ofJson?_toJson (overview : PendingOverview) : ofJson? overview.toJson = some overview := by
  apply ofJson?_toJsonOver
  rw [List.forall₂_map_right_iff, List.forall₂_same]
  exact fun load _ => load.ofJson?_toJson

theorem plain_idToJson (id? : Option EntryId) : (idToJson id?).Plain := by
  cases id? with
  | none => exact .null
  | some id => exact id.plain_toJson

theorem plain_toJson (overview : PendingOverview) : overview.toJson.Plain := by
  have hloads : (Json.array (overview.consumers.map ConsumerLoad.toJson)).Plain := by
    apply Json.Plain.array
    intro item hitem
    obtain ⟨load, -, rfl⟩ := List.mem_map.1 hitem
    exact load.plain_toJson
  simp [toJson, Json.plain_ofMembers, Json.plain_ofWord, plain_idToJson, hloads]

theorem ignoresOthers : Json.IgnoresOthers fieldNames ofJson? := .of_record fun _ => rfl

theorem needsId {name : String} (h : name = "lowest" ∨ name = "highest") :
    Json.NeedsId fieldNames name ofJson? := by
  refine .of_record (fun _ => rfl) (by decide) (by rcases h with rfl | rfl <;> decide) ?_
  intro record value hlookup hnull hvalue
  have hfield : record.nullable? name EntryId.ofJson? = none := by
    rw [Json.Record.nullable?, Json.Record.withDefault?, hlookup]
    exact nullable?_eq_none hnull hvalue
  rcases h with rfl | rfl <;> simp [hfield]

/-- Members more are ignored in an overview and in each of its consumers. -/
theorem ofJson?_of_widens {overview : PendingOverview} {items : List Json} {wider : Json}
    (hitems : List.Forall₂ (fun load item => Json.Widens ConsumerLoad.fieldNames
      (ConsumerLoad.toJson load) item) overview.consumers items)
    (hwider : Json.Widens fieldNames (overview.toJsonOver items) wider) :
    ofJson? wider = some overview := by
  rw [ignoresOthers _ _ hwider]
  apply ofJson?_toJsonOver
  refine hitems.imp ?_
  intro load item hitem
  rw [ConsumerLoad.ignoresOthers _ _ hitem, load.ofJson?_toJson]

end PendingOverview

/-- **What is written to JSON is read back.** A pending entry is read back, as a value and from its
text, with its idle time in whole milliseconds of 64 bits, and written again it is the same. What
was read of a reply of the server loses nothing, and neither does an id, a consumer, a load or an
overview, with its ids or without. Members that are no fields change nothing, and not in the
consumers of an overview either. Where an id is given by a text that is none, nothing is read. -/
theorem json_read_back :
    (∀ entry : PendingDelivery, ∃ idle : Duration,
      idle.nanoseconds = min (entry.idle.nanoseconds / 1000000) (UInt64.size - 1) * 1000000 ∧
      Json.Rereads PendingDelivery.toJson PendingDelivery.ofJson? entry { entry with idle } ∧
      PendingDelivery.toJson { entry with idle } = entry.toJson) ∧
    (∀ command reply found, Reply.pendingList command reply = .ok found → ∀ entry ∈ found,
      Json.Rereads PendingDelivery.toJson PendingDelivery.ofJson? entry entry) ∧
    (∀ id, Json.Rereads EntryId.toJson EntryId.ofJson? id id) ∧
    (∀ consumer, Json.Rereads Consumer.toJson Consumer.ofJson? consumer consumer) ∧
    (∀ load, Json.Rereads ConsumerLoad.toJson ConsumerLoad.ofJson? load load) ∧
    (∀ overview, Json.Rereads PendingOverview.toJson PendingOverview.ofJson? overview overview) ∧
    (Json.IgnoresOthers PendingDelivery.fieldNames PendingDelivery.ofJson? ∧
      Json.IgnoresOthers Consumer.fieldNames Consumer.ofJson? ∧
      Json.IgnoresOthers ConsumerLoad.fieldNames ConsumerLoad.ofJson? ∧
      Json.IgnoresOthers PendingOverview.fieldNames PendingOverview.ofJson?) ∧
    (∀ (overview : PendingOverview) items wider,
      List.Forall₂ (fun load item => Json.Widens ConsumerLoad.fieldNames
        (ConsumerLoad.toJson load) item) overview.consumers items →
      Json.Widens PendingOverview.fieldNames (overview.toJsonOver items) wider →
      PendingOverview.ofJson? wider = some overview) ∧
    (∀ text, EntryId.ofJson? (.ofText text) = (EntryId.parse text).toOption) ∧
    Json.NeedsId PendingDelivery.fieldNames "id" PendingDelivery.ofJson? ∧
    Json.NeedsId PendingOverview.fieldNames "lowest" PendingOverview.ofJson? ∧
    Json.NeedsId PendingOverview.fieldNames "highest" PendingOverview.ofJson? := by
  refine ⟨fun entry => ?_, fun command reply found h entry hmem => ?_,
    fun id => .of_plain id.plain_toJson id.ofJson?_toJson,
    fun consumer => .of_plain consumer.plain_toJson consumer.ofJson?_toJson,
    fun load => .of_plain load.plain_toJson load.ofJson?_toJson,
    fun overview => .of_plain overview.plain_toJson overview.ofJson?_toJson,
    ⟨PendingDelivery.ignoresOthers, Consumer.ignoresOthers, ConsumerLoad.ignoresOthers,
      PendingOverview.ignoresOthers⟩,
    fun _ _ _ => PendingOverview.ofJson?_of_widens, EntryId.ofJson?_ofText,
    PendingDelivery.needsId, PendingOverview.needsId (.inl rfl), PendingOverview.needsId (.inr rfl)⟩
  · have hidle := entry.idle.nanoseconds_ofMilliseconds_milliseconds
    exact ⟨entry.whole.idle, hidle, entry.rereads, entry.toJson_whole⟩
  · have hread := entry.rereads
    rwa [PendingDelivery.whole_of_isWhole (Reply.isWhole_of_pendingList h entry hmem)] at hread

/-- An idle time of a millisecond and a half, a longer one than 64 bits hold, an overview with
members more in it and in its consumer, and an id with a sign. -/
theorem json_read_back_half_millisecond :
    let entry : PendingDelivery := ⟨⟨1, 2⟩, "c", ⟨1500000, by decide⟩, 3⟩
    let endless : PendingDelivery := ⟨⟨1, 2⟩, "c", .longest, 3⟩
    let heard : PendingDelivery := ⟨⟨1, 2⟩, "c", .ofMilliseconds 7, 3⟩
    let sent : Reply := .array [.array [.status "1-2", .status "c", .integer 7, .integer 3]]
    let overview : PendingOverview := ⟨1, some ⟨1, 2⟩, none, [⟨"c", 1⟩]⟩
    let load : Json :=
      .ofMembers [("consumer", .ofText "c"), ("count", .null), ("pending", .ofWord 1)]
    let wider : Json := .ofMembers [("pending", .otherNumber "-0.5"), ("count", .ofWord 1),
      ("lowest", .ofText (EntryId.text ⟨1, 2⟩)), ("highest", .null), ("consumers", .array [load])]
    let signed : Json := .array [.ofText "+5", .ofText "c", .ofWord 7, .ofWord 3]
    PendingDelivery.ofJson? entry.toJson = some { entry with idle := .ofMilliseconds 1 } ∧
      PendingDelivery.ofJson? endless.toJson =
        some { endless with idle := .ofMilliseconds 18446744073709551615 } ∧
      Reply.pendingList .pending sent = .ok [heard] ∧
      PendingDelivery.ofJson? heard.toJson = some heard ∧
      List.Forall₂ (fun load item => Json.Widens ConsumerLoad.fieldNames
        (ConsumerLoad.toJson load) item) overview.consumers [load] ∧
      Json.Widens PendingOverview.fieldNames (overview.toJsonOver [load]) wider ∧
      PendingOverview.ofJson? wider = some overview ∧
      (∃ fault, EntryId.parse "+5" = .error fault) ∧
      Json.Gives PendingDelivery.fieldNames "id" (.ofText "+5") signed ∧
      PendingDelivery.ofJson? signed = none := by
  intro entry endless heard sent overview load wider signed
  obtain ⟨hreread, hheard, -, -, -, -, -, hwidens, -, hneeds, -⟩ := json_read_back
  have hwhole : heard.idle.IsWhole := ⟨7, rfl⟩
  have hsent : sent.IsListOf Reply.IsPending [heard] := by
    have hid : heard.id.text = "1-2" := by decide
    refine ⟨_, .array _, .cons (.four (hid ▸ .status) .status ?_ (.integer (by decide))) .nil⟩
    rw [Duration.milliseconds_ofMilliseconds]
    exact .integer (by decide)
  have hread : Reply.pendingList .pending sent = .ok [heard] := by
    refine (Reply.readsBack_pendingList .pending fun one hmem => ?_).2 sent hsent
    exact List.mem_singleton.1 hmem ▸ hwhole
  have hloads : List.Forall₂ (fun load item => Json.Widens ConsumerLoad.fieldNames
      (ConsumerLoad.toJson load) item) overview.consumers [load] :=
    .cons (.object (.keep _ (.extra (by decide) _ (.keep _ .nil)))) .nil
  have hwider : Json.Widens PendingOverview.fieldNames (overview.toJsonOver [load]) wider :=
    .object (.extra (by decide) _ (.keep _ (.keep _ (.keep _ (.keep _ .nil)))))
  obtain ⟨fault, hfault⟩ : ∃ fault, EntryId.parse "+5" = .error fault := by
    cases hparse : EntryId.parse "+5" with
    | error fault => exact ⟨fault, rfl⟩
    | ok id =>
      have hmark : "+5".toList = '+' :: ['5'] := rfl
      exact absurd hparse (EntryId.parse_ne_ok_of_mark hmark rfl id)
  have hgives : Json.Gives PendingDelivery.fieldNames "id" (.ofText "+5") signed :=
    .item 0 rfl rfl
  refine ⟨?_, ?_, hread, (hheard _ _ _ hread heard List.mem_cons_self).value, hloads, hwider,
    hwidens overview [load] wider hloads hwider, ⟨fault, hfault⟩, hgives,
    hneeds signed "+5" fault hfault hgives⟩
  · obtain ⟨idle, hidle, hentry, -⟩ := hreread entry
    obtain rfl : idle = .ofMilliseconds 1 := Duration.nanoseconds_inj.1 (hidle.trans (by decide))
    exact hentry.value
  · obtain ⟨idle, hidle, hentry, -⟩ := hreread endless
    obtain rfl : idle = .ofMilliseconds 18446744073709551615 :=
      Duration.nanoseconds_inj.1 (hidle.trans (by decide))
    exact hentry.value

end AppendLog
