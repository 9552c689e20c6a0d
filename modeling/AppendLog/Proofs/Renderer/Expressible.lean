import AppendLog.Proofs.Renderer.Tokens
import AppendLog.Proofs.Reply.Pending
import AppendLog.Proofs.Wire.Names
import AppendLog.Proofs.Wire.Range

/-!
# Instructions for all requests

Whatever a builder makes can be asked of the renderer: `Draft.instruction` writes the arguments of a
draft as an instruction, each id, position and end of a range as its text and each value in base64.
`Draft.request_instruction` says that the instruction asks for the request of the draft. Consumers
are checked on the way and durations are whole milliseconds, so nothing is said of others.
-/

namespace AppendLog

/-- A position as it is read from its text: the beginning is the place after the least id. -/
def Position.settled (position : Position) : Position :=
  if position = .beginning then .after .least else position

theorem Position.text_settled (position : Position) : position.settled.text = position.text := by
  cases position <;> rfl

theorem GroupPosition.parse_text (position : GroupPosition) :
    parse position.text = .ok position := by
  cases position with
  | undelivered => rfl
  | pendingAfter id =>
    have hne : id.text ≠ ">" := EntryId.text_ne_of_mark (show ">".toList = ['>'] from rfl) rfl
    rw [text, parse, if_neg hne, EntryId.parse_text]
    rfl

theorem Limit.ofCount?_count? (limit : Limit) : ofCount? limit.count? = limit := by
  cases limit <;> rfl

/-! ## Drafts as instructions -/

namespace Draft

open Renderer (Instruction)

/-- An instruction to make the request of an operation. -/
def asking (operation : String) : Instruction :=
  { kind := "render", operation := some operation }

/-- The instruction with the arguments of a draft. -/
def instruction : Draft → Instruction
  | acknowledge key group ids =>
    { asking "xack" with key := some key, group := some group, ids := ids.map EntryId.text }
  | append key options body =>
    { asking "xadd" with
      key := some key
      id := options.id.map EntryId.text
      maxLength := options.maxLength
      approximately := options.approximately
      body := body.pairs.map fun (name, value) => (name, Base64.encode value)
      binary := true }
  | claim key consumer options ids idsOnly =>
    { asking "xclaim" with
      key := some key
      group := some consumer.group
      consumer := some consumer.name
      ids := ids.map EntryId.text
      minIdle := options.minIdle.milliseconds
      idle := options.idle.map Duration.milliseconds
      time := options.time
      retryCount := options.retryCount
      force := options.force
      idsOnly }
  | createGroup key group position makeStream =>
    { asking "xgroup-create" with
      key := some key, group := some group, position := some position.text, makeStream }
  | moveGroup key group position =>
    { asking "xgroup-setid" with
      key := some key, group := some group, position := some position.text }
  | removeConsumer key consumer =>
    { asking "xgroup-delconsumer" with
      key := some key, group := some consumer.group, consumer := some consumer.name }
  | length key => { asking "xlen" with key := some key }
  | pendingOverview key group => { asking "xpending" with key := some key, group := some group }
  | pendingList key group consumer within limit =>
    { asking "xpending" with
      key := some key
      group := some group
      consumer
      lower := some within.lowerText
      upper := some within.upperText
      count := limit.count? }
  | range key within limit =>
    { asking "xrange" with
      key := some key
      lower := some within.lowerText
      upper := some within.upperText
      count := limit.count? }
  | reverseRange key within limit =>
    { asking "xrevrange" with
      key := some key
      lower := some within.lowerText
      upper := some within.upperText
      count := limit.count? }
  | read options streams =>
    { asking "xread" with
      count := options.count
      block := options.block.map Duration.milliseconds
      noAck := options.noAck
      streams := streams.map fun (key, position) => (key, position.text) }
  | readAsConsumer consumer options streams =>
    { asking "xreadgroup" with
      group := some consumer.group
      consumer := some consumer.name
      count := options.count
      block := options.block.map Duration.milliseconds
      noAck := options.noAck
      streams := streams.map fun (key, position) => (key, position.text) }

/-- The durations in a draft. -/
def durations : Draft → List Duration
  | claim _ _ options _ _ => options.minIdle :: options.idle.toList
  | read options _ | readAsConsumer _ options _ => options.block.toList
  | _ => []

theorem kind_instruction (draft : Draft) : draft.instruction.kind = "render" := by
  cases draft <;> rfl

end Draft

/-! ## Arguments that are read back -/

namespace Renderer.Instruction

variable {instruction : Instruction}

theorem readIds_of_texts {ids : List EntryId} (h : instruction.ids = ids.map EntryId.text) :
    instruction.readIds = .ok ids := by
  rw [readIds, h, mapM_map_of_ok EntryId.parse_text, List.map_id']

theorem readConsumer_of_checked {consumer : Consumer} (hchecked : consumer.Checked)
    (hgroup : instruction.group = some consumer.group)
    (hname : instruction.consumer = some consumer.name) :
    instruction.readConsumer = .ok consumer := by
  obtain ⟨hgroup', hname'⟩ := Consumer.checked_iff.1 hchecked
  rw [readConsumer, hgroup, hname]
  exact Consumer.ofNames_eq_ok hgroup' hname'

theorem readPosition_of_text {position : Position} (h : instruction.position = some position.text) :
    instruction.readPosition = .ok position.settled := by
  rw [readPosition, h]
  exact position.parse_text

theorem readRange_of_texts {range : Range} (hlower : instruction.lower = some range.lowerText)
    (hupper : instruction.upper = some range.upperText) : instruction.readRange = .ok range := by
  rw [readRange, hlower, hupper]
  exact range.parse_text

theorem readStreams_of_texts {α : Type} {read : String → Except Fault α} {text : α → String}
    {settled : α → α} (hread : ∀ a, read (text a) = .ok (settled a)) {streams : List (String × α)}
    (h : instruction.streams = streams.map fun (key, position) => (key, text position)) :
    instruction.readStreams read =
      .ok (streams.map fun (key, position) => (key, settled position)) := by
  rw [readStreams, h]
  apply mapM_map_of_ok
  rintro ⟨key, position⟩
  simp only [hread]
  rfl

theorem map_ofMilliseconds_of_whole {span? : Option Duration}
    (h : ∀ span ∈ span?.toList, span.IsWhole) :
    (span?.map Duration.milliseconds).map Duration.ofMilliseconds = span? := by
  cases span? with
  | none => rfl
  | some span =>
    have hspan : span.IsWhole := h span (by simp)
    exact congrArg some (Duration.ofMilliseconds_milliseconds hspan)

theorem readOptions_of_whole {options : ReadOptions}
    (hwhole : ∀ span ∈ options.block.toList, span.IsWhole)
    (hcount : instruction.count = options.count)
    (hblock : instruction.block = options.block.map Duration.milliseconds)
    (hnoAck : instruction.noAck = options.noAck) : instruction.readOptions = options := by
  rw [readOptions, hcount, hblock, hnoAck, map_ofMilliseconds_of_whole hwhole]

theorem appendOptions_of_text {options : AppendOptions}
    (hid : instruction.id = options.id.map EntryId.text)
    (hlength : instruction.maxLength = options.maxLength)
    (happroximately : instruction.approximately = options.approximately) :
    instruction.appendOptions = .ok options := by
  obtain ⟨id, maxLength, approximately⟩ := options
  rw [appendOptions, hid, hlength, happroximately]
  cases id with
  | none => rfl
  | some id =>
    rw [Option.map_some, Option.mapM_some, EntryId.parse_text]
    rfl

/-- Values in base64 are read as the body that they were written from. -/
theorem readBody_of_encoded {body : Fields} (hbinary : instruction.binary = true)
    (hbody : instruction.body =
      body.pairs.map fun (name, value) => (name, Base64.encode value)) :
    instruction.readBody = .ok body := by
  rw [readBody_of_isBase64 hbinary, Fields.ofPairs_eq_ok_iff]
  rw [hbody, List.forall₂_map_left_iff, List.forall₂_same]
  exact fun pair _ => ⟨rfl, Base64.isBase64_encode pair.2⟩

end Renderer.Instruction

/-! ## Requests of instructions -/

namespace Draft

open Renderer (Instruction)
open Renderer.Instruction

/-- A read is sent by the texts of its positions. -/
theorem read_settled (options : ReadOptions) (streams : List (String × Position)) :
    Request.read options (streams.map fun (key, position) => (key, position.settled)) =
      Request.read options streams := by
  simp only [Request.read, List.isEmpty_map, List.map_map, Function.comp_def,
    Position.text_settled]

theorem claimOptions_instruction {key : String} {consumer : Consumer} {options : ClaimOptions}
    {ids : List EntryId} {idsOnly : Bool}
    (hwhole : ∀ span ∈ (claim key consumer options ids idsOnly).durations, span.IsWhole) :
    (claim key consumer options ids idsOnly).instruction.claimOptions = options := by
  obtain ⟨hminIdle, hidle⟩ := List.forall_mem_cons.1 hwhole
  rw [claimOptions]
  change ClaimOptions.mk (.ofMilliseconds options.minIdle.milliseconds)
    ((options.idle.map Duration.milliseconds).map Duration.ofMilliseconds) _ _ _ = options
  rw [Duration.ofMilliseconds_milliseconds hminIdle, map_ofMilliseconds_of_whole hidle]
  rfl

/-- The instruction for a draft asks for the request of the draft, or is refused as that is. -/
theorem request_instruction (draft : Draft)
    (hchecked : ∀ consumer, draft.consumer? = some consumer → consumer.Checked)
    (hwhole : ∀ span ∈ draft.durations, span.IsWhole) :
    draft.instruction.request = draft.request := by
  cases draft with
  | acknowledge key group ids =>
    change Instruction.readIds _ >>= _ = _
    rw [readIds_of_texts rfl]
    rfl
  | append key options body =>
    rw [request_of_xadd rfl, appendOptions_of_text rfl rfl rfl, readBody_of_encoded rfl rfl]
    rfl
  | claim key consumer options ids idsOnly =>
    change (Instruction.readConsumer _ >>= fun found => Instruction.readIds _ >>= fun ids =>
      Request.claim key found (Instruction.claimOptions _) ids idsOnly) = _
    rw [readConsumer_of_checked (hchecked consumer rfl) rfl rfl, readIds_of_texts rfl,
      claimOptions_instruction hwhole]
    rfl
  | createGroup key group position makeStream =>
    change Instruction.readPosition _ >>= _ = _
    rw [readPosition_of_text rfl]
    change Request.createGroup key group position.settled makeStream = _
    rw [Request.createGroup, Position.text_settled]
    rfl
  | moveGroup key group position =>
    change Instruction.readPosition _ >>= _ = _
    rw [readPosition_of_text rfl]
    change Request.moveGroup key group position.settled = _
    rw [Request.moveGroup, Position.text_settled]
    rfl
  | removeConsumer key consumer =>
    change Instruction.readConsumer _ >>= _ = _
    rw [readConsumer_of_checked (hchecked consumer rfl) rfl rfl]
    rfl
  | length key => rfl
  | pendingOverview key group => rfl
  | pendingList key group consumer within limit =>
    -- Both ends are given, so the entries are asked for one by one whatever else is.
    change Instruction.readRange _ >>= _ = _
    rw [readRange_of_texts rfl rfl]
    change Request.pendingList key group consumer within (.ofCount? limit.count?) = _
    rw [Limit.ofCount?_count?]
    rfl
  | range key within limit =>
    change Instruction.readRange _ >>= _ = _
    rw [readRange_of_texts rfl rfl]
    change Except.ok (Request.range key within (.ofCount? limit.count?)) = _
    rw [Limit.ofCount?_count?]
    rfl
  | reverseRange key within limit =>
    change Instruction.readRange _ >>= _ = _
    rw [readRange_of_texts rfl rfl]
    change Except.ok (Request.reverseRange key within (.ofCount? limit.count?)) = _
    rw [Limit.ofCount?_count?]
    rfl
  | read options streams =>
    have hstreams : (read options streams).instruction.readStreams Position.parse =
        .ok (streams.map fun (key, position) => (key, position.settled)) :=
      readStreams_of_texts Position.parse_text rfl
    change (Instruction.readStreams Position.parse _ >>= fun found =>
      Request.read (Instruction.readOptions _) found) = _
    rw [hstreams, readOptions_of_whole hwhole rfl rfl rfl]
    exact read_settled options streams
  | readAsConsumer consumer options streams =>
    have hstreams : (readAsConsumer consumer options streams).instruction.readStreams
        GroupPosition.parse = .ok (streams.map fun (key, position) => (key, id position)) :=
      readStreams_of_texts GroupPosition.parse_text rfl
    change (Instruction.readStreams GroupPosition.parse _ >>= fun found =>
      Instruction.readConsumer _ >>= fun consumer =>
        Request.readAsConsumer consumer (Instruction.readOptions _) found) = _
    rw [hstreams, readConsumer_of_checked (hchecked consumer rfl) rfl rfl,
      readOptions_of_whole hwhole rfl rfl rfl]
    simp [Bind.bind, Except.bind, request]

/-- The pending entries one by one and their overview, each asked for by an instruction of its
own. -/
theorem requests_of_pending (key : String) {group : String} (hgroup : group ≠ "") :
    ∃ list overview,
      (pendingList key group none {} .unlimited).instruction.request = .ok list ∧
      list.tokens =
        ["XPENDING", key, group, "-", "+", "9223372036854775807"].map String.toUTF8 ∧
      (pendingOverview key group).instruction.request = .ok overview ∧
      overview.tokens = ["XPENDING", key, group].map String.toUTF8 ∧ list ≠ overview := by
  obtain ⟨list, hlist⟩ : ∃ list, Request.pendingList key group none {} .unlimited = .ok list :=
    PendingTerms.exists_pendingList hgroup
  obtain ⟨overview, hoverview⟩ : ∃ overview, Request.pendingOverview key group = .ok overview :=
    ⟨_, if_neg hgroup⟩
  refine ⟨list, overview, ?_, ?_, ?_, ?_, PendingTerms.pendingList_ne_overview hlist hoverview⟩
  · rw [request_instruction _ (by rintro _ ⟨⟩) (by rintro _ ⟨⟩)]
    exact hlist
  · have hcount : Decimal.write Limit.unlimited.pendingCount = "9223372036854775807" := by decide
    rw [PendingTerms.tokens_of_pendingList hlist, hcount]
    rfl
  · rw [request_instruction _ (by rintro _ ⟨⟩) (by rintro _ ⟨⟩)]
    exact hoverview
  · rw [request_eq (show (pendingOverview key group).request = .ok overview from hoverview)]
    rfl

/-- **Every request can be asked of the renderer.** Whatever request a builder makes, of consumers
that were checked and durations of whole milliseconds, the instruction with the texts of its
arguments is answered with that request. So are the pending entries one by one where nothing limits
them: both ends stand in the instruction, which is not taken for one that asks for an overview. -/
theorem expressible :
    (∀ (draft : Draft) (request : Request),
      (∀ consumer, draft.consumer? = some consumer → consumer.Checked) →
      (∀ span ∈ draft.durations, span.IsWhole) → draft.request = .ok request →
      draft.instruction.kind = "render" ∧ draft.instruction.request = .ok request ∧
        draft.instruction.answer = .rendered request) ∧
    ∀ key group : String, group ≠ "" → ∃ list overview,
      (pendingList key group none {} .unlimited).instruction.request = .ok list ∧
      list.tokens =
        ["XPENDING", key, group, "-", "+", "9223372036854775807"].map String.toUTF8 ∧
      (pendingOverview key group).instruction.request = .ok overview ∧
      overview.tokens = ["XPENDING", key, group].map String.toUTF8 ∧ list ≠ overview := by
  constructor
  · intro draft request hchecked hwhole h
    have hrequest : draft.instruction.request = .ok request := by
      rw [request_instruction draft hchecked hwhole, h]
    exact ⟨draft.kind_instruction, hrequest, answer_of_render draft.kind_instruction hrequest⟩
  · intro key group hgroup
    exact requests_of_pending key hgroup

/-- A claim with nearly all that it may have, whose names are words of the request. -/
theorem expressible_full_claim :
    let options : ClaimOptions := {
      minIdle := .ofMilliseconds 0, idle := some (.ofMilliseconds 18446744073709551615)
      time := some 0, force := true }
    let draft : Draft := .claim "" ⟨"FORCE", "JUSTID"⟩ options [⟨1, 2⟩] true
    draft.instruction.answer = .rendered (.ofTexts .claim ["", "FORCE", "JUSTID", "0", "1-2",
      "IDLE", "18446744073709551615", "TIME", "0", "FORCE", "JUSTID"]) := by
  intro options draft
  obtain ⟨hmade, -⟩ := expressible
  refine (hmade draft _ ?_ ?_ ?_).2.2
  · intro consumer hconsumer
    obtain rfl := Option.some.inj hconsumer
    exact Consumer.checked_iff.2 ⟨by decide, by decide⟩
  · intro span hspan
    simp only [draft, options, durations, Option.toList_some, List.mem_cons, List.not_mem_nil,
      or_false] at hspan
    obtain rfl | rfl := hspan
    · exact ⟨0, rfl⟩
    · exact ⟨18446744073709551615, rfl⟩
  · have hwords : draft.words = ["", "FORCE", "JUSTID", "0", "1-2", "IDLE",
        "18446744073709551615", "TIME", "0", "FORCE", "JUSTID"] := by decide
    rw [← hwords]
    rfl

end Draft

end AppendLog
