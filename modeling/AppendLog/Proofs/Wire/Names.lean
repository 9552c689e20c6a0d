import AppendLog.Json.Values
import AppendLog.Proofs.Renderer.Drafts
import AppendLog.Proofs.Reply.Results

/-!
# Names in requests

The name of a group and of a consumer stand at fixed places of a request, `Request.groupToken?` and
`Request.consumerToken?`. A group that is given by its name is checked by the builder. A consumer is
checked when it is made of its names, but not when it is read from JSON, and the optional consumer
of a request for pending entries is not checked at all. `Draft.named_iff_checked` says that these
two are the only ways for an empty name to get into a request.
-/

namespace AppendLog

/-! ## Where names stand -/

namespace Request

/-- The name of the group that a request is about, by its place. -/
def groupToken? (request : Request) : Option Token :=
  match request.command with
  | .acknowledge | .claim | .createGroup | .removeConsumer | .moveGroup | .pending
  | .readAsConsumer => request.arguments[1]?
  | _ => none

/-- The name of the consumer that a request is about, by its place. In a request for pending entries
it stands behind the ends of the range and the count. -/
def consumerToken? (request : Request) : Option Token :=
  match request.command with
  | .claim | .removeConsumer | .readAsConsumer => request.arguments[2]?
  | .pending => request.arguments[5]?
  | _ => none

/-- The names in a request are not empty. -/
structure Named (request : Request) : Prop where
  group : ∀ token, request.groupToken? = some token → token.size ≠ 0
  consumer : ∀ token, request.consumerToken? = some token → token.size ≠ 0

end Request

/-! ## Checked consumers -/

namespace Consumer

/-- A consumer that was made of names that were checked. -/
def Checked (consumer : Consumer) : Prop := ∃ group name, ofNames group name = .ok consumer

theorem ofNames_eq_ok {group name : String} (hgroup : group ≠ "") (hname : name ≠ "") :
    ofNames group name = .ok ⟨group, name⟩ := by
  rw [ofNames, if_neg hgroup, if_neg hname]

theorem ofNames_eq_error {group name : String} (h : group = "" ∨ name = "") :
    ∃ rule, ofNames group name = .error (.misuse rule) := by
  by_cases hgroup : group = ""
  · exact ⟨_, if_pos hgroup⟩
  · have hname : name = "" := h.resolve_left hgroup
    exact ⟨_, (if_neg hgroup).trans (if_pos hname)⟩

theorem checked_iff {consumer : Consumer} :
    consumer.Checked ↔ consumer.group ≠ "" ∧ consumer.name ≠ "" := by
  constructor
  · rintro ⟨group, name, h⟩
    by_cases hempty : group = "" ∨ name = ""
    · obtain ⟨rule, hrule⟩ := ofNames_eq_error hempty
      rw [hrule] at h
      cases h
    · rw [not_or] at hempty
      rw [ofNames_eq_ok hempty.1 hempty.2] at h
      obtain rfl := Except.ok.inj h
      exact hempty
  · rintro ⟨hgroup, hname⟩
    exact ⟨_, _, ofNames_eq_ok hgroup hname⟩

/-- Every consumer, with a name or without, is read from its JSON. -/
theorem ofJson?_toJson (consumer : Consumer) : ofJson? consumer.toJson = some consumer := by
  rfl

end Consumer

/-! ## Names in drafts -/

namespace Draft

/-- The consumer of a draft that takes one. -/
def consumer? : Draft → Option Consumer
  | claim _ consumer _ _ _ | removeConsumer _ consumer | readAsConsumer consumer _ _ =>
    some consumer
  | _ => none

/-- The group of a draft that takes it by its name. -/
def group? : Draft → Option String
  | acknowledge _ group _ | createGroup _ group _ _ | moveGroup _ group _ | pendingOverview _ group
  | pendingList _ group _ _ _ => some group
  | _ => none

/-- The consumer whose pending entries are asked for, by its name. -/
def owner? : Draft → Option String
  | pendingList _ _ owner _ _ => owner
  | _ => none

/-- No name of a consumer in a draft was taken without a check. -/
structure Checked (draft : Draft) : Prop where
  consumer : ∀ consumer, draft.consumer? = some consumer → consumer.Checked
  owner : draft.owner? ≠ some ""

/-- The name of the group that a draft is about, if it is about one. -/
def groupName? (draft : Draft) : Option String :=
  (draft.consumer?.map Consumer.group).or draft.group?

/-- The name of the consumer that a draft is about, if it is about one. -/
def consumerName? (draft : Draft) : Option String :=
  (draft.consumer?.map Consumer.name).or draft.owner?

variable {draft : Draft} {request : Request}

theorem groupToken?_of_request (h : draft.request = .ok request) :
    request.groupToken? = draft.groupName?.map String.toUTF8 := by
  rw [request_eq h]
  cases draft <;> rfl

theorem consumerToken?_of_request (h : draft.request = .ok request) :
    request.consumerToken? = draft.consumerName?.map String.toUTF8 := by
  rw [request_eq h]
  cases draft with
  | pendingList key group owner range limit => cases owner <;> rfl
  | _ => rfl

theorem request_of_emptyGroup (h : draft.group? = some "") :
    draft.request = .error (.misuse .emptyGroupName) := by
  cases draft with
  | acknowledge | createGroup | moveGroup | pendingOverview | pendingList =>
    obtain rfl := Option.some.inj h
    rfl
  | _ => cases h

/-- A name that stands in a request is not empty exactly when it was not given as empty. -/
theorem size_of_name_iff {name? : Option String} :
    (∀ token, name?.map String.toUTF8 = some token → token.size ≠ 0) ↔ name? ≠ some "" := by
  cases name? with
  | none => simp
  | some name => simp

/-- A request has its names exactly when the consumers in it were checked, since its group was. -/
theorem named_iff (h : draft.request = .ok request) : request.Named ↔ draft.Checked := by
  have hnamed : request.Named ↔ draft.groupName? ≠ some "" ∧ draft.consumerName? ≠ some "" := by
    rw [← size_of_name_iff, ← size_of_name_iff, ← groupToken?_of_request h,
      ← consumerToken?_of_request h]
    exact ⟨fun hnamed => ⟨hnamed.group, hnamed.consumer⟩, fun hnames => ⟨hnames.1, hnames.2⟩⟩
  have hgroup : draft.group? ≠ some "" := by
    intro hempty
    rw [request_of_emptyGroup hempty] at h
    cases h
  rw [hnamed, groupName?, consumerName?]
  cases hconsumer : draft.consumer? with
  | none =>
    constructor
    · rintro ⟨-, howner⟩
      exact ⟨by simp [hconsumer], howner⟩
    · intro hchecked
      exact ⟨hgroup, hchecked.owner⟩
  | some consumer =>
    -- Only a request for pending entries has an owner, and it takes no consumer.
    have howner : draft.owner? ≠ some "" := by
      cases draft with
      | pendingList => cases hconsumer
      | _ => simp [owner?]
    constructor
    · intro hnames
      refine ⟨fun other hother => ?_, howner⟩
      obtain rfl := Option.some.inj (hconsumer.symm.trans hother)
      exact Consumer.checked_iff.2 (by simpa using hnames)
    · intro hchecked
      simpa using Consumer.checked_iff.1 (hchecked.consumer consumer hconsumer)

end Draft

/-! ## Names in instructions -/

namespace Renderer.Instruction

/-- The operations that take a group by its name. -/
def groupOperations : List String := ["xack", "xgroup-create", "xgroup-setid", "xpending"]

/-- The operations that take a consumer. -/
def consumerOperations : List String := ["xclaim", "xgroup-delconsumer", "xreadgroup"]

/-- An instruction lacks a name that its operation takes. -/
def LacksName (instruction : Instruction) : Prop :=
  orEmpty instruction.operation ∈ groupOperations ∧ orEmpty instruction.group = "" ∨
    orEmpty instruction.operation ∈ consumerOperations ∧
      (orEmpty instruction.group = "" ∨ orEmpty instruction.consumer = "")

/-- The pending entries of a consumer are asked for whose name is empty. -/
def AsksForNobody (instruction : Instruction) : Prop :=
  orEmpty instruction.operation = "xpending" ∧ instruction.consumer = some ""

theorem notMem_consumerOperations {operation : String} (h : operation ∈ groupOperations) :
    operation ∉ consumerOperations := by
  revert operation
  decide

variable {instruction : Instruction} {draft : Draft} {request : Request}

/-- Where the names in the draft of an instruction come from. -/
inductive Parties (instruction : Instruction) (draft : Draft) : Prop where
  | consumer {consumer : Consumer}
      (hoperation : orEmpty instruction.operation ∈ consumerOperations)
      (hread : instruction.readConsumer = .ok consumer)
      (hconsumer : draft.consumer? = some consumer) (howner : draft.owner? = none)
  | group (hoperation : orEmpty instruction.operation ∈ groupOperations)
      (hgroup : draft.group? = some (orEmpty instruction.group))
      (hconsumer : draft.consumer? = none)
      (howner : draft.owner? =
        if orEmpty instruction.operation = "xpending" then instruction.consumer else none)
  | nobody (hgroup : orEmpty instruction.operation ∉ groupOperations)
      (htakes : orEmpty instruction.operation ∉ consumerOperations)
      (hconsumer : draft.consumer? = none) (howner : draft.owner? = none)

theorem consumer_eq_none_of_overview (h : ¬ instruction.asksForDetail = true) :
    instruction.consumer = none := by
  simp only [asksForDetail, Bool.or_eq_true, not_or] at h
  simpa using h.2

theorem parties_of_draft (h : instruction.draft = .ok draft) : Parties instruction draft := by
  unfold Instruction.draft at h
  split at h
  -- A group is given by its name, and one argument is read.
  case h_1 hoperation | h_4 hoperation | h_5 hoperation =>
    obtain ⟨argument, -, h⟩ := exists_of_bind_eq_ok h
    obtain rfl := Except.ok.inj h
    exact .group (by simp [hoperation, groupOperations]) rfl rfl (by rw [hoperation]; rfl)
  case h_8 hoperation =>
    split at h
    · obtain ⟨range, -, h⟩ := exists_of_bind_eq_ok h
      obtain rfl := Except.ok.inj h
      exact .group (by simp [hoperation, groupOperations]) rfl rfl (by rw [hoperation]; rfl)
    · next hoverview =>
      obtain rfl := Except.ok.inj h
      refine .group (by simp [hoperation, groupOperations]) rfl rfl ?_
      rw [hoperation, if_pos rfl, consumer_eq_none_of_overview hoverview]
      rfl
  -- A consumer is read, before the other arguments or behind them.
  case h_3 hoperation =>
    obtain ⟨consumer, hread, h⟩ := exists_of_bind_eq_ok h
    obtain ⟨ids, -, h⟩ := exists_of_bind_eq_ok h
    obtain rfl := Except.ok.inj h
    exact .consumer (by simp [hoperation, consumerOperations]) hread rfl rfl
  case h_6 hoperation =>
    obtain ⟨consumer, hread, h⟩ := exists_of_bind_eq_ok h
    obtain rfl := Except.ok.inj h
    exact .consumer (by simp [hoperation, consumerOperations]) hread rfl rfl
  case h_12 hoperation =>
    obtain ⟨streams, -, h⟩ := exists_of_bind_eq_ok h
    obtain ⟨consumer, hread, h⟩ := exists_of_bind_eq_ok h
    obtain rfl := Except.ok.inj h
    exact .consumer (by simp [hoperation, consumerOperations]) hread rfl rfl
  -- The other operations are about a stream alone.
  case h_2 hoperation =>
    obtain ⟨options, -, h⟩ := exists_of_bind_eq_ok h
    obtain ⟨fields, -, h⟩ := exists_of_bind_eq_ok h
    obtain rfl := Except.ok.inj h
    exact .nobody (by simp [hoperation, groupOperations]) (by simp [hoperation, consumerOperations])
      rfl rfl
  case h_7 hoperation =>
    obtain rfl := Except.ok.inj h
    exact .nobody (by simp [hoperation, groupOperations]) (by simp [hoperation, consumerOperations])
      rfl rfl
  case h_9 hoperation | h_10 hoperation | h_11 hoperation =>
    obtain ⟨argument, -, h⟩ := exists_of_bind_eq_ok h
    obtain rfl := Except.ok.inj h
    exact .nobody (by simp [hoperation, groupOperations]) (by simp [hoperation, consumerOperations])
      rfl rfl
  case h_13 => cases h

theorem checked_of_readConsumer {consumer : Consumer}
    (h : instruction.readConsumer = .ok consumer) : consumer.Checked :=
  ⟨_, _, h⟩

theorem exists_draft_of_request (h : instruction.request = .ok request) :
    ∃ draft, instruction.draft = .ok draft ∧ draft.request = .ok request := by
  rw [request_eq] at h
  exact exists_of_bind_eq_ok h

/-- A consumer is always checked, unless the name of one is asked for as it is. -/
theorem checked_iff_of_draft (h : instruction.draft = .ok draft) :
    draft.Checked ↔ ¬ instruction.AsksForNobody := by
  cases parties_of_draft h with
  | consumer hoperation hread hconsumer howner =>
    have hnot : ¬ instruction.AsksForNobody := by
      rintro ⟨hpending, -⟩
      rw [hpending] at hoperation
      exact absurd hoperation (by decide)
    refine iff_of_true ⟨fun other hother => ?_, by simp [howner]⟩ hnot
    obtain rfl := Option.some.inj (hconsumer.symm.trans hother)
    exact checked_of_readConsumer hread
  | group _ _ hconsumer howner =>
    constructor
    · rintro ⟨-, hchecked⟩ ⟨hpending, hempty⟩
      rw [howner, if_pos hpending] at hchecked
      exact hchecked hempty
    · intro hnot
      refine ⟨by simp [hconsumer], ?_⟩
      rw [howner]
      split
      · next hpending => exact fun hempty => hnot ⟨hpending, hempty⟩
      · nofun
  | nobody hgroup _ hconsumer howner =>
    have hnot : ¬ instruction.AsksForNobody := by
      rintro ⟨hpending, -⟩
      rw [hpending] at hgroup
      exact hgroup (by decide)
    exact iff_of_true ⟨by simp [hconsumer], by simp [howner]⟩ hnot

/-- What lacks a name is refused, before anything is made of it. -/
theorem refused_of_lacksName (h : instruction.LacksName) :
    ∃ fault, instruction.request = .error fault ∧ fault.OfArguments := by
  cases hrequest : instruction.request with
  | error fault => exact ⟨fault, rfl, instruction.failsOnly_request fault hrequest⟩
  | ok request =>
    obtain ⟨draft, hdraft, hmade⟩ := exists_draft_of_request hrequest
    cases parties_of_draft hdraft with
    | consumer _ hread _ _ =>
      have hempty : orEmpty instruction.group = "" ∨ orEmpty instruction.consumer = "" := by
        rcases h with ⟨-, hgroup⟩ | ⟨-, hnames⟩
        · exact .inl hgroup
        · exact hnames
      obtain ⟨rule, hrule⟩ := Consumer.ofNames_eq_error hempty
      rw [readConsumer, hrule] at hread
      cases hread
    | group hoperation hgroup _ _ =>
      rcases h with ⟨-, hempty⟩ | ⟨htakes, -⟩
      · rw [hempty] at hgroup
        rw [Draft.request_of_emptyGroup hgroup] at hmade
        cases hmade
      · exact absurd htakes (notMem_consumerOperations hoperation)
    | nobody hgroup htakes _ _ =>
      rcases h with ⟨hoperation, -⟩ | ⟨hoperation, -⟩
      · exact absurd hoperation hgroup
      · exact absurd hoperation htakes

end Renderer.Instruction

/-! ## Which requests lack a name -/

namespace Draft

open Renderer (Instruction)

/-- **Only two ways lead to a request without a name.** The names in a request are those of its
draft, at their places. They are not empty exactly if every consumer in the draft was checked when
it was made and the optional consumer of a request for pending entries is not given as empty; a
group given by its name is checked in any case, and two names are checked when a consumer is made of
them. So it is with the renderer, which makes every consumer of two names: the names are not empty
unless the pending entries of a consumer without a name are asked for, and any other empty name is
refused. But from JSON every consumer is read, with names or without. -/
theorem named_iff_checked (draft : Draft) (instruction : Instruction) :
    (∀ request, draft.request = .ok request →
      request.groupToken? = draft.groupName?.map String.toUTF8 ∧
      request.consumerToken? = draft.consumerName?.map String.toUTF8 ∧
      (request.Named ↔ draft.Checked)) ∧
    (draft.group? = some "" → draft.request = .error (.misuse .emptyGroupName)) ∧
    (∀ group name : String, group = "" ∨ name = "" →
      ∃ rule, Consumer.ofNames group name = .error (.misuse rule)) ∧
    (∀ consumer : Consumer, ∃ json, Consumer.ofJson? json = some consumer) ∧
    (∀ request, instruction.request = .ok request →
      (request.Named ↔ ¬ instruction.AsksForNobody)) ∧
    (instruction.LacksName → ∃ fault, instruction.request = .error fault ∧ fault.OfArguments) := by
  refine ⟨?_, request_of_emptyGroup, fun group name => Consumer.ofNames_eq_error,
    fun consumer => ⟨_, consumer.ofJson?_toJson⟩, ?_, Instruction.refused_of_lacksName⟩
  · intro request h
    exact ⟨groupToken?_of_request h, consumerToken?_of_request h, named_iff h⟩
  · intro request h
    obtain ⟨draft, hdraft, hmade⟩ := Instruction.exists_draft_of_request h
    rw [named_iff hmade, Instruction.checked_iff_of_draft hdraft]

/-- Names that were checked, one letter each, and an instruction without a group. -/
theorem named_iff_checked_short_names :
    let draft : Draft := .readAsConsumer ⟨"g", "c"⟩ {} [("s", .undelivered)]
    let listed : Instruction :=
      { operation := some "xpending", group := some "g", consumer := some "c" }
    let nameless : Instruction := { operation := some "xack", ids := ["1-0"] }
    (∃ request, draft.request = .ok request ∧ request.groupToken? = some "g".toUTF8 ∧
      request.consumerToken? = some "c".toUTF8 ∧ request.Named) ∧
    (∃ request, listed.request = .ok request ∧ request.Named) ∧
    Draft.request (.moveGroup "s" "" .latest) = .error (.misuse .emptyGroupName) ∧
    nameless.LacksName ∧ ∃ fault, nameless.request = .error fault ∧ fault.OfArguments := by
  intro draft listed nameless
  obtain ⟨hdraft, -, -, -, hlisted, -⟩ := named_iff_checked draft listed
  obtain ⟨-, hgroup, -, -, -, hlacks⟩ := named_iff_checked (.moveGroup "s" "" .latest) nameless
  have hchecked : draft.Checked := by
    refine ⟨fun consumer h => ?_, nofun⟩
    obtain rfl := Option.some.inj h
    exact ⟨"g", "c", rfl⟩
  obtain ⟨hgroupToken, hconsumerToken, hnamed⟩ := hdraft _ rfl
  have hasks : ¬ listed.AsksForNobody := by
    rintro ⟨-, hempty⟩
    exact absurd hempty (by decide)
  have hnameless : nameless.LacksName := .inl ⟨by decide, rfl⟩
  exact ⟨⟨_, rfl, hgroupToken, hconsumerToken, hnamed.2 hchecked⟩,
    ⟨_, rfl, (hlisted _ rfl).2 hasks⟩, hgroup rfl, hnameless, hlacks hnameless⟩

/-- A consumer without names that was read from JSON, and an instruction for the pending entries of
a consumer without a name: both come to a request. -/
theorem unnamed_requests :
    let nobody : Consumer := ⟨"", ""⟩
    let instruction : Instruction :=
      { operation := some "xpending", key := some "k", group := some "g", consumer := some "" }
    (∃ json, Consumer.ofJson? json = some nobody ∧
      ∃ request, Draft.request (.removeConsumer "k" nobody) = .ok request ∧ ¬ request.Named) ∧
    ∃ request, instruction.request = .ok request ∧ ¬ request.Named := by
  intro nobody instruction
  refine ⟨⟨_, nobody.ofJson?_toJson, _, rfl, fun hnamed => ?_⟩, _, rfl, fun hnamed => ?_⟩
  · exact hnamed.group _ rfl rfl
  · exact hnamed.consumer _ rfl rfl

end Draft

end AppendLog
