import AppendLog.Proofs.EntryId.Grammar
import AppendLog.Proofs.Operation.Locality
import AppendLog.Proofs.Wire.Draft
import AppendLog.Renderer.Instruction

/-!
# Drafts of instructions

An instruction asks for the request of a draft: its texts are read into the arguments of a builder,
`Instruction.draft`, and the builder does the rest. `Instruction.request_eq` says that nothing else
happens between an instruction and its request, and `Instruction.failsOnly_request` that it is
refused only for its arguments.
-/

namespace AppendLog

/-- A fault of the arguments of a request: a rule of use that is broken, or a text that is no id. -/
inductive Fault.OfArguments : Fault → Prop where
  | misuse (rule : Misuse) : OfArguments (.misuse rule)
  | malformedId {text : String} {defect : IdDefect}
      (h : EntryId.parse text = .error (.malformedId text defect)) :
      OfArguments (.malformedId text defect)

theorem Draft.failsOnly_request (draft : Draft) : FailsOnly Fault.OfArguments draft.request := by
  have hruled : Request.Ruled draft.request := by
    cases draft with
    | acknowledge key group ids => exact Request.ruled_acknowledge key group ids
    | append key options body => exact Request.ruled_append key options body
    | claim key consumer options ids idsOnly =>
      exact Request.ruled_claim key consumer options ids idsOnly
    | createGroup key group | moveGroup key group | pendingOverview key group
    | pendingList key group => exact Request.ruled_withGroup group _
    | read options streams => exact Request.ruled_read options streams
    | readAsConsumer consumer options streams =>
      exact Request.ruled_readAsConsumer consumer options streams
    | _ => exact Request.ruled_ok _
  intro fault h
  obtain ⟨rule, rfl⟩ := hruled fault h
  exact .misuse rule

namespace Renderer.Instruction

/-- The draft that is asked for, if the texts of its arguments can be read. -/
def draft (instruction : Instruction) : Except Fault Draft := do
  let key := orEmpty instruction.key
  let group := orEmpty instruction.group
  match orEmpty instruction.operation with
  | "xack" => return .acknowledge key group (← instruction.readIds)
  | "xadd" =>
    let options ← instruction.appendOptions
    return .append key options (← instruction.readBody)
  | "xclaim" =>
    let consumer ← instruction.readConsumer
    let ids ← instruction.readIds
    return .claim key consumer instruction.claimOptions ids instruction.idsOnly
  | "xgroup-create" =>
    return .createGroup key group (← instruction.readPosition) instruction.makeStream
  | "xgroup-setid" => return .moveGroup key group (← instruction.readPosition)
  | "xgroup-delconsumer" => return .removeConsumer key (← instruction.readConsumer)
  | "xlen" => return .length key
  | "xpending" =>
    if instruction.asksForDetail then
      return .pendingList key group instruction.consumer (← instruction.readRange)
        instruction.limit
    else return .pendingOverview key group
  | "xrange" => return .range key (← instruction.readRange) instruction.limit
  | "xrevrange" => return .reverseRange key (← instruction.readRange) instruction.limit
  | "xread" => return .read instruction.readOptions (← instruction.readStreams Position.parse)
  | "xreadgroup" =>
    let streams ← instruction.readStreams GroupPosition.parse
    return .readAsConsumer (← instruction.readConsumer) instruction.readOptions streams
  | _ => throw (.misuse (.worded "unknown operation"))

variable (instruction : Instruction)

theorem request_eq : instruction.request = instruction.draft >>= Draft.request := by
  unfold request draft
  generalize orEmpty instruction.operation = operation
  split
  case h_8 =>
    split
    · simp only [bind_assoc, pure_bind]
      rfl
    · rfl
  all_goals
    simp only [bind_assoc, pure_bind]
    rfl

/-! ## Refusals -/

open Fault (OfArguments)

theorem failsOnly_parse (text : String) : FailsOnly OfArguments (EntryId.parse text) := by
  intro fault h
  obtain ⟨defect, rfl⟩ := EntryId.exists_defect_of_parse h
  exact .malformedId h

theorem failsOnly_parseBound (symbol given : String) :
    FailsOnly OfArguments (Bound.parse symbol given) := by
  unfold Bound.parse
  split
  · exact .ok _
  · split
    · exact .map _ (failsOnly_parse _)
    · exact .map _ (failsOnly_parse given)

theorem failsOnly_parsePosition (given : String) :
    FailsOnly OfArguments (Position.parse given) := by
  unfold Position.parse
  split
  · exact .ok _
  · exact .map _ (failsOnly_parse given)

theorem failsOnly_parseGroupPosition (given : String) :
    FailsOnly OfArguments (GroupPosition.parse given) := by
  unfold GroupPosition.parse
  split
  · exact .ok _
  · exact .map _ (failsOnly_parse given)

theorem failsOnly_readConsumer : FailsOnly OfArguments instruction.readConsumer := by
  unfold readConsumer Consumer.ofNames
  split
  · exact .error (.misuse _)
  · split
    · exact .error (.misuse _)
    · exact .ok _

theorem failsOnly_readIds : FailsOnly OfArguments instruction.readIds :=
  .mapM failsOnly_parse instruction.ids

theorem failsOnly_readPosition : FailsOnly OfArguments instruction.readPosition := by
  unfold readPosition
  split
  · exact .ok _
  · exact failsOnly_parsePosition _

theorem failsOnly_readRange : FailsOnly OfArguments instruction.readRange :=
  (failsOnly_parseBound _ _).bind fun _ _ => (failsOnly_parseBound _ _).bind fun _ _ => .ok _

theorem failsOnly_readStreams {α : Type} {read : String → Except Fault α}
    (h : ∀ text, FailsOnly OfArguments (read text)) :
    FailsOnly OfArguments (instruction.readStreams read) := by
  apply FailsOnly.mapM
  rintro ⟨key, text⟩
  exact (h text).bind fun _ _ => .ok _

theorem failsOnly_readBody : FailsOnly OfArguments instruction.readBody := by
  apply FailsOnly.foldlM
  rintro fields ⟨name, value⟩
  have hvalue : FailsOnly OfArguments (readValue instruction.binary value) := by
    unfold readValue
    split
    · split
      · exact .ok _
      · exact .error (.misuse _)
    · exact .ok _
  refine hvalue.bind fun value _ => ?_
  unfold Fields.insert
  split
  · exact .error (.misuse _)
  · exact .ok _

theorem failsOnly_appendOptions : FailsOnly OfArguments instruction.appendOptions := by
  unfold appendOptions
  cases instruction.id with
  | none => exact .ok _
  | some text => exact ((failsOnly_parse text).map some).bind fun _ _ => .ok _

theorem failsOnly_draft : FailsOnly OfArguments instruction.draft := by
  unfold draft
  split
  · exact (failsOnly_readIds instruction).bind fun _ _ => .ok _
  · exact (failsOnly_appendOptions instruction).bind fun _ _ =>
      (failsOnly_readBody instruction).bind fun _ _ => .ok _
  · exact (failsOnly_readConsumer instruction).bind fun _ _ =>
      (failsOnly_readIds instruction).bind fun _ _ => .ok _
  · exact (failsOnly_readPosition instruction).bind fun _ _ => .ok _
  · exact (failsOnly_readPosition instruction).bind fun _ _ => .ok _
  · exact (failsOnly_readConsumer instruction).bind fun _ _ => .ok _
  · exact .ok _
  · split
    · exact (failsOnly_readRange instruction).bind fun _ _ => .ok _
    · exact .ok _
  · exact (failsOnly_readRange instruction).bind fun _ _ => .ok _
  · exact (failsOnly_readRange instruction).bind fun _ _ => .ok _
  · exact (failsOnly_readStreams instruction failsOnly_parsePosition).bind fun _ _ => .ok _
  · exact (failsOnly_readStreams instruction failsOnly_parseGroupPosition).bind fun _ _ =>
      (failsOnly_readConsumer instruction).bind fun _ _ => .ok _
  · exact .error (.misuse _)

/-- An instruction is refused only for its arguments. -/
theorem failsOnly_request : FailsOnly OfArguments instruction.request := by
  rw [request_eq]
  exact (failsOnly_draft instruction).bind fun draft _ => draft.failsOnly_request

end Renderer.Instruction

end AppendLog
