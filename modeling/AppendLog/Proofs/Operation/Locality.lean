import AppendLog.Call
import AppendLog.Proofs.Exchange.Run
import AppendLog.Proofs.Reply.Blame

/-!
# Faults before and after sending

An operation fails before it sends anything only because its arguments break a rule of use, and once
it has sent its one request, it fails only for what came back. The two kinds of fault are told apart
by `Fault.isLocal`: `Operation.Discerns` says so of one operation, `Call.discerns` of every call,
and `Call.sends_once_or_fails_locally` is what a caller can rely on.
-/

namespace AppendLog

variable {α β : Type}

/-! ## Requests that are refused -/

/-- A request that is refused breaks a rule of use. -/
def Request.Ruled (request : Except Fault Request) : Prop :=
  ∀ fault, request = .error fault → ∃ rule, fault = .misuse rule

namespace Request

theorem ruled_ok (request : Request) : Ruled (.ok request) := by
  intro fault h
  cases h

/-- A check of a rule in front keeps a request ruled. -/
theorem Ruled.check {broken : Prop} [Decidable broken] (rule : Misuse)
    {next : Except Fault Request} (h : Ruled next) :
    Ruled (if broken then .error (.misuse rule) else next) := by
  split
  · intro fault hfault
    exact ⟨rule, (Except.error.inj hfault).symm⟩
  · exact h

theorem ruled_append (key : String) (options : AppendOptions) (body : Fields) :
    Ruled (append key options body) :=
  .check .emptyBody (ruled_ok _)

theorem ruled_read (options : ReadOptions) (streams : List (String × Position)) :
    Ruled (read options streams) :=
  .check .noStreams (.check .noAckOutsideGroup (ruled_ok _))

theorem ruled_readAsConsumer (consumer : Consumer) (options : ReadOptions)
    (streams : List (String × GroupPosition)) : Ruled (readAsConsumer consumer options streams) :=
  .check .noStreams (ruled_ok _)

theorem ruled_acknowledge (key group : String) (ids : List EntryId) :
    Ruled (acknowledge key group ids) :=
  .check .emptyGroupName (.check .noIds (ruled_ok _))

theorem ruled_claim (key : String) (consumer : Consumer) (options : ClaimOptions)
    (ids : List EntryId) (idsOnly : Bool) : Ruled (claim key consumer options ids idsOnly) :=
  .check .noIds (ruled_ok _)

theorem ruled_withGroup (group : String) (request : Request) :
    Ruled (withGroup group request) :=
  .check .emptyGroupName (ruled_ok _)

end Request

/-! ## Exchanges -/

/-- No fault that comes of an exchange is a local one, whatever comes back. -/
def Exchange.Remote (exchange : Exchange α) : Prop :=
  ∀ outcome fault, exchange.receive outcome = .error fault → fault.isLocal = false

namespace Exchange

theorem isLocal_fault (failure : LinkFailure) : failure.fault.isLocal = false := by
  cases failure <;> rfl

theorem remote_prompt {request : Request} {read : Reply → Except Fault α} {command : Command}
    (hread : ∀ reply, Reply.BlamedOn command (read reply)) : (prompt request read).Remote := by
  intro outcome fault h
  cases outcome with
  | reply reply => exact (hread reply fault h).isLocal_eq_false
  | timedOut =>
    cases h
    rfl
  | failed failure =>
    cases h
    exact isLocal_fault failure

theorem remote_blocking {request : Request} {block : Duration}
    {read : Option Reply → Except Fault α} {command : Command}
    (hread : ∀ reply, Reply.BlamedOn command (read reply)) :
    (blocking request block read).Remote := by
  intro outcome fault h
  cases outcome with
  | reply reply => exact (hread _ fault h).isLocal_eq_false
  | timedOut => exact (hread none fault h).isLocal_eq_false
  | failed failure =>
    cases h
    exact isLocal_fault failure

theorem Remote.map {exchange : Exchange α} (f : α → β) (h : exchange.Remote) :
    (exchange.map f).Remote := by
  intro outcome fault hfault
  rw [receive_map] at hfault
  cases hresult : exchange.receive outcome with
  | error fault' =>
    rw [hresult] at hfault
    cases hfault
    exact h outcome _ hresult
  | ok a =>
    rw [hresult] at hfault
    cases hfault

end Exchange

/-! ## Operations -/

/-- An operation that can be told by its faults: refused, it has a local fault; sent, it has none.
-/
def Operation.Discerns : Operation α → Prop
  | refused fault => fault.isLocal = true
  | sends exchange => exchange.Remote

/-- What an operation sends. -/
def Operation.requests : Operation α → List Dispatch
  | refused _ => []
  | sends exchange => [exchange.dispatch]

namespace Operation

theorem length_requests_le (operation : Operation α) : operation.requests.length ≤ 1 := by
  cases operation <;> simp [requests]

theorem discerns_map {operation : Operation α} (f : α → β) (h : operation.Discerns) :
    (operation.map f).Discerns := by
  cases operation with
  | refused fault => exact h
  | sends exchange => exact Exchange.Remote.map f h

theorem discerns_prepare {request : Except Fault Request} {exchange : Request → Exchange α}
    (hrequest : Request.Ruled request) (hremote : ∀ request, (exchange request).Remote) :
    (prepare request exchange).Discerns := by
  cases request with
  | error fault =>
    obtain ⟨rule, rfl⟩ := hrequest fault rfl
    rfl
  | ok request => exact hremote request

theorem discerns_ask {request : Except Fault Request} {read : Command → Reply → Except Fault α}
    (hrequest : Request.Ruled request)
    (hread : ∀ command reply, Reply.BlamedOn command (read command reply)) :
    (ask request read).Discerns := by
  apply discerns_prepare hrequest
  intro request
  exact Exchange.remote_prompt (hread request.command)

theorem blamedOn_readResult (command : Command) (reply : Option Reply) :
    Reply.BlamedOn command (readResult command reply) := by
  cases reply with
  | none => exact .ok _
  | some reply => exact (Reader.blamedOn_read .messages command reply).map ReadResult.messages

theorem discerns_await {request : Except Fault Request} (hrequest : Request.Ruled request)
    (block : Option Duration) : (await request block).Discerns := by
  apply discerns_prepare hrequest
  intro request
  have hread := blamedOn_readResult request.command
  cases block with
  | none => exact Exchange.remote_prompt fun reply => hread (some reply)
  | some block => exact Exchange.remote_blocking hread

/-- One run of an operation that can be told by its faults: its requests are sent, the other side
takes a turn for each, and there are none exactly if the run ends in a local fault. -/
theorem run_of_discerns {operation : Operation α} (h : operation.Discerns) (grace : Duration)
    (link : Link) :
    (operation.run grace link).2.sent = link.sent ++ operation.requests ∧
      (operation.run grace link).2.turns = link.turns.drop operation.requests.length ∧
      (operation.requests = [] ↔ ∃ fault,
        (operation.run grace link).1 = .finished (.error fault) ∧ fault.isLocal = true) := by
  cases operation with
  | refused fault => exact ⟨by simp [run, requests], rfl, fun _ => ⟨fault, rfl, h⟩, fun _ => rfl⟩
  | sends exchange =>
    have hran := exchange.ran_run grace link
    refine ⟨hran.sends.1, hran.sends.2, by simp [requests], ?_⟩
    rintro ⟨fault, hending, hlocal⟩
    -- Something was sent, so no ending of the run is a local fault.
    obtain ⟨outcome, houtcome⟩ := Exchange.exists_receive_of_run hending
    have hremote : fault.isLocal = false := h outcome fault houtcome
    rw [hremote] at hlocal
    cases hlocal

end Operation

/-! ## Calls -/

open Operation Request in
/-- Every call can be told by its faults. -/
theorem Call.discerns (call : Call) : call.operation.Discerns := by
  cases call with
  | acknowledge key group ids =>
    exact discerns_map _
      (discerns_ask (ruled_acknowledge key group ids) (Reader.blamedOn_read .count))
  | append key body =>
    exact discerns_map _
      (discerns_ask (ruled_append key {} body) (Reader.blamedOn_read .assignedId))
  | appendWith key options body =>
    exact discerns_map _
      (discerns_ask (ruled_append key options body) (Reader.blamedOn_read .assignedId))
  | claim key consumer options ids =>
    exact discerns_map _
      (discerns_ask (ruled_claim key consumer options ids false) (Reader.blamedOn_read .entries))
  | claimIdsOnly key consumer options ids =>
    exact discerns_map _
      (discerns_ask (ruled_claim key consumer options ids true) (Reader.blamedOn_read .ids))
  | createGroup key group position =>
    exact discerns_map _ (discerns_ask (ruled_withGroup group _) (Reader.blamedOn_read .done))
  | createGroupWith key group position makeStream =>
    exact discerns_map _ (discerns_ask (ruled_withGroup group _) (Reader.blamedOn_read .done))
  | moveGroup key group position =>
    exact discerns_map _ (discerns_ask (ruled_withGroup group _) (Reader.blamedOn_read .done))
  | removeConsumer key consumer =>
    exact discerns_map _ (discerns_ask (ruled_ok _) (Reader.blamedOn_read .count))
  | length key => exact discerns_map _ (discerns_ask (ruled_ok _) (Reader.blamedOn_read .count))
  | pending key group =>
    exact discerns_map _
      (discerns_ask (ruled_withGroup group _) (Reader.blamedOn_read .pendingList))
  | pendingOf key consumer =>
    exact discerns_map _
      (discerns_ask (ruled_withGroup consumer.group _) (Reader.blamedOn_read .pendingList))
  | pendingWithin key group range limit =>
    exact discerns_map _
      (discerns_ask (ruled_withGroup group _) (Reader.blamedOn_read .pendingList))
  | pendingWithinOf key consumer range limit =>
    exact discerns_map _
      (discerns_ask (ruled_withGroup consumer.group _) (Reader.blamedOn_read .pendingList))
  | pendingOverview key group =>
    exact discerns_map _
      (discerns_ask (ruled_withGroup group _) (Reader.blamedOn_read .pendingOverview))
  | range key range limit =>
    exact discerns_map _ (discerns_ask (ruled_ok _) (Reader.blamedOn_read .entries))
  | reverseRange key range limit =>
    exact discerns_map _ (discerns_ask (ruled_ok _) (Reader.blamedOn_read .entries))
  | read streams =>
    exact discerns_map _ (discerns_ask (ruled_read {} streams) (Reader.blamedOn_read .messages))
  | readWith options streams =>
    exact discerns_map _ (discerns_await (ruled_read options streams) options.block)
  | readAsConsumer consumer keys =>
    exact discerns_map _
      (discerns_ask (ruled_readAsConsumer consumer {} _) (Reader.blamedOn_read .messages))
  | readAsConsumerWith consumer options streams =>
    exact discerns_map _
      (discerns_await (ruled_readAsConsumer consumer options streams) options.block)

/-- **One request or a local fault.** What a call sends is decided by the call alone, and it is one
request at most, whatever the other side does: nothing is sent again. Nothing is sent exactly if the
call ends in a fault that was found before anything was sent; so no answer, however malformed, comes
to such a fault. -/
theorem Call.sends_once_or_fails_locally (call : Call) :
    ∃ requests : List Dispatch, requests.length ≤ 1 ∧ ∀ (grace : Duration) (link : Link),
      (call.run grace link).2.sent = link.sent ++ requests ∧
      (call.run grace link).2.turns = link.turns.drop requests.length ∧
      (requests = [] ↔ ∃ fault,
        (call.run grace link).1 = .finished (.error fault) ∧ fault.isLocal = true) := by
  refine ⟨call.operation.requests, call.operation.length_requests_le, ?_⟩
  intro grace link
  exact Operation.run_of_discerns call.discerns grace link

end AppendLog
