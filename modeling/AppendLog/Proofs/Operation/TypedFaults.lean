import AppendLog.Proofs.Operation.Locality
import AppendLog.Proofs.Reply.Surfaced

/-!
# Kinds of errors of the server

An error of the server is sorted by its text into a kind of fault, whatever was asked for. So each
kind comes of every operation whose answer is an error with a text of that kind, names of keys and
groups in it included, and of nothing else: `Call.typed_fault_iff`.
-/

namespace AppendLog

/-- A fault that stands for one kind of error of the server. -/
inductive Fault.Typed : Fault → Prop where
  | idOrdering (command text : String) : Typed (.idOrdering command text)
  | groupExists (text : String) : Typed (.groupExists text)

variable {α β : Type} {fault : Fault}

namespace Fault

theorem Typed.isLocal_eq_false (h : fault.Typed) : fault.isLocal = false := by
  cases h <;> rfl

theorem not_typed_failure (failure : LinkFailure) : ¬ failure.fault.Typed := by
  cases failure <;> nofun

end Fault

/-! ## Exchanges -/

/-- A typed fault comes of an exchange exactly where a reader finds it in a reply. -/
def Exchange.Heeds (reader : Reader) (exchange : Exchange α) : Prop :=
  ∀ outcome fault, fault.Typed → (exchange.receive outcome = .error fault ↔
    ∃ reply, outcome = .reply reply ∧
      reader.read exchange.dispatch.request.command reply = .error fault)

namespace Exchange

theorem heeds_prompt {request : Request} {read : Reply → Except Fault α} {reader : Reader}
    (hread : ∀ reply fault, read reply = .error fault ↔
      reader.read request.command reply = .error fault) : (prompt request read).Heeds reader := by
  intro outcome fault htyped
  constructor
  · intro h
    cases outcome with
    | reply reply => exact ⟨reply, rfl, (hread reply fault).1 h⟩
    | timedOut =>
      obtain rfl := Except.error.inj h
      exact absurd htyped (Fault.not_typed_failure _)
    | failed failure =>
      obtain rfl := Except.error.inj h
      exact absurd htyped (Fault.not_typed_failure _)
  · rintro ⟨reply, rfl, h⟩
    exact (hread reply fault).2 h

theorem readResult_some_eq_error_iff {command : Command} {reply : Reply} :
    Operation.readResult command (some reply) = .error fault ↔
      Reader.messages.read command reply = .error fault := by
  change ReadResult.messages <$> reply.messages command = _ ↔ reply.messages command = _
  cases reply.messages command with
  | error fault' =>
    constructor
    · intro h
      obtain rfl := Except.error.inj h
      rfl
    · intro h
      obtain rfl := Except.error.inj h
      rfl
  | ok found => exact ⟨nofun, nofun⟩

/-- That the time passed is no fault, whether the other side says so or answers nil. -/
theorem heeds_blocking (request : Request) (block : Duration) :
    (blocking request block (Operation.readResult request.command)).Heeds .messages := by
  intro outcome fault htyped
  constructor
  · intro h
    cases outcome with
    | reply reply =>
      refine ⟨reply, rfl, ?_⟩
      cases reply with
      | nil => cases h
      | _ => exact readResult_some_eq_error_iff.1 h
    | timedOut => cases h
    | failed failure =>
      obtain rfl := Except.error.inj h
      exact absurd htyped (Fault.not_typed_failure _)
  · rintro ⟨reply, rfl, h⟩
    cases reply with
    | nil => cases h
    | _ => exact readResult_some_eq_error_iff.2 h

theorem Heeds.map {exchange : Exchange α} {reader : Reader} (f : α → β)
    (h : exchange.Heeds reader) : (exchange.map f).Heeds reader := by
  intro outcome fault htyped
  have hdispatch : (exchange.map f).dispatch = exchange.dispatch := by
    cases exchange <;> rfl
  rw [receive_map, hdispatch, ← h outcome fault htyped]
  cases exchange.receive outcome <;> simp [Except.map]

/-- What a run of an exchange must come to for a typed fault: a reply in time. -/
theorem Heeds.run_eq_error_iff {exchange : Exchange α} {reader : Reader} (h : exchange.Heeds reader)
    (htyped : fault.Typed) {grace : Duration} {link : Link} :
    (exchange.run grace link).1 = .finished (.error fault) ↔
      ∃ delay reply turns, link.turns = .answers delay (.reply reply) :: turns ∧
        exchange.InTime link.timer grace delay ∧
        link.waited + delay.nanoseconds ≤ link.patience ∧
        reader.read exchange.dispatch.request.command reply = .error fault := by
  constructor
  · intro hending
    have hran := ran_run grace exchange link
    rw [hending] at hran
    generalize (exchange.run grace link).2 = after at hran
    cases hran with
    | exhausted => exact absurd htyped (Fault.not_typed_failure _)
    | @settled turn turns elapsed _ hturns hsettle hpatience =>
      rcases settle_cases hsettle with ⟨delay, outcome, rfl, htime, hreceive⟩ | ⟨-, hexpire, -⟩
      · obtain ⟨reply, rfl, hread⟩ := (h outcome fault htyped).1 hreceive
        rw [settle_of_inTime htime] at hsettle
        obtain ⟨rfl, -⟩ := Prod.mk.inj (Option.some.inj hsettle)
        exact ⟨delay, reply, turns, hturns, htime, hpatience, hread⟩
      · rw [expire_eq_receive] at hexpire
        obtain ⟨reply, hreply, -⟩ := (h .timedOut fault htyped).1 hexpire
        cases hreply
  · rintro ⟨delay, reply, turns, hturns, htime, hpatience, hread⟩
    have hreceive := (h (.reply reply) fault htyped).2 ⟨reply, rfl, hread⟩
    have hsettle := settle_of_inTime htime (.reply reply)
    rw [hreceive] at hsettle
    rw [run_of_settle hturns hsettle hpatience]

end Exchange

/-! ## Operations and calls -/

/-- A typed fault comes of an operation that is sent exactly where a reader finds it in a reply. -/
def Operation.Heeds (reader : Reader) (operation : Operation α) : Prop :=
  ∀ exchange, operation = sends exchange → exchange.Heeds reader

namespace Operation

theorem Heeds.map {operation : Operation α} {reader : Reader} (f : α → β)
    (h : operation.Heeds reader) : (operation.map f).Heeds reader := by
  intro exchange hsends
  cases operation with
  | refused fault => cases hsends
  | sends exchange' =>
    obtain rfl := sends.inj hsends
    exact (h exchange' rfl).map f

theorem heeds_ask (reader : Reader) (request : Except Fault Request) :
    (ask request reader.read).Heeds reader := by
  intro exchange hsends
  cases request with
  | error fault => cases hsends
  | ok request =>
    obtain rfl := sends.inj hsends
    exact Exchange.heeds_prompt fun reply fault => Iff.rfl

theorem heeds_await (request : Except Fault Request) (block : Option Duration) :
    (await request block).Heeds .messages := by
  intro exchange hsends
  cases request with
  | error fault => cases hsends
  | ok request =>
    obtain rfl := sends.inj hsends
    cases block with
    | none => exact Exchange.heeds_prompt fun reply fault => Exchange.readResult_some_eq_error_iff
    | some block => exact Exchange.heeds_blocking request block

end Operation

namespace Call

/-- The reader of the reply to a call. -/
def reader : Call → Reader
  | acknowledge .. | removeConsumer .. | length .. => .count
  | append .. | appendWith .. => .assignedId
  | claim .. | range .. | reverseRange .. => .entries
  | claimIdsOnly .. => .ids
  | createGroup .. | createGroupWith .. | moveGroup .. => .done
  | pending .. | pendingOf .. | pendingWithin .. | pendingWithinOf .. => .pendingList
  | pendingOverview .. => .pendingOverview
  | read .. | readWith .. | readAsConsumer .. | readAsConsumerWith .. => .messages

open Operation in
theorem heeds (call : Call) : call.operation.Heeds call.reader := by
  cases call with
  | acknowledge => exact (heeds_ask .count _).map _
  | removeConsumer | length => exact (heeds_ask .count (.ok _)).map _
  | append | appendWith => exact (heeds_ask .assignedId _).map _
  | claim => exact (heeds_ask .entries _).map _
  | range | reverseRange => exact (heeds_ask .entries (.ok _)).map _
  | claimIdsOnly => exact (heeds_ask .ids _).map _
  | createGroup | createGroupWith | moveGroup => exact (heeds_ask .done _).map _
  | pending | pendingOf | pendingWithin | pendingWithinOf =>
    exact (heeds_ask .pendingList _).map _
  | pendingOverview => exact (heeds_ask .pendingOverview _).map _
  | read | readAsConsumer => exact (heeds_ask .messages _).map _
  | readWith | readAsConsumerWith => exact (heeds_await _ _).map _

/-- A call hears an error of the server with this text: the command of its request is answered in
time, with a reply in which the error stands where it is handed on. -/
def Hears (call : Call) (grace : Duration) (link : Link) (command : Command) (text : String) :
    Prop :=
  ∃ exchange delay reply turns, call.operation = .sends exchange ∧
    exchange.dispatch.request.command = command ∧
    link.turns = .answers delay (.reply reply) :: turns ∧
    exchange.InTime link.timer grace delay ∧
    link.waited + delay.nanoseconds ≤ link.patience ∧ Surfaces command text call.reader reply

variable {call : Call} {grace : Duration} {link : Link}

/-- A typed fault is what a call ends in exactly if it hears an error that is sorted into it. -/
theorem run_eq_error_iff (htyped : fault.Typed) :
    (call.run grace link).1 = .finished (.error fault) ↔
      ∃ command text, call.Hears grace link command text ∧ fault.SortedFrom command.name text := by
  cases hoperation : call.operation with
  | refused fault' =>
    have hlocal : fault'.isLocal = true := by
      have hdiscerns := call.discerns
      rwa [hoperation] at hdiscerns
    constructor
    · intro hending
      rw [run, hoperation] at hending
      obtain rfl := Except.error.inj (Ending.finished.inj hending)
      rw [htyped.isLocal_eq_false] at hlocal
      cases hlocal
    · rintro ⟨command, text, ⟨exchange, -, -, -, hsends, -⟩, -⟩
      rw [hoperation] at hsends
      cases hsends
  | sends exchange =>
    have hrun : call.run grace link = exchange.run grace link := by
      rw [run, hoperation]
      rfl
    rw [hrun, (call.heeds exchange hoperation).run_eq_error_iff htyped]
    constructor
    · rintro ⟨delay, reply, turns, hturns, htime, hpatience, hread⟩
      cases call.reader.quotes_read _ reply fault hread with
      | shape why => cases htyped
      | @server text hsurfaces =>
        exact ⟨_, text, ⟨exchange, delay, reply, turns, hoperation, rfl, hturns, htime, hpatience,
          hsurfaces⟩, Fault.sortedFrom_ofServer _ text⟩
    · rintro ⟨command, text, ⟨exchange', delay, reply, turns, hsends, rfl, hturns, htime,
        hpatience, hsurfaces⟩, hsorted⟩
      obtain rfl := Operation.sends.inj (hoperation.symm.trans hsends)
      refine ⟨delay, reply, turns, hturns, htime, hpatience, ?_⟩
      rw [hsorted.eq_ofServer, Reader.read_eq_ofServer_iff]
      exact hsurfaces

/-- Whatever a call sends can be answered by an error with any text. -/
theorem exists_hears {exchange : Exchange Value} (h : call.operation = .sends exchange)
    (grace : Duration) (text : String) :
    ∃ link, call.Hears grace link exchange.dispatch.request.command text := by
  let now : Duration := .ofMilliseconds 0
  let link : Link := { turns := [.answers now (.reply (.error text))] }
  have htime : exchange.InTime link.timer grace now := fun limit _ => Nat.zero_le _
  exact ⟨link, exchange, now, _, [], h, rfl, rfl, htime, Nat.zero_le _, .top call.reader⟩

/-- **The text decides the kind of an error, whatever was asked for.** A call ends in a fault of ids
exactly if its one request is answered in time by an error of the server that holds the mark of that
fault and does not begin with that of a group that exists, and in the fault of a group that exists
exactly if it begins with that mark. The error stands in the place of the reply or, in a read, in
the place of the entries of the first stream that cannot be read; nothing else comes to a typed
fault. But every request can be answered by an error with any text, so both come of every call that
sends one. -/
theorem typed_fault_iff (call : Call) (grace : Duration) :
    (∀ (link : Link) (name text : String),
      (call.run grace link).1 = .finished (.error (.idOrdering name text)) ↔
        (∃ command, name = command.name ∧ call.Hears grace link command text) ∧
        ¬ "BUSYGROUP".toList <+: text.toList ∧
        "equal or smaller than the target stream top item".toList <:+: text.toList) ∧
    (∀ (link : Link) (text : String),
      (call.run grace link).1 = .finished (.error (.groupExists text)) ↔
        (∃ command, call.Hears grace link command text) ∧
        "BUSYGROUP".toList <+: text.toList) ∧
    ∀ (exchange : Exchange Value) (text : String), call.operation = .sends exchange →
      ∃ link, call.Hears grace link exchange.dispatch.request.command text := by
  refine ⟨?_, ?_, fun exchange text h => exists_hears h grace text⟩
  · intro link name text
    rw [run_eq_error_iff (.idOrdering name text)]
    constructor
    · rintro ⟨command, text', hhears, hsorted⟩
      cases hsorted with
      | idOrdering hstart hholds => exact ⟨⟨command, rfl, hhears⟩, hstart, hholds⟩
    · rintro ⟨⟨command, rfl, hhears⟩, hstart, hholds⟩
      exact ⟨command, text, hhears, .idOrdering hstart hholds⟩
  · intro link text
    rw [run_eq_error_iff (.groupExists text)]
    constructor
    · rintro ⟨command, text', hhears, hsorted⟩
      cases hsorted with
      | groupExists hstart => exact ⟨⟨command, hhears⟩, hstart⟩
    · rintro ⟨⟨command, hhears⟩, hstart⟩
      exact ⟨command, text, hhears, .groupExists hstart⟩

/-- An append below the top of its stream, and a group that is created twice. -/
theorem typed_fault_iff_as_described :
    let grace : Duration := .ofMilliseconds 1000
    let mark := "equal or smaller than the target stream top item"
    let below := "ERR The ID specified in XADD is " ++ mark
    let twice := "BUSYGROUP Consumer Group name already exists"
    (∃ link, (Call.run grace (.appendWith "s" { id := some ⟨1, 0⟩ } ⟨[("f", .empty)], by decide⟩)
      link).1 = .finished (.error (.idOrdering "XADD" below))) ∧
    ∃ link, (Call.run grace (.createGroup "s" "g" .latest) link).1 =
      .finished (.error (.groupExists twice)) := by
  intro grace mark below twice
  obtain ⟨hordering, -, happend⟩ :=
    typed_fault_iff (.appendWith "s" { id := some ⟨1, 0⟩ } ⟨[("f", .empty)], by decide⟩) grace
  obtain ⟨-, hexists, hcreate⟩ := typed_fault_iff (.createGroup "s" "g" .latest) grace
  obtain ⟨link, hlink⟩ := happend _ below rfl
  obtain ⟨link', hlink'⟩ := hcreate _ twice rfl
  have hholds : mark.toList <:+: below.toList := by
    rw [String.toList_append]
    exact (List.suffix_append _ _).isInfix
  exact ⟨⟨link, (hordering link _ below).2 ⟨⟨.append, rfl, hlink⟩, by simp [below], hholds⟩⟩,
    link', (hexists link' twice).2 ⟨⟨_, hlink'⟩, by simp [twice]⟩⟩

/-- The pending entries of a stream whose name holds the mark of the fault of ids, in a group that
is not there, and the length of a key, answered by an error that begins with the other mark. -/
theorem typed_faults_of_other_calls :
    let grace : Duration := .ofMilliseconds 1000
    let key := "equal or smaller than the target stream top item"
    let missing := "NOGROUP No such key '" ++ key ++ "' or consumer group 'g'"
    let twice := "BUSYGROUP Consumer Group name already exists"
    let answered (text : String) : Link :=
      { turns := [.answers (.ofMilliseconds 0) (.reply (.error text))] }
    (Call.run grace (.pendingOverview key "g") (answered missing)).1 =
      .finished (.error (.idOrdering "XPENDING" missing)) ∧
    (Call.run grace (.length key) (answered twice)).1 =
      .finished (.error (.groupExists twice)) := by
  intro grace key missing twice answered
  have htime {request : Request} {read : Reply → Except Fault Value} :
      (Exchange.prompt request read).InTime .milliseconds grace (.ofMilliseconds 0) := nofun
  constructor
  · have hholds : key.toList <:+: missing.toList := by
      rw [String.toList_append, String.toList_append]
      exact List.infix_append _ _ _
    refine (run_eq_error_iff (.idOrdering _ _)).2 ⟨.pending, missing, ?_,
      .idOrdering (by simp [missing]) hholds⟩
    exact ⟨_, _, _, [], rfl, rfl, rfl, htime, Nat.zero_le _, .top _⟩
  · refine (run_eq_error_iff (.groupExists _)).2 ⟨.length, twice, ?_,
      .groupExists (by simp [twice])⟩
    exact ⟨_, _, _, [], rfl, rfl, rfl, htime, Nat.zero_le _, .top _⟩

end Call

end AppendLog
