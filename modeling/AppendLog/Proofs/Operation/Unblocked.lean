import AppendLog.Proofs.Operation.Deadline

/-!
# Reads that do not wait

A read without options has a form with options, of which none is set. That form goes the way of the
reads that may block, where nil can mean that the time passed. `Operation.Agree` says that two reads
for the same request come to the same over every link all the same, and `Operation.reads_agree` says
it of both pairs: reads of streams, and reads as a consumer of a group.
-/

namespace AppendLog.Operation

variable {α β : Type} {timer : Timer} {grace : Duration}

/-! ## Runs -/

/-- What is made of the result changes nothing of a run but its ending. -/
theorem run_map (f : α → β) (operation : Operation α) (grace : Duration) (link : Link) :
    (operation.map f).run grace link =
      ((operation.run grace link).1.map f, (operation.run grace link).2) := by
  cases operation with
  | refused fault => rfl
  | sends exchange => exact exchange.run_map f

theorem Resolves.map {operation : Operation α} {turn : Turn} {elapsed : Nat}
    {result : Except Fault α} (f : α → β)
    (h : operation.Resolves timer grace turn elapsed result) :
    (operation.map f).Resolves timer grace turn elapsed (result.map f) := by
  intro link htimer hturn htime
  obtain ⟨hending, hwaited⟩ := h link htimer hturn htime
  rw [run_map, hending]
  exact ⟨rfl, hwaited⟩

/-! ## Two forms of a read -/

/-- What a read that does not block makes of what comes back. A reply is read as messages, nil as
none. -/
inductive Heard (command : Command) : Outcome → Except Fault (List Message) → Prop where
  | reply (reply : Reply) : Heard command (.reply reply) (reply.messages command)
  | closed : Heard command (.failed .closed) (.error .cancelled)
  | broken (text : String) : Heard command (.failed (.broken text)) (.error (.transport text))

/-- Two reads for one request, of which only the second could say that its time passed, come to the
same. -/
structure Agree (request : Except Fault Request) (plain : Operation (List Message))
    (optioned : Operation ReadResult) : Prop where
  /-- A request that is refused ends both before anything is sent. -/
  refused : ∀ fault, request = .error fault → ∀ grace link,
    plain.run grace link = (.finished (.error fault), link) ∧
      optioned.run grace link = (.finished (.error fault), link)
  /-- Otherwise both send it, once, as a request that does not block. -/
  sent : ∀ asked, request = .ok asked → ∀ grace link,
    (plain.run grace link).2.sent = link.sent ++ [⟨asked, none⟩] ∧
      (optioned.run grace link).2.sent = link.sent ++ [⟨asked, none⟩]
  /-- They end alike, in the same messages or the same fault. -/
  ending : ∀ grace link, (plain.run grace link).1 =
    (optioned.run grace link).1.map ReadResult.toMessages
  /-- They leave the same link behind them, with the same time spent on it. -/
  after : ∀ grace link, (plain.run grace link).2 = (optioned.run grace link).2
  /-- The time of neither passes. -/
  untimed : ∀ grace link, (optioned.run grace link).1 ≠ .finished (.ok .timedOut)
  /-- Both wait for what comes back, and make of it what a read makes that does not block. -/
  heard : ∀ asked, request = .ok asked → ∀ timer grace delay outcome result,
    Heard asked.command outcome result →
      plain.Resolves timer grace (.answers delay outcome) delay.nanoseconds result ∧
      optioned.Resolves timer grace (.answers delay outcome) delay.nanoseconds
        (result.map ReadResult.messages)

variable {request : Except Fault Request}

/-- Without a time to block for, a read with options is one that asks for messages. -/
theorem await_none (request : Except Fault Request) :
    await request none = (ask request Reply.messages).map ReadResult.messages := by
  cases request <;> rfl

theorem run_ask_of_error {fault : Fault} {read : Command → Reply → Except Fault α}
    (h : request = .error fault) (grace : Duration) (link : Link) :
    (ask request read).run grace link = (.finished (.error fault), link) := by
  rw [h]
  rfl

theorem sent_ask {asked : Request} {read : Command → Reply → Except Fault α}
    (h : request = .ok asked) (grace : Duration) (link : Link) :
    ((ask request read).run grace link).2.sent = link.sent ++ [⟨asked, none⟩] := by
  rw [h]
  exact (Exchange.ran_run grace (.prompt asked (read asked.command)) link).sends.1

theorem resolves_ask {asked : Request} {outcome : Outcome} {result : Except Fault (List Message)}
    (h : request = .ok asked) (hheard : Heard asked.command outcome result)
    (timer : Timer) (grace delay : Duration) :
    (ask request Reply.messages).Resolves timer grace (.answers delay outcome) delay.nanoseconds
      result := by
  have hreceive :
      (Exchange.prompt asked (Reply.messages asked.command)).receive outcome = result := by
    cases hheard <;> rfl
  rw [h, ← hreceive]
  exact resolves_of_settle (Exchange.settle_of_no_deadline rfl delay outcome)

theorem toMessages_messages (ending : Ending (List Message)) :
    (ending.map ReadResult.messages).map ReadResult.toMessages = ending := by
  cases ending with
  | finished result => cases result <;> rfl
  | abandoned => rfl

theorem ending_ne_timedOut (ending : Ending (List Message)) :
    ending.map ReadResult.messages ≠ .finished (.ok .timedOut) := by
  cases ending with
  | finished result =>
    intro h
    exact OptionedRead.map_messages_ne_timedOut result (Ending.finished.inj h)
  | abandoned => nofun

/-- Asking for messages agrees with a read that may wait but was given no time to. -/
theorem agree_await_none (request : Except Fault Request) :
    Agree request (ask request Reply.messages) (await request none) := by
  rw [await_none]
  constructor
  case refused =>
    intro fault h grace link
    rw [run_map, run_ask_of_error h]
    exact ⟨rfl, rfl⟩
  case sent =>
    intro asked h grace link
    rw [run_map]
    exact ⟨sent_ask h grace link, sent_ask h grace link⟩
  case ending =>
    intro grace link
    rw [run_map, toMessages_messages]
  case after =>
    intro grace link
    rw [run_map]
  case untimed =>
    intro grace link
    rw [run_map]
    exact ending_ne_timedOut _
  case heard =>
    intro asked h timer grace delay outcome result hheard
    have hplain := resolves_ask h hheard timer grace delay
    exact ⟨hplain, hplain.map ReadResult.messages⟩

/-- **Plain and optioned reads agree.** A read of streams comes to the same as one with options of
which none is set, and so does a read of what was never delivered to the group of a consumer: over
every link they send the same request in the same way, or are refused alike, and they end in the
same messages or the same fault. The form with options never says that its time passed. -/
theorem reads_agree :
    (∀ streams : List (String × Position),
      Agree (Request.read {} streams) (read streams) (readWith {} streams)) ∧
    ∀ (consumer : Consumer) (keys : List String),
      Agree (Request.readAsConsumer consumer {} (keys.map fun key => (key, .undelivered)))
        (readAsConsumer consumer keys)
        (readAsConsumerWith consumer {} (keys.map fun key => (key, .undelivered))) :=
  ⟨fun streams => agree_await_none (Request.read {} streams),
    fun consumer _ => agree_await_none (Request.readAsConsumer consumer {} _)⟩

/-- Nil is no messages to a read that was given no time to wait, and the end of that time to one
that was. -/
example :
    let link : Link := { turns := [.answers default (.reply .nil)] }
    let streams : List (String × Position) := [("k", .beginning)]
    ((readWith {} streams).run default link).1 = .finished (.ok (.messages [])) ∧
      ((readWith { block := some (.ofMilliseconds 1) } streams).run default link).1 =
        .finished (.ok .timedOut) :=
  ⟨rfl, rfl⟩

end AppendLog.Operation
