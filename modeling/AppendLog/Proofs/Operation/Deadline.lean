import AppendLog.Operation
import AppendLog.Proofs.Exchange.Run
import AppendLog.Proofs.Wire.Draft

/-!
# Reads that wait

A read with options ends when its answer comes, or at a deadline of its own if there is one: the
blocking time and the grace on top of it. `Operation.Resolves` says when a call ends, in
nanoseconds after it was made, and in what. `OptionedRead.Punctual` says this of a read against all
that the other side may do, and `OptionedRead.punctual` proves it of every read that is not
refused, whatever timer keeps its deadline.
-/

namespace AppendLog

/-! ## When a call ends -/

namespace Operation

variable {α : Type} {operation : Operation α} {exchange : Exchange α} {timer : Timer}
  {grace : Duration} {turn : Turn}

/-- A call ends so many nanoseconds after it was made, in this result, when its deadline is kept by
this timer and the other side has this turn for it. The link must have the patience to see it. -/
def Resolves (operation : Operation α) (timer : Timer) (grace : Duration) (turn : Turn)
    (elapsed : Nat) (result : Except Fault α) : Prop :=
  ∀ link : Link, link.timer = timer → link.turns.head? = some turn →
    link.waited + elapsed ≤ link.patience →
    (operation.run grace link).1 = .finished result ∧
      (operation.run grace link).2.waited = link.waited + elapsed

/-- A call never ends, whatever patience there is, when the other side has this turn for it. -/
def NeverResolves (operation : Operation α) (grace : Duration) (turn : Turn) : Prop :=
  ∀ link : Link, link.turns.head? = some turn → (operation.run grace link).1 = .abandoned

theorem resolves_of_settle {elapsed : Nat} {result : Except Fault α}
    (h : exchange.settle timer grace turn = some (elapsed, result)) :
    (sends exchange).Resolves timer grace turn elapsed result := by
  rintro link rfl hturn htime
  obtain ⟨turns, hturns⟩ := List.head?_eq_some_iff.1 hturn
  rw [run, Exchange.run_of_settle hturns h htime]
  exact ⟨rfl, rfl⟩

theorem neverResolves_of_unsettled (h : ∀ timer, exchange.settle timer grace turn = none) :
    (sends exchange).NeverResolves grace turn := by
  intro link hturn
  obtain ⟨turns, hturns⟩ := List.head?_eq_some_iff.1 hturn
  exact Exchange.run_of_unsettled hturns (h link.timer)

/-- A call ends at one time, and in one result. -/
theorem Resolves.unique {elapsed elapsed' : Nat} {result result' : Except Fault α}
    (h : operation.Resolves timer grace turn elapsed result)
    (h' : operation.Resolves timer grace turn elapsed' result') :
    elapsed = elapsed' ∧ result = result' := by
  -- A link that is patient enough for both sees the same run end in both.
  let link : Link := { turns := [turn], patience := elapsed + elapsed', timer }
  obtain ⟨hending, hwaited⟩ := h link rfl rfl (by simp only [link]; omega)
  obtain ⟨hending', hwaited'⟩ := h' link rfl rfl (by simp only [link]; omega)
  constructor
  · rw [hwaited] at hwaited'
    omega
  · rw [hending] at hending'
    exact Ending.finished.inj hending'

end Operation

/-! ## The deadline of an exchange -/

namespace Exchange

variable {α : Type} {request : Request} {timer : Timer} {block grace : Duration}

theorem settle_of_no_deadline {exchange : Exchange α} (h : exchange.deadline? grace = none)
    (delay : Duration) (outcome : Outcome) :
    exchange.settle timer grace (.answers delay outcome) =
      some (delay.nanoseconds, exchange.receive outcome) := by
  apply settle_of_inTime
  intro limit hlimit
  rw [h] at hlimit
  cases hlimit

theorem settle_stalls_of_no_deadline {exchange : Exchange α}
    (h : exchange.deadline? grace = none) (timer : Timer) :
    exchange.settle timer grace .stalls = none := by
  rw [settle, h]
  rfl

theorem settle_of_late {exchange : Exchange α} {limit delay : Duration}
    (h : exchange.deadline? grace = some limit)
    (hlate : timer.roundUp limit.nanoseconds < delay.nanoseconds) (outcome : Outcome) :
    exchange.settle timer grace (.answers delay outcome) =
      some (timer.roundUp limit.nanoseconds, exchange.expire) := by
  simp only [settle, h]
  rw [if_pos hlate]

theorem settle_stalls_of_deadline {exchange : Exchange α} {limit : Duration}
    (h : exchange.deadline? grace = some limit) : exchange.settle timer grace .stalls =
      some (timer.roundUp limit.nanoseconds, exchange.expire) := by
  rw [settle, h]
  rfl

/-- The deadline of a request that blocks for some time is the sum of that time and the grace. -/
theorem deadline?_blocking_eq_some_iff {read : Option Reply → Except Fault α} {limit : Duration} :
    (blocking request block read).deadline? grace = some limit ↔
      0 < block.nanoseconds ∧ limit.nanoseconds = block.nanoseconds + grace.nanoseconds := by
  obtain ⟨n, hn⟩ := limit
  simp only [deadline?, Duration.add?, Duration.ofNanoseconds?]
  by_cases hzero : block.nanoseconds = 0
  · simp [hzero]
  · have hpos : 0 < block.nanoseconds := by omega
    by_cases hfits : block.nanoseconds + grace.nanoseconds < UInt64.size * 1000000000
    · simp [hzero, hpos, hfits, eq_comm]
    · rw [if_neg hzero, dif_neg hfits]
      constructor
      · intro h
        cases h
      · rintro ⟨-, rfl⟩
        exact absurd hn hfits

/-- There is no deadline for a block of any time, and none that is too long to say. -/
theorem deadline?_blocking_eq_none {read : Option Reply → Except Fault α}
    (h : block.nanoseconds = 0 ∨
      Duration.longest.nanoseconds < block.nanoseconds + grace.nanoseconds) :
    (blocking request block read).deadline? grace = none := by
  cases hdeadline : (blocking request block read).deadline? grace with
  | none => rfl
  | some limit =>
    obtain ⟨hpos, hlimit⟩ := deadline?_blocking_eq_some_iff.1 hdeadline
    have hfits := limit.representable
    simp only [Duration.longest] at h
    omega

end Exchange

/-! ## Reads with options -/

/-- A read with options: of streams, or as a consumer of a group. -/
inductive OptionedRead where
  | plain (options : ReadOptions) (streams : List (String × Position))
  | asConsumer (consumer : Consumer) (options : ReadOptions)
      (streams : List (String × GroupPosition))

namespace OptionedRead

def options : OptionedRead → ReadOptions
  | plain options _ => options
  | asConsumer _ options _ => options

def command : OptionedRead → Command
  | plain .. => .read
  | asConsumer .. => .readAsConsumer

/-- The request of a read, refused when the arguments break a rule. -/
def request : OptionedRead → Except Fault Request
  | plain options streams => Request.read options streams
  | asConsumer consumer options streams => Request.readAsConsumer consumer options streams

/-- The draft of the request of a read. -/
def draft : OptionedRead → Draft
  | plain options streams => .read options streams
  | asConsumer consumer options streams => .readAsConsumer consumer options streams

def operation : OptionedRead → Operation ReadResult
  | plain options streams => Operation.readWith options streams
  | asConsumer consumer options streams => Operation.readAsConsumerWith consumer options streams

/-- The exchange of a read whose request is not refused. -/
def exchange (read : OptionedRead) (request : Request) : Exchange ReadResult :=
  match read.options.block with
  | none => .prompt request fun reply => Operation.readResult read.command (some reply)
  | some block => .blocking request block (Operation.readResult read.command)

variable {read : OptionedRead} {request : Request} {timer : Timer} {grace : Duration}

theorem request_draft (read : OptionedRead) : read.draft.request = read.request := by
  cases read <;> rfl

theorem command_of_request (h : read.request = .ok request) : request.command = read.command := by
  rw [Draft.request_eq (read.request_draft.trans h)]
  cases read <;> rfl

theorem operation_eq_sends (h : read.request = .ok request) :
    read.operation = .sends (read.exchange request) := by
  have hawait : read.operation = Operation.await read.request read.options.block := by
    cases read <;> rfl
  rw [hawait, h, exchange, ← command_of_request h]
  cases read.options.block <;> rfl

theorem exchange_eq_prompt (hblock : read.options.block = none) (request : Request) :
    read.exchange request =
      .prompt request fun reply => Operation.readResult read.command (some reply) := by
  rw [exchange, hblock]

theorem exchange_eq_blocking {block : Duration} (hblock : read.options.block = some block)
    (request : Request) :
    read.exchange request = .blocking request block (Operation.readResult read.command) := by
  rw [exchange, hblock]

/-! ## What a caller is told -/

/-- An answer with this delay comes before the deadline of the read, if there is one. -/
def Early (read : OptionedRead) (grace delay : Duration) : Prop :=
  ∀ block deadline : Duration, read.options.block = some block → 0 < block.nanoseconds →
    deadline.nanoseconds = block.nanoseconds + grace.nanoseconds →
    delay.nanoseconds < deadline.nanoseconds

/-- What the caller of a read is told of an outcome that came early enough. -/
inductive Told (read : OptionedRead) : Outcome → Except Fault ReadResult → Prop where
  | closed : Told read (.failed .closed) (.error .cancelled)
  | broken (text : String) : Told read (.failed (.broken text)) (.error (.transport text))
  /-- The other side saw the blocking time pass. -/
  | passed (hblock : read.options.block.isSome = true) : Told read .timedOut (.ok .timedOut)
  /-- So the server says that the blocking time passed. -/
  | nothing (hblock : read.options.block.isSome = true) : Told read (.reply .nil) (.ok .timedOut)
  /-- A reply is read as messages: any but nil, and nil as well when the read does not block. -/
  | answered {reply : Reply} (hreply : reply = .nil → read.options.block = none) :
      Told read (.reply reply) ((reply.messages read.command).map .messages)

theorem receive_of_told {outcome : Outcome} {result : Except Fault ReadResult}
    (h : read.Told outcome result) (request : Request) :
    (read.exchange request).receive outcome = result := by
  cases hblock : read.options.block with
  | none =>
    rw [exchange_eq_prompt hblock]
    cases h with
    | closed => rfl
    | broken text => rfl
    | passed hsome => simp [hblock] at hsome
    | nothing hsome => simp [hblock] at hsome
    | answered => rfl
  | some block =>
    rw [exchange_eq_blocking hblock]
    cases h with
    | closed => rfl
    | broken text => rfl
    | passed => rfl
    | nothing => rfl
    | @answered reply hreply =>
      cases reply with
      | nil => simp [hblock] at hreply
      | _ => rfl

/-- Messages are never taken for a time that passed. -/
theorem map_messages_ne_timedOut (result : Except Fault (List Message)) :
    result.map ReadResult.messages ≠ .ok .timedOut := by
  cases result <;> simp [Except.map]

theorem not_timedOut_of_unblocked (hblock : read.options.block = none) (request : Request)
    (outcome : Outcome) : (read.exchange request).receive outcome ≠ .ok .timedOut := by
  rw [exchange_eq_prompt hblock]
  cases outcome with
  | reply reply => exact map_messages_ne_timedOut _
  | timedOut => simp [Exchange.receive]
  | failed failure => simp [Exchange.receive]

/-! ## Deadlines of reads -/

theorem deadline?_exchange {block deadline : Duration} (hblock : read.options.block = some block)
    (request : Request) : (read.exchange request).deadline? grace = some deadline ↔
      0 < block.nanoseconds ∧
        deadline.nanoseconds = block.nanoseconds + grace.nanoseconds := by
  rw [exchange_eq_blocking hblock, Exchange.deadline?_blocking_eq_some_iff]

theorem deadline?_exchange_eq_none {block : Duration} (hblock : read.options.block = some block)
    (hlong : block.nanoseconds = 0 ∨
      Duration.longest.nanoseconds < block.nanoseconds + grace.nanoseconds) (request : Request) :
    (read.exchange request).deadline? grace = none := by
  rw [exchange_eq_blocking hblock]
  exact Exchange.deadline?_blocking_eq_none hlong

/-- A deadline of a read that passes makes it time out. -/
theorem expire_exchange {block : Duration} (hblock : read.options.block = some block)
    (request : Request) : (read.exchange request).expire = .ok .timedOut := by
  rw [exchange_eq_blocking hblock]
  rfl

theorem inTime_of_early {delay : Duration} (h : read.Early grace delay) (request : Request) :
    (read.exchange request).InTime timer grace delay := by
  apply Exchange.inTime_of_le
  intro limit hlimit
  cases hblock : read.options.block with
  | none =>
    rw [exchange_eq_prompt hblock] at hlimit
    cases hlimit
  | some block =>
    obtain ⟨hpos, hsum⟩ := (deadline?_exchange hblock request).1 hlimit
    exact Nat.le_of_lt (h block limit hblock hpos hsum)

/-! ## Punctual reads -/

/-- When a read ends, and in what, against all that the other side may do. -/
structure Punctual (read : OptionedRead) (timer : Timer) (grace : Duration) : Prop where
  /-- A read that does not block never times out, and takes nil for no messages. It waits for its
  answer. -/
  unblocked : read.options.block = none →
    (∀ link, (read.operation.run grace link).1 ≠ .finished (.ok .timedOut)) ∧
    (∀ delay, read.operation.Resolves timer grace (.answers delay (.reply .nil))
      delay.nanoseconds (.ok (.messages []))) ∧
    read.operation.NeverResolves grace .stalls
  /-- A read that blocks for some time ends when its answer comes or when its deadline passes,
  whichever is first, and the deadline makes it time out. It passes when the timer goes off: not
  early and less than a tick late, so by an exact timer on the nanosecond. -/
  bounded : ∀ block deadline : Duration, read.options.block = some block →
    0 < block.nanoseconds → deadline.nanoseconds = block.nanoseconds + grace.nanoseconds →
    let passes := timer.roundUp deadline.nanoseconds
    deadline.nanoseconds ≤ passes ∧ passes < deadline.nanoseconds + timer.tick ∧
    read.operation.Resolves timer grace .stalls passes (.ok .timedOut) ∧
    ∀ delay outcome, delay.nanoseconds ≠ passes →
      ∃ result, read.operation.Resolves timer grace (.answers delay outcome)
          (min delay.nanoseconds passes) result ∧
        (passes < delay.nanoseconds → result = .ok .timedOut)
  /-- A read that blocks for any time, or whose deadline would be too long to say, has none and
  waits for its answer. -/
  unbounded : ∀ block, read.options.block = some block →
    (block.nanoseconds = 0 ∨
      Duration.longest.nanoseconds < block.nanoseconds + grace.nanoseconds) →
    read.operation.NeverResolves grace .stalls ∧
    ∀ delay outcome, ∃ result, read.operation.Resolves timer grace (.answers delay outcome)
      delay.nanoseconds result
  /-- What comes before the deadline is what the caller is told, at the time at which it comes. -/
  timely : ∀ delay outcome result, read.Early grace delay → read.Told outcome result →
    read.operation.Resolves timer grace (.answers delay outcome) delay.nanoseconds result
  /-- A reply that comes before the deadline and says something is never lost to it. -/
  answered : ∀ delay reply, read.Early grace delay → reply ≠ .nil → ∀ elapsed,
    ¬ read.operation.Resolves timer grace (.answers delay (.reply reply)) elapsed (.ok .timedOut)

/-- What comes in time is what the caller is told. -/
theorem resolves_of_told {delay : Duration} {outcome : Outcome}
    {result : Except Fault ReadResult} (h : read.request = .ok request)
    (htime : (read.exchange request).InTime timer grace delay) (htold : read.Told outcome result) :
    read.operation.Resolves timer grace (.answers delay outcome) delay.nanoseconds result := by
  rw [operation_eq_sends h]
  apply Operation.resolves_of_settle
  rw [Exchange.settle_of_inTime htime, receive_of_told htold]

/-- A reply that comes in time and says something does not make a read time out. -/
theorem not_resolves_timedOut {delay : Duration} {reply : Reply} (h : read.request = .ok request)
    (htime : (read.exchange request).InTime timer grace delay) (hreply : reply ≠ .nil)
    (elapsed : Nat) : ¬ read.operation.Resolves timer grace (.answers delay (.reply reply)) elapsed
      (.ok .timedOut) := by
  intro hresolves
  have htold := resolves_of_told h htime (.answered fun hnil => absurd hnil hreply)
  obtain ⟨-, hresult⟩ := hresolves.unique htold
  exact map_messages_ne_timedOut _ hresult.symm

/-- A read that does not block runs into no time-out, over whatever link. -/
theorem run_ne_timedOut (h : read.request = .ok request) (hblock : read.options.block = none)
    (link : Link) : (read.operation.run grace link).1 ≠ .finished (.ok .timedOut) := by
  intro hending
  rw [operation_eq_sends h] at hending
  obtain ⟨outcome, houtcome⟩ := Exchange.exists_receive_of_run hending
  exact not_timedOut_of_unblocked hblock request outcome houtcome

/-- A read with a deadline ends when its answer comes or at the deadline. -/
theorem exists_resolves_min {block deadline delay : Duration} (h : read.request = .ok request)
    (hblock : read.options.block = some block) (hpos : 0 < block.nanoseconds)
    (hdeadline : deadline.nanoseconds = block.nanoseconds + grace.nanoseconds)
    (outcome : Outcome) :
    let passes := timer.roundUp deadline.nanoseconds
    ∃ result, read.operation.Resolves timer grace (.answers delay outcome)
        (min delay.nanoseconds passes) result ∧
      (passes < delay.nanoseconds → result = .ok .timedOut) := by
  intro passes
  have hlimit := (deadline?_exchange hblock request).2 ⟨hpos, hdeadline⟩
  rw [operation_eq_sends h]
  by_cases hlate : passes < delay.nanoseconds
  · refine ⟨.ok .timedOut, ?_, fun _ => rfl⟩
    apply Operation.resolves_of_settle
    rw [Exchange.settle_of_late hlimit hlate, expire_exchange hblock,
      Nat.min_eq_right (Nat.le_of_lt hlate)]
  · have htime : (read.exchange request).InTime timer grace delay := by
      intro limit hlimit'
      obtain rfl := Option.some.inj (hlimit.symm.trans hlimit')
      exact Nat.not_lt.1 hlate
    refine ⟨(read.exchange request).receive outcome, ?_, fun hlate' => absurd hlate' hlate⟩
    apply Operation.resolves_of_settle
    rw [Exchange.settle_of_inTime htime, Nat.min_eq_left (Nat.not_lt.1 hlate)]

/-- **A read is punctual.** Whatever the grace and the timer, a read that is not refused does not
outwait its deadline, and an answer that comes before the deadline is what it ends in. -/
theorem punctual (read : OptionedRead) (timer : Timer) (grace : Duration) (request : Request)
    (h : read.request = .ok request) : read.Punctual timer grace := by
  have hsends := operation_eq_sends h
  constructor
  case timely =>
    intro delay outcome result hearly htold
    exact resolves_of_told h (inTime_of_early hearly request) htold
  case unblocked =>
    intro hblock
    refine ⟨run_ne_timedOut h hblock, ?_, ?_⟩
    · intro delay
      apply resolves_of_told h
      · rw [exchange_eq_prompt hblock]
        exact nofun
      · exact .answered fun _ => hblock
    · rw [hsends, exchange_eq_prompt hblock]
      exact Operation.neverResolves_of_unsettled fun _ => rfl
  case bounded =>
    intro block deadline hblock hpos hdeadline
    refine ⟨timer.le_roundUp _, timer.roundUp_lt _, ?_, ?_⟩
    · have hlimit := (deadline?_exchange hblock request).2 ⟨hpos, hdeadline⟩
      rw [hsends]
      apply Operation.resolves_of_settle
      rw [Exchange.settle_stalls_of_deadline hlimit, expire_exchange hblock]
    · intro delay outcome _
      exact exists_resolves_min h hblock hpos hdeadline outcome
  case unbounded =>
    intro block hblock hlong
    have hlimit := deadline?_exchange_eq_none hblock hlong request
    rw [hsends]
    constructor
    · exact Operation.neverResolves_of_unsettled (Exchange.settle_stalls_of_no_deadline hlimit)
    · intro delay outcome
      exact ⟨_, Operation.resolves_of_settle (Exchange.settle_of_no_deadline hlimit delay outcome)⟩
  case answered =>
    intro delay reply hearly hreply
    exact not_resolves_timedOut h (inTime_of_early hearly request) hreply

/-- A read that blocks for two seconds and is given one second of grace, by an exact timer: it
hears an answer that comes half a second late for the server, and not one that comes two seconds
late. -/
theorem punctual_late_answers :
    let read : OptionedRead := .plain { block := some (.ofMilliseconds 2000) } [("s", .latest)]
    let grace : Duration := .ofMilliseconds 1000
    let answer : Outcome := .reply (.array [])
    (∃ request, read.request = .ok request) ∧ read.Punctual .exact grace ∧
      read.operation.Resolves .exact grace (.answers (.ofMilliseconds 2500) answer) 2500000000
        (.ok (.messages [])) ∧
      read.operation.Resolves .exact grace (.answers (.ofMilliseconds 4000) answer) 3000000000
        (.ok .timedOut) := by
  intro read grace answer
  have hpunctual : read.Punctual .exact grace := punctual read .exact grace _ rfl
  refine ⟨⟨_, rfl⟩, hpunctual, ?_, ?_⟩
  · apply hpunctual.timely (.ofMilliseconds 2500) answer
    · intro block deadline hblock hpos hdeadline
      obtain rfl := Option.some.inj hblock
      rw [hdeadline]
      decide
    · exact .answered nofun
  · obtain ⟨-, -, -, hbounded⟩ := hpunctual.bounded _ (.ofMilliseconds 3000) rfl (by decide) (by decide)
    obtain ⟨result, hresolves, hlate⟩ := hbounded (.ofMilliseconds 4000) answer (by decide)
    rw [hlate (by decide)] at hresolves
    exact hresolves

end OptionedRead

end AppendLog
