import AppendLog.Duration
import AppendLog.Reply
import AppendLog.Fault
import AppendLog.Request

/-!
# Exchanges over a link

An exchange is one request together with the reading of its answer. The other side of the link is
given in advance as a list of turns, one for each request, with the time that each takes; so a run
is a function, and time is a number that only waiting moves. The deadlines of the caller are kept by
the timer of the link.

`Exchange.settle` says when an exchange ends and how, against one turn. `Exchange.run` does this
against a link and keeps the record of what was sent.
-/

namespace AppendLog

/-! ## The other side -/

/-- What the other side of a link comes up with. -/
inductive Outcome where
  | reply (reply : Reply)
  /-- The other side saw its own deadline pass. -/
  | timedOut
  | failed (failure : LinkFailure)

/-- What the other side does with one request. -/
inductive Turn where
  | answers (delay : Duration) (outcome : Outcome)
  | stalls

/-- A request as it was sent, with the time that the other side was asked to block for, if any. -/
structure Dispatch where
  request : Request
  block : Option Duration
  deriving DecidableEq

/-- A link as a caller sees it over time. -/
structure Link where
  /-- What the other side does with the requests to come. -/
  turns : List Turn
  /-- What was sent, in order. -/
  sent : List Dispatch := []
  waited : Nat := 0
  /-- A call is abandoned rather than have more nanoseconds spent on it. -/
  patience : Nat := 365 * 24 * 60 * 60 * 1000000000
  /-- Keeps the deadlines of the caller, by the millisecond if no other is named. -/
  timer : Timer := .milliseconds

namespace Link

/-- The link as a new call finds it: nothing sent and no time spent on its behalf. -/
def anew (link : Link) : Link := { link with sent := [], waited := 0 }

end Link

/-! ## Exchanges -/

/-- One request and how its answer is read. -/
inductive Exchange (α : Type) where
  /-- A request that is answered as soon as possible. -/
  | prompt (request : Request) (read : Reply → Except Fault α)
  /-- A request that is answered when there is something to say, within the time `block` (zero for
  any time). What is read is the reply, or nothing when the time passed. -/
  | blocking (request : Request) (block : Duration) (read : Option Reply → Except Fault α)

/-- How a call ends for the one who waits. -/
inductive Ending (α : Type) where
  | finished (result : Except Fault α)
  /-- It took longer than anyone waits. -/
  | abandoned

namespace Ending

def map {α β : Type} (f : α → β) : Ending α → Ending β
  | finished result => finished (result.map f)
  | abandoned => abandoned

end Ending

namespace Exchange

variable {α β : Type}

def map (f : α → β) : Exchange α → Exchange β
  | prompt request read => prompt request fun reply => (read reply).map f
  | blocking request block read => blocking request block fun reply => (read reply).map f

def dispatch : Exchange α → Dispatch
  | prompt request _ => ⟨request, none⟩
  | blocking request block _ => ⟨request, some block⟩

/-- How an outcome is read. A reply of nil ends a blocking request as timed out; a request that does
not block cannot time out on the other side. -/
def receive : Exchange α → Outcome → Except Fault α
  | _, .failed failure => .error failure.fault
  | prompt _ read, .reply reply => read reply
  | prompt .., .timedOut => .error (LinkFailure.broken "unexpected timeout").fault
  | blocking _ _ read, .reply reply => read (if reply.isNil then none else some reply)
  | blocking _ _ read, .timedOut => read none

/-- The deadline of the caller: the blocking time and a grace on top of it. There is none for a
request that does not block, for one that blocks for any time, and when the sum is too long. -/
def deadline? (grace : Duration) : Exchange α → Option Duration
  | prompt .. => none
  | blocking _ block _ => if block.nanoseconds = 0 then none else block.add? grace

/-- What the caller makes of a deadline that passed. -/
def expire : Exchange α → Except Fault α
  | prompt .. => .error (LinkFailure.broken "unexpected timeout").fault
  | blocking _ _ read => read none

/-- The nanoseconds after which an exchange ends, and how; nothing when it never ends. A deadline
passes when the timer goes off that was set to it. -/
def settle (timer : Timer) (grace : Duration) (exchange : Exchange α) :
    Turn → Option (Nat × Except Fault α)
  | .stalls => (exchange.deadline? grace).map fun limit =>
    (timer.roundUp limit.nanoseconds, exchange.expire)
  | .answers delay outcome =>
    match exchange.deadline? grace with
    | some limit =>
      -- An answer that is there when the timer goes off is in time.
      if timer.roundUp limit.nanoseconds < delay.nanoseconds then
        some (timer.roundUp limit.nanoseconds, exchange.expire)
      else some (delay.nanoseconds, exchange.receive outcome)
    | none => some (delay.nanoseconds, exchange.receive outcome)

/-- Send the request, use up one turn of the link and wait for the end. -/
def run (grace : Duration) (exchange : Exchange α) (link : Link) : Ending α × Link :=
  let link := { link with sent := link.sent ++ [exchange.dispatch] }
  match link.turns with
  | [] => (.finished (.error (LinkFailure.broken "script exhausted").fault), link)
  | turn :: turns =>
    let link := { link with turns }
    match exchange.settle link.timer grace turn with
    | none => (.abandoned, link)
    | some (elapsed, result) =>
      let link := { link with waited := link.waited + elapsed }
      if link.patience < link.waited then (.abandoned, link) else (.finished result, link)

end Exchange

end AppendLog
