import AppendLog.Proofs.Exchange.Run
import AppendLog.Scan

/-!
# One call for a page

`Scan.Fetched` says everything that a call for the next page may come to: what is sent, how the call
ends and what it leaves of the scan. Proofs about scans go by its cases and do not open `fetchPage`.
-/

namespace AppendLog

/-- A call fails: with a fault, or because it took longer than anyone waits. -/
def Ending.Fails {α : Type} (ending : Ending α) : Prop :=
  ending = .abandoned ∨ ∃ fault, ending = .finished (.error fault)

namespace Scan

/-! ## The exchange of a scan -/

/-- The request for a page of the range. -/
def rangeRequest (scan : Scan) : Request :=
  if scan.descending then Request.reverseRange scan.key scan.rest (.atMost scan.pageSize.size)
  else Request.range scan.key scan.rest (.atMost scan.pageSize.size)

/-- The request for what was appended since. -/
def readRequest (scan : Scan) (block : Duration) : Request :=
  let options : ReadOptions := { count := some scan.pageSize.size, block := some block }
  .ofTexts .read (options.words ++ Request.streamWords [(scan.key, scan.livePosition.text)])

/-- The exchange that a scan goes on with, unless it is over or misshapen: a page of the range, or a
read of what was appended since when the scan is live and has caught up. -/
def exchange (scan : Scan) : Exchange Batch :=
  match scan.caughtUp, scan.live with
  | true, some block =>
    .blocking (scan.readRequest block) block fun reply =>
      (Operation.readResult .read reply).map .read
  | _, _ =>
    .prompt scan.rangeRequest fun reply =>
      (reply.entries scan.rangeRequest.command).map .ranged

variable {client : Client} {scan : Scan} {link : Link}

/-- A scan goes on either with a page of the range or with a live read. -/
theorem range_or_read (scan : Scan) : (scan.caughtUp = false ∨ scan.live = none) ∨
    ∃ block, scan.caughtUp = true ∧ scan.live = some block := by
  cases hcaught : scan.caughtUp with
  | false => exact .inl (.inl rfl)
  | true =>
    cases hlive : scan.live with
    | none => exact .inl (.inr rfl)
    | some block => exact .inr ⟨block, rfl, rfl⟩

theorem exchange_eq_range (h : scan.caughtUp = false ∨ scan.live = none) :
    scan.exchange = .prompt scan.rangeRequest fun reply =>
      (reply.entries scan.rangeRequest.command).map .ranged := by
  rw [exchange]
  rcases h with h | h
  · rw [h]
  · rw [h]
    cases scan.caughtUp <;> rfl

theorem inTime_of_range (h : scan.caughtUp = false ∨ scan.live = none) (timer : Timer)
    (grace delay : Duration) : scan.exchange.InTime timer grace delay := by
  rw [exchange_eq_range h]
  intro limit hlimit
  exact absurd hlimit (by simp [Exchange.deadline?])

theorem isMisshapen_of_live_eq_none (h : scan.live = none) : scan.isMisshapen = false := by
  rw [isMisshapen, h]
  rfl

theorem exchange_eq_read {block : Duration} (hcaught : scan.caughtUp = true)
    (hlive : scan.live = some block) :
    scan.exchange = .blocking (scan.readRequest block) block fun reply =>
      (Operation.readResult .read reply).map .read := by
  rw [exchange, hcaught, hlive]

theorem askRange_eq : scan.askRange = .sends (.prompt scan.rangeRequest fun reply =>
    (reply.entries scan.rangeRequest.command).map .ranged) := by
  rw [askRange, rangeRequest]
  split <;> rfl

theorem plan_eq_exchange (hover : scan.isOver = false) (hshape : scan.isMisshapen = false) :
    scan.plan = some (.sends scan.exchange) := by
  rw [plan, hover, hshape, if_neg Bool.false_ne_true, if_neg Bool.false_ne_true, askRange_eq,
    exchange]
  cases scan.caughtUp with
  | false => rfl
  | true =>
    cases scan.live with
    | none => rfl
    | some block => rfl

/-! ## What a call comes to -/

/-- What a call for the next page comes to: its ending, and the scan and the link after it. -/
inductive Fetched (client : Client) (scan : Scan) (link : Link) :
    Ending (Option Page) → Scan → Link → Prop where
  /-- The scan is over, and nothing is sent. -/
  | ended (hover : scan.isOver = true) :
      Fetched client scan link (.finished (.ok none)) scan link
  /-- The scan is live and cannot be, and nothing is sent. -/
  | misshapen (hover : scan.isOver = false) (hshape : scan.isMisshapen = true) :
      Fetched client scan link (.finished (.error (.misuse .liveScanShape))) scan link
  /-- A request is sent and nothing comes of it. -/
  | missed {ending : Ending (Option Page)} {after : Link} (hover : scan.isOver = false)
      (hshape : scan.isMisshapen = false)
      (hsent : after.sent = link.sent ++ [scan.exchange.dispatch])
      (hfails : ending.Fails) :
      Fetched client scan link ending scan after
  /-- A request is sent and its turn settles in a batch. -/
  | received {after : Link} {turn : Turn} {turns : List Turn} {elapsed : Nat} {batch : Batch}
      (hover : scan.isOver = false) (hshape : scan.isMisshapen = false)
      (hsent : after.sent = link.sent ++ [scan.exchange.dispatch])
      (hturns : link.turns = turn :: turns)
      (hsettle : scan.exchange.settle link.timer client.grace turn = some (elapsed, .ok batch)) :
      Fetched client scan link (.finished (.ok (scan.receive batch).2)) (scan.receive batch).1 after

theorem fetchPage_eq_of_plan {exchange : Exchange Batch}
    (h : scan.plan = some (.sends exchange)) :
    scan.fetchPage client link =
      match exchange.run client.grace link with
      | (.abandoned, link) => (.abandoned, scan, link)
      | (.finished (.error fault), link) => (.finished (.error fault), scan, link)
      | (.finished (.ok batch), link) =>
        (.finished (.ok (scan.receive batch).2), (scan.receive batch).1, link) := by
  rw [fetchPage, h]
  rfl

theorem fetched_fetchPage (client : Client) (scan : Scan) (link : Link) :
    Fetched client scan link (scan.fetchPage client link).1 (scan.fetchPage client link).2.1
      (scan.fetchPage client link).2.2 := by
  cases hover : scan.isOver with
  | true =>
    rw [fetchPage, plan, if_pos hover]
    exact .ended hover
  | false =>
    cases hshape : scan.isMisshapen with
    | true =>
      rw [fetchPage, plan, hover, hshape]
      exact .misshapen hover hshape
    | false =>
      rw [fetchPage_eq_of_plan (plan_eq_exchange hover hshape)]
      -- From here on only the ending of the exchange matters, not how the link brought it about.
      generalize hrun : scan.exchange.run client.grace link = result
      obtain ⟨ending, after⟩ := result
      obtain ⟨hsent, rfl | ⟨fault, rfl⟩ | ⟨turn, turns, elapsed, batch, hturns, hsettle, rfl⟩⟩ :=
        Exchange.run_cases hrun
      · exact .missed hover hshape hsent (.inl rfl)
      · exact .missed hover hshape hsent (.inr ⟨fault, rfl⟩)
      · exact .received hover hshape hsent hturns hsettle

theorem fetchPage_of_isOver (h : scan.isOver = true) :
    scan.fetchPage client link = (.finished (.ok none), scan, link) := by
  rw [fetchPage, plan, if_pos h]

theorem fetchPage_of_fails (h : (scan.fetchPage client link).1.Fails) :
    (scan.fetchPage client link).2.1 = scan := by
  have hfetched := fetched_fetchPage client scan link
  generalize scan.fetchPage client link = result at h hfetched ⊢
  obtain ⟨ending, next, after⟩ := result
  cases hfetched with
  | ended => rfl
  | misshapen => rfl
  | missed => rfl
  | received => exact absurd h (by simp [Ending.Fails])

/-- A scan that goes on sends the request of its exchange, whatever comes of it. -/
theorem sent_fetchPage (hover : scan.isOver = false) (hshape : scan.isMisshapen = false) :
    (scan.fetchPage client link).2.2.sent = link.sent ++ [scan.exchange.dispatch] := by
  have h := fetched_fetchPage client scan link
  generalize scan.fetchPage client link = result at h ⊢
  obtain ⟨ending, next, after⟩ := result
  cases h with
  | ended hover' => exact absurd hover' (by simp [hover])
  | misshapen _ hshape' => exact absurd hshape' (by simp [hshape])
  | missed _ _ hsent => exact hsent
  | received _ _ hsent => exact hsent

/-- A call whose turn settles in a batch in time hands out the page of that batch. -/
theorem fetchPage_of_settle {turn : Turn} {turns : List Turn} {elapsed : Nat} {batch : Batch}
    (hover : scan.isOver = false) (hshape : scan.isMisshapen = false)
    (hturns : link.turns = turn :: turns)
    (hsettle : scan.exchange.settle link.timer client.grace turn = some (elapsed, .ok batch))
    (htime : link.waited + elapsed ≤ link.patience) :
    (scan.fetchPage client link).1 = .finished (.ok (scan.receive batch).2) ∧
      (scan.fetchPage client link).2.1 = (scan.receive batch).1 := by
  rw [fetchPage_eq_of_plan (plan_eq_exchange hover hshape),
    Exchange.run_of_settle hturns hsettle htime]
  exact ⟨rfl, rfl⟩

end Scan

end AppendLog
