import AppendLog.Proofs.Scan.Fetch
import AppendLog.Proofs.Scan.Progress

/-!
# What a scan asks of any server

A caller asks a scan for pages and closes it, in any order, over a link on which anything may come
back. A `Visit` is what is seen of one such move from outside. What a scan sends next, and whether it
sends anything, can be told from the visits before: `Scan.Proper` says how, and `Scan.Tracks` ties
the visits to the state of the scan.
-/

namespace AppendLog

/-- What a caller does with a scan. -/
inductive Move where
  | fetch
  | close

/-- What is seen of a move: that the scan was closed, or what was sent for a page and how the call
ended. -/
inductive Visit where
  | closed
  | fetched (sent : List Dispatch) (ending : Ending (Option Page))

namespace Visit

/-- The entries that a visit handed out. -/
def entries : Visit → List Entry
  | closed => []
  | fetched _ ending => ending.entries

/-- Whether a scan is over from this visit on: it was closed, there was no page, or the page was
short and the scan is not live. -/
def isEnd (start : Scan) : Visit → Bool
  | closed => true
  | fetched _ (.finished (.ok none)) => true
  | fetched _ (.finished (.ok (some page))) =>
    start.live.isNone && page.entries.length < start.pageSize.size.toNat
  | fetched _ _ => false

/-- Whether a visit brought a short page of the range. -/
def isShortRange (start : Scan) : Visit → Bool
  | fetched [dispatch] (.finished (.ok (some page))) =>
    dispatch.request.command != .read && page.entries.length < start.pageSize.size.toNat
  | _ => false

/-- The id of the last entry that visits handed out: the last one of the latest page that was not
empty. -/
def lastSeen (visits : List Visit) : Option EntryId :=
  (visits.flatMap entries).getLast?.map Entry.id

end Visit

namespace Scan

/-- What is seen of the moves of a caller, one after the other over one link. -/
def visits (client : Client) : List Move → Scan → Link → List Visit
  | [], _, _ => []
  | .close :: rest, scan, link => .closed :: visits client rest scan.close link
  | .fetch :: rest, scan, link =>
    let (ending, next, after) := scan.fetchPage client link.anew
    .fetched after.sent ending :: visits client rest next after

/-! ## The request to come -/

/-- The lower end of what is left: exclusive after the last id seen. -/
def lowerText (start : Scan) : Option EntryId → String
  | some last => "(" ++ last.text
  | none => start.range.lowerText

/-- The upper end of what is left: exclusive before the last id seen. -/
def upperText (start : Scan) : Option EntryId → String
  | some last => "(" ++ last.text
  | none => start.range.upperText

/-- Where a live read goes on: after the last id seen, or below all that the lower bound admits. -/
def offsetText (start : Scan) : Option EntryId → String
  | some last => last.text
  | none =>
    match start.range.lower with
    | .unbounded => "0-0"
    | .excluded id => id.text
    | .included id => (id.predecessor?.getD .least).text

/-- The request for a page of the range after the last id seen. -/
def rangeAsked (start : Scan) (last : Option EntryId) : Request :=
  let count := Decimal.write start.pageSize.size.toNat
  if start.descending then .ofTexts .reverseRange
    [start.key, start.upperText last, start.range.lowerText, "COUNT", count]
  else .ofTexts .range [start.key, start.lowerText last, start.range.upperText, "COUNT", count]

/-- The request for what was appended after the last id seen. -/
def readAsked (start : Scan) (block : Duration) (last : Option EntryId) : Request :=
  .ofTexts .read ["COUNT", Decimal.write start.pageSize.size.toNat,
    "BLOCK", Decimal.write block.blockMilliseconds.toNat, "STREAMS", start.key,
    start.offsetText last]

/-- What a scan of these settings sends, when this is the last id seen and it has caught up or
not. -/
def asked (start : Scan) (last : Option EntryId) (caughtUp : Bool) : Dispatch :=
  match start.live, caughtUp with
  | some block, true => ⟨start.readAsked block last, some block⟩
  | _, _ => ⟨start.rangeAsked last, none⟩

/-- The request that a scan sends is told by its settings alone. -/
theorem asked_of_fresh {scan start : Scan} (h : scan.fresh = start.fresh) :
    scan.asked = start.asked := by
  obtain ⟨key, pageSize, range, descending, live, _, _, _, _⟩ := scan
  obtain ⟨key', pageSize', range', descending', live', _, _, _, _⟩ := start
  simp only [fresh, mk.injEq] at h
  obtain ⟨rfl, rfl, rfl, rfl, rfl, -⟩ := h
  rfl

theorem asked_eq_range {start : Scan} {caughtUp : Bool} (h : caughtUp = false ∨ start.live = none)
    (last : Option EntryId) : start.asked last caughtUp = ⟨start.rangeAsked last, none⟩ := by
  unfold asked
  rcases h with rfl | h
  · cases start.live <;> rfl
  · rw [h]

theorem asked_eq_read {start : Scan} {block : Duration} (h : start.live = some block)
    (last : Option EntryId) :
    start.asked last true = ⟨start.readAsked block last, some block⟩ := by
  unfold asked
  rw [h]

/-- A request is a live read exactly when the scan is live and has caught up. -/
theorem asked_command_eq_read {start : Scan} {last : Option EntryId} {caughtUp : Bool} :
    (start.asked last caughtUp).request.command = .read ↔
      caughtUp = true ∧ start.live.isSome = true := by
  cases hlive : start.live with
  | none =>
    rw [asked_eq_range (.inr hlive), rangeAsked]
    cases start.descending <;> simp [Request.ofTexts]
  | some block =>
    cases caughtUp with
    | false =>
      rw [asked_eq_range (.inl rfl), rangeAsked]
      cases start.descending <;> simp [Request.ofTexts]
    | true => simp [asked_eq_read hlive, readAsked, Request.ofTexts]

theorem rangeRequest_eq_asked (scan : Scan) : scan.rangeRequest = scan.rangeAsked scan.lastId := by
  rw [rangeRequest, rangeAsked, rest]
  cases scan.descending <;> cases scan.lastId <;> rfl

theorem livePosition_text (scan : Scan) : scan.livePosition.text = scan.offsetText scan.lastId := by
  unfold livePosition offsetText
  cases scan.lastId with
  | some last => rfl
  | none =>
    cases scan.range.lower with
    | unbounded => decide
    | excluded id => rfl
    | included id =>
      cases h : id.predecessor? with
      | some before => simp [h, Position.text]
      | none => simp [h, Position.text]

theorem dispatch_exchange (scan : Scan) :
    scan.exchange.dispatch = scan.asked scan.lastId scan.caughtUp := by
  rcases scan.range_or_read with hrange | ⟨block, hcaught, hlive⟩
  · rw [exchange_eq_range hrange, asked_eq_range hrange, ← rangeRequest_eq_asked]
    rfl
  · rw [exchange_eq_read hcaught hlive, hcaught, asked_eq_read hlive, readAsked,
      ← livePosition_text]
    rfl

/-! ## What a batch looks like from outside -/

section Receive

variable {scan start : Scan} {timer : Timer} {grace : Duration} {turn : Turn} {elapsed : Nat}
  {batch : Batch}

/-- A request for a page of the range is never understood as a read. -/
theorem exists_ranged_of_settle (hrange : scan.caughtUp = false ∨ scan.live = none)
    (h : scan.exchange.settle timer grace turn = some (elapsed, .ok batch)) :
    ∃ found, batch = .ranged found := by
  rw [exchange_eq_range hrange] at h
  rcases Exchange.settle_cases h with ⟨delay, outcome, -, -, hresult⟩ | ⟨hlimit, -, -⟩
  · cases outcome with
    | reply reply =>
      rw [Exchange.receive] at hresult
      cases hfound : reply.entries scan.rangeRequest.command with
      | error fault =>
        rw [hfound] at hresult
        exact absurd hresult (by simp [Except.map])
      | ok found =>
        rw [hfound] at hresult
        exact ⟨found, (Except.ok.inj hresult).symm⟩
    | timedOut => exact absurd hresult (by simp [Exchange.receive])
    | failed failure => exact absurd hresult (by simp [Exchange.receive])
  · exact absurd hlimit (by simp [Exchange.deadline?])

theorem isEnd_of_fresh (h : scan.fresh = start.fresh) : Visit.isEnd scan = Visit.isEnd start := by
  unfold Visit.isEnd
  rw [live_of_fresh h, pageSize_of_fresh h]

theorem isShortRange_of_fresh (h : scan.fresh = start.fresh) :
    Visit.isShortRange scan = Visit.isShortRange start := by
  unfold Visit.isShortRange
  rw [pageSize_of_fresh h]

/-- A batch ends a scan exactly when its page shows it. -/
theorem isOver_receive (hover : scan.isOver = false)
    (hkind : (∃ found, batch = .ranged found) ∨ scan.live.isSome = true) (sent : List Dispatch) :
    (scan.receive batch).1.isOver =
      Visit.isEnd scan (.fetched sent (.finished (.ok (scan.receive batch).2))) := by
  cases batch with
  | read outcome =>
    have hlive : scan.live.isNone = false := by
      rcases hkind with ⟨found, h⟩ | h
      · exact absurd h (by simp)
      · simpa using h
    rw [receive, receiveLive, Visit.isEnd, hlive, Bool.false_and]
    exact hover
  | ranged found =>
    rw [receive]
    by_cases hfull : scan.pageSize.size.toNat ≤ found.length
    · rw [receiveRange_of_full hfull, Visit.isEnd, decide_eq_false (Nat.not_lt.2 hfull),
        Bool.and_false]
      exact hover
    have hshort := Nat.not_le.1 hfull
    cases hlive : scan.live with
    | none =>
      rw [receiveRange_of_short hlive hshort, isOver, Bool.or_true]
      cases found with
      | nil => rfl
      | cons entry rest => simpa [Visit.isEnd, hlive] using hshort
    | some block =>
      simp only [receiveRange, hlive, Option.isNone_some, Bool.and_false, Bool.or_false,
        Bool.false_and, Bool.false_eq_true, if_false, Visit.isEnd]
      exact hover

/-- A live scan catches up exactly with a short page of the range. -/
theorem caughtUp_receive (hlive : scan.live.isSome = true)
    (h : scan.exchange.settle timer grace turn = some (elapsed, .ok batch)) :
    (scan.receive batch).1.caughtUp = (scan.caughtUp || Visit.isShortRange scan
      (.fetched [scan.exchange.dispatch] (.finished (.ok (scan.receive batch).2)))) := by
  rcases scan.range_or_read with hrange | ⟨block, hcaught, -⟩
  · obtain ⟨found, rfl⟩ := exists_ranged_of_settle hrange h
    have hsome : scan.live.isNone = false := by simpa using hlive
    have hcommand : (scan.rangeRequest.command != .read) = true := by
      rw [rangeRequest]
      cases scan.descending <;> rfl
    simp only [receive, receiveRange, hsome, Bool.and_false, Bool.false_and, Bool.false_eq_true,
      if_false, exchange_eq_range hrange, Exchange.dispatch, Visit.isShortRange, hcommand,
      Bool.true_and]
  · -- A scan that reads live has caught up before.
    rw [hcaught, Bool.true_or]
    cases batch with
    | read outcome => exact hcaught
    | ranged found => simp [receive, receiveRange, hcaught]

theorem lastSeen_append (visits : List Visit) (sent : List Dispatch)
    (ending : Ending (Option Page)) :
    Visit.lastSeen (visits ++ [.fetched sent ending]) =
      (ending.entries.getLast?.map Entry.id).or (Visit.lastSeen visits) := by
  simp only [Visit.lastSeen, List.flatMap_append, List.flatMap_cons, List.flatMap_nil,
    List.append_nil, List.getLast?_append, Visit.entries]
  cases ending.entries.getLast? <;> rfl

end Receive

/-! ## Every call -/

/-- Whether a scan of these settings is over after these visits. -/
def endedBy (start : Scan) (before : List Visit) : Bool := before.any (Visit.isEnd start)

/-- Whether a scan of these settings has caught up with these visits. -/
def caughtUpBy (start : Scan) (before : List Visit) : Bool := before.any (Visit.isShortRange start)

section Fails

variable {ending : Ending (Option Page)} (hfails : ending.Fails) (start : Scan)
  (before : List Visit) (sent : List Dispatch)

include hfails

/-! A call that fails tells nothing of what comes next. -/

theorem lastSeen_of_fails :
    Visit.lastSeen (before ++ [.fetched sent ending]) = Visit.lastSeen before := by
  have hentries : ending.entries = [] := by rcases hfails with rfl | ⟨fault, rfl⟩ <;> rfl
  rw [lastSeen_append, hentries]
  rfl

theorem endedBy_of_fails :
    start.endedBy (before ++ [.fetched sent ending]) = start.endedBy before := by
  have hend : Visit.isEnd start (.fetched sent ending) = false := by
    rcases hfails with rfl | ⟨fault, rfl⟩ <;> rfl
  simp [endedBy, hend]

theorem caughtUpBy_of_fails :
    start.caughtUpBy (before ++ [.fetched sent ending]) = start.caughtUpBy before := by
  have hshort : Visit.isShortRange start (.fetched sent ending) = false := by
    unfold Visit.isShortRange
    split
    · next heq =>
      rw [(Visit.fetched.inj heq).2] at hfails
      exact absurd hfails (by simp [Ending.Fails])
    · rfl
  simp [caughtUpBy, hshort]

end Fails

/-- How a call for a page looks from outside after these visits. -/
structure Proper (start : Scan) (before : List Visit) (sent : List Dispatch)
    (ending : Ending (Option Page)) : Prop where
  /-- Once a scan is over nothing is sent any more. -/
  ended : start.endedBy before = true → sent = [] ∧ ending = .finished (.ok none)
  /-- A scan that is live and would have to go down or to end is refused. -/
  refused : start.endedBy before = false → start.isMisshapen = true →
    sent = [] ∧ ending = .finished (.error (.misuse .liveScanShape))
  /-- Otherwise one request is sent, which goes on from the visits before. -/
  asks : start.endedBy before = false → start.isMisshapen = false →
    sent = [start.asked (Visit.lastSeen before) (start.caughtUpBy before)]
  /-- A page says where the next request goes on. -/
  lastId : ∀ page, ending = .finished (.ok (some page)) →
    page.lastId = Visit.lastSeen (before ++ [.fetched sent ending])

/-- The state of a scan, as the visits so far show it. -/
structure Tracks (start : Scan) (before : List Visit) (scan : Scan) : Prop where
  settings : scan.fresh = start.fresh
  lastId : scan.lastId = Visit.lastSeen before
  isOver : scan.isOver = start.endedBy before
  caughtUp : scan.live.isSome = true → scan.caughtUp = start.caughtUpBy before

namespace Tracks

variable {start scan : Scan} {before : List Visit}

theorem begin (start : Scan) : Tracks start [] start.fresh := ⟨rfl, rfl, rfl, fun _ => rfl⟩

theorem isMisshapen_eq (h : Tracks start before scan) : scan.isMisshapen = start.isMisshapen := by
  rw [isMisshapen, isMisshapen, live_of_fresh h.settings, descending_of_fresh h.settings,
    range_of_fresh h.settings]

theorem dispatch_eq (h : Tracks start before scan) : scan.exchange.dispatch =
    start.asked (Visit.lastSeen before) (start.caughtUpBy before) := by
  rw [dispatch_exchange, asked_of_fresh h.settings, h.lastId]
  cases hlive : scan.live with
  | none =>
    have hlive' := hlive
    rw [live_of_fresh h.settings] at hlive'
    rw [asked_eq_range (.inr hlive'), asked_eq_range (.inr hlive')]
  | some block => rw [h.caughtUp (by rw [hlive]; rfl)]

theorem idle (h : Tracks start before scan) {sent : List Dispatch}
    {ending : Ending (Option Page)} (hfails : ending.Fails) :
    Tracks start (before ++ [.fetched sent ending]) scan := by
  refine ⟨h.settings, ?_, ?_, fun hlive => ?_⟩
  · rw [lastSeen_of_fails hfails, h.lastId]
  · rw [endedBy_of_fails hfails, h.isOver]
  · rw [caughtUpBy_of_fails hfails, h.caughtUp hlive]

theorem close (h : Tracks start before scan) : Tracks start (before ++ [.closed]) scan.close := by
  refine ⟨h.settings, ?_, ?_, fun hlive => ?_⟩
  · simp [Visit.lastSeen, Visit.entries, Scan.close, h.lastId]
  · simp [endedBy, Visit.isEnd, Scan.close, Scan.isOver]
  · have hcaught := h.caughtUp hlive
    simpa [caughtUpBy, Visit.isShortRange, Scan.close] using hcaught

theorem ended (h : Tracks start before scan) (hover : scan.isOver = true) :
    Tracks start (before ++ [.fetched [] (.finished (.ok none))]) scan := by
  refine ⟨h.settings, ?_, ?_, fun hlive => ?_⟩
  · rw [lastSeen_append, h.lastId]
    rfl
  · rw [hover, endedBy, List.any_append]
    simp [Visit.isEnd]
  · rw [h.caughtUp hlive, caughtUpBy, caughtUpBy, List.any_append]
    simp [Visit.isShortRange]

/-- What a batch does to a scan shows from outside. -/
theorem receive (h : Tracks start before scan) (hover : scan.isOver = false) {grace : Duration}
    {turn : Turn} {elapsed : Nat} {batch : Batch}
    (hsettle : scan.exchange.settle timer grace turn = some (elapsed, .ok batch)) :
    Tracks start (before ++ [.fetched [scan.exchange.dispatch]
      (.finished (.ok (scan.receive batch).2))]) (scan.receive batch).1 := by
  have hlive := live_of_fresh (fresh_receive scan batch)
  refine ⟨(fresh_receive scan batch).trans h.settings, ?_, ?_, fun hsome => ?_⟩
  · rw [lastSeen_append, entries_receive, lastId_receive, lastIdAfter, h.lastId]
    cases batch.entries.getLast? <;> rfl
  · have hkind : (∃ found, batch = .ranged found) ∨ scan.live.isSome = true := by
      rcases scan.range_or_read with hrange | ⟨block, -, hread⟩
      · exact .inl (exists_ranged_of_settle hrange hsettle)
      · exact .inr (by rw [hread]; rfl)
    rw [isOver_receive hover hkind [scan.exchange.dispatch], isEnd_of_fresh h.settings, endedBy,
      List.any_append]
    -- No visit before was the end, so this one is if and only if the batch ended the scan.
    have hbefore : before.any (Visit.isEnd start) = false := by
      rw [← hover, h.isOver, endedBy]
    simp [hbefore]
  · rw [hlive] at hsome
    rw [caughtUp_receive hsome hsettle, h.caughtUp hsome, isShortRange_of_fresh h.settings,
      caughtUpBy, caughtUpBy, List.any_append]
    simp

theorem fetch (h : Tracks start before scan) (client : Client) (link : Link) :
    let result := scan.fetchPage client link.anew
    Proper start before result.2.2.sent result.1 ∧
      Tracks start (before ++ [.fetched result.2.2.sent result.1]) result.2.1 := by
  have hfetched := fetched_fetchPage client scan link.anew
  generalize scan.fetchPage client link.anew = result at hfetched ⊢
  obtain ⟨ending, next, after⟩ := result
  cases hfetched with
  | ended hover =>
    have hended : start.endedBy before = true := h.isOver.symm.trans hover
    refine ⟨⟨fun _ => ⟨rfl, rfl⟩, ?_, ?_, by simp⟩, h.ended hover⟩
    · simp [hended]
    · simp [hended]
  | misshapen hover hshape =>
    have hopen : start.endedBy before = false := h.isOver.symm.trans hover
    have hunfit : start.isMisshapen = true := h.isMisshapen_eq.symm.trans hshape
    refine ⟨⟨?_, fun _ _ => ⟨rfl, rfl⟩, ?_, by simp⟩, h.idle (.inr ⟨_, rfl⟩)⟩
    · simp [hopen]
    · simp [hunfit]
  | missed hover hshape hsent hfails =>
    have hopen : start.endedBy before = false := h.isOver.symm.trans hover
    have hfit : start.isMisshapen = false := h.isMisshapen_eq.symm.trans hshape
    refine ⟨⟨by simp [hopen], by simp [hfit], fun _ _ => ?_, fun page hpage => ?_⟩, h.idle hfails⟩
    · rw [hsent, h.dispatch_eq]
      rfl
    · rw [hpage] at hfails
      exact absurd hfails (by simp [Ending.Fails])
  | @received after turn turns elapsed batch hover hshape hsent hturns hsettle =>
    have hopen : start.endedBy before = false := h.isOver.symm.trans hover
    have hfit : start.isMisshapen = false := h.isMisshapen_eq.symm.trans hshape
    have hsent : after.sent = [scan.exchange.dispatch] := hsent
    have hnext := h.receive hover hsettle
    rw [← hsent] at hnext
    refine ⟨⟨by simp [hopen], by simp [hfit], fun _ _ => ?_, fun page hpage => ?_⟩, hnext⟩
    · rw [hsent, h.dispatch_eq]
    · have hbatch := Except.ok.inj (Ending.finished.inj hpage)
      rw [lastId_of_receive hbatch]
      exact hnext.lastId

/-- Every call of a run, from any state that the visits so far show. -/
theorem proper_visits (h : Tracks start before scan) (client : Client) (moves : List Move)
    (link : Link) {early late : List Visit} {sent : List Dispatch}
    {ending : Ending (Option Page)}
    (hvisits : scan.visits client moves link = early ++ .fetched sent ending :: late) :
    Proper start (before ++ early) sent ending := by
  -- The call in question is the first one, or it comes after one more visit of a tracked scan.
  induction moves generalizing before scan link early with
  | nil => exact absurd hvisits (by simp [visits])
  | cons move rest ih =>
    cases move with
    | close =>
      cases early with
      | nil => exact absurd (List.cons.inj hvisits).1 (by simp)
      | cons visit early =>
        obtain ⟨rfl, hrest⟩ := List.cons.inj hvisits
        have hproper := ih h.close link hrest
        rwa [List.append_assoc] at hproper
    | fetch =>
      obtain ⟨hproper, hnext⟩ := h.fetch client link
      cases early with
      | nil =>
        obtain ⟨hvisit, -⟩ := List.cons.inj hvisits
        obtain ⟨rfl, rfl⟩ := Visit.fetched.inj hvisit
        rw [List.append_nil]
        exact hproper
      | cons visit early =>
        obtain ⟨rfl, hrest⟩ := List.cons.inj hvisits
        have hlater := ih hnext _ hrest
        rwa [List.append_assoc] at hlater

end Tracks

namespace Proper

variable {start : Scan} {before : List Visit} {sent sent' : List Dispatch}
  {ending ending' : Ending (Option Page)}

theorem length_sent_le (h : Proper start before sent ending) : sent.length ≤ 1 := by
  cases hended : start.endedBy before with
  | true => simp [(h.ended hended).1]
  | false =>
    cases hfit : start.isMisshapen with
    | true => simp [(h.refused hended hfit).1]
    | false => simp [h.asks hended hfit]

/-- What a call sends is what it would send on a scan that goes on and can be. -/
theorem eq_asked_of_mem (h : Proper start before sent ending) {dispatch : Dispatch}
    (hmem : dispatch ∈ sent) :
    dispatch = start.asked (Visit.lastSeen before) (start.caughtUpBy before) := by
  cases hended : start.endedBy before with
  | true => exact absurd hmem (by simp [(h.ended hended).1])
  | false =>
    cases hfit : start.isMisshapen with
    | true => exact absurd hmem (by simp [(h.refused hended hfit).1])
    | false =>
      rw [h.asks hended hfit] at hmem
      exact List.mem_singleton.1 hmem

/-- After a call that failed the same is sent again. -/
theorem sent_again (h : Proper start before sent ending) (hfails : ending.Fails)
    (h' : Proper start (before ++ [.fetched sent ending]) sent' ending') : sent' = sent := by
  cases hended : start.endedBy before with
  | true =>
    rw [(h.ended hended).2] at hfails
    exact absurd hfails (by simp [Ending.Fails])
  | false =>
    have hended' := endedBy_of_fails hfails start before sent
    rw [hended] at hended'
    cases hfit : start.isMisshapen with
    | true => rw [(h.refused hended hfit).1, (h'.refused hended' hfit).1]
    | false =>
      rw [h.asks hended hfit, h'.asks hended' hfit, lastSeen_of_fails hfails,
        caughtUpBy_of_fails hfails]

/-- After a live read there are live reads only. -/
theorem reads_on (h : Proper start before sent ending) {between : List Visit}
    (h' : Proper start (before ++ .fetched sent ending :: between) sent' ending')
    (hread : ∃ dispatch ∈ sent, dispatch.request.command = .read) :
    ∀ dispatch ∈ sent', dispatch.request.command = .read := by
  obtain ⟨dispatch, hmem, hcommand⟩ := hread
  rw [h.eq_asked_of_mem hmem, asked_command_eq_read] at hcommand
  intro later hlater
  rw [h'.eq_asked_of_mem hlater, asked_command_eq_read]
  refine ⟨?_, hcommand.2⟩
  rw [caughtUpBy, List.any_append]
  rw [caughtUpBy] at hcommand
  rw [hcommand.1, Bool.true_or]

end Proper

/-- **What a scan asks of any server.** Whatever comes back over the link and whenever the scan is
closed, every call is told by the calls before: what it sends, if anything, and that it ends when
the scan is over. A call that failed is made again as it was, and after a live read there are live
reads only. -/
theorem visits_proper (client : Client) (key : String) (pageSize : PageSize) (range : Range)
    (descending : Bool) (live : Option Duration) (moves : List Move) (link : Link)
    (before after : List Visit) (sent : List Dispatch) (ending : Ending (Option Page))
    (hvisits : visits client moves { key, pageSize, range, descending, live } link =
      before ++ .fetched sent ending :: after) :
    let start : Scan := { key, pageSize, range, descending, live }
    Proper start before sent ending ∧ sent.length ≤ 1 ∧
      (∀ scan link, (fetchPage client scan link).1.Fails → (fetchPage client scan link).2.1 = scan) ∧
      ∀ between sent' ending' rest, after = between ++ .fetched sent' ending' :: rest →
        (ending.Fails → between = [] → sent' = sent) ∧
        ((∃ dispatch ∈ sent, dispatch.request.command = .read) →
          ∀ dispatch ∈ sent', dispatch.request.command = .read) := by
  intro start
  have htracks : Tracks start [] start := .begin start
  have hproper : Proper start before sent ending := htracks.proper_visits client moves link hvisits
  refine ⟨hproper, hproper.length_sent_le, fun scan link hfails => fetchPage_of_fails hfails, ?_⟩
  rintro between sent' ending' rest rfl
  have hsplit : before ++ .fetched sent ending :: (between ++ .fetched sent' ending' :: rest) =
      (before ++ .fetched sent ending :: between) ++ .fetched sent' ending' :: rest := by simp
  have hlater := htracks.proper_visits client moves link (hvisits.trans hsplit)
  refine ⟨fun hfails hbetween => ?_, hproper.reads_on hlater⟩
  subst hbetween
  exact hproper.sent_again hfails hlater

/-- A live scan whose first page is empty goes on with a live read. -/
theorem visits_proper_hand_over :
    let start : Scan := { key := "s", pageSize := .atLeastOne 2, live := some (.ofMilliseconds 9) }
    ∃ first ending, start.visits {} [.fetch, .fetch] { turns := [.answers default (.reply .nil)] } =
      [first, .fetched [⟨.ofTexts .read ["COUNT", "2", "BLOCK", "9", "STREAMS", "s", "0-0"],
        some (.ofMilliseconds 9)⟩] ending] := by
  intro start
  let first : Visit := .fetched [start.asked none false] (.finished (.ok (some ⟨[], none, true⟩)))
  let exhausted : Ending (Option Page) :=
    .finished (.error (LinkFailure.broken "script exhausted").fault)
  have hvisits : start.visits {} [.fetch, .fetch] { turns := [.answers default (.reply .nil)] } =
      [first] ++ .fetched [start.asked none true] exhausted :: [] := rfl
  have hasks := (visits_proper {} "s" (.atLeastOne 2) {} false (some (.ofMilliseconds 9))
    [.fetch, .fetch] _ [first] [] _ _ hvisits).1.asks rfl rfl
  have hasked : start.asked (Visit.lastSeen [first]) (start.caughtUpBy [first]) =
      ⟨.ofTexts .read ["COUNT", "2", "BLOCK", "9", "STREAMS", "s", "0-0"],
        some (.ofMilliseconds 9)⟩ := by
    decide
  refine ⟨first, exhausted, hvisits.trans ?_⟩
  rw [hasks, hasked]
  rfl

end Scan

end AppendLog
