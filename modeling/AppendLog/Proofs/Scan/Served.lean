import AppendLog.Proofs.Scan.Fetch
import AppendLog.Proofs.Scan.Progress
import AppendLog.Proofs.Server.Answer

/-!
# What a server makes of the requests of a scan

Both requests of a scan are for the same entries of the stream, the first of what is left of the
range: `Scan.answer_rangeRequest` says so of a page of the range, and `Scan.answer_readRequest` with
`Scan.after_liveId` of a live read. The two differ on the least id alone. So whatever becomes of a
request, a scan gets those entries or none at all: `Scan.settle_turn_range` and
`Scan.settle_turn_read`.
-/

namespace AppendLog

namespace Scan

variable {scan : Scan} {stream : Stream}

/-- The entries that the server has for a page of the range. -/
def pageOf (scan : Scan) (stream : Stream) : List Entry :=
  stream.page scan.rest scan.descending scan.pageSize.size.toNat

theorem mem_of_mem_pageOf {entry : Entry} (h : entry ∈ scan.pageOf stream) :
    entry ∈ stream.entries ∧ entry.id ∈ scan.rest :=
  Stream.mem_of_mem_page h

/-- An entry that is still to come is on the next page, or the page is full and the entry is still
to come after it. -/
theorem HandedOut.mem_or_beyond_pageOf {delivered : List Entry} {entry : Entry}
    (h : scan.HandedOut delivered) (hmem : entry ∈ stream.entries) (hrange : entry.id ∈ scan.range)
    (hbeyond : ∀ early ∈ delivered, EntryId.Precedes scan.descending early.id entry.id) :
    entry ∈ scan.pageOf stream ∨ (scan.pageOf stream).length = scan.pageSize.size.toNat ∧
      ∀ early ∈ delivered ++ scan.pageOf stream,
        EntryId.Precedes scan.descending early.id entry.id := by
  have hrest : entry.id ∈ scan.rest := h.mem_rest_iff.2 ⟨hrange, hbeyond⟩
  rcases Stream.mem_or_beyond_page scan.descending scan.pageSize.size.toNat hmem hrest with
    hpage | ⟨hfull, hlate⟩
  · exact .inl hpage
  · refine .inr ⟨hfull, fun early hearly => ?_⟩
    rcases List.mem_append.1 hearly with hold | hnew
    · exact hbeyond early hold
    · exact hlate early hnew

theorem answer_rangeRequest : (stream.answer scan.key scan.rangeRequest).entries
    scan.rangeRequest.command = .ok (scan.pageOf stream) := by
  cases hdesc : scan.descending with
  | false =>
    rw [rangeRequest, pageOf, hdesc, if_neg Bool.false_ne_true, Stream.answer,
      Query.ofRequest?_range]
    simp only [if_true]
    exact Reply.entries_map_toReply _ _
  | true =>
    rw [rangeRequest, pageOf, hdesc, if_pos rfl, Stream.answer, Query.ofRequest?_reverseRange]
    simp only [if_true]
    exact Reply.entries_map_toReply _ _

/-- The id after which a live scan reads. -/
def liveId (scan : Scan) : EntryId :=
  match scan.livePosition with
  | .after id => id
  | _ => .least

theorem parse_livePosition_text :
    Position.parse scan.livePosition.text = .ok (.after scan.liveId) := by
  have hpos : scan.livePosition = .beginning ∨ ∃ id, scan.livePosition = .after id := by
    rw [livePosition]
    repeat' split
    · exact .inr ⟨_, rfl⟩
    · exact .inl rfl
    · exact .inr ⟨_, rfl⟩
    · exact .inr ⟨_, rfl⟩
    · exact .inl rfl
  rw [Position.parse_text, liveId]
  rcases hpos with h | ⟨id, h⟩
  · rw [h, if_pos rfl]
  · rw [h, if_neg (by simp)]

theorem ofRequest?_readRequest (block : Duration) :
    Query.ofRequest? (scan.readRequest block) =
      some (.read scan.key (.after scan.liveId) scan.pageSize.size) := by
  have hargs : (scan.readRequest block).arguments.mapM String.fromUTF8? =
      some ["COUNT", Decimal.write scan.pageSize.size.toNat, "BLOCK",
        Decimal.write block.blockMilliseconds.toNat, "STREAMS", scan.key,
        scan.livePosition.text] := mapM_fromUTF8?_toUTF8 _
  rw [Query.ofRequest?, hargs]
  change Query.ofReadTexts? _ _ _ = _
  rw [Query.ofReadTexts?, parse_livePosition_text, Decimal.word?_write]

/-- The server's answer to a read, nil or not, is understood as the entries after the id. -/
theorem answer_readRequest (scan : Scan) (stream : Stream) (block : Duration) :
    ∃ outcome, Operation.readResult .read
        (if (stream.answer scan.key (scan.readRequest block)).isNil then none
          else some (stream.answer scan.key (scan.readRequest block))) = .ok outcome ∧
      outcome.toMessages.map Message.entry =
        stream.after scan.liveId scan.pageSize.size.toNat := by
  have hanswer : stream.answer scan.key (scan.readRequest block) =
      if (stream.after scan.liveId scan.pageSize.size.toNat).isEmpty then .nil
      else .array [.array [.bulk scan.key.toUTF8,
        .array ((stream.after scan.liveId scan.pageSize.size.toNat).map Entry.toReply)]] := by
    rw [Stream.answer, ofRequest?_readRequest]
    simp only [if_true]
  rw [hanswer]
  cases hfound : stream.after scan.liveId scan.pageSize.size.toNat with
  | nil => exact ⟨.timedOut, rfl, rfl⟩
  | cons entry rest =>
    -- A reply with entries is not nil, so it is read as messages of the one stream.
    refine ⟨.messages ((entry :: rest).map fun entry => ⟨scan.key, entry⟩), ?_, ?_⟩
    · rw [← hfound]
      simp only [hfound, List.isEmpty_cons, Bool.false_eq_true, if_false, Reply.isNil,
        Operation.readResult]
      rw [Reply.messages_singleton]
      rfl
    · simp [ReadResult.toMessages, Function.comp_def]

/-- A read goes on exactly where the range ended, but for the least id, which no read gives. -/
theorem liveId_lt_iff (hshape : scan.isMisshapen = false) (hlive : scan.live.isSome = true)
    {id : EntryId} (hid : id ≠ .least) : scan.liveId < id ↔ id ∈ scan.rest := by
  have hleast := EntryId.least_lt_of_ne hid
  rw [isMisshapen, hlive, Bool.true_and, Bool.or_eq_false_iff] at hshape
  have hupper : scan.range.upper = .unbounded := by simpa using hshape.2
  cases hlast : scan.lastId with
  | some last =>
    have hrest : scan.rest = { scan.range with lower := .excluded last } := by
      simp [rest, hlast, hshape.1]
    have hpos : scan.liveId = last := by simp [liveId, livePosition, hlast]
    rw [hrest, hpos]
    simp [Membership.mem, Bound.AdmitsAbove, Bound.AdmitsBelow, hupper]
  | none =>
    have hrest : id ∈ scan.rest ↔ scan.range.lower.AdmitsAbove id := by
      simp [rest, hlast, Membership.mem, Bound.AdmitsBelow, hupper]
    rw [hrest]
    cases hlower : scan.range.lower with
    | unbounded => simpa [liveId, livePosition, hlast, hlower, Bound.AdmitsAbove] using hleast
    | excluded low => simp [liveId, livePosition, hlast, hlower, Bound.AdmitsAbove]
    | included low =>
      cases hbefore : low.predecessor? with
      | some before =>
        simp only [liveId, livePosition, hlast, hlower, hbefore, Bound.AdmitsAbove]
        exact EntryId.predecessor?_lt_iff hbefore
      | none =>
        -- Below the least id there is none, so the read starts after the least id itself.
        obtain rfl := EntryId.eq_least_of_predecessor?_eq_none hbefore
        simp only [liveId, livePosition, hlast, hlower, hbefore, Bound.AdmitsAbove]
        exact ⟨fun h => EntryId.le_of_lt h, fun _ => hleast⟩

theorem after_liveId (hshape : scan.isMisshapen = false) (hlive : scan.live.isSome = true)
    (hleast : ∀ entry ∈ stream.entries, entry.id ≠ .least) :
    stream.after scan.liveId scan.pageSize.size.toNat = scan.pageOf stream := by
  have hdesc : scan.descending = false := by
    rw [isMisshapen, hlive, Bool.true_and, Bool.or_eq_false_iff] at hshape
    exact hshape.1
  -- The read and the range pick the same entries, so the same first ones.
  have hfilter : stream.within { lower := .excluded scan.liveId } false =
      stream.within scan.rest false := by
    refine List.filter_congr fun entry hmem => decide_eq_decide.2 ?_
    rw [← liveId_lt_iff hshape hlive (hleast entry hmem)]
    simp [Membership.mem, Bound.AdmitsAbove, Bound.AdmitsBelow]
  rw [pageOf, hdesc, Stream.after, Stream.page, Stream.page, hfilter]

/-! ## Whatever becomes of a request -/

/-- The answer of the server to the next request of a scan gets to the scan in time. -/
def Hears (client : Client) (scan : Scan) (fate : Fate) : Prop :=
  ∃ delay, fate = .answered delay ∧ scan.exchange.InTime .milliseconds client.grace delay

variable {client : Client} {timer : Timer} {fate : Fate} {elapsed : Nat} {batch : Batch}

/-- A page of the range that is answered is what the server has for it. -/
theorem settle_answered_range (stream : Stream) (timer : Timer) (client : Client)
    (hrange : scan.caughtUp = false ∨ scan.live = none) (delay : Duration) :
    scan.exchange.settle timer client.grace
      ((Fate.answered delay).turn scan.key stream scan.exchange.dispatch.request) =
        some (delay.nanoseconds, .ok (.ranged (scan.pageOf stream))) := by
  rw [Fate.turn, Exchange.settle_of_inTime (inTime_of_range hrange _ _ _), exchange_eq_range hrange]
  simp only [Exchange.receive, Exchange.dispatch, answer_rangeRequest]
  rfl

/-- A live read that is answered in time brings what the server has for it. -/
theorem settle_answered_read {block : Duration} {delay : Duration} (hcaught : scan.caughtUp = true)
    (hlive : scan.live = some block) (hshape : scan.isMisshapen = false)
    (hleast : ∀ entry ∈ stream.entries, entry.id ≠ .least)
    (htime : scan.exchange.InTime timer client.grace delay) :
    ∃ outcome, scan.exchange.settle timer client.grace
        ((Fate.answered delay).turn scan.key stream scan.exchange.dispatch.request) =
          some (delay.nanoseconds, .ok (.read outcome)) ∧
      (Batch.read outcome).entries = scan.pageOf stream := by
  obtain ⟨outcome, hok, hentries⟩ := answer_readRequest scan stream block
  refine ⟨outcome, ?_, ?_⟩
  · rw [Fate.turn, Exchange.settle_of_inTime htime, exchange_eq_read hcaught hlive]
    exact congrArg (fun result => some (delay.nanoseconds, Except.map Batch.read result)) hok
  · refine hentries.trans (after_liveId hshape ?_ hleast)
    rw [hlive]
    rfl

/-- A page of the range is what the server has for it, or does not come at all. -/
theorem settle_turn_range (hrange : scan.caughtUp = false ∨ scan.live = none)
    (hsettle : scan.exchange.settle timer client.grace
      (fate.turn scan.key stream scan.exchange.dispatch.request) = some (elapsed, .ok batch)) :
    batch = .ranged (scan.pageOf stream) := by
  have hprompt := exchange_eq_range hrange
  cases fate with
  | answered delay =>
    rw [settle_answered_range stream timer client hrange] at hsettle
    exact (Except.ok.inj (Prod.mk.inj (Option.some.inj hsettle)).2).symm
  | timedOut delay => exact absurd hsettle (by simp [hprompt, Fate.turn, Exchange.settle,
      Exchange.deadline?, Exchange.receive])
  | failed delay failure => exact absurd hsettle (by simp [hprompt, Fate.turn, Exchange.settle,
      Exchange.deadline?, Exchange.receive])
  | stalled => exact absurd hsettle (by simp [hprompt, Fate.turn, Exchange.settle,
      Exchange.deadline?])

/-- A live read brings what the server has for it, unless the scan did not hear from the server;
then it brings nothing. -/
theorem settle_turn_read {block : Duration} (hcaught : scan.caughtUp = true)
    (hlive : scan.live = some block) (hshape : scan.isMisshapen = false)
    (hleast : ∀ entry ∈ stream.entries, entry.id ≠ .least)
    (hsettle : scan.exchange.settle .milliseconds client.grace
      (fate.turn scan.key stream scan.exchange.dispatch.request) = some (elapsed, .ok batch)) :
    batch.entries = scan.pageOf stream ∨ batch = .read .timedOut ∧ ¬ scan.Hears client fate := by
  by_cases hhears : scan.Hears client fate
  · obtain ⟨delay, rfl, htime⟩ := hhears
    obtain ⟨outcome, hanswer, hentries⟩ := settle_answered_read hcaught hlive hshape hleast htime
    rw [hanswer] at hsettle
    obtain rfl := Except.ok.inj (Prod.mk.inj (Option.some.inj hsettle)).2
    exact .inl hentries
  · -- An outcome that is no answer of the server can only be that the time passed.
    refine .inr ⟨?_, hhears⟩
    have hread := exchange_eq_read hcaught hlive
    rcases Exchange.settle_cases hsettle with ⟨delay, outcome, hturn, htime, hresult⟩ | ⟨-, hresult, -⟩
    · cases fate with
      | answered delay =>
        obtain ⟨rfl, -⟩ := Turn.answers.inj hturn
        exact absurd ⟨delay, rfl, htime⟩ hhears
      | timedOut delay =>
        obtain ⟨-, rfl⟩ := Turn.answers.inj hturn
        simp only [hread, Exchange.receive] at hresult
        exact (Except.ok.inj hresult).symm
      | failed delay failure =>
        obtain ⟨-, rfl⟩ := Turn.answers.inj hturn
        exact absurd hresult (by simp [Exchange.receive])
      | stalled => exact absurd hturn (by simp [Fate.turn])
    · simp only [hread, Exchange.expire] at hresult
      exact (Except.ok.inj hresult).symm

end Scan

end AppendLog
