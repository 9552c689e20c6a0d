import AppendLog.Proofs.Scan.Fetch
import AppendLog.Proofs.Scan.Progress
import AppendLog.Proofs.Wire.Entry

/-!
# Deleted entries on a page

A reply may hold elements of deleted entries, which are left out of the page. Whether a page is the
last is told from what is left of it, so a full reply ends a scan when too few of its entries
survive: `Scan.goesOn_iff_survivors_fill_page`.
-/

namespace AppendLog

namespace Scan

/-- A call leaves the scan going on: there is a page, which is not up to date, the scan counts no
more as caught up than before, and the next call sends a request again. -/
structure GoesOn (client : Client) (scan : Scan) (link : Link) : Prop where
  page : ∃ page, (scan.fetchPage client link).1 = .finished (.ok (some page)) ∧
    page.upToDate = false
  caughtUp : (scan.fetchPage client link).2.1.caughtUp = scan.caughtUp
  asks : ∀ later : Link, later.sent ≠
    ((scan.fetchPage client link).2.1.fetchPage client later).2.2.sent

variable {client : Client} {scan : Scan} {link : Link}

/-- What a page of the range comes to when its elements can be read. -/
theorem fetchPage_of_elements {items : List Reply} {found : List (Option Entry)} {delay : Duration}
    {turns : List Turn} (hlive : scan.live = none) (hover : scan.isOver = false)
    (hturns : link.turns = .answers delay (.reply (.array items)) :: turns)
    (htime : link.waited + delay.nanoseconds ≤ link.patience)
    (hread : items.mapM (Reply.readElement scan.rangeRequest.command) = .ok found) :
    (scan.fetchPage client link).1 =
        .finished (.ok (scan.receiveRange (found.filterMap id)).2) ∧
      (scan.fetchPage client link).2.1 = (scan.receiveRange (found.filterMap id)).1 := by
  have hrange : scan.caughtUp = false ∨ scan.live = none := .inr hlive
  have hsettle : scan.exchange.settle link.timer client.grace
      (.answers delay (.reply (.array items))) =
        some (delay.nanoseconds, .ok (.ranged (found.filterMap id))) := by
    rw [Exchange.settle_of_inTime (inTime_of_range hrange _ _ _), exchange_eq_range hrange,
      Exchange.receive, Reply.entries_of_mapM _ hread]
    rfl
  exact fetchPage_of_settle hover (isMisshapen_of_live_eq_none hlive) hturns hsettle htime

/-- **A full reply may end a scan.** A scan goes on after a page if and only if as many entries as
it asked for are left when the deleted ones are skipped. Otherwise the scan is drained: the page,
if any entry is left for it, is up to date, and every later call finds nothing without asking. -/
theorem goesOn_iff_survivors_fill_page (client : Client) (scan : Scan) (link : Link)
    (items : List Reply) (found : List (Option Entry)) (delay : Duration) (turns : List Turn)
    (hlive : scan.live = none) (hover : scan.isOver = false)
    (hturns : link.turns = .answers delay (.reply (.array items)) :: turns)
    (htime : link.waited + delay.nanoseconds ≤ link.patience)
    (hread : items.mapM (Reply.readElement scan.rangeRequest.command) = .ok found) :
    let survivors := found.filterMap id
    let next := (scan.fetchPage client link).2.1
    (scan.GoesOn client link ↔ scan.pageSize.size.toNat ≤ survivors.length) ∧
      (survivors.length < scan.pageSize.size.toNat →
        (scan.fetchPage client link).1 = .finished (.ok (if survivors.isEmpty then none
          else some ⟨survivors, scan.lastIdAfter survivors, true⟩)) ∧
        ∀ later, next.fetchPage client later = (.finished (.ok none), next, later)) := by
  intro survivors next
  obtain ⟨hending, hnext⟩ : (scan.fetchPage client link).1 =
      .finished (.ok (scan.receiveRange survivors).2) ∧ next = (scan.receiveRange survivors).1 :=
    fetchPage_of_elements hlive hover hturns htime hread
  by_cases hfull : scan.pageSize.size.toNat ≤ survivors.length
  · rw [receiveRange_of_full hfull] at hending hnext
    have hcaught : next.caughtUp = scan.caughtUp := by rw [hnext]
    refine ⟨⟨fun _ => hfull, fun _ => ⟨⟨_, hending, rfl⟩, hcaught, fun later => ?_⟩⟩,
      fun hshort => by omega⟩
    have hover' : next.isOver = false := by
      rw [hnext]
      exact hover
    have hshape' : next.isMisshapen = false := by
      rw [hnext]
      exact isMisshapen_of_live_eq_none hlive
    change later.sent ≠ (next.fetchPage client later).2.2.sent
    rw [sent_fetchPage hover' hshape']
    simp
  · have hshort := Nat.not_le.1 hfull
    rw [receiveRange_of_short hlive hshort] at hending hnext
    have hover' : next.isOver = true := by
      rw [hnext, isOver, Bool.or_true]
    have hsilent : ∀ later, next.fetchPage client later = (.finished (.ok none), next, later) :=
      fun later => fetchPage_of_isOver hover'
    -- A scan that goes on would send something on the next call, and this one never does.
    refine ⟨⟨fun hgoes => ?_, fun h => absurd h hfull⟩, fun _ => ⟨hending, hsilent⟩⟩
    exact absurd (congrArg (fun result => result.2.2.sent) (hsilent link)).symm (hgoes.asks link)

/-- A full page of entries that were not deleted. -/
theorem goesOn_of_two_entries :
    let scan : Scan := { key := "s", pageSize := .atLeastOne 2 }
    let items : List Reply :=
      [Entry.toReply ⟨⟨1, 0⟩, .empty⟩, Entry.toReply ⟨⟨2, 0⟩, .empty⟩]
    scan.GoesOn {} { turns := [.answers default (.reply (.array items))] } := by
  intro scan items
  have hread : items.mapM (Reply.readElement scan.rangeRequest.command) =
      .ok [some ⟨⟨1, 0⟩, .empty⟩, some ⟨⟨2, 0⟩, .empty⟩] :=
    mapM_map_of_ok (Reply.readElement_toReply _) [⟨⟨1, 0⟩, .empty⟩, ⟨⟨2, 0⟩, .empty⟩]
  exact ((goesOn_iff_survivors_fill_page {} scan _ items _ default [] rfl rfl rfl (by decide)
    hread).1).2 (by decide)

/-- Two elements for a page of two, the second of a deleted entry: the scan takes the page for the
last one. -/
theorem full_reply_ends_scan :
    let scan : Scan := { key := "s", pageSize := .atLeastOne 2 }
    let kept : Entry := ⟨⟨1, 0⟩, ⟨[("k", "v".toUTF8)], by decide⟩⟩
    let items : List Reply := [kept.toReply, .array [.bulk (EntryId.text ⟨2, 0⟩).toUTF8, .nil]]
    items.mapM (Reply.readElement .range) = .ok [some kept, none] ∧
      scan.pageSize.size.toNat ≤ items.length ∧
      ¬ scan.GoesOn {} { turns := [.answers default (.reply (.array items))] } := by
  intro scan kept items
  have hread : items.mapM (Reply.readElement .range) = .ok [some kept, none] := by
    rw [List.mapM_cons, Reply.readElement_toReply, List.mapM_cons, Reply.readElement_deleted]
    rfl
  refine ⟨hread, by decide, fun hgoes => ?_⟩
  obtain ⟨page, hpage, hdate⟩ := hgoes.page
  have hending : (scan.fetchPage {} { turns := [.answers default (.reply (.array items))] }).1 =
      .finished (.ok (scan.receiveRange [kept]).2) :=
    (@fetchPage_of_elements {} scan _ items [some kept, none] default [] rfl rfl rfl (by decide)
      hread).1
  rw [hending] at hpage
  obtain rfl := Option.some.inj (Except.ok.inj (Ending.finished.inj hpage))
  exact absurd hdate (by decide)

end Scan

end AppendLog
