import AppendLog.Proofs.Scan.Journey

/-!
# A live scan misses nothing

A live scan takes pages of a range first and then reads on from the last id seen. `Journey.Complete`
holds all along: an entry of the range that is in the stream was handed out, or it lies beyond
everything that was. So a page that is not full leaves nothing behind.
-/

namespace AppendLog

namespace Journey

variable {client : Client} {patience : Nat} {journey : Journey} {start : Scan} {entry : Entry}

/-- Where a journey stands with all entries of the stream, when the scan goes up. -/
structure Complete (journey : Journey) : Prop where
  /-- New entries come after everything handed out. -/
  below : ∀ entry ∈ journey.delivered, entry.id.rank < journey.stream.floor
  complete : ∀ entry ∈ journey.stream.entries, entry.id ∈ journey.scan.range →
    entry ∈ journey.delivered ∨ ∀ early ∈ journey.delivered, early.id < entry.id

namespace Complete

/-- An entry of the range was handed out, or is on the next page, or comes after a full page. -/
theorem mem_or_full (h : Complete journey) (hfaithful : Faithful start journey)
    (hup : start.descending = false) (hentry : entry ∈ journey.stream.entries)
    (hin : entry.id ∈ journey.scan.range) :
    entry ∈ journey.delivered ++ journey.scan.pageOf journey.stream ∨
      (journey.scan.pageOf journey.stream).length = start.pageSize.size.toNat ∧
        ∀ early ∈ journey.delivered ++ journey.scan.pageOf journey.stream, early.id < entry.id := by
  have hdesc : journey.scan.descending = false :=
    (Scan.descending_of_fresh hfaithful.settings).trans hup
  rcases h.complete entry hentry hin with hold | hbeyond
  · exact .inl (List.mem_append_left _ hold)
  · have hcovered := hfaithful.handedOut.mem_or_beyond_pageOf hentry hin
    rw [hdesc, Scan.pageSize_of_fresh hfaithful.settings] at hcovered
    exact (hcovered hbeyond).imp (List.mem_append_right _) id

theorem append (h : Complete journey) (new : Entry) :
    Complete (journey.step client patience (.append new)) := by
  constructor
  case below =>
    intro early hearly
    have := h.below early hearly
    exact Nat.lt_of_lt_of_le this (journey.stream.floor_le_append new)
  case complete =>
    intro entry hentry hrange
    rcases Stream.mem_append hentry with hold | ⟨rfl, hfloor⟩
    · exact h.complete entry hold hrange
    · -- Nothing handed out reaches up to the floor of the stream.
      refine .inr fun early hearly => ?_
      have := h.below early hearly
      rw [EntryId.lt_iff_rank_lt]
      omega

theorem delete (h : Complete journey) (ids : List EntryId) :
    Complete (journey.step client patience (.delete ids)) :=
  ⟨h.below, fun entry hentry => h.complete entry (Stream.mem_of_mem_delete hentry)⟩

theorem fetch (h : Complete journey) (hfaithful : Faithful start journey)
    (hup : start.descending = false) (fate : Fate) :
    Complete (journey.fetch client patience fate) := by
  obtain ⟨ending, next, hcalled, hfetch⟩ := hfaithful.called client patience fate
  have hrange := Scan.range_of_fresh hcalled.fresh_eq
  rw [hfetch]
  constructor
  case below =>
    intro early hearly
    rw [delivered_append] at hearly
    rcases List.mem_append.1 hearly with hold | hnew
    · exact h.below early hold
    · exact journey.stream.below early (hcalled.mem_stream hnew)
  case complete =>
    intro entry hentry hin
    rw [hrange] at hin
    rw [delivered_append]
    cases hcalled with
    | ended => simpa using h.complete entry hentry hin
    | nothing _ _ hentries _ =>
      rw [hentries, List.append_nil]
      exact h.complete entry hentry hin
    | page _ hbatch =>
      rw [entries_received hbatch]
      exact (h.mem_or_full hfaithful hup hentry hin).imp id And.right

theorem step (h : Complete journey) (hfaithful : Faithful start journey)
    (hup : start.descending = false) (event : Event) :
    Complete (journey.step client patience event) := by
  cases event with
  | append new => exact h.append new
  | delete ids => exact h.delete ids
  | fetch fate => exact h.fetch hfaithful hup fate
  | close => exact ⟨h.below, h.complete⟩

theorem run (h : Complete journey) (hfaithful : Faithful start journey)
    (hup : start.descending = false) {events : List Event}
    (hnew : ∀ entry, .append entry ∈ events → start.live.isSome = true → entry.id ≠ .least) :
    Complete (journey.run client patience events) := by
  -- A step keeps completeness of a faithful journey only, so the two are carried together.
  have hboth : Faithful start (journey.run client patience events) ∧
      Complete (journey.run client patience events) := by
    refine run_of_step (P := fun journey => Faithful start journey ∧ Complete journey) ?_
      ⟨hfaithful, h⟩
    rintro journey event hevent ⟨hfaithful, h⟩
    refine ⟨hfaithful.step ?_, h.step hfaithful hup event⟩
    rintro entry rfl
    exact hnew entry hevent
  exact hboth.2

/-- A page of the server that is not full leaves nothing of the range behind. -/
theorem mem_of_short (h : Complete journey) (hfaithful : Faithful start journey)
    (hup : start.descending = false) {fate : Fate} {ending : Ending (Option Page)} {next : Scan}
    {page : Page} (hcalled : Called client journey fate ending next)
    (hhears : journey.scan.Hears client fate) (hpage : ending.page? = some page)
    (hshort : page.entries.length < start.pageSize.size.toNat)
    (hentry : entry ∈ journey.stream.entries) (hin : entry.id ∈ journey.scan.range) :
    entry ∈ journey.delivered ++ ending.entries := by
  have hentries : ending.entries = page.entries := by rw [Ending.entries, hpage]; rfl
  cases hcalled with
  | ended => exact absurd hpage (by simp [Ending.page?])
  | nothing _ _ _ hnone =>
    rw [hnone hhears] at hpage
    exact absurd hpage (by simp)
  | page _ hbatch =>
    rw [entries_received hbatch] at hentries ⊢
    -- An entry left behind would come after a full page.
    rcases h.mem_or_full hfaithful hup hentry hin with hmem | ⟨hfull, -⟩
    · exact hmem
    · rw [hentries] at hfull
      omega

end Complete

/-- **A live scan misses nothing.** At every moment what was handed out is ascending and admitted by
the lower bound, whatever is appended and deleted and whichever requests time out or fail. When a
page that the server itself answered is not full, every entry that the bound admits and that is in
the stream was handed out, and once. -/
theorem live_lossless (client : Client) (patience : Nat) (stream : Stream) (key : String)
    (pageSize : PageSize) (lower : Bound) (block : Duration) (events : List Event)
    (hstored : ∀ entry ∈ stream.entries, entry.id ≠ .least)
    (hnew : ∀ entry, .append entry ∈ events → entry.id ≠ .least) :
    let start : Journey := ⟨stream, { key, pageSize, range := { lower }, live := some block }, []⟩
    let now := start.run client patience events
    InOrder false now.delivered ∧
      (∀ entry ∈ now.delivered, lower.AdmitsAbove entry.id) ∧
      ∀ fate page, now.scan.Hears client fate →
        let next := now.fetch client patience fate
        next.endings = now.endings ++ [.finished (.ok (some page))] →
        page.entries.length < pageSize.size.toNat →
        ∀ entry ∈ now.stream.entries, lower.AdmitsAbove entry.id →
          entry ∈ next.delivered ∧ (next.delivered.map Entry.id).count entry.id = 1 := by
  intro start now
  have hbegin : Faithful start.scan start := .begin fun _ => hstored
  have hnow : Faithful start.scan now := hbegin.run fun entry hentry _ => hnew entry hentry
  have hcomplete : Complete now := by
    have hstart : Complete start := ⟨by simp [start, delivered], by simp [start, delivered]⟩
    exact hstart.run hbegin rfl fun entry hentry _ => hnew entry hentry
  have hrange : now.scan.range = { lower } := Scan.range_of_fresh hnow.settings
  refine ⟨hnow.inOrder, fun entry hmem => (hnow.inRange hmem).1, ?_⟩
  intro fate page hhears next hending hshort entry hentry hadmits
  obtain ⟨ending, after, hcalled, hfetch⟩ := hnow.called client patience fate
  have hnext : next = ⟨now.stream, after, now.endings ++ [ending]⟩ := hfetch
  rw [hnext] at hending
  obtain rfl : ending = .finished (.ok (some page)) :=
    List.singleton_inj.1 (List.append_cancel_left hending)
  have hmem : entry ∈ next.delivered := by
    rw [hnext, delivered_append]
    refine hcomplete.mem_of_short hnow rfl hcalled hhears rfl hshort hentry ?_
    rw [hrange]
    exact ⟨hadmits, trivial⟩
  have hfaithful : Faithful start.scan (now.step client patience (.fetch fate)) :=
    hnow.step (by simp)
  exact ⟨hmem, hfaithful.count_eq_one hmem⟩

/-- A page of the range that is not full, an entry more, a read that timed out, and then a read that
brings that entry: everything in the stream was handed out. -/
theorem live_lossless_after_timeout :
    let stream : Stream := Stream.empty.append ⟨⟨1, 0⟩, .empty⟩
    let block : Duration := .ofMilliseconds 5000
    let start : Journey :=
      ⟨stream, { key := "s", pageSize := .atLeastOne 2, live := some block }, []⟩
    let now := start.run {} 0
      [.fetch (.answered default), .append ⟨⟨2, 0⟩, .empty⟩, .fetch (.timedOut default)]
    let next := now.fetch {} 0 (.answered default)
    next.endings = now.endings ++ [.finished (.ok (some ⟨[⟨⟨2, 0⟩, .empty⟩], some ⟨2, 0⟩, false⟩))] ∧
      now.stream.entries = [⟨⟨1, 0⟩, .empty⟩, ⟨⟨2, 0⟩, .empty⟩] ∧
      ∀ entry ∈ now.stream.entries, (next.delivered.map Entry.id).count entry.id = 1 := by
  intro stream block start now next
  let page : Ending (Option Page) := .finished (.ok (some ⟨stream.entries, some ⟨1, 0⟩, true⟩))
  let idle : Ending (Option Page) := .finished (.ok (some ⟨[], some ⟨1, 0⟩, true⟩))
  let caught : Scan := { start.scan with lastId := some ⟨1, 0⟩, caughtUp := true }
  let longer : Stream := stream.append ⟨⟨2, 0⟩, .empty⟩
  have hpage : start.fetch {} 0 (.answered default) = ⟨stream, caught, [page]⟩ :=
    fetch_answered_range rfl rfl (.inl rfl) (Nat.le_refl _)
  have htime : caught.exchange.InTime .milliseconds ({} : Client).grace default :=
    fun limit _ => Nat.zero_le _
  have hidle : Journey.fetch {} 0 ⟨longer, caught, [page]⟩ (.timedOut default) =
      ⟨longer, caught, [page, idle]⟩ := by
    have hsettle : caught.exchange.settle .milliseconds ({} : Client).grace
        (.answers default .timedOut) =
          some ((default : Duration).nanoseconds, .ok (.read .timedOut)) :=
      Exchange.settle_of_inTime htime .timedOut
    exact @fetch_of_settle {} 0 ⟨longer, caught, [page]⟩ (.timedOut default) _ (.read .timedOut)
      rfl rfl hsettle (Nat.le_refl _)
  have hnow : now = ⟨longer, caught, [page, idle]⟩ := by
    simp only [now, run, step, hpage]
    exact hidle
  have hids : ∀ entry ∈ longer.entries, entry.id ≠ .least := by decide
  have hnext : Journey.fetch {} 0 ⟨longer, caught, [page, idle]⟩ (.answered default) =
      ⟨longer, { caught with lastId := some ⟨2, 0⟩ }, [page, idle,
        .finished (.ok (some ⟨[⟨⟨2, 0⟩, .empty⟩], some ⟨2, 0⟩, false⟩))]⟩ :=
    fetch_answered_read rfl rfl rfl rfl hids htime (Nat.le_refl _)
  have hnew : ∀ entry, Event.append entry ∈ [.fetch (.answered default),
      .append ⟨⟨2, 0⟩, .empty⟩, .fetch (.timedOut default)] → entry.id ≠ .least := by
    intro entry hentry
    obtain rfl : entry = ⟨⟨2, 0⟩, .empty⟩ := by simpa using hentry
    decide
  have hall := (live_lossless {} 0 stream "s" (.atLeastOne 2) .unbounded block
    [.fetch (.answered default), .append ⟨⟨2, 0⟩, .empty⟩, .fetch (.timedOut default)]
    (by decide) hnew).2.2 (.answered default) ⟨[⟨⟨2, 0⟩, .empty⟩], some ⟨2, 0⟩, false⟩
  simp only [now, start] at hnow
  simp only [next, now, start, hnow, hnext] at hall ⊢
  refine ⟨rfl, rfl, fun entry hentry => ?_⟩
  exact (hall ⟨default, rfl, htime⟩ rfl (by decide) entry hentry trivial).2

end Journey

end AppendLog
