import AppendLog.Proofs.Scan.Journey

/-!
# A scan hands out every entry once

A scan that is not live, over a stream that goes on changing. `Journey.Covers` follows one entry of
the range that stays in the stream: it was handed out, or it lies beyond everything that was and the
scan has not reached the end. Entries that come or go meanwhile are handed out once or not at all.
-/

namespace AppendLog

namespace Journey

variable {client : Client} {patience : Nat} {journey : Journey} {start : Scan} {entry : Entry}

/-! ## Nothing but entries of the stream -/

/-- What was handed out during a run was in the stream when a page was asked for. -/
theorem mem_delivered_run {events : List Event} (h : Faithful start journey)
    (hlive : start.live = none) (hmem : entry ∈ (journey.run client patience events).delivered) :
    entry ∈ journey.delivered ∨ ∃ before fate after, events = before ++ .fetch fate :: after ∧
      entry ∈ (journey.run client patience before).stream.entries := by
  induction events generalizing journey with
  | nil => exact .inl hmem
  | cons event rest ih =>
    have hnext : Faithful start (journey.step client patience event) := by
      refine h.step ?_
      simp [hlive]
    rcases ih hnext hmem with hmem | ⟨before, fate, after, rfl, hstored⟩
    · cases event with
      | fetch fate =>
        obtain ⟨ending, next, hcalled, hfetch⟩ := h.called client patience fate
        rw [step, hfetch, delivered_append] at hmem
        rcases List.mem_append.1 hmem with hold | hnew
        · exact .inl hold
        · exact .inr ⟨[], fate, rest, rfl, hcalled.mem_stream hnew⟩
      | append | delete | close => exact .inl hmem
    · exact .inr ⟨event :: before, fate, after, rfl, hstored⟩

/-! ## Every entry that stays -/

/-- An entry is in the stream whenever a page is asked for, until a call said that there is none. -/
def Stays (client : Client) (patience : Nat) (journey : Journey) (events : List Event)
    (entry : Entry) : Prop :=
  ∀ before fate after, events = before ++ .fetch fate :: after →
    .finished (.ok none) ∉ (journey.run client patience before).endings →
    entry ∈ (journey.run client patience before).stream.entries

theorem Stays.tail {event : Event} {rest : List Event}
    (h : Stays client patience journey (event :: rest) entry) :
    Stays client patience (journey.step client patience event) rest entry := by
  intro before fate after hevents
  exact h (event :: before) fate after (by rw [hevents]; rfl)

/-- An entry that no one deletes stays. -/
theorem stays_of_not_deleted {events : List Event} (hmem : entry ∈ journey.stream.entries)
    (hkept : ∀ ids, .delete ids ∈ events → entry.id ∉ ids) :
    Stays client patience journey events entry := by
  rintro before fate after rfl -
  refine run_of_step (P := fun journey => entry ∈ journey.stream.entries) ?_ hmem
  intro journey event hevent hmem
  cases event with
  | append new =>
    change entry ∈ (journey.stream.append new).entries
    rw [Stream.append]
    split
    · exact List.mem_append_left _ hmem
    · exact hmem
  | delete ids =>
    have hid := hkept ids (List.mem_append_left _ hevent)
    exact List.mem_filter.2 ⟨hmem, decide_eq_true hid⟩
  | fetch fate => exact hmem
  | close => exact hmem

/-- Where a journey that was not closed stands with an entry of the range. -/
structure Covers (entry : Entry) (journey : Journey) : Prop where
  covered : entry ∈ journey.delivered ∨ journey.scan.drained = false ∧
    ∀ early ∈ journey.delivered, EntryId.Precedes journey.scan.descending early.id entry.id
  ended : .finished (.ok none) ∈ journey.endings → journey.scan.drained = true
  unclosed : journey.scan.closed = false

namespace Covers

/-- A page brings the entry, or it is full and the entry is still to come. -/
theorem page (h : Covers entry journey) (hfaithful : Faithful start journey)
    (hrange : entry.id ∈ start.range) {batch : Scan.Batch}
    (hbatch : batch.entries = journey.scan.pageOf journey.stream)
    (hmem : entry ∈ journey.stream.entries) :
    entry ∈ journey.delivered ++ journey.scan.pageOf journey.stream ∨
      (journey.scan.receive batch).1.drained = false ∧
        ∀ early ∈ journey.delivered ++ journey.scan.pageOf journey.stream,
          EntryId.Precedes journey.scan.descending early.id entry.id := by
  rcases h.covered with hold | ⟨hopen, hbeyond⟩
  · exact .inl (List.mem_append_left _ hold)
  rw [← Scan.range_of_fresh hfaithful.settings] at hrange
  rcases hfaithful.handedOut.mem_or_beyond_pageOf hmem hrange hbeyond with hnew | ⟨hfull, hlate⟩
  · exact .inl (List.mem_append_right _ hnew)
  refine .inr ⟨Bool.eq_false_iff.2 fun hdrained => ?_, hlate⟩
  -- Only a short page could have drained the scan, and this one is full.
  rcases Scan.drained_receive hdrained with hbefore | hshort
  · rw [hopen] at hbefore
    exact absurd hbefore (by simp)
  · rw [hbatch, hfull] at hshort
    omega

theorem fetch (h : Covers entry journey) (hfaithful : Faithful start journey)
    (hrange : entry.id ∈ start.range) (fate : Fate)
    (hstays : .finished (.ok none) ∉ journey.endings → entry ∈ journey.stream.entries) :
    Covers entry (journey.fetch client patience fate) := by
  obtain ⟨ending, next, hcalled, hfetch⟩ := hfaithful.called client patience fate
  rw [hfetch]
  cases hcalled with
  | ended hover =>
    -- The scan was not closed, so it is over because it was drained.
    have hdrained : journey.scan.drained = true := by
      rw [Scan.isOver, h.unclosed, Bool.false_or] at hover
      exact hover
    refine ⟨?_, fun _ => hdrained, h.unclosed⟩
    rw [delivered_append, Ending.entries_none, List.append_nil]
    exact h.covered
  | nothing hover hended hentries _ =>
    refine ⟨?_, fun hmem => h.ended ?_, h.unclosed⟩
    · rw [delivered_append, hentries, List.append_nil]
      exact h.covered
    · rcases List.mem_append.1 hmem with hold | hnew
      · exact hold
      · exact absurd (List.mem_singleton.1 hnew).symm hended
  | @page batch hover hbatch =>
    -- No call can have said that there is no page, since the scan is not over.
    have hnone : .finished (.ok none) ∉ journey.endings := by
      intro hmem
      rw [Scan.isOver, h.ended hmem, Bool.or_true] at hover
      exact absurd hover (by simp)
    refine ⟨?_, fun hmem => ?_, ?_⟩
    · rw [delivered_append, entries_received hbatch]
      have hdesc := Scan.descending_of_fresh (Scan.fresh_receive journey.scan batch)
      rw [hdesc]
      exact h.page hfaithful hrange hbatch (hstays hnone)
    · rcases List.mem_append.1 hmem with hold | hnew
      · exact absurd hold hnone
      · have hpage := Except.ok.inj (Ending.finished.inj (List.mem_singleton.1 hnew))
        exact Scan.drained_of_receive_eq_none hpage.symm
    · cases batch <;> exact h.unclosed

theorem step (h : Covers entry journey) (hfaithful : Faithful start journey)
    (hrange : entry.id ∈ start.range) {event : Event} {rest : List Event} (hclose : event ≠ .close)
    (hstays : Stays client patience journey (event :: rest) entry) :
    Covers entry (journey.step client patience event) := by
  cases event with
  | append new => exact ⟨h.covered, h.ended, h.unclosed⟩
  | delete ids => exact ⟨h.covered, h.ended, h.unclosed⟩
  | fetch fate => exact h.fetch hfaithful hrange fate (hstays [] fate rest rfl)
  | close => exact absurd rfl hclose

theorem run (h : Covers entry journey) (hfaithful : Faithful start journey)
    (hrange : entry.id ∈ start.range) (hlive : start.live = none) {events : List Event}
    (hclose : .close ∉ events) (hstays : Stays client patience journey events entry) :
    Covers entry (journey.run client patience events) := by
  induction events generalizing journey with
  | nil => exact h
  | cons event rest ih =>
    rw [List.mem_cons, not_or] at hclose
    have hnext : Faithful start (journey.step client patience event) := by
      refine hfaithful.step ?_
      simp [hlive]
    exact ih (h.step hfaithful hrange (Ne.symm hclose.1) hstays) hnext hclose.2 hstays.tail

end Covers

/-- **A scan of a range hands out each entry once.** Whatever is appended and deleted meanwhile and
whichever requests fail, what is handed out is in order, in the range and from the stream. When a
call says that there is no page, and the scan was not closed, every entry of the range that stayed
in the stream was handed out, and once. -/
theorem delivered_exactly_once (client : Client) (patience : Nat) (stream : Stream) (key : String)
    (pageSize : PageSize) (range : Range) (descending : Bool) (events : List Event) :
    let start : Journey := ⟨stream, { key, pageSize, range, descending }, []⟩
    let ended := start.run client patience events
    InOrder descending ended.delivered ∧
      (∀ entry ∈ ended.delivered, entry.id ∈ range) ∧
      (∀ entry ∈ ended.delivered, ∃ before fate after, events = before ++ .fetch fate :: after ∧
        entry ∈ (start.run client patience before).stream.entries) ∧
      (.finished (.ok none) ∈ ended.endings → .close ∉ events →
        ∀ entry, entry.id ∈ range → start.Stays client patience events entry →
          entry ∈ ended.delivered ∧ (ended.delivered.map Entry.id).count entry.id = 1) := by
  intro start ended
  have hbegin : Faithful start.scan start := .begin (by simp [AboveLeast, Scan.fresh, start])
  have hended : Faithful start.scan ended := hbegin.run (by simp [start])
  refine ⟨hended.inOrder, fun entry hmem => hended.inRange hmem, fun entry hmem => ?_, ?_⟩
  · rcases mem_delivered_run hbegin rfl hmem with hmem | h
    · exact absurd hmem (by simp [start, delivered])
    · exact h
  · intro hnone hclose entry hrange hstays
    have hstart : Covers entry start := ⟨.inr ⟨rfl, by simp [start, delivered]⟩, by simp [start], rfl⟩
    have hcovers : Covers entry ended := hstart.run hbegin hrange rfl hclose hstays
    have hmem : entry ∈ ended.delivered := by
      rcases hcovers.covered with hmem | ⟨hopen, -⟩
      · exact hmem
      · rw [hcovers.ended hnone] at hopen
        exact absurd hopen (by simp)
    exact ⟨hmem, hended.count_eq_one hmem⟩

/-- A request that never returns, then a full page, then an entry of that page is deleted, and there
is no page more. The entry that stayed was handed out once. -/
theorem delivered_exactly_once_full_page :
    let stream : Stream := (Stream.empty.append ⟨⟨1, 0⟩, .empty⟩).append ⟨⟨2, 0⟩, .empty⟩
    let start : Journey := ⟨stream, { key := "s", pageSize := .atLeastOne 2 }, []⟩
    let ended := start.run {} 0
      [.fetch .stalled, .fetch (.answered default), .delete [⟨1, 0⟩], .fetch (.answered default)]
    ended.endings = [.abandoned, .finished (.ok (some ⟨stream.entries, some ⟨2, 0⟩, false⟩)),
        .finished (.ok none)] ∧
      (ended.delivered.map Entry.id).count ⟨2, 0⟩ = 1 := by
  intro stream start ended
  let full : Ending (Option Page) := .finished (.ok (some ⟨stream.entries, some ⟨2, 0⟩, false⟩))
  let seen : Scan := { start.scan with lastId := some ⟨2, 0⟩ }
  let lessened : Stream := stream.delete [⟨1, 0⟩]
  have hfull : Journey.fetch {} 0 ⟨stream, start.scan, [.abandoned]⟩ (.answered default) =
      ⟨stream, seen, [.abandoned, full]⟩ :=
    fetch_answered_range rfl rfl (.inl rfl) (Nat.le_refl _)
  have hlast : Journey.fetch {} 0 ⟨lessened, seen, [.abandoned, full]⟩ (.answered default) =
      ⟨lessened, { seen with caughtUp := true, drained := true },
        [.abandoned, full, .finished (.ok none)]⟩ :=
    fetch_answered_range rfl rfl (.inl rfl) (Nat.le_refl _)
  have hended : ended.endings = [.abandoned, full, .finished (.ok none)] := by
    have hstalled : start.fetch {} 0 .stalled = ⟨stream, start.scan, [.abandoned]⟩ := rfl
    simp only [ended, run, step, hstalled, hfull]
    exact congrArg endings hlast
  have hkept : ∀ ids, Event.delete ids ∈ [.fetch .stalled, .fetch (.answered default),
      .delete [⟨1, 0⟩], .fetch (.answered default)] → (⟨2, 0⟩ : EntryId) ∉ ids := by
    intro ids hids
    obtain rfl : ids = [⟨1, 0⟩] := by simpa using hids
    decide
  have honce := (delivered_exactly_once {} 0 stream "s" (.atLeastOne 2) {} false
    [.fetch .stalled, .fetch (.answered default), .delete [⟨1, 0⟩], .fetch (.answered default)]).2.2.2
    (by rw [hended]; simp) (by simp) ⟨⟨2, 0⟩, .empty⟩ (by decide)
    (stays_of_not_deleted (by decide) hkept)
  exact ⟨hended, honce.2⟩

end Journey

end AppendLog
