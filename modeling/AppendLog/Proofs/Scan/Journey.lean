import AppendLog.Proofs.Scan.Progress
import AppendLog.Proofs.Scan.Served

/-!
# The journey of a scan

A stream and one scan of it, and what happens to them in turn: entries are appended and deleted, the
scan is asked for pages, and its requests meet different fates. `Journey.Called` says what a call
for a page comes to when the server holds the stream, and `Journey.Faithful` is what every event
keeps: what was handed out so far is in order, in the range, and where the scan stands.
-/

namespace AppendLog

/-- What happens to a stream and a scan of it. -/
inductive Event where
  /-- An entry is appended, unless its id is too low. -/
  | append (entry : Entry)
  /-- The entries of these ids are deleted. -/
  | delete (ids : List EntryId)
  /-- The next page is asked for, and the request meets this fate. -/
  | fetch (fate : Fate)
  /-- The scan is closed. -/
  | close

/-- A stream, a scan of it, and how the calls for a page ended so far. -/
structure Journey where
  stream : Stream
  scan : Scan
  endings : List (Ending (Option Page)) := []

namespace Journey

/-- Everything that was handed out, page by page. -/
def delivered (journey : Journey) : List Entry := journey.endings.flatMap Ending.entries

/-- The link over which the next page is asked for. The request is the one that is sent,
`Scan.sent_fetchPage`, and what becomes of it is its only turn. -/
def link (patience : Nat) (journey : Journey) (fate : Fate) : Link :=
  let request := journey.scan.exchange.dispatch.request
  { turns := [fate.turn journey.scan.key journey.stream request], patience }

/-- Ask for the next page. -/
def fetch (client : Client) (patience : Nat) (journey : Journey) (fate : Fate) : Journey :=
  let (ending, scan, _) := journey.scan.fetchPage client (journey.link patience fate)
  { journey with scan, endings := journey.endings ++ [ending] }

/-- What an event does. -/
def step (client : Client) (patience : Nat) (journey : Journey) : Event → Journey
  | .append entry => { journey with stream := journey.stream.append entry }
  | .delete ids => { journey with stream := journey.stream.delete ids }
  | .fetch fate => journey.fetch client patience fate
  | .close => { journey with scan := journey.scan.close }

/-- What events do one after the other. -/
def run (client : Client) (patience : Nat) (journey : Journey) : List Event → Journey
  | [] => journey
  | event :: rest => (journey.step client patience event).run client patience rest

variable {client : Client} {patience : Nat} {journey : Journey}

/-- What each of the events keeps, all of them keep. -/
theorem run_of_step {P : Journey → Prop} {events : List Event}
    (hstep : ∀ journey, ∀ event ∈ events, P journey → P (journey.step client patience event))
    (h : P journey) : P (journey.run client patience events) := by
  induction events generalizing journey with
  | nil => exact h
  | cons event rest ih =>
    refine ih (fun journey event hevent => ?_) (hstep journey event (by simp) h)
    exact hstep journey event (List.mem_cons_of_mem _ hevent)

/-! ## What a call comes to -/

/-- What a call for a page comes to: its ending, and the scan after it. -/
inductive Called (client : Client) (journey : Journey) (fate : Fate) :
    Ending (Option Page) → Scan → Prop where
  /-- The scan is over. -/
  | ended (hover : journey.scan.isOver = true) :
      Called client journey fate (.finished (.ok none)) journey.scan
  /-- The call brings no entry and leaves the scan as it was. It has no page at all if the scan
  heard from the server. -/
  | nothing {ending : Ending (Option Page)} (hover : journey.scan.isOver = false)
      (hended : ending ≠ .finished (.ok none)) (hentries : ending.entries = [])
      (hpage : journey.scan.Hears client fate → ending.page? = none) :
      Called client journey fate ending journey.scan
  /-- The call brings what the server has for the next page. -/
  | page {batch : Scan.Batch} (hover : journey.scan.isOver = false)
      (hbatch : batch.entries = journey.scan.pageOf journey.stream) :
      Called client journey fate (.finished (.ok (journey.scan.receive batch).2))
        (journey.scan.receive batch).1

/-- Ids are above the least one wherever a scan reads live. -/
def AboveLeast (journey : Journey) : Prop :=
  journey.scan.live.isSome = true → ∀ entry ∈ journey.stream.entries, entry.id ≠ .least

theorem called_fetchPage (hleast : journey.AboveLeast) (fate : Fate) :
    Called client journey fate
      (journey.scan.fetchPage client (journey.link patience fate)).1
      (journey.scan.fetchPage client (journey.link patience fate)).2.1 := by
  have h := Scan.fetched_fetchPage client journey.scan (journey.link patience fate)
  generalize journey.scan.fetchPage client (journey.link patience fate) = result at h ⊢
  obtain ⟨ending, next, after⟩ := result
  cases h with
  | ended hover => exact .ended hover
  | misshapen hover hshape => exact .nothing hover (by simp) rfl fun _ => rfl
  | missed hover hshape hsent hending =>
    have hpage : ending.page? = none := by
      rcases hending with rfl | ⟨fault, rfl⟩ <;> rfl
    refine .nothing hover ?_ (by rw [Ending.entries, hpage]; rfl) fun _ => hpage
    rcases hending with rfl | ⟨fault, rfl⟩ <;> simp
  | received hover hshape hsent hturns hsettle =>
    -- The one turn of the link is what becomes of this request.
    obtain ⟨rfl, -⟩ := List.cons.inj hturns
    rcases journey.scan.range_or_read with hrange | ⟨block, hcaught, hlive⟩
    · refine .page hover ?_
      rw [Scan.settle_turn_range hrange hsettle]
      rfl
    · have hids := hleast (by rw [hlive]; rfl)
      rcases Scan.settle_turn_read hcaught hlive hshape hids hsettle with hbatch | ⟨rfl, hdeaf⟩
      · exact .page hover hbatch
      · exact .nothing hover (by simp [Scan.receive, Scan.receiveLive]) rfl
          fun hhears => absurd hhears hdeaf

theorem entries_received {batch : Scan.Batch}
    (hbatch : batch.entries = journey.scan.pageOf journey.stream) :
    Ending.entries (.finished (.ok (journey.scan.receive batch).2)) =
      journey.scan.pageOf journey.stream := by
  rw [Scan.entries_receive, hbatch]

theorem fetch_of_settle {fate : Fate} {elapsed : Nat} {batch : Scan.Batch}
    (hover : journey.scan.isOver = false) (hshape : journey.scan.isMisshapen = false)
    (hsettle : journey.scan.exchange.settle .milliseconds client.grace
      (fate.turn journey.scan.key journey.stream journey.scan.exchange.dispatch.request) =
        some (elapsed, .ok batch))
    (htime : elapsed ≤ patience) :
    journey.fetch client patience fate = ⟨journey.stream, (journey.scan.receive batch).1,
      journey.endings ++ [.finished (.ok (journey.scan.receive batch).2)]⟩ := by
  have hpatience : (journey.link patience fate).waited + elapsed ≤
      (journey.link patience fate).patience := by
    rw [link, Nat.zero_add]
    exact htime
  obtain ⟨hending, hnext⟩ := Scan.fetchPage_of_settle hover hshape rfl hsettle hpatience
  rw [fetch]
  simp only [hending, hnext]

/-- A page of the range that the server answers is handed out. -/
theorem fetch_answered_range (hover : journey.scan.isOver = false)
    (hshape : journey.scan.isMisshapen = false)
    (hrange : journey.scan.caughtUp = false ∨ journey.scan.live = none) {delay : Duration}
    (htime : delay.nanoseconds ≤ patience) :
    journey.fetch client patience (.answered delay) =
      let received := journey.scan.receiveRange (journey.scan.pageOf journey.stream)
      ⟨journey.stream, received.1, journey.endings ++ [.finished (.ok received.2)]⟩ :=
  fetch_of_settle hover hshape (Scan.settle_answered_range _ _ client hrange delay) htime

/-- What a live read brings that the server answers in time is handed out. -/
theorem fetch_answered_read (hover : journey.scan.isOver = false)
    (hshape : journey.scan.isMisshapen = false) (hcaught : journey.scan.caughtUp = true)
    {block : Duration} (hlive : journey.scan.live = some block)
    (hleast : ∀ entry ∈ journey.stream.entries, entry.id ≠ .least) {delay : Duration}
    (hhears : journey.scan.exchange.InTime .milliseconds client.grace delay)
    (htime : delay.nanoseconds ≤ patience) :
    journey.fetch client patience (.answered delay) =
      let received := journey.scan.receiveLive (journey.scan.pageOf journey.stream)
      ⟨journey.stream, received.1, journey.endings ++ [.finished (.ok received.2)]⟩ := by
  obtain ⟨outcome, hsettle, hentries⟩ :=
    Scan.settle_answered_read hcaught hlive hshape hleast hhears
  rw [fetch_of_settle hover hshape hsettle htime, ← hentries]
  rfl

namespace Called

variable {fate : Fate} {ending : Ending (Option Page)} {next : Scan}

theorem fresh_eq (h : Called client journey fate ending next) : next.fresh = journey.scan.fresh := by
  cases h with
  | ended => rfl
  | nothing => rfl
  | page => exact Scan.fresh_receive _ _

theorem mem_stream {entry : Entry} (h : Called client journey fate ending next)
    (hmem : entry ∈ ending.entries) : entry ∈ journey.stream.entries := by
  cases h with
  | ended => exact absurd hmem (by simp)
  | nothing _ _ hentries => exact absurd hmem (by simp [hentries])
  | page _ hbatch =>
    rw [entries_received hbatch] at hmem
    exact (Scan.mem_of_mem_pageOf hmem).1

/-- What a call hands out goes on from what was handed out before. -/
theorem handedOut {delivered : List Entry} (h : Called client journey fate ending next)
    (hbefore : journey.scan.HandedOut delivered) : next.HandedOut (delivered ++ ending.entries) := by
  cases h with
  | ended => simpa using hbefore
  | nothing _ _ hentries =>
    rw [hentries, List.append_nil]
    exact hbefore
  | page _ hbatch =>
    rw [entries_received hbatch]
    -- The page is in the order of the traversal, and within what is left of the range.
    refine hbefore.page (Scan.fresh_receive _ _) ?_ Stream.inOrder_page ?_
    · rw [Scan.lastId_receive, hbatch]
    · exact fun entry hentry => (Scan.mem_of_mem_pageOf hentry).2

end Called

/-! ## What every event keeps -/

/-- What holds of a journey at every moment, if it set out with a fresh scan. -/
structure Faithful (start : Scan) (journey : Journey) : Prop where
  settings : journey.scan.fresh = start.fresh
  handedOut : journey.scan.HandedOut journey.delivered
  aboveLeast : journey.AboveLeast

theorem delivered_append (stream : Stream) (scan : Scan) (endings : List (Ending (Option Page)))
    (ending : Ending (Option Page)) :
    delivered ⟨stream, scan, endings ++ [ending]⟩ =
      delivered ⟨stream, scan, endings⟩ ++ ending.entries := by
  simp [delivered]

namespace Faithful

variable {start : Scan} {entry : Entry}

theorem begin {stream : Stream} (hleast : AboveLeast ⟨stream, start.fresh, []⟩) :
    Faithful start ⟨stream, start.fresh, []⟩ :=
  ⟨rfl, .nil start, hleast⟩

theorem inOrder (h : Faithful start journey) : InOrder start.descending journey.delivered := by
  rw [← Scan.descending_of_fresh h.settings]
  exact h.handedOut.inOrder

theorem inRange (h : Faithful start journey) (hmem : entry ∈ journey.delivered) :
    entry.id ∈ start.range := by
  rw [← Scan.range_of_fresh h.settings]
  exact h.handedOut.inRange entry hmem

theorem count_eq_one (h : Faithful start journey) (hmem : entry ∈ journey.delivered) :
    (journey.delivered.map Entry.id).count entry.id = 1 := by
  rw [h.inOrder.nodup_ids.count, if_pos (List.mem_map_of_mem hmem)]

/-- What a call comes to, as an event of the journey. -/
theorem called (client : Client) (patience : Nat) (h : Faithful start journey) (fate : Fate) :
    ∃ ending next, Called client journey fate ending next ∧
      journey.fetch client patience fate =
        ⟨journey.stream, next, journey.endings ++ [ending]⟩ :=
  ⟨_, _, called_fetchPage h.aboveLeast fate, rfl⟩

theorem step {event : Event} (h : Faithful start journey)
    (hnew : ∀ entry, event = .append entry → start.live.isSome = true → entry.id ≠ .least) :
    Faithful start (journey.step client patience event) := by
  cases event with
  | append new =>
    refine ⟨h.settings, h.handedOut, fun hlive entry hentry => ?_⟩
    rcases Stream.mem_append hentry with hold | ⟨rfl, -⟩
    · exact h.aboveLeast hlive entry hold
    · exact hnew entry rfl (Scan.live_of_fresh h.settings ▸ hlive)
  | delete ids =>
    refine ⟨h.settings, h.handedOut, fun hlive entry hentry => ?_⟩
    exact h.aboveLeast hlive entry (Stream.mem_of_mem_delete hentry)
  | fetch fate =>
    obtain ⟨ending, next, hcalled, hfetch⟩ := h.called client patience fate
    have hsettings : next.fresh = start.fresh := hcalled.fresh_eq.trans h.settings
    rw [Journey.step, hfetch]
    refine ⟨hsettings, ?_, fun hlive => h.aboveLeast ?_⟩
    · rw [delivered_append]
      exact hcalled.handedOut h.handedOut
    · rw [← Scan.live_of_fresh hcalled.fresh_eq]
      exact hlive
  | close => exact ⟨h.settings, h.handedOut.congr rfl rfl, h.aboveLeast⟩

theorem run {events : List Event} (h : Faithful start journey)
    (hnew : ∀ entry, .append entry ∈ events → start.live.isSome = true → entry.id ≠ .least) :
    Faithful start (journey.run client patience events) := by
  refine run_of_step (fun journey event hevent hkept => hkept.step ?_) h
  rintro entry rfl
  exact hnew entry hevent

end Faithful

end Journey

end AppendLog
