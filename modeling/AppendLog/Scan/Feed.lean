import AppendLog.Scan

/-!
# Feeds

A feed hands out the entries of a scan one by one. It fetches a page only when the entries before
are used up and one more is wanted. A fault is handed out once and ends the feed.
-/

namespace AppendLog

/-- A scan with the entries that were fetched and not handed out. -/
structure Feed where
  scan : Scan
  buffer : List Entry := []
  deriving DecidableEq

namespace Feed

abbrev Item : Type := Except Fault Entry

/-- How a step of a feed ends. -/
inductive Step where
  | item (item : Item) (feed : Feed) (link : Link)
  | finished (link : Link)
  /-- The page that was needed took longer than anyone waits. -/
  | abandoned (link : Link)
  /-- The page held nothing; the next one is needed. -/
  | again (feed : Feed) (link : Link)

/-- Hand out an entry of the buffer, or fetch one page into it. -/
def step (client : Client) (feed : Feed) (link : Link) : Step :=
  match feed.buffer with
  | entry :: rest => .item (.ok entry) { feed with buffer := rest } link
  | [] =>
    match feed.scan.fetchPage client link with
    | (.abandoned, _, link) => .abandoned link
    | (.finished (.ok none), _, link) => .finished link
    | (.finished (.error fault), scan, link) => .item (.error fault) { scan := scan.close } link
    | (.finished (.ok (some page)), scan, link) =>
      match page.entries with
      | [] => .again { scan } link
      | entry :: rest => .item (.ok entry) { scan, buffer := rest } link

/-! ## Every step that goes on makes progress -/

theorem turns_lt_of_run {α : Type} {grace : Duration} {operation : Operation α} {link after : Link}
    {value : α} (h : operation.run grace link = (.finished (.ok value), after)) :
    after.turns.length < link.turns.length := by
  obtain _ | exchange := operation
  · simp [Operation.run] at h
  · obtain ⟨turns, sent, waited, patience, timer⟩ := link
    rw [Operation.run, Exchange.run] at h
    cases turns with
    | nil => simp at h
    | cons turn turns =>
      simp only at h
      split at h
      · simp at h
      · split at h
        · simp at h
        · simp only [Prod.mk.injEq] at h
          rw [← h.2]
          simp

theorem turns_lt_of_fetchPage {client : Client} {scan next : Scan} {link after : Link} {page : Page}
    (h : scan.fetchPage client link = (.finished (.ok (some page)), next, after)) :
    after.turns.length < link.turns.length := by
  rw [Scan.fetchPage] at h
  split at h
  · simp at h
  · split at h
    · simp at h
    · simp at h
    · next hrun =>
      simp only [Prod.mk.injEq] at h
      rw [← h.2.2]
      exact turns_lt_of_run hrun

/-- A step either uses up a turn of the link or an entry of the buffer. -/
theorem step_decreases {client : Client} {feed next : Feed} {link after : Link}
    (h : (∃ entry, feed.step client link = .item (.ok entry) next after) ∨
      feed.step client link = .again next after) :
    after.turns.length < link.turns.length ∨
      after.turns.length = link.turns.length ∧ next.buffer.length < feed.buffer.length := by
  obtain ⟨scan, buffer⟩ := feed
  cases buffer with
  | cons entry rest =>
    right
    rcases h with ⟨_, h⟩ | h <;> simp only [step, Step.item.injEq, reduceCtorEq] at h
    obtain ⟨-, rfl, rfl⟩ := h
    simp
  | nil =>
    left
    simp only [step] at h
    split at h
    · simp at h
    · simp at h
    · simp at h
    · next hpage =>
      -- A page takes a turn of the link, whether or not there is an entry on it.
      have := turns_lt_of_fetchPage hpage
      split at h
      · simp only [Step.again.injEq, reduceCtorEq, exists_false, false_or] at h
        rwa [← h.2]
      · simp only [Step.item.injEq, reduceCtorEq, or_false] at h
        obtain ⟨_, -, -, h⟩ := h
        rwa [← h]

/-! ## Taking items -/

/-- Take items from a feed, at most `want` of them if that is given: the items, unless a page took
longer than anyone waits. -/
def take (client : Client) (want : Option Nat) (feed : Feed) (link : Link) :
    Option (List Item) × Link :=
  if want = some 0 then (some [], link)
  else
    match _hstep : feed.step client link with
    | .finished link => (some [], link)
    | .abandoned link => (none, link)
    | .again feed link => take client want feed link
    | .item (.error fault) _ link => (some [.error fault], link)
    | .item (.ok entry) feed link =>
      let (items, link) := take client (want.map (· - 1)) feed link
      (items.map (.ok entry :: ·), link)
termination_by (link.turns.length, feed.buffer.length)
decreasing_by
  · rcases step_decreases (.inr _hstep) with h | ⟨h, h'⟩
    · exact Prod.Lex.left _ _ h
    · rw [h]
      exact Prod.Lex.right _ h'
  · rcases step_decreases (.inl ⟨_, _hstep⟩) with h | ⟨h, h'⟩
    · exact Prod.Lex.left _ _ h
    · rw [h]
      exact Prod.Lex.right _ h'

end Feed

namespace Scan

/-- The items of a scan, at most `want` of them if that is given. -/
def items (client : Client) (want : Option Nat) (scan : Scan) (link : Link) :
    Option (List Feed.Item) × Link :=
  ({ scan } : Feed).take client want link

end Scan

end AppendLog
