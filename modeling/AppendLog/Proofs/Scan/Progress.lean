import AppendLog.Proofs.Server.Stream
import AppendLog.Scan

/-!
# What a scan has handed out so far

`Scan.HandedOut` ties the state of a scan to the entries that it has handed out: they are in order
and in the range, and the last of them is the last id seen. Then what is left of the range is what
lies beyond all of them, `Scan.HandedOut.mem_rest_iff`, and a page of that goes on from there.
-/

namespace AppendLog

namespace Bound

variable {bound : Bound} {a b : EntryId}

theorem AdmitsAbove.mono (h : bound.AdmitsAbove a) (hab : a < b) : bound.AdmitsAbove b := by
  cases bound with
  | unbounded => trivial
  | included low => exact EntryId.le_of_lt (EntryId.lt_of_le_of_lt h hab)
  | excluded low => exact EntryId.lt_trans h hab

theorem AdmitsBelow.mono (h : bound.AdmitsBelow b) (hab : a < b) : bound.AdmitsBelow a := by
  cases bound with
  | unbounded => trivial
  | included high =>
    change b ≤ high at h
    change a ≤ high
    rw [EntryId.le_iff_rank_le] at *
    rw [EntryId.lt_iff_rank_lt] at hab
    omega
  | excluded high => exact EntryId.lt_trans hab h

end Bound

/-- The page that a call handed out, if it did. -/
def Ending.page? : Ending (Option Page) → Option Page
  | finished (.ok page?) => page?
  | finished (.error _) => none
  | abandoned => none

/-- The entries that a call handed out. -/
def Ending.entries (ending : Ending (Option Page)) : List Entry := ending.page?.elim [] Page.entries

@[simp] theorem Ending.entries_none : Ending.entries (.finished (.ok none)) = [] := rfl

namespace Scan

/-- The scan as it was before its first page. -/
def fresh (scan : Scan) : Scan :=
  { scan with lastId := none, caughtUp := false, closed := false, drained := false }

theorem fresh_receive (scan : Scan) (batch : Batch) :
    (scan.receive batch).1.fresh = scan.fresh := by
  cases batch <;> rfl

theorem descending_of_fresh {scan next : Scan} (h : next.fresh = scan.fresh) :
    next.descending = scan.descending := by
  have hdesc : next.fresh.descending = scan.fresh.descending := by rw [h]
  exact hdesc

theorem range_of_fresh {scan next : Scan} (h : next.fresh = scan.fresh) :
    next.range = scan.range := by
  have hrange : next.fresh.range = scan.fresh.range := by rw [h]
  exact hrange

theorem pageSize_of_fresh {scan next : Scan} (h : next.fresh = scan.fresh) :
    next.pageSize = scan.pageSize := by
  have hsize : next.fresh.pageSize = scan.fresh.pageSize := by rw [h]
  exact hsize

theorem live_of_fresh {scan next : Scan} (h : next.fresh = scan.fresh) :
    next.live = scan.live := by
  have hlive : next.fresh.live = scan.fresh.live := by rw [h]
  exact hlive

/-! ## What a batch brings -/

/-- The entries of a batch. -/
def Batch.entries : Batch → List Entry
  | ranged found => found
  | read outcome => outcome.toMessages.map Message.entry

theorem lastId_receive (scan : Scan) (batch : Batch) :
    (scan.receive batch).1.lastId = scan.lastIdAfter batch.entries := by
  cases batch <;> rfl

/-- The page of a batch is its entries. There is no page only when there are none. -/
theorem entries_receive (scan : Scan) (batch : Batch) :
    Ending.entries (.finished (.ok (scan.receive batch).2)) = batch.entries := by
  cases batch with
  | read outcome => rfl
  | ranged found =>
    simp only [receive, receiveRange, Batch.entries]
    split
    · next h =>
      rw [Bool.and_eq_true, List.isEmpty_iff] at h
      rw [h.2]
      rfl
    · rfl

theorem lastId_of_receive {scan : Scan} {batch : Batch} {page : Page}
    (h : (scan.receive batch).2 = some page) : page.lastId = (scan.receive batch).1.lastId := by
  cases batch with
  | read outcome =>
    obtain rfl := Option.some.inj h
    rfl
  | ranged found =>
    simp only [receive, receiveRange] at h ⊢
    split at h
    · exact absurd h (by simp)
    · obtain rfl := Option.some.inj h
      rfl

theorem receiveRange_of_full {scan : Scan} {found : List Entry}
    (h : scan.pageSize.size.toNat ≤ found.length) :
    scan.receiveRange found = ({ scan with lastId := scan.lastIdAfter found },
      some ⟨found, scan.lastIdAfter found, false⟩) := by
  have hshort : decide (found.length < scan.pageSize.size.toNat) = false :=
    decide_eq_false (Nat.not_lt.2 h)
  simp only [receiveRange, hshort, Bool.or_false, Bool.false_and, Bool.false_eq_true, if_false]

/-- A short page of the range ends a scan that is not live. -/
theorem receiveRange_of_short {scan : Scan} {found : List Entry} (hlive : scan.live = none)
    (h : found.length < scan.pageSize.size.toNat) :
    scan.receiveRange found =
      ({ scan with lastId := scan.lastIdAfter found, caughtUp := true, drained := true },
        if found.isEmpty then none else some ⟨found, scan.lastIdAfter found, true⟩) := by
  simp only [receiveRange, hlive, decide_eq_true h, Option.isNone_none, Bool.or_true,
    Bool.and_true, Bool.true_and]

/-- Only a short batch drains a scan. -/
theorem drained_receive {scan : Scan} {batch : Batch}
    (h : (scan.receive batch).1.drained = true) :
    scan.drained = true ∨ batch.entries.length < scan.pageSize.size.toNat := by
  cases batch with
  | read outcome => exact .inl h
  | ranged found =>
    simp only [receive, receiveRange, Bool.or_eq_true, Bool.and_eq_true, decide_eq_true_eq] at h
    exact h.imp id And.left

/-- A batch without a page drains the scan. -/
theorem drained_of_receive_eq_none {scan : Scan} {batch : Batch}
    (h : (scan.receive batch).2 = none) : (scan.receive batch).1.drained = true := by
  cases batch with
  | read outcome => exact absurd h (by simp [receive, receiveLive])
  | ranged found =>
    simp only [receive, receiveRange] at h ⊢
    split at h
    · next hend =>
      rw [Bool.and_eq_true] at hend
      rw [hend.1, Bool.or_true]
    · exact absurd h (by simp)

/-! ## Where a scan stands -/

/-- The entries that a scan has handed out, together with where it stands. -/
structure HandedOut (scan : Scan) (delivered : List Entry) : Prop where
  inOrder : InOrder scan.descending delivered
  inRange : ∀ entry ∈ delivered, entry.id ∈ scan.range
  lastId : scan.lastId = delivered.getLast?.map Entry.id

namespace HandedOut

variable {scan next : Scan} {delivered found : List Entry}

theorem nil (scan : Scan) : HandedOut scan.fresh [] := ⟨.nil, by simp, rfl⟩

/-- Where a scan stands is in its settings and the last id seen. -/
theorem congr (h : HandedOut scan delivered) (hfresh : next.fresh = scan.fresh)
    (hlast : next.lastId = scan.lastId) : HandedOut next delivered := by
  have hdesc := descending_of_fresh hfresh
  have hrange := range_of_fresh hfresh
  refine ⟨?_, ?_, hlast.trans h.lastId⟩
  · rw [hdesc]
    exact h.inOrder
  · rw [hrange]
    exact h.inRange

/-- What is left of the range lies beyond everything handed out. -/
theorem mem_rest_iff (h : HandedOut scan delivered) {id : EntryId} :
    id ∈ scan.rest ↔ id ∈ scan.range ∧
      ∀ entry ∈ delivered, EntryId.Precedes scan.descending entry.id id := by
  cases hlast : delivered.getLast? with
  | none =>
    have hnone : scan.lastId = none := by rw [h.lastId, hlast, Option.map_none]
    rw [List.getLast?_eq_none_iff.1 hlast, rest, hnone]
    simp
  | some last =>
    have hsome : scan.lastId = some last.id := by rw [h.lastId, hlast, Option.map_some]
    have hmem : last ∈ delivered := List.mem_of_getLast? hlast
    have hbound := h.inRange last hmem
    -- Beyond the last entry is beyond all of them.
    have hall : (∀ entry ∈ delivered, EntryId.Precedes scan.descending entry.id id) ↔
        EntryId.Precedes scan.descending last.id id := by
      refine ⟨fun hall => hall last hmem, fun hid entry hentry => ?_⟩
      rcases h.inOrder.eq_or_precedes_getLast hlast hentry with rfl | hprec
      · exact hid
      · exact hprec.trans hid
    rw [hall, rest, hsome]
    -- The bound that the last entry takes the place of admits all that lies beyond that entry.
    cases hdesc : scan.descending with
    | false =>
      change last.id < id ∧ scan.range.upper.AdmitsBelow id ↔ _ ∧ last.id < id
      constructor
      · rintro ⟨hid, hupper⟩
        exact ⟨⟨hbound.1.mono hid, hupper⟩, hid⟩
      · rintro ⟨⟨-, hupper⟩, hid⟩
        exact ⟨hid, hupper⟩
    | true =>
      change scan.range.lower.AdmitsAbove id ∧ id < last.id ↔ _ ∧ id < last.id
      constructor
      · rintro ⟨hlower, hid⟩
        exact ⟨⟨hlower, hbound.2.mono hid⟩, hid⟩
      · rintro ⟨⟨hlower, -⟩, hid⟩
        exact ⟨hlower, hid⟩

/-- A page of what is left comes after everything handed out. -/
theorem page (h : HandedOut scan delivered) (hfresh : next.fresh = scan.fresh)
    (hlast : next.lastId = scan.lastIdAfter found) (horder : InOrder scan.descending found)
    (hrest : ∀ entry ∈ found, entry.id ∈ scan.rest) : HandedOut next (delivered ++ found) := by
  have hdesc := descending_of_fresh hfresh
  have hrange := range_of_fresh hfresh
  constructor
  case inOrder =>
    rw [hdesc]
    -- What is left lies beyond what was handed out, so the two lists follow each other.
    refine List.pairwise_append.2 ⟨h.inOrder, horder, fun early hearly late hlate => ?_⟩
    exact (h.mem_rest_iff.1 (hrest late hlate)).2 early hearly
  case inRange =>
    intro entry hentry
    rw [hrange]
    rcases List.mem_append.1 hentry with hold | hnew
    · exact h.inRange entry hold
    · exact (h.mem_rest_iff.1 (hrest entry hnew)).1
  case lastId =>
    rw [hlast, lastIdAfter, List.getLast?_append]
    cases found.getLast? with
    | none => simp [h.lastId]
    | some last => rfl

end HandedOut

end Scan

end AppendLog
