import AppendLog.Fields
import AppendLog.Proofs.EntryId.Order
import AppendLog.Range

/-!
# A stream that changes

The entries of a stream by ascending id. An entry is added at the end, where its id must be above
every id that was ever in the stream, and any entries may be deleted. A page is the first entries of
a range in the order of the traversal: `Stream.mem_or_beyond_page` says that what a page leaves out
lies beyond everything on it, and that the page is full then.
-/

namespace AppendLog

/-! ## The order of a traversal -/

/-- One id comes before another: going up, or down. -/
def EntryId.Precedes (descending : Bool) (a b : EntryId) : Prop :=
  if descending then b < a else a < b

namespace EntryId.Precedes

variable {descending : Bool} {a b c : EntryId}

theorem trans (hab : Precedes descending a b) (hbc : Precedes descending b c) :
    Precedes descending a c := by
  cases descending with
  | false => exact lt_trans hab hbc
  | true => exact lt_trans hbc hab

theorem irrefl : ¬ Precedes descending a a := by
  cases descending <;> exact lt_irrefl a

end EntryId.Precedes

/-- Entries as a traversal meets them, no id twice. -/
def InOrder (descending : Bool) (found : List Entry) : Prop :=
  found.Pairwise fun a b => EntryId.Precedes descending a.id b.id

namespace InOrder

variable {descending : Bool} {found : List Entry} {entry : Entry}

theorem nodup_ids (h : InOrder descending found) : (found.map Entry.id).Nodup := by
  refine List.pairwise_map.2 (h.imp fun hab heq => ?_)
  rw [heq] at hab
  exact EntryId.Precedes.irrefl hab

/-- Nothing comes after the last entry. -/
theorem eq_or_precedes_getLast {last : Entry} (h : InOrder descending found)
    (hlast : found.getLast? = some last) (hmem : entry ∈ found) :
    entry = last ∨ EntryId.Precedes descending entry.id last.id := by
  obtain ⟨front, rfl⟩ := List.getLast?_eq_some_iff.1 hlast
  rw [InOrder, List.pairwise_append] at h
  rcases List.mem_append.1 hmem with hfront | hend
  · exact .inr (h.2.2 entry hfront last (List.mem_singleton.2 rfl))
  · exact .inl (List.mem_singleton.1 hend)

/-- What the first `count` entries leave out comes after all of them. -/
theorem mem_take_or_beyond (h : InOrder descending found) (count : Nat) (hmem : entry ∈ found) :
    entry ∈ found.take count ∨ (found.take count).length = count ∧
      ∀ early ∈ found.take count, EntryId.Precedes descending early.id entry.id := by
  rw [InOrder, ← List.take_append_drop count found, List.pairwise_append] at h
  rw [← List.take_append_drop count found] at hmem
  rcases List.mem_append.1 hmem with hearly | hlate
  · exact .inl hearly
  · refine .inr ⟨?_, fun early hearly => h.2.2 early hearly entry hlate⟩
    have hpos := List.length_pos_of_mem hlate
    rw [List.length_drop] at hpos
    rw [List.length_take]
    omega

end InOrder

/-! ## Streams -/

/-- The entries of a stream, and the rank from which on the ids of new entries are. -/
structure Stream where
  entries : List Entry
  floor : Nat
  ascending : InOrder false entries
  below : ∀ entry ∈ entries, entry.id.rank < floor

namespace Stream

/-- A stream in which nothing ever was. -/
def empty : Stream := ⟨[], 0, .nil, by simp⟩

/-- Add an entry. It is refused when its id is not above every id that was ever in the stream. -/
def append (stream : Stream) (entry : Entry) : Stream :=
  if h : stream.floor ≤ entry.id.rank then
    { entries := stream.entries ++ [entry]
      floor := entry.id.rank + 1
      ascending := by
        refine List.pairwise_append.2 ⟨stream.ascending, List.pairwise_singleton _ _, ?_⟩
        intro early hearly late hlate
        obtain rfl := List.mem_singleton.1 hlate
        have := stream.below early hearly
        exact EntryId.lt_iff_rank_lt.2 (by omega)
      below := by
        intro early hearly
        rcases List.mem_append.1 hearly with hold | hnew
        · have := stream.below early hold
          omega
        · rw [List.mem_singleton.1 hnew]
          omega }
  else stream

/-- Delete the entries of these ids. -/
def delete (stream : Stream) (ids : List EntryId) : Stream where
  entries := stream.entries.filter fun entry => entry.id ∉ ids
  floor := stream.floor
  ascending := stream.ascending.filter _
  below entry hmem := stream.below entry (List.mem_filter.1 hmem).1

/-- An entry that an append brings has an id above every id before. -/
theorem mem_append {stream : Stream} {entry new : Entry} (h : entry ∈ (stream.append new).entries) :
    entry ∈ stream.entries ∨ entry = new ∧ stream.floor ≤ entry.id.rank := by
  rw [append] at h
  split at h
  · next hfloor =>
    rcases List.mem_append.1 h with hold | hnew
    · exact .inl hold
    · obtain rfl := List.mem_singleton.1 hnew
      exact .inr ⟨rfl, hfloor⟩
  · exact .inl h

theorem floor_le_append (stream : Stream) (new : Entry) :
    stream.floor ≤ (stream.append new).floor := by
  rw [append]
  split
  · dsimp only
    omega
  · exact Nat.le_refl _

theorem mem_of_mem_delete {stream : Stream} {ids : List EntryId} {entry : Entry}
    (h : entry ∈ (stream.delete ids).entries) : entry ∈ stream.entries :=
  (List.mem_filter.1 h).1

/-! ## Pages -/

/-- The entries of a range in the order of the traversal. -/
def within (stream : Stream) (range : Range) (descending : Bool) : List Entry :=
  let found := stream.entries.filter fun entry => entry.id ∈ range
  if descending then found.reverse else found

/-- The first `count` entries of a range. -/
def page (stream : Stream) (range : Range) (descending : Bool) (count : Nat) : List Entry :=
  (stream.within range descending).take count

variable {stream : Stream} {range : Range} {descending : Bool} {count : Nat} {entry : Entry}

theorem mem_within : entry ∈ stream.within range descending ↔
    entry ∈ stream.entries ∧ entry.id ∈ range := by
  cases descending <;> simp [within]

theorem inOrder_within : InOrder descending (stream.within range descending) := by
  have h := stream.ascending.filter fun entry => entry.id ∈ range
  cases descending with
  | false => exact h
  | true => exact List.pairwise_reverse.2 h

theorem mem_of_mem_page (h : entry ∈ stream.page range descending count) :
    entry ∈ stream.entries ∧ entry.id ∈ range :=
  mem_within.1 (List.mem_of_mem_take h)

theorem inOrder_page : InOrder descending (stream.page range descending count) :=
  inOrder_within.sublist (List.take_sublist _ _)

/-- An entry of the range is on the page, or beyond all of a full page. -/
theorem mem_or_beyond_page (descending : Bool) (count : Nat) (hmem : entry ∈ stream.entries)
    (hrange : entry.id ∈ range) :
    entry ∈ stream.page range descending count ∨
      (stream.page range descending count).length = count ∧
        ∀ early ∈ stream.page range descending count,
          EntryId.Precedes descending early.id entry.id :=
  inOrder_within.mem_take_or_beyond count (mem_within.2 ⟨hmem, hrange⟩)

end Stream

end AppendLog
