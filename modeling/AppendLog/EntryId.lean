/-!
# Entry ids

An entry id is a millisecond timestamp and a sequence number within it, each of 64 bits, ordered by
timestamp and then by sequence. `EntryId.rank` views an id as the 128-bit number that the order
counts; `successor?` and `predecessor?` are its neighbours.
-/

namespace AppendLog

structure EntryId where
  timestamp : UInt64
  sequence : UInt64
  deriving DecidableEq

namespace EntryId

/-- The smallest id, 0-0. -/
def least : EntryId := ⟨0, 0⟩

def greatest : EntryId := ⟨UInt64.ofNat (UInt64.size - 1), UInt64.ofNat (UInt64.size - 1)⟩

/-! ## Order -/

/-- The place of an id among all ids, counted from zero. -/
def rank (id : EntryId) : Nat := id.timestamp.toNat * UInt64.size + id.sequence.toNat

/-- Timestamp first, then sequence. -/
instance : LT EntryId where
  lt a b := a.timestamp < b.timestamp ∨ a.timestamp = b.timestamp ∧ a.sequence < b.sequence

instance (a b : EntryId) : Decidable (a < b) :=
  inferInstanceAs (Decidable (_ ∨ _))

instance : LE EntryId where
  le a b := ¬ b < a

instance (a b : EntryId) : Decidable (a ≤ b) :=
  inferInstanceAs (Decidable (¬ _))

instance : Ord EntryId where
  compare a b := compareOfLessAndEq a b

theorem lt_iff_rank_lt {a b : EntryId} : a < b ↔ a.rank < b.rank := by
  change (a.timestamp < b.timestamp ∨ a.timestamp = b.timestamp ∧ a.sequence < b.sequence) ↔ _
  have ha := a.sequence.toNat_lt
  have hb := b.sequence.toNat_lt
  rw [UInt64.lt_iff_toNat_lt, UInt64.lt_iff_toNat_lt, ← UInt64.toNat_inj, rank, rank, UInt64.size]
  omega

theorem le_iff_rank_le {a b : EntryId} : a ≤ b ↔ a.rank ≤ b.rank := by
  change ¬ b < a ↔ _
  rw [lt_iff_rank_lt]
  omega

theorem rank_inj {a b : EntryId} : a.rank = b.rank ↔ a = b := by
  refine ⟨fun h => ?_, fun h => h ▸ rfl⟩
  have ha := a.sequence.toNat_lt
  have hb := b.sequence.toNat_lt
  obtain ⟨ta, sa⟩ := a
  obtain ⟨tb, sb⟩ := b
  simp only [rank, UInt64.size] at h ha hb
  have ht : ta = tb := UInt64.toNat_inj.1 (by omega)
  have hs : sa = sb := UInt64.toNat_inj.1 (by omega)
  rw [ht, hs]

/-! ## Neighbours -/

/-- The next id in the order, absent at the greatest. -/
def successor? (id : EntryId) : Option EntryId :=
  if id.sequence.toNat + 1 < UInt64.size then some ⟨id.timestamp, id.sequence + 1⟩
  else if id.timestamp.toNat + 1 < UInt64.size then some ⟨id.timestamp + 1, 0⟩
  else none

/-- The previous id in the order, absent at the least. -/
def predecessor? (id : EntryId) : Option EntryId :=
  if 0 < id.sequence then some ⟨id.timestamp, id.sequence - 1⟩
  else if 0 < id.timestamp then some ⟨id.timestamp - 1, UInt64.ofNat (UInt64.size - 1)⟩
  else none

end EntryId

end AppendLog
