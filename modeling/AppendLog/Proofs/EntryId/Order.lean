import AppendLog.EntryId

/-!
# The order of entry ids

Ids are ordered as their ranks are, so the order is total and the neighbour below an id is the id of
the rank below.
-/

namespace AppendLog.EntryId

theorem lt_irrefl (a : EntryId) : ¬ a < a := by
  rw [lt_iff_rank_lt]
  omega

theorem lt_trans {a b c : EntryId} (hab : a < b) (hbc : b < c) : a < c := by
  rw [lt_iff_rank_lt] at *
  omega

theorem lt_of_le_of_lt {a b c : EntryId} (hab : a ≤ b) (hbc : b < c) : a < c := by
  rw [le_iff_rank_le] at hab
  rw [lt_iff_rank_lt] at *
  omega

theorem le_of_lt {a b : EntryId} (h : a < b) : a ≤ b := by
  rw [le_iff_rank_le]
  rw [lt_iff_rank_lt] at h
  omega

theorem rank_least : least.rank = 0 := by decide

theorem least_lt_of_ne {a : EntryId} (h : a ≠ least) : least < a := by
  have hr : a.rank ≠ 0 := by
    intro h0
    exact h (rank_inj.1 (h0.trans rank_least.symm))
  rw [lt_iff_rank_lt, rank_least]
  omega

/-- Only the least id has no neighbour below. -/
theorem eq_least_of_predecessor?_eq_none {a : EntryId} (h : a.predecessor? = none) : a = least := by
  rw [predecessor?] at h
  split at h
  · exact absurd h (by simp)
  · next hs =>
    split at h
    · exact absurd h (by simp)
    · next ht =>
      obtain ⟨t, s⟩ := a
      simp only [UInt64.lt_iff_toNat_lt, UInt64.toNat_zero, Nat.not_lt, Nat.le_zero] at hs ht
      have ht : t = 0 := UInt64.toNat_inj.1 ht
      have hs : s = 0 := UInt64.toNat_inj.1 hs
      rw [ht, hs, least]

theorem rank_of_predecessor? {a b : EntryId} (h : a.predecessor? = some b) :
    a.rank = b.rank + 1 := by
  obtain ⟨t, s⟩ := a
  have hs := s.toNat_lt
  rw [predecessor?] at h
  split at h
  · next hpos =>
    obtain rfl := Option.some.inj h
    rw [UInt64.lt_iff_toNat_lt] at hpos
    change 0 < s.toNat at hpos
    have hsub : (s - 1).toNat = s.toNat - 1 :=
      UInt64.toNat_sub_of_le _ _ (UInt64.le_iff_toNat_le.2 hpos)
    simp only [rank, hsub]
    omega
  · next hzero =>
    split at h
    · next hpos =>
      obtain rfl := Option.some.inj h
      simp only [UInt64.lt_iff_toNat_lt, UInt64.toNat_zero, Nat.not_lt, Nat.le_zero] at hzero hpos
      have hsub : (t - 1).toNat = t.toNat - 1 :=
        UInt64.toNat_sub_of_le _ _ (UInt64.le_iff_toNat_le.2 hpos)
      have htop : (UInt64.ofNat (UInt64.size - 1)).toNat = UInt64.size - 1 := by decide
      simp only [rank, hsub, htop, hzero, UInt64.size]
      omega
    · exact absurd h (by simp)

/-- The ids above the neighbour below an id are the ids from that one on. -/
theorem predecessor?_lt_iff {a b c : EntryId} (h : a.predecessor? = some b) : b < c ↔ a ≤ c := by
  rw [lt_iff_rank_lt, le_iff_rank_le, rank_of_predecessor? h]
  omega

end AppendLog.EntryId
