import AppendLog.Proofs.EntryId.Order
import AppendLog.Range

/-!
# Neighbouring ids

Ids are counted by their ranks, from the least without a gap to the greatest. The neighbour above an
id is the id of the next rank, and the neighbour below it the id of the rank before, so each is the
other's inverse, and nothing lies between: `EntryId.neighbours_exact`. An exclusive bound of a range
is therefore the inclusive one at the neighbour inside, `Range.mem_lower_excluded_iff` and
`Range.mem_upper_excluded_iff`.
-/

namespace AppendLog

namespace EntryId

variable {a b : EntryId}

/-! ## Ranks -/

theorem rank_greatest : greatest.rank = UInt64.size * UInt64.size - 1 := by decide

theorem rank_lt (a : EntryId) : a.rank < UInt64.size * UInt64.size := by
  have ht := a.timestamp.toNat_lt
  have hs := a.sequence.toNat_lt
  simp only [rank, UInt64.size]
  omega

theorem rank_le_greatest (a : EntryId) : a.rank ≤ greatest.rank := by
  have h := a.rank_lt
  rw [rank_greatest]
  omega

/-- Every number of 128 bits is the rank of an id. -/
theorem exists_rank_eq_iff {n : Nat} : (∃ a : EntryId, a.rank = n) ↔
    n < UInt64.size * UInt64.size := by
  constructor
  · rintro ⟨a, rfl⟩
    exact a.rank_lt
  · intro h
    have ht : n / UInt64.size < UInt64.size := Nat.div_lt_of_lt_mul h
    have hs : n % UInt64.size < UInt64.size := Nat.mod_lt n (by decide)
    refine ⟨⟨UInt64.ofNat (n / UInt64.size), UInt64.ofNat (n % UInt64.size)⟩, ?_⟩
    rw [rank, UInt64.toNat_ofNat_of_lt' ht, UInt64.toNat_ofNat_of_lt' hs]
    exact Nat.div_add_mod' n UInt64.size

/-! ## The neighbour above -/

theorem toNat_add_one {w : UInt64} (h : w.toNat + 1 < UInt64.size) :
    (w + 1).toNat = w.toNat + 1 := by
  rw [UInt64.toNat_add]
  exact Nat.mod_eq_of_lt h

/-- The sequence goes up by one, or where it is full the timestamp does and the sequence starts
again. -/
theorem rank_of_successor? (h : a.successor? = some b) : b.rank = a.rank + 1 := by
  obtain ⟨t, s⟩ := a
  rw [successor?] at h
  split at h
  · next hroom =>
    obtain rfl := Option.some.inj h
    have hadd : (s + 1).toNat = s.toNat + 1 := toNat_add_one hroom
    simp only [rank, hadd]
    omega
  · next hfull =>
    split at h
    · next hroom =>
      obtain rfl := Option.some.inj h
      have hadd : (t + 1).toNat = t.toNat + 1 := toNat_add_one hroom
      have hs := s.toNat_lt
      simp only [rank, hadd, UInt64.toNat_zero, UInt64.size] at hfull ⊢
      omega
    · cases h

theorem rank_of_successor?_eq_none (h : a.successor? = none) : a.rank = greatest.rank := by
  obtain ⟨t, s⟩ := a
  rw [successor?] at h
  split at h
  · cases h
  · next hs =>
    split at h
    · cases h
    · next ht =>
      have hst := s.toNat_lt
      have htt := t.toNat_lt
      rw [rank_greatest]
      simp only [rank, UInt64.size] at hs ht ⊢
      omega

theorem successor?_eq_some_iff : a.successor? = some b ↔ b.rank = a.rank + 1 := by
  constructor
  · exact rank_of_successor?
  · intro h
    cases hnext : a.successor? with
    | none =>
      -- Nothing ranks above the greatest.
      have hmax := rank_of_successor?_eq_none hnext
      have hb := b.rank_le_greatest
      omega
    | some c =>
      have hc := rank_of_successor? hnext
      rw [rank_inj.1 (hc.trans h.symm)]

theorem successor?_eq_none_iff : a.successor? = none ↔ a = greatest := by
  constructor
  · intro h
    exact rank_inj.1 (rank_of_successor?_eq_none h)
  · rintro rfl
    decide

/-! ## The neighbour below -/

theorem predecessor?_eq_none_iff : a.predecessor? = none ↔ a = least := by
  constructor
  · exact eq_least_of_predecessor?_eq_none
  · rintro rfl
    decide

theorem predecessor?_eq_some_iff : a.predecessor? = some b ↔ a.rank = b.rank + 1 := by
  constructor
  · exact rank_of_predecessor?
  · intro h
    cases hback : a.predecessor? with
    | none =>
      rw [eq_least_of_predecessor?_eq_none hback, rank_least] at h
      omega
    | some c =>
      have hc := rank_of_predecessor? hback
      have hbc : c.rank = b.rank := by omega
      rw [rank_inj.1 hbc]

/-- Each neighbour leads back. -/
theorem successor?_eq_some_iff_predecessor? :
    a.successor? = some b ↔ b.predecessor? = some a := by
  rw [successor?_eq_some_iff, predecessor?_eq_some_iff]

/-- To be above an id is to be its neighbour above or beyond that. -/
theorem lt_iff_le_of_successor? (h : a.successor? = some b) (c : EntryId) : a < c ↔ b ≤ c := by
  rw [lt_iff_rank_lt, le_iff_rank_le, rank_of_successor? h]
  omega

/-- To be below an id is to be its neighbour below or before that. -/
theorem lt_iff_le_of_predecessor? (h : b.predecessor? = some a) (c : EntryId) : c < b ↔ c ≤ a := by
  rw [lt_iff_rank_lt, le_iff_rank_le, rank_of_predecessor? h]
  omega

theorem not_greatest_lt (a : EntryId) : ¬ greatest < a := by
  have h := a.rank_le_greatest
  rw [lt_iff_rank_lt]
  omega

theorem not_lt_least (a : EntryId) : ¬ a < least := by
  rw [lt_iff_rank_lt, rank_least]
  omega

end EntryId

/-! ## Bounds at neighbours -/

namespace Range

variable {a b : EntryId}

/-- To start behind an id is to start at its neighbour above. -/
theorem mem_lower_excluded_iff (h : a.successor? = some b) (range : Range) (id : EntryId) :
    id ∈ { range with lower := .excluded a } ↔ id ∈ { range with lower := .included b } :=
  and_congr_left' (EntryId.lt_iff_le_of_successor? h id)

/-- To end in front of an id is to end at its neighbour below. -/
theorem mem_upper_excluded_iff (h : b.predecessor? = some a) (range : Range) (id : EntryId) :
    id ∈ { range with upper := .excluded b } ↔ id ∈ { range with upper := .included a } :=
  and_congr_right' (EntryId.lt_iff_le_of_predecessor? h id)

theorem notMem_lower_excluded_greatest (range : Range) (id : EntryId) :
    id ∉ { range with lower := .excluded .greatest } := by
  rintro ⟨habove, -⟩
  exact id.not_greatest_lt habove

theorem notMem_upper_excluded_least (range : Range) (id : EntryId) :
    id ∉ { range with upper := .excluded .least } := by
  rintro ⟨-, hbelow⟩
  exact id.not_lt_least hbelow

end Range

/-- **Ids are the numbers of 128 bits, and neighbours differ by one.** The order of ids is that of
their ranks, and the ranks are all numbers of 128 bits. Only the greatest id has no neighbour above
and only the least none below; the neighbours of any other have the rank next to its own, and each
leads back. So no id lies between two neighbours, and an exclusive bound of a range is the inclusive
one at the neighbour inside; where there is none, no id is in the range. -/
theorem EntryId.neighbours_exact :
    (∀ a b : EntryId, a < b ↔ a.rank < b.rank) ∧
    (∀ n, (∃ a : EntryId, a.rank = n) ↔ n < UInt64.size * UInt64.size) ∧
    (∀ a : EntryId, a.successor? = none ↔ a = greatest) ∧
    (∀ a b : EntryId, a.successor? = some b ↔ b.rank = a.rank + 1) ∧
    (∀ a : EntryId, a.predecessor? = none ↔ a = least) ∧
    (∀ a b : EntryId, a.predecessor? = some b ↔ b.rank + 1 = a.rank) ∧
    (∀ a b : EntryId, a.successor? = some b ↔ b.predecessor? = some a) ∧
    (∀ a b : EntryId, a.successor? = some b → ∀ c, ¬ (a < c ∧ c < b)) ∧
    (∀ (range : Range) (a b id : EntryId), a.successor? = some b →
      (id ∈ { range with lower := .excluded a } ↔ id ∈ { range with lower := .included b })) ∧
    (∀ (range : Range) (a b id : EntryId), b.predecessor? = some a →
      (id ∈ { range with upper := .excluded b } ↔ id ∈ { range with upper := .included a })) ∧
    ∀ (range : Range) (id : EntryId), id ∉ { range with lower := .excluded greatest } ∧
      id ∉ { range with upper := .excluded least } := by
  refine ⟨fun a b => lt_iff_rank_lt, fun n => exists_rank_eq_iff, fun a => successor?_eq_none_iff,
    fun a b => successor?_eq_some_iff, fun a => predecessor?_eq_none_iff, ?_,
    fun a b => successor?_eq_some_iff_predecessor?, ?_, ?_, ?_, ?_⟩
  · intro a b
    rw [predecessor?_eq_some_iff]
    exact eq_comm
  · rintro a b h c ⟨hac, hcb⟩
    exact (lt_iff_le_of_successor? h c).1 hac hcb
  · intro range a b id h
    exact range.mem_lower_excluded_iff h id
  · intro range a b id h
    exact range.mem_upper_excluded_iff h id
  · intro range id
    exact ⟨range.notMem_lower_excluded_greatest id, range.notMem_upper_excluded_least id⟩

/-- The neighbour above the last id of one timestamp is the first id of the next. -/
theorem EntryId.neighbours_exact_carry :
    let last : EntryId := ⟨5, 18446744073709551615⟩
    let first : EntryId := ⟨6, 0⟩
    last.successor? = some first ∧ first.predecessor? = some last ∧
    (∀ c, ¬ (last < c ∧ c < first)) ∧
    (first ∈ ({ lower := .excluded last } : Range) ↔
      first ∈ ({ lower := .included first } : Range)) ∧
    (last ∈ ({ upper := .excluded first } : Range) ↔
      last ∈ ({ upper := .included last } : Range)) := by
  intro last first
  have hnext : last.successor? = some first := by decide
  obtain ⟨-, -, -, -, -, -, hback, hgap, hlower, hupper, -⟩ := neighbours_exact
  have hfirst := (hback last first).1 hnext
  exact ⟨hnext, hfirst, hgap last first hnext, hlower {} last first first hnext,
    hupper {} last first last hfirst⟩

end AppendLog
