import AppendLog.Proofs.Wire.Claim

/-!
# Idle for long enough

A claim takes entries from other consumers, and says how long an entry must have been idle for that.
The server is told whole milliseconds, rounded down and of 64 bits at most, so it may take an entry
that was idle for less: `Claiming.spares_iff` says that it does not exactly where nothing is lost in
the numeral.
-/

namespace AppendLog

namespace Duration

theorem nanoseconds_inj {a b : Duration} : a.nanoseconds = b.nanoseconds ↔ a = b := by
  constructor
  · intro h
    cases a
    cases b
    exact (mk.injEq ..).mpr h
  · exact congrArg nanoseconds

/-- The milliseconds that a span is sent as, as a span again. -/
theorem nanoseconds_ofMilliseconds_milliseconds (span : Duration) :
    (ofMilliseconds span.milliseconds).nanoseconds =
      min (span.nanoseconds / 1000000) (UInt64.size - 1) * 1000000 := by
  change span.milliseconds.toNat * 1000000 = _
  rw [toNat_milliseconds, wholeMilliseconds]

theorem ofMilliseconds_milliseconds_le (span : Duration) :
    (ofMilliseconds span.milliseconds).nanoseconds ≤ span.nanoseconds := by
  rw [nanoseconds_ofMilliseconds_milliseconds]
  calc min (span.nanoseconds / 1000000) (UInt64.size - 1) * 1000000
      ≤ span.nanoseconds / 1000000 * 1000000 := Nat.mul_le_mul_right _ (Nat.min_le_left _ _)
    _ ≤ span.nanoseconds := Nat.div_mul_le_self _ _

/-- Less than a millisecond is lost of a span whose milliseconds fit. -/
theorem lt_ofMilliseconds_milliseconds {span : Duration}
    (h : span.wholeMilliseconds < UInt64.size) :
    span.nanoseconds < (ofMilliseconds span.milliseconds).nanoseconds + 1000000 := by
  rw [wholeMilliseconds] at h
  rw [nanoseconds_ofMilliseconds_milliseconds, Nat.min_eq_left (Nat.le_sub_one_of_lt h)]
  omega

theorem ofMilliseconds_le_iff {m n : UInt64} :
    (ofMilliseconds m).nanoseconds ≤ (ofMilliseconds n).nanoseconds ↔ m ≤ n := by
  rw [UInt64.le_iff_toNat_le]
  exact Nat.mul_le_mul_right_iff (by decide)

end Duration

/-- An entry that was idle for so many milliseconds is long enough idle for a claim. -/
def ClaimTerms.Takes (terms : ClaimTerms) (idle : UInt64) : Prop := terms.minIdle ≤ idle.toNat

namespace Claiming

/-- No entry is claimed that was idle for less than was asked for. -/
def Spares (claiming : Claiming) (request : Request) : Prop :=
  ∀ (terms : ClaimTerms) (idle : UInt64), ClaimTerms.ofTokens? request.tokens = some terms →
    terms.Takes idle →
    claiming.options.minIdle.nanoseconds ≤ (Duration.ofMilliseconds idle).nanoseconds

theorem takes_iff {claiming : Claiming} {idle : UInt64} :
    claiming.terms.Takes idle ↔ claiming.options.minIdle.milliseconds ≤ idle := by
  rw [UInt64.le_iff_toNat_le, Duration.toNat_milliseconds]
  exact Iff.rfl

variable {claiming : Claiming} {request : Request}

/-- The entry that was idle for just as long as the server is told decides. -/
theorem spares_iff_whole (h : claiming.request = .ok request) : claiming.Spares request ↔
    claiming.options.minIdle = .ofMilliseconds claiming.options.minIdle.milliseconds := by
  constructor
  · intro hspares
    have hleast := hspares _ _ (ofTokens?_request h) (takes_iff.2 (UInt64.le_refl _))
    exact Duration.nanoseconds_inj.1
      (Nat.le_antisymm hleast (Duration.ofMilliseconds_milliseconds_le _))
  · intro hwhole terms idle hterms htakes
    rw [ofTokens?_request h] at hterms
    obtain rfl := Option.some.inj hterms
    rw [hwhole, Duration.ofMilliseconds_le_iff]
    exact takes_iff.1 htakes

/-- **When a claim takes nothing too early.** A claim of at least one id has a request. Its fifth
token is the numeral of the milliseconds from which a server takes an entry. Every entry that it
takes was idle for as long as was asked for exactly if that was a whole number of milliseconds of 64
bits. Else it may have been idle for less, but by less than a millisecond if the milliseconds fit. -/
theorem spares_iff (claiming : Claiming) (h : claiming.ids ≠ []) :
    ∃ request terms, claiming.request = .ok request ∧
      ClaimTerms.ofTokens? request.tokens = some terms ∧
      request.tokens[4]? = some (Decimal.write terms.minIdle).toUTF8 ∧
      (claiming.Spares request ↔ ∃ n, claiming.options.minIdle = .ofMilliseconds n) ∧
      (claiming.options.minIdle.wholeMilliseconds < UInt64.size → ∀ idle, terms.Takes idle →
        claiming.options.minIdle.nanoseconds <
          (Duration.ofMilliseconds idle).nanoseconds + 1000000) := by
  obtain ⟨request, hrequest⟩ := exists_request h
  have hplace : request.tokens[4]? = some (Decimal.write claiming.terms.minIdle).toUTF8 := by
    rw [tokens_of_request hrequest]
    rfl
  refine ⟨request, claiming.terms, hrequest, ofTokens?_request hrequest, hplace, ?_, ?_⟩
  · rw [spares_iff_whole hrequest]
    constructor
    · intro hwhole
      exact ⟨_, hwhole⟩
    · rintro ⟨n, hn⟩
      rw [hn, Duration.milliseconds_ofMilliseconds]
  · intro hfits idle htakes
    have hleast := Duration.ofMilliseconds_le_iff.2 (takes_iff.1 htakes)
    exact Nat.lt_of_lt_of_le (Duration.lt_ofMilliseconds_milliseconds hfits)
      (Nat.add_le_add_right hleast _)

/-- A whole second, and a millisecond and a half in a claim of ids only. -/
theorem spares_iff_one_second :
    let second : Claiming :=
      ⟨"k", ⟨"g", "c"⟩, { minIdle := .ofMilliseconds 1000 }, [⟨1, 0⟩], false⟩
    let odd : Claiming := ⟨"k", ⟨"g", "c"⟩, { minIdle := ⟨1500000, by decide⟩ }, [⟨1, 0⟩], true⟩
    second.ids ≠ [] ∧ odd.ids ≠ [] ∧
      (∃ request, second.request = .ok request ∧ second.Spares request) ∧
      ∃ request terms, odd.request = .ok request ∧
        ClaimTerms.ofTokens? request.tokens = some terms ∧
        ∀ idle, terms.Takes idle → 500000 < (Duration.ofMilliseconds idle).nanoseconds := by
  intro second odd
  obtain ⟨first, -, hfirst, -, -, hspares, -⟩ := spares_iff second nofun
  obtain ⟨request, terms, hrequest, hterms, -, -, hbound⟩ := spares_iff odd nofun
  refine ⟨nofun, nofun, ⟨first, hfirst, hspares.2 ⟨1000, rfl⟩⟩, ?_⟩
  refine ⟨request, terms, hrequest, hterms, fun idle htakes => ?_⟩
  have hlost : 1500000 < (Duration.ofMilliseconds idle).nanoseconds + 1000000 :=
    hbound (by decide) idle htakes
  omega

/-- A claim from a millisecond and a half takes an entry that was idle for one, and a claim from the
longest span takes one that was idle for the largest number of milliseconds of 64 bits. -/
theorem taken_too_early :
    let odd : Claiming := ⟨"k", ⟨"g", "c"⟩, { minIdle := ⟨1500000, by decide⟩ }, [⟨1, 0⟩], false⟩
    let longest : Claiming := ⟨"k", ⟨"g", "c"⟩, { minIdle := .longest }, [⟨1, 0⟩], true⟩
    odd.terms.Takes 1 ∧ longest.terms.Takes 18446744073709551615 ∧
      (∃ request, odd.request = .ok request ∧ ¬ odd.Spares request) ∧
      ∃ request, longest.request = .ok request ∧ ¬ longest.Spares request := by
  intro odd longest
  have hodd : odd.terms.Takes 1 := takes_iff.2 (by decide)
  have hlongest : longest.terms.Takes 18446744073709551615 := takes_iff.2 (by decide)
  refine ⟨hodd, hlongest, ⟨_, rfl, fun hspares => ?_⟩, _, rfl, fun hspares => ?_⟩
  · exact absurd (hspares _ 1 (ofTokens?_request rfl) hodd) (by decide)
  · exact absurd (hspares _ _ (ofTokens?_request rfl) hlongest) (by decide)

end Claiming

end AppendLog
