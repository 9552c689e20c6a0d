import AppendLog.Proofs.Wire.Append
import AppendLog.Proofs.Wire.Claim
import AppendLog.Proofs.Wire.Draft
import AppendLog.Proofs.Wire.Range
import AppendLog.Proofs.Wire.Read

/-!
# Numerals in requests

Counts, lengths, times and spans of time stand at fixed places of a request or behind fixed words.
`Request.numerals` takes the words at these places, and `Draft.numerals_eq` says that they are the
canonical numerals of the numbers of the draft. Numbers of 64 bits fit in 64 bits, and spans of time
are capped, except for the idle time that a claim sets. `Draft.numerals_fit_iff` says that this is
the only number that can be too large.
-/

namespace AppendLog

theorem Decimal.write_inj {n m : Nat} : write n = write m ↔ n = m := by
  constructor
  · intro h
    rw [← value_write n, h, value_write]
  · exact congrArg write

/-! ## Clauses of numbers -/

namespace Clause

/-- Take a word and the one behind it, if the word comes next. -/
def takeBehind (word : String) : List String → List String × List String
  | first :: numeral :: rest =>
    if first = word then ([numeral], rest) else ([], first :: numeral :: rest)
  | words => ([], words)

/-- The words behind certain others, each of which may come once, in this order. -/
def behind : List String → List String → List String
  | [], _ => []
  | word :: options, words =>
    (takeBehind word words).1 ++ behind options (takeBehind word words).2

/-- Clauses of numbers, one after the other, in front of other words. -/
def inFront : List (String × Option Nat) → List String → List String
  | [], words => words
  | (word, n) :: clauses, words => number word n ++ inFront clauses words

variable {word : String} {words : List String}

theorem takeBehind_of_absent (h : Absent word words) : takeBehind word words = ([], words) := by
  match words with
  | [] => rfl
  | [_] => rfl
  | first :: numeral :: rest =>
    have hfirst : first ≠ word := h first rfl
    rw [takeBehind, if_neg hfirst]

theorem takeBehind_number (n : Option Nat) (h : Absent word words) :
    takeBehind word (number word n ++ words) = (n.toList.map Decimal.write, words) := by
  cases n with
  | none => exact takeBehind_of_absent h
  | some n =>
    change takeBehind word (word :: Decimal.write n :: words) = ([Decimal.write n], words)
    rw [takeBehind, if_pos rfl]

theorem next_inFront {p : String → Prop} {clauses : List (String × Option Nat)}
    (h : ∀ word ∈ clauses.map Prod.fst, p word) (hrest : Next p words) :
    Next p (inFront clauses words) := by
  induction clauses with
  | nil => exact hrest
  | cons clause clauses ih =>
    rw [List.map_cons, List.forall_mem_cons] at h
    exact next_number h.1 _ (ih h.2)

/-- Behind the words of the clauses stand their numbers, if no word comes again. -/
theorem behind_inFront (clauses : List (String × Option Nat))
    (hdistinct : (clauses.map Prod.fst).Nodup)
    (hrest : Next (· ∉ clauses.map Prod.fst) words) :
    behind (clauses.map Prod.fst) (inFront clauses words) =
      (clauses.map Prod.snd).reduceOption.map Decimal.write := by
  induction clauses with
  | nil => rfl
  | cons clause clauses ih =>
    obtain ⟨word, n⟩ := clause
    rw [List.map_cons, List.nodup_cons] at hdistinct
    have habsent : Absent word (inFront clauses words) := by
      apply next_inFront
      · rintro other hother rfl
        exact hdistinct.1 hother
      · intro other hother hsame
        exact hrest other hother (by simp [hsame])
    have hlater : Next (· ∉ clauses.map Prod.fst) words := by
      intro other hother hmem
      exact hrest other hother (List.mem_cons_of_mem _ hmem)
    rw [List.map_cons, behind, inFront, takeBehind_number n habsent, ih hdistinct.2 hlater]
    cases n <;> rfl

end Clause

/-! ## Where numbers stand -/

/-- The tokens in front that are texts. -/
def leadingTexts : List Token → List String
  | [] => []
  | token :: rest =>
    match String.fromUTF8? token with
    | some text => text :: leadingTexts rest
    | none => []

theorem leadingTexts_append (texts : List String) (tokens : List Token) :
    leadingTexts (texts.map String.toUTF8 ++ tokens) = texts ++ leadingTexts tokens := by
  induction texts with
  | nil => rfl
  | cons text rest ih =>
    rw [List.map_cons, List.cons_append, leadingTexts, fromUTF8?_toUTF8]
    simp only [ih, List.cons_append]

/-! ### Numbers of clauses -/

theorem ClaimTerms.behind_optionWords (terms : ClaimTerms) :
    Clause.behind ["IDLE", "TIME", "RETRYCOUNT"] terms.optionWords =
      [terms.idle, terms.time, terms.retryCount].reduceOption.map Decimal.write := by
  have hdistinct : ["IDLE", "TIME", "RETRYCOUNT"].Nodup := by decide
  have hrest : Clause.Next (· ∉ ["IDLE", "TIME", "RETRYCOUNT"])
      (Clause.flag "FORCE" terms.force ++ (Clause.flag "JUSTID" terms.idsOnly ++ [])) :=
    Clause.next_flag (by decide) _ (Clause.next_flag (by decide) _ (Clause.next_nil _))
  exact Clause.behind_inFront
    [("IDLE", terms.idle), ("TIME", terms.time), ("RETRYCOUNT", terms.retryCount)]
    hdistinct hrest

theorem ReadOptions.behind_words (options : ReadOptions) (streams : List (String × String)) :
    Clause.behind ["COUNT", "BLOCK"] (options.words ++ Request.streamWords streams) =
      [options.count.map UInt64.toNat, options.block.map ReadTerms.blockTime].reduceOption.map
        Decimal.write := by
  have hdistinct : ["COUNT", "BLOCK"].Nodup := by decide
  have hrest : Clause.Next (· ∉ ["COUNT", "BLOCK"])
      (Clause.flag "NOACK" options.noAck ++ Request.streamWords streams) :=
    Clause.next_flag (by decide) _ (Clause.next_cons (by decide) _)
  have hblock : (options.block.map fun span => span.blockMilliseconds.toNat) =
      options.block.map ReadTerms.blockTime := by
    simp only [ReadTerms.toNat_blockMilliseconds]
  rw [words, hblock, List.append_assoc, List.append_assoc]
  exact Clause.behind_inFront
    [("COUNT", options.count.map UInt64.toNat), ("BLOCK", options.block.map ReadTerms.blockTime)]
    hdistinct hrest

theorem Limit.behind_words (limit : Limit) :
    Clause.behind ["COUNT"] (RangeTerms.limitWords limit) =
      [limit.count?.map UInt64.toNat].reduceOption.map Decimal.write := by
  have h := Clause.behind_inFront [("COUNT", limit.count?.map UInt64.toNat)]
    (List.nodup_singleton "COUNT") (Clause.next_nil _)
  rwa [Clause.inFront, Clause.inFront, List.append_nil] at h

namespace Request

/-- The count behind the word that starts trimming, in front of which there may be a tilde. -/
def trimNumerals : List String → List String
  | [] => []
  | word :: rest => if word = "MAXLEN" then (Clause.takeFlag "~" rest).2.take 1 else []

/-- The words of a command at the places for numbers. Those of a claim stand in front of the ids and
behind them. -/
def numeralsOf : Command → List String → List String
  | .append, _ :: words => trimNumerals words
  | .claim, _ :: _ :: _ :: minIdle :: words =>
    minIdle :: Clause.behind ["IDLE", "TIME", "RETRYCOUNT"] (EntryId.takeAll words).2
  | .pending, _ :: _ :: _ :: _ :: count :: _ => [count]
  | .range, _ :: _ :: _ :: words | .reverseRange, _ :: _ :: _ :: words =>
    Clause.behind ["COUNT"] words
  | .read, words | .readAsConsumer, _ :: _ :: _ :: words => Clause.behind ["COUNT", "BLOCK"] words
  | _, _ => []

/-- The words of a request at the places for numbers. -/
def numerals (request : Request) : List String :=
  numeralsOf request.command (leadingTexts request.arguments)

/-- Every number in a request is a canonical numeral and fits in 64 bits. -/
def NumeralsFit (request : Request) : Prop :=
  ∀ numeral ∈ request.numerals, ∃ n < UInt64.size, numeral = Decimal.write n

theorem trimNumerals_trimWords (options : AppendOptions) (rest : List String) :
    trimNumerals (options.trimWords ++ options.idWord :: rest) =
      (options.maxLength.map UInt64.toNat).toList.map Decimal.write := by
  have hid : options.idWord ≠ "MAXLEN" := by
    intro h
    exact idWord_ne_maxLen options (congrArg String.toUTF8 h)
  rw [AppendOptions.trimWords]
  cases options.maxLength with
  | none => exact if_neg hid
  | some n =>
    have habsent : Clause.Absent "~" (Decimal.write n.toNat :: options.idWord :: rest) :=
      Clause.absent_cons (fun h => write_ne_tilde n.toNat (congrArg String.toUTF8 h)) _
    have htake := Clause.takeFlag_flag options.approximately habsent
    simp [trimNumerals, htake]

end Request

/-! ## The numbers of drafts -/

/-- Whole milliseconds of a span, rounded down, and no more than 64 bits hold. -/
def Duration.capped (span : Duration) : Nat := min (span.nanoseconds / 1000000) (UInt64.size - 1)

theorem Duration.capped_lt (span : Duration) : span.capped < UInt64.size :=
  Nat.lt_of_le_of_lt (Nat.min_le_right _ _) (by decide)

theorem Duration.capped_of_lt {span : Duration} (h : span.wholeMilliseconds < UInt64.size) :
    span.capped = span.wholeMilliseconds :=
  Nat.min_eq_left (Nat.le_sub_one_of_lt h)

namespace Draft

/-- The idle time that a claim sets, if it sets one. -/
def idle? : Draft → Option Duration
  | claim _ _ options _ _ => options.idle
  | _ => none

/-- The numbers of a draft in the order of its words, with the milliseconds of the idle time that a
claim sets. -/
def numbersBy (milliseconds : Duration → Nat) : Draft → List Nat
  | append _ options _ => [options.maxLength.map UInt64.toNat].reduceOption
  | claim _ _ options _ _ =>
    [some options.minIdle.capped, options.idle.map milliseconds, options.time.map UInt64.toNat,
      options.retryCount.map UInt64.toNat].reduceOption
  | pendingList _ _ _ _ limit => [limit.pendingCount]
  | range _ _ limit | reverseRange _ _ limit => [limit.count?.map UInt64.toNat].reduceOption
  | read options _ | readAsConsumer _ options _ =>
    [options.count.map UInt64.toNat, options.block.map ReadTerms.blockTime].reduceOption
  | _ => []

/-- The numbers that a draft asks to send, with every span of time capped. -/
def numbers (draft : Draft) : List Nat := draft.numbersBy Duration.capped

variable {draft : Draft} {request : Request}

/-- At the places for numbers stand the numbers of the draft. -/
theorem numerals_eq (h : draft.request = .ok request) :
    request.numerals = (draft.numbersBy Duration.wholeMilliseconds).map Decimal.write := by
  have htexts : request.numerals =
      Request.numeralsOf draft.command (draft.words ++ leadingTexts draft.body) := by
    rw [request_eq h, Request.numerals, leadingTexts_append]
  rw [htexts]
  cases draft with
  | append key options body =>
    simp only [words, command, Request.numeralsOf, List.cons_append, List.append_assoc]
    exact Request.trimNumerals_trimWords options _
  | claim key consumer options ids idsOnly =>
    let claiming : Claiming := ⟨key, consumer, options, ids, idsOnly⟩
    have hwords : options.words ++ Clause.flag "JUSTID" idsOnly = claiming.terms.optionWords :=
      claiming.optionWords_terms.symm
    have htake := EntryId.takeAll_texts ids claiming.terms.foreign_optionWords
    simp only [words, body, command, leadingTexts, List.append_nil, Request.numeralsOf, hwords,
      htake, ClaimTerms.behind_optionWords, Duration.toNat_milliseconds]
    rfl
  | pendingList key group consumer within limit =>
    rw [numbersBy, ← limit.toNat_getD_unlimitedPending]
    rfl
  | range key within limit | reverseRange key within limit =>
    simp only [words, body, leadingTexts, List.append_nil]
    exact limit.behind_words
  | read options streams | readAsConsumer consumer options streams =>
    simp only [words, body, leadingTexts, List.append_nil]
    exact options.behind_words _
  | _ => rfl

theorem numbers_lt (draft : Draft) : ∀ n ∈ draft.numbers, n < UInt64.size := by
  have hword {word : Option UInt64} {n : Nat} (h : some n = word.map UInt64.toNat) :
      n < UInt64.size := by
    obtain ⟨word, -, rfl⟩ := Option.map_eq_some_iff.1 h.symm
    exact word.toNat_lt_size
  have hblock {span : Option Duration} {n : Nat} (h : some n = span.map ReadTerms.blockTime) :
      n < UInt64.size := by
    obtain ⟨span, -, rfl⟩ := Option.map_eq_some_iff.1 h.symm
    rw [← ReadTerms.toNat_blockMilliseconds]
    exact UInt64.toNat_lt_size _
  intro n hn
  cases draft with
  | append | range | reverseRange =>
    rw [numbers, numbersBy, List.reduceOption_mem_iff, List.mem_singleton] at hn
    exact hword hn
  | claim key consumer options ids idsOnly =>
    simp only [numbers, numbersBy, List.reduceOption_mem_iff, List.mem_cons, List.not_mem_nil,
      or_false] at hn
    rcases hn with hminIdle | hidle | htime | hretryCount
    · rw [Option.some.inj hminIdle]
      exact options.minIdle.capped_lt
    · obtain ⟨span, -, rfl⟩ := Option.map_eq_some_iff.1 hidle.symm
      exact span.capped_lt
    · exact hword htime
    · exact hword hretryCount
  | pendingList key group consumer within limit =>
    rw [numbers, numbersBy, List.mem_singleton, ← limit.toNat_getD_unlimitedPending] at hn
    rw [hn]
    exact UInt64.toNat_lt_size _
  | read | readAsConsumer =>
    simp only [numbers, numbersBy, List.reduceOption_mem_iff, List.mem_cons, List.not_mem_nil,
      or_false] at hn
    rcases hn with hcount | hspan
    · exact hword hcount
    · exact hblock hspan
  | _ => cases hn

/-- The idle time that a claim sets, if it sets one, fits in 64 bits. -/
def SetsShortIdle (draft : Draft) : Prop :=
  ∀ span, draft.idle? = some span → span.wholeMilliseconds < UInt64.size

theorem numbersBy_of_setsShortIdle (h : draft.SetsShortIdle) :
    draft.numbersBy Duration.wholeMilliseconds = draft.numbers := by
  cases draft with
  | claim key consumer options ids idsOnly =>
    have hidle : options.idle.map Duration.wholeMilliseconds =
        options.idle.map Duration.capped := by
      cases hspan : options.idle with
      | none => rfl
      | some span => exact congrArg some (Duration.capped_of_lt (h span hspan)).symm
    rw [numbers, numbersBy, numbersBy, hidle]
  | _ => rfl

theorem mem_numbersBy_of_idle {span : Duration} (h : draft.idle? = some span)
    (milliseconds : Duration → Nat) : milliseconds span ∈ draft.numbersBy milliseconds := by
  cases draft with
  | claim key consumer options ids idsOnly =>
    rw [numbersBy, List.reduceOption_mem_iff, show options.idle = some span from h]
    exact List.mem_cons_of_mem _ List.mem_cons_self
  | _ => cases h

/-- **Only the idle time that a claim sets can be too large.** Where a request has numbers, it has
canonical numerals. They are below `UInt64.size`, and those of the numbers that were asked for with
every span of time capped there, exactly if the request does not set an idle time whose whole
milliseconds do not fit. -/
theorem numerals_fit_iff (draft : Draft) (request : Request) (h : draft.request = .ok request) :
    (∃ numbers : List Nat, request.numerals = numbers.map Decimal.write) ∧
    (∀ n ∈ draft.numbers, n < UInt64.size) ∧
    (request.NumeralsFit ↔ draft.SetsShortIdle) ∧
    (request.numerals = draft.numbers.map Decimal.write ↔ draft.SetsShortIdle) := by
  have hnumerals := numerals_eq h
  have hcapped (hshort : draft.SetsShortIdle) :
      request.numerals = draft.numbers.map Decimal.write := by
    rw [hnumerals, numbersBy_of_setsShortIdle hshort]
  have hfit (hsame : request.numerals = draft.numbers.map Decimal.write) :
      request.NumeralsFit := by
    intro numeral hmem
    rw [hsame] at hmem
    obtain ⟨n, hn, rfl⟩ := List.mem_map.1 hmem
    exact ⟨n, draft.numbers_lt n hn, rfl⟩
  have hshort (hfits : request.NumeralsFit) : draft.SetsShortIdle := by
    intro span hspan
    have hmem : Decimal.write span.wholeMilliseconds ∈ request.numerals := by
      rw [hnumerals]
      exact List.mem_map_of_mem (mem_numbersBy_of_idle hspan _)
    obtain ⟨n, hn, hsame⟩ := hfits _ hmem
    rwa [Decimal.write_inj.1 hsame]
  exact ⟨⟨_, hnumerals⟩, draft.numbers_lt, ⟨hshort, fun h => hfit (hcapped h)⟩,
    ⟨fun h => hshort (hfit h), hcapped⟩⟩

/-- The longest span to claim from, and the longest idle time to set that fits. -/
theorem numerals_fit_iff_longest :
    let draft : Draft := .claim "IDLE" ⟨"g", "COUNT"⟩
      { minIdle := .longest, idle := some ⟨18446744073709551615999999, by decide⟩,
        retryCount := some 7 } [⟨1, 0⟩] false
    ∃ request, draft.request = .ok request ∧ request.NumeralsFit ∧ request.numerals =
      [18446744073709551615, 18446744073709551615, 7].map Decimal.write := by
  intro draft
  obtain ⟨-, -, hfit, hnumerals⟩ := numerals_fit_iff draft _ rfl
  have hshort : draft.SetsShortIdle := by
    intro span hspan
    obtain rfl := Option.some.inj hspan
    decide
  exact ⟨_, rfl, hfit.2 hshort, hnumerals.2 hshort⟩

/-- A claim that sets the longest idle time sends its milliseconds in full. -/
theorem idle_numeral_too_large :
    let draft : Draft := .claim "k" ⟨"g", "c"⟩ { idle := some .longest } [⟨1, 0⟩] false
    ∃ request, draft.request = .ok request ∧
      request.numerals = [0, 18446744073709551615999].map Decimal.write ∧
      ¬ request.NumeralsFit := by
  intro draft
  have hnumerals := numerals_eq (show draft.request = .ok _ from rfl)
  refine ⟨_, rfl, hnumerals, fun hfits => ?_⟩
  obtain ⟨n, hn, hsame⟩ := hfits (Decimal.write 18446744073709551615999) (by rw [hnumerals]; decide)
  rw [← Decimal.write_inj.1 hsame] at hn
  exact absurd hn (by decide)

end Draft

end AppendLog
