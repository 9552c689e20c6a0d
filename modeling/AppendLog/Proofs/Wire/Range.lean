import AppendLog.Proofs.EntryId.Grammar
import AppendLog.Proofs.Wire.Clause
import AppendLog.Proofs.Wire.Draft

/-!
# Ranges that come back from the wire

A range is sent as two words, one for each end, in three commands: the entries of the range in
either direction, and the pending entries within it. `Bound.Spells` is the grammar of these words,
and `Range.parse_eq_ok_iff` says that nothing else is read. `RangeTerms.ofTokens?` and
`PendingTerms.ofTokens?` read the requests from the left as a server does, the ends by where they
stand; `Range.keeps_meaning` says that each request gives back the range, and whatever else it asks
for.
-/

namespace AppendLog

/-! ## Words for bounds -/

namespace Bound

/-- The texts of a bound, where `symbol` stands for no bound: the symbol alone, or a text of an id,
with one opening parenthesis in front where the bound is exclusive. -/
inductive Spells (symbol : String) : Bound → String → Prop where
  | unbounded : Spells symbol unbounded symbol
  | included {id : EntryId} {text : String} (h : EntryId.Spells id text.toList) :
      Spells symbol (included id) text
  | excluded {id : EntryId} {text : String} (h : EntryId.Spells id text.toList) :
      Spells symbol (excluded id) ("(" ++ text)

variable {symbol given : String} {bound : Bound}

theorem spells_of_parse (h : parse symbol given = .ok bound) : Spells symbol bound given := by
  rw [parse] at h
  split at h
  · next hsymbol =>
    obtain rfl := Except.ok.inj h
    rw [hsymbol]
    exact .unbounded
  · split at h
    · next rest hgiven =>
      obtain ⟨id, hid, rfl⟩ := exists_of_map_eq_ok h
      have htext : given = "(" ++ String.ofList rest := by
        apply String.toList_inj.1
        simp [hgiven]
      rw [htext]
      exact .excluded (EntryId.parse_eq_ok_iff_spells.1 hid)
    · obtain ⟨id, hid, rfl⟩ := exists_of_map_eq_ok h
      exact .included (EntryId.parse_eq_ok_iff_spells.1 hid)

/-- A text of an id begins with a digit, so it is neither the symbol nor taken for exclusive. -/
theorem parse_of_spells {mark : Char} (hsymbol : symbol.toList = [mark])
    (hdigit : mark.isDigit = false) (hmark : mark ≠ '(') (h : Spells symbol bound given) :
    parse symbol given = .ok bound := by
  cases h with
  | unbounded => rw [parse, if_pos rfl]
  | @included id _ h =>
    have hid := EntryId.parse_eq_ok_iff_spells.2 h
    have hne : given ≠ symbol := by
      rintro rfl
      exact EntryId.parse_ne_ok_of_mark hsymbol hdigit id hid
    rw [parse, if_neg hne]
    split
    · next hgiven => exact absurd hid (EntryId.parse_ne_ok_of_mark hgiven rfl id)
    · rw [hid]
      rfl
  | @excluded id text h =>
    have hid := EntryId.parse_eq_ok_iff_spells.2 h
    have hgiven : ("(" ++ text).toList = '(' :: text.toList := by simp
    have hne : "(" ++ text ≠ symbol := by
      intro hsame
      rw [hsame, hsymbol] at hgiven
      exact hmark (List.cons.inj hgiven).1
    rw [parse, if_neg hne, hgiven]
    simp only [String.ofList_toList, hid]
    rfl

end Bound

namespace Range

/-- Two words are read as a range exactly when each is a word for its end. -/
theorem parse_eq_ok_iff {lower upper : String} {range : Range} :
    parse lower upper = .ok range ↔
      Bound.Spells "-" range.lower lower ∧ Bound.Spells "+" range.upper upper := by
  constructor
  · intro h
    obtain ⟨low, hlow, h⟩ := exists_of_bind_eq_ok h
    obtain ⟨high, hhigh, h⟩ := exists_of_bind_eq_ok h
    obtain rfl := Except.ok.inj h
    exact ⟨Bound.spells_of_parse hlow, Bound.spells_of_parse hhigh⟩
  · rintro ⟨hlower, hupper⟩
    have hlow : Bound.parse "-" lower = .ok range.lower :=
      Bound.parse_of_spells (show "-".toList = ['-'] from rfl) rfl (by decide) hlower
    have hhigh : Bound.parse "+" upper = .ok range.upper :=
      Bound.parse_of_spells (show "+".toList = ['+'] from rfl) rfl (by decide) hupper
    rw [parse, hlow, hhigh]
    rfl

theorem exists_parse_iff {lower upper : String} : (∃ range, parse lower upper = .ok range) ↔
    (∃ bound, Bound.Spells "-" bound lower) ∧ ∃ bound, Bound.Spells "+" bound upper := by
  simp only [parse_eq_ok_iff]
  constructor
  · rintro ⟨range, hlower, hupper⟩
    exact ⟨⟨_, hlower⟩, _, hupper⟩
  · rintro ⟨⟨low, hlow⟩, high, hhigh⟩
    exact ⟨⟨low, high⟩, hlow, hhigh⟩

end Range

/-! ## Requests for a range -/

/-- The number of a limit, if it is one of 64 bits. -/
def Limit.ofNumber? : Option Nat → Option Limit
  | none => some .unlimited
  | some n => if n < UInt64.size then some (.atMost (UInt64.ofNat n)) else none

@[simp] theorem Limit.ofNumber?_count? (limit : Limit) :
    ofNumber? (limit.count?.map UInt64.toNat) = some limit := by
  cases limit with
  | unlimited => rfl
  | atMost count =>
    have hcount : count.toNat < UInt64.size := count.toNat_lt
    simp [count?, ofNumber?, hcount]

/-- What a request for the entries of a range asks a server for. -/
structure RangeTerms where
  key : String
  descending : Bool
  range : Range
  limit : Limit
  deriving DecidableEq

namespace RangeTerms

/-- Read the words of the two ends and the limit, behind which nothing may stand. -/
def readEnds? (key : String) (descending : Bool) (lower upper : String) (words : List String) :
    Option RangeTerms := do
  let range ← (Range.parse lower upper).toOption
  let (count, words) ← Clause.takeNumber? "COUNT" words
  let limit ← Limit.ofNumber? count
  if words = [] then some ⟨key, descending, range, limit⟩ else none

/-- Read the words of a request for a range from the left. Where it descends, the upper end stands
first. -/
def ofWords? : List String → Option RangeTerms
  | "XRANGE" :: key :: lower :: upper :: words => readEnds? key false lower upper words
  | "XREVRANGE" :: key :: upper :: lower :: words => readEnds? key true lower upper words
  | _ => none

def ofTokens? (tokens : List Token) : Option RangeTerms :=
  (tokens.mapM String.fromUTF8?).bind ofWords?

/-- The words for a limit: none where there is no limit. -/
def limitWords (limit : Limit) : List String :=
  Clause.number "COUNT" (limit.count?.map UInt64.toNat)

theorem limitWords_eq_nil_iff {limit : Limit} : limitWords limit = [] ↔ limit = .unlimited := by
  cases limit <;> simp [limitWords, Limit.count?, Clause.number]

theorem readEnds?_text (key : String) (descending : Bool) (range : Range) (limit : Limit) :
    readEnds? key descending range.lowerText range.upperText (limitWords limit) =
      some ⟨key, descending, range, limit⟩ := by
  have hclause : Clause.takeNumber? "COUNT" (limitWords limit) =
      some (limit.count?.map UInt64.toNat, []) := by
    have h := Clause.takeNumber?_number (limit.count?.map UInt64.toNat)
      (Clause.next_nil (· ≠ "COUNT"))
    rwa [List.append_nil] at h
  simp [readEnds?, range.parse_text, Except.toOption, hclause]

/-- The tokens of a request for a range are the words of its name, its key, the ends and the
limit. -/
theorem tokens_range (key : String) (range : Range) (limit : Limit) :
    (Request.range key range limit).tokens =
      ("XRANGE" :: key :: range.lowerText :: range.upperText :: limitWords limit).map
        String.toUTF8 := rfl

theorem tokens_reverseRange (key : String) (range : Range) (limit : Limit) :
    (Request.reverseRange key range limit).tokens =
      ("XREVRANGE" :: key :: range.upperText :: range.lowerText :: limitWords limit).map
        String.toUTF8 := rfl

theorem ofTokens?_range (key : String) (range : Range) (limit : Limit) :
    ofTokens? (Request.range key range limit).tokens = some ⟨key, false, range, limit⟩ := by
  rw [tokens_range, ofTokens?, mapM_fromUTF8?_toUTF8]
  exact readEnds?_text key false range limit

theorem ofTokens?_reverseRange (key : String) (range : Range) (limit : Limit) :
    ofTokens? (Request.reverseRange key range limit).tokens = some ⟨key, true, range, limit⟩ := by
  rw [tokens_reverseRange, ofTokens?, mapM_fromUTF8?_toUTF8]
  exact readEnds?_text key true range limit

end RangeTerms

/-! ## Requests for pending entries -/

/-- The number that a limit is sent as where the server insists on one: the largest that a signed
integer of 64 bits holds where there is no limit. -/
def Limit.pendingCount : Limit → Nat
  | unlimited => 0x7fffffffffffffff
  | atMost count => count.toNat

theorem Limit.toNat_getD_unlimitedPending (limit : Limit) :
    (limit.count?.getD Request.unlimitedPending).toNat = limit.pendingCount := by
  cases limit with
  | unlimited => decide
  | atMost count => rfl

/-- What a request about pending entries asks a server for. -/
inductive PendingTerms where
  | overview (key group : String)
  /-- Pending entries one by one, of one consumer if one is given. -/
  | list (key group : String) (consumer : Option String) (range : Range) (count : Nat)
  deriving DecidableEq

namespace PendingTerms

/-- Read the words behind the count: the name of a consumer, or none. -/
def readConsumer? : List String → Option (Option String)
  | [] => some none
  | [consumer] => some (some consumer)
  | _ => none

/-- Read the words of a request about pending entries from the left. Nothing behind the group asks
for an overview. -/
def ofWords? : List String → Option PendingTerms
  | ["XPENDING", key, group] => some (.overview key group)
  | "XPENDING" :: key :: group :: lower :: upper :: count :: words => do
    let range ← (Range.parse lower upper).toOption
    let count ← Decimal.number? count.toList
    return .list key group (← readConsumer? words) range count
  | _ => none

def ofTokens? (tokens : List Token) : Option PendingTerms :=
  (tokens.mapM String.fromUTF8?).bind ofWords?

theorem readConsumer?_toList (consumer : Option String) :
    readConsumer? consumer.toList = some consumer := by
  cases consumer <;> rfl

variable {key group : String} {consumer : Option String} {range : Range} {limit : Limit}
  {sent : Request}

theorem tokens_of_pendingList (h : Request.pendingList key group consumer range limit = .ok sent) :
    sent.tokens = ("XPENDING" :: key :: group :: range.lowerText :: range.upperText ::
      Decimal.write limit.pendingCount :: consumer.toList).map String.toUTF8 := by
  let draft : Draft := .pendingList key group consumer range limit
  rw [Draft.request_eq (show draft.request = .ok sent from h), ← limit.toNat_getD_unlimitedPending]
  simp [draft, Draft.command, Draft.words, Draft.body, Request.tokens, Command.words]

theorem ofTokens?_pendingList
    (h : Request.pendingList key group consumer range limit = .ok sent) :
    ofTokens? sent.tokens = some (.list key group consumer range limit.pendingCount) := by
  rw [tokens_of_pendingList h, ofTokens?, mapM_fromUTF8?_toUTF8]
  simp only [ofWords?, range.parse_text, Except.toOption,
    Decimal.number?_write, readConsumer?_toList, Bind.bind, Option.bind]
  rfl

theorem ofTokens?_pendingOverview (h : Request.pendingOverview key group = .ok sent) :
    ofTokens? sent.tokens = some (.overview key group) := by
  have htokens : sent.tokens = ["XPENDING", key, group].map String.toUTF8 := by
    let draft : Draft := .pendingOverview key group
    rw [Draft.request_eq (show draft.request = .ok sent from h)]
    rfl
  rw [htokens, ofTokens?, mapM_fromUTF8?_toUTF8]
  rfl

theorem exists_pendingList (hgroup : group ≠ "") :
    ∃ sent, Request.pendingList key group consumer range limit = .ok sent :=
  ⟨_, if_neg hgroup⟩

/-- The pending entries one by one are never asked for by a request for their overview. -/
theorem pendingList_ne_overview {key' group' : String} {sent' : Request}
    (h : Request.pendingList key group consumer range limit = .ok sent)
    (h' : Request.pendingOverview key' group' = .ok sent') : sent ≠ sent' := by
  rintro rfl
  have hlist := ofTokens?_pendingList h
  rw [ofTokens?_pendingOverview h'] at hlist
  cases hlist

end PendingTerms

/-! ## One range in all requests -/

/-- **A range keeps its meaning in every command.** The two words for a range are read as that
range, and nothing is read but a word for each end: the mark of no bound, or a text of an id with at
most one parenthesis in front. The same two words stand in each request about a range, trading
places where it descends. Read by their places they give back the range, and the other words what
else was asked for: the limit, for which no words stand where there is none, or the group, the
consumer if there is one, and the count, which is `2 ^ 63 - 1` where there is no limit. A request
for pending entries one by one never equals one for their overview. -/
theorem Range.keeps_meaning :
    (∀ range : Range, Range.parse range.lowerText range.upperText = .ok range) ∧
    (∀ (lower upper : String) (range : Range), Range.parse lower upper = .ok range ↔
      Bound.Spells "-" range.lower lower ∧ Bound.Spells "+" range.upper upper) ∧
    (∀ lower upper, (∃ range, Range.parse lower upper = .ok range) ↔
      (∃ bound, Bound.Spells "-" bound lower) ∧ ∃ bound, Bound.Spells "+" bound upper) ∧
    (∀ (key : String) (range : Range) (limit : Limit),
      ∃ (lower upper : Token) (clause : List Token), (Request.range key range limit).tokens =
        "XRANGE".toUTF8 :: key.toUTF8 :: lower :: upper :: clause ∧
      (Request.reverseRange key range limit).tokens =
        "XREVRANGE".toUTF8 :: key.toUTF8 :: upper :: lower :: clause ∧
      (clause = [] ↔ limit = .unlimited) ∧
      ∀ (group : String) (consumer : Option String) (sent : Request),
        Request.pendingList key group consumer range limit = .ok sent →
        ∃ rest, sent.tokens =
          "XPENDING".toUTF8 :: key.toUTF8 :: group.toUTF8 :: lower :: upper :: rest) ∧
    (∀ (key : String) (range : Range) (limit : Limit),
      RangeTerms.ofTokens? (Request.range key range limit).tokens =
        some ⟨key, false, range, limit⟩ ∧
      RangeTerms.ofTokens? (Request.reverseRange key range limit).tokens =
        some ⟨key, true, range, limit⟩) ∧
    (∀ (key group : String) (consumer : Option String) (range : Range) (limit : Limit),
      group ≠ "" → ∃ sent, Request.pendingList key group consumer range limit = .ok sent ∧
        PendingTerms.ofTokens? sent.tokens =
          some (.list key group consumer range limit.pendingCount) ∧
        ∀ (key' group' : String) (sent' : Request),
          Request.pendingOverview key' group' = .ok sent' → sent ≠ sent') := by
  refine ⟨Range.parse_text, fun lower upper range => parse_eq_ok_iff,
    fun lower upper => exists_parse_iff, ?_, ?_, ?_⟩
  · intro key range limit
    refine ⟨range.lowerText.toUTF8, range.upperText.toUTF8,
      (RangeTerms.limitWords limit).map String.toUTF8, RangeTerms.tokens_range key range limit,
      RangeTerms.tokens_reverseRange key range limit, ?_, ?_⟩
    · rw [List.map_eq_nil_iff, RangeTerms.limitWords_eq_nil_iff]
    · intro group consumer sent hsent
      exact ⟨_, PendingTerms.tokens_of_pendingList hsent⟩
  · intro key range limit
    exact ⟨RangeTerms.ofTokens?_range key range limit,
      RangeTerms.ofTokens?_reverseRange key range limit⟩
  · intro key group consumer range limit hgroup
    obtain ⟨sent, hsent⟩ := PendingTerms.exists_pendingList hgroup
    refine ⟨sent, hsent, PendingTerms.ofTokens?_pendingList hsent, ?_⟩
    intro key' group' sent' hsent'
    exact PendingTerms.pendingList_ne_overview hsent hsent'

/-- Names that are words of a request and of ends, and a consumer without a name. -/
theorem Range.keeps_meaning_odd_names :
    let range : Range := ⟨.excluded ⟨1, 2⟩, .unbounded⟩
    ∃ sent sent', Request.pendingList "-" "+" (some "") range .unlimited = .ok sent ∧
      PendingTerms.ofTokens? sent.tokens =
        some (.list "-" "+" (some "") range 9223372036854775807) ∧
      Request.pendingOverview "-" "+" = .ok sent' ∧ sent ≠ sent' ∧
      RangeTerms.ofTokens? (Request.reverseRange "COUNT" range (.atMost 0)).tokens =
        some ⟨"COUNT", true, range, .atMost 0⟩ ∧
      ∃ lower upper rest, sent.tokens =
        "XPENDING".toUTF8 :: "-".toUTF8 :: "+".toUTF8 :: lower :: upper :: rest := by
  intro range
  obtain ⟨-, -, -, hends, hranges, hpending⟩ := keeps_meaning
  obtain ⟨sent, hsent, hread, hother⟩ :=
    hpending "-" "+" (some "") range .unlimited (by decide)
  obtain ⟨lower, upper, _, -, -, -, hsame⟩ := hends "-" range .unlimited
  obtain ⟨rest, hrest⟩ := hsame "+" (some "") sent hsent
  exact ⟨sent, _, hsent, hread, rfl, hother "-" "+" _ rfl, (hranges "COUNT" range (.atMost 0)).2,
    lower, upper, rest, hrest⟩

end AppendLog
