import AppendLog.Proofs.Operation.Deadline
import AppendLog.Proofs.Wire.Clause

/-!
# Reads that come back from the wire

What a read asks for is in its tokens and in nothing else. `ReadTerms.ofTokens?` reads it off them
from the left as a server does: the consumer of a group, the optional clauses, and behind the word
for the streams an even number of words, the keys first and then as many positions. The names are
the caller's and may be any words; they are told from the words of the request by where they stand.
-/

namespace AppendLog

/-! ## Where a stream is read from -/

/-- Where a stream is read from, as it is sent. -/
inductive Start where
  | latest
  | undelivered
  | after (id : EntryId)
  deriving DecidableEq

namespace Start

def text : Start → String
  | latest => "$"
  | undelivered => ">"
  | after id => id.text

def parse? (given : String) : Option Start :=
  if given = "$" then some latest
  else if given = ">" then some undelivered
  else
    match EntryId.parse given with
    | .ok id => some (after id)
    | .error _ => none

@[simp] theorem parse?_text (start : Start) : parse? start.text = some start := by
  cases start with
  | latest => rfl
  | undelivered => rfl
  | after id =>
    have hlatest : id.text ≠ "$" := EntryId.text_ne_of_mark (show "$".toList = ['$'] from rfl) rfl
    have hnever : id.text ≠ ">" := EntryId.text_ne_of_mark (show ">".toList = ['>'] from rfl) rfl
    rw [text, parse?, if_neg hlatest, if_neg hnever, EntryId.parse_text]

end Start

/-- The beginning of a stream is the place after the least id. -/
def Position.start : Position → Start
  | beginning => .after .least
  | latest => .latest
  | after id => .after id

@[simp] theorem Position.text_start (position : Position) : position.start.text = position.text := by
  cases position <;> rfl

def GroupPosition.start : GroupPosition → Start
  | undelivered => .undelivered
  | pendingAfter id => .after id

@[simp] theorem GroupPosition.text_start (position : GroupPosition) :
    position.start.text = position.text := by
  cases position <;> rfl

/-! ## What a read asks for -/

/-- What a read asks a server for. -/
structure ReadTerms where
  /-- The consumer of a group that reads, if one does. -/
  consumer : Option Consumer
  count : Option Nat
  /-- The milliseconds to wait, zero for any time. -/
  block : Option Nat
  noAck : Bool
  /-- The keys of the streams, each with where it is read from. -/
  streams : List (String × Start)
  deriving DecidableEq

namespace ReadTerms

/-- The words in front of the clauses: the name of the command, and the consumer. -/
def opening : Option Consumer → List String
  | none => ["XREAD"]
  | some consumer => ["XREADGROUP", "GROUP", consumer.group, consumer.name]

/-- The words of a read in full. -/
def words (terms : ReadTerms) : List String :=
  opening terms.consumer ++ (Clause.number "COUNT" terms.count ++
    (Clause.number "BLOCK" terms.block ++ (Clause.flag "NOACK" terms.noAck ++
      "STREAMS" :: (terms.streams.map Prod.fst ++ terms.streams.map fun stream => stream.2.text))))

/-- Read keys and as many positions, the first half of the words and the second. -/
def readStreams? (words : List String) : Option (List (String × Start)) :=
  if words.length % 2 = 0 then do
    let starts ← (words.drop (words.length / 2)).mapM Start.parse?
    return (words.take (words.length / 2)).zip starts
  else none

/-- Read the clauses and the streams. -/
def readClauses? (consumer : Option Consumer) (words : List String) : Option ReadTerms := do
  let (count, words) ← Clause.takeNumber? "COUNT" words
  let (block, words) ← Clause.takeNumber? "BLOCK" words
  let (noAck, words) := Clause.takeFlag "NOACK" words
  match words with
  | "STREAMS" :: words => return ⟨consumer, count, block, noAck, ← readStreams? words⟩
  | _ => none

/-- Read the words of a read from the left. -/
def ofWords? : List String → Option ReadTerms
  | "XREAD" :: words => readClauses? none words
  | "XREADGROUP" :: "GROUP" :: group :: name :: words => readClauses? (some ⟨group, name⟩) words
  | _ => none

/-- Read the tokens of a read from the left. -/
def ofTokens? (tokens : List Token) : Option ReadTerms :=
  (tokens.mapM String.fromUTF8?).bind ofWords?

/-! ### Reading back -/

theorem mapM_parse?_text (streams : List (String × Start)) :
    (streams.map fun stream => stream.2.text).mapM Start.parse? = some (streams.map Prod.snd) := by
  apply mapM_map_of_some
  intro stream
  exact Start.parse?_text stream.2

/-- The halves have equal lengths, so every position is paired with its own key. -/
theorem readStreams?_words (streams : List (String × Start)) :
    readStreams? (streams.map Prod.fst ++ streams.map fun stream => stream.2.text) =
      some streams := by
  have hlength : (streams.map Prod.fst ++ streams.map fun stream => stream.2.text).length =
      2 * (streams.map Prod.fst).length := by
    simp
    omega
  have hhalf : (2 * (streams.map Prod.fst).length) / 2 = (streams.map Prod.fst).length := by omega
  have hzip : (streams.map Prod.fst).zip (streams.map Prod.snd) = streams := by
    rw [List.zip_map', List.map_id']
  rw [readStreams?, hlength, if_pos (by omega), hhalf, List.drop_left, List.take_left,
    mapM_parse?_text]
  exact congrArg some hzip

theorem readClauses?_words (terms : ReadTerms) :
    readClauses? terms.consumer (Clause.number "COUNT" terms.count ++
      (Clause.number "BLOCK" terms.block ++ (Clause.flag "NOACK" terms.noAck ++
        "STREAMS" :: (terms.streams.map Prod.fst ++
          terms.streams.map fun stream => stream.2.text)))) = some terms := by
  -- What is behind a clause begins with the word of a later one, and no two are the same.
  have hnoAck (rest : List String) : Clause.Absent "NOACK" ("STREAMS" :: rest) :=
    Clause.absent_cons (by decide) rest
  have hblock (rest : List String) :
      Clause.Absent "BLOCK" (Clause.flag "NOACK" terms.noAck ++ "STREAMS" :: rest) :=
    Clause.next_flag (by decide) _ (Clause.absent_cons (by decide) rest)
  have hcount (rest : List String) : Clause.Absent "COUNT" (Clause.number "BLOCK" terms.block ++
      (Clause.flag "NOACK" terms.noAck ++ "STREAMS" :: rest)) :=
    Clause.next_number (by decide) _
      (Clause.next_flag (by decide) _ (Clause.absent_cons (by decide) rest))
  simp only [readClauses?, Bind.bind, Option.bind, Clause.takeNumber?_number _ (hcount _),
    Clause.takeNumber?_number _ (hblock _), Clause.takeFlag_flag _ (hnoAck _),
    readStreams?_words]
  rfl

theorem ofWords?_words (terms : ReadTerms) : ofWords? terms.words = some terms := by
  obtain ⟨consumer, count, block, noAck, streams⟩ := terms
  cases consumer with
  | none => exact readClauses?_words ⟨none, count, block, noAck, streams⟩
  | some consumer => exact readClauses?_words ⟨some consumer, count, block, noAck, streams⟩

theorem ofTokens?_words (terms : ReadTerms) :
    ofTokens? (terms.words.map String.toUTF8) = some terms := by
  rw [ofTokens?, mapM_fromUTF8?_toUTF8]
  exact ofWords?_words terms

/-! ### Terms of a read that is made -/

/-- The milliseconds that a span of time is sent as: zero for no time at all, and else the whole
milliseconds, but one at least and no more than 64 bits hold. -/
def blockTime (span : Duration) : Nat :=
  if span.nanoseconds = 0 then 0 else max 1 (min (span.nanoseconds / 1000000) (UInt64.size - 1))

theorem toNat_max_one (w : UInt64) : (max w 1).toNat = max 1 w.toNat := by
  change (if w ≤ 1 then 1 else w).toNat = max 1 w.toNat
  by_cases hone : w ≤ 1
  · have hless : w.toNat ≤ 1 := UInt64.le_iff_toNat_le.1 hone
    rw [if_pos hone, Nat.max_eq_left hless]
    rfl
  · have hmore : 1 < w.toNat := by
      rw [UInt64.le_iff_toNat_le] at hone
      exact Nat.not_le.1 hone
    rw [if_neg hone, Nat.max_eq_right (Nat.le_of_lt hmore)]

theorem toNat_blockMilliseconds (span : Duration) :
    span.blockMilliseconds.toNat = blockTime span := by
  by_cases hzero : span.nanoseconds = 0
  · rw [Duration.blockMilliseconds, blockTime, if_pos hzero, if_pos hzero]
    rfl
  · rw [Duration.blockMilliseconds, blockTime, if_neg hzero, if_neg hzero, toNat_max_one,
      Duration.toNat_milliseconds]
    rfl

/-- The terms of these options. -/
def ofOptions (consumer : Option Consumer) (options : ReadOptions)
    (streams : List (String × Start)) : ReadTerms where
  consumer
  count := options.count.map UInt64.toNat
  block := options.block.map blockTime
  noAck := options.noAck
  streams

theorem words_ofOptions (consumer : Option Consumer) (options : ReadOptions)
    (streams : List (String × Start)) : (ofOptions consumer options streams).words =
      opening consumer ++ (options.words ++
        Request.streamWords (streams.map fun (key, start) => (key, start.text))) := by
  have hblock : (options.block.map fun span => span.blockMilliseconds.toNat) =
      options.block.map blockTime := by
    simp only [toNat_blockMilliseconds]
  simp only [words, ofOptions, ReadOptions.words, Request.streamWords, hblock, List.append_assoc,
    List.cons_append, List.map_map]
  rfl

end ReadTerms

/-! ## Requests of reads -/

namespace OptionedRead

variable {read : OptionedRead} {request : Request}

/-- What a read asks for. -/
def terms : OptionedRead → ReadTerms
  | plain options streams =>
    .ofOptions none options (streams.map fun (key, position) => (key, position.start))
  | asConsumer consumer options streams =>
    .ofOptions (some consumer) options (streams.map fun (key, position) => (key, position.start))

/-- A read that breaks no rule: it names a stream, and only a consumer does without being asked for
acknowledgements. -/
def Admitted (read : OptionedRead) : Prop :=
  read.terms.streams ≠ [] ∧ (read.terms.consumer = none → read.terms.noAck = false)

theorem exists_request_iff : (∃ request, read.request = .ok request) ↔ read.Admitted := by
  cases read with
  | plain options streams =>
    simp only [OptionedRead.request, Request.read, Admitted, terms, ReadTerms.ofOptions]
    cases streams with
    | nil => simp
    | cons stream rest => cases options.noAck <;> simp
  | asConsumer consumer options streams =>
    simp only [OptionedRead.request, Request.readAsConsumer, Admitted, terms,
      ReadTerms.ofOptions]
    cases streams <;> simp

/-- The tokens of a read are the words of its terms. -/
theorem tokens_of_request (h : read.request = .ok request) :
    request.tokens = read.terms.words.map String.toUTF8 := by
  rw [Draft.request_eq (read.request_draft.trans h)]
  cases read with
  | plain options streams | asConsumer consumer options streams =>
    rw [terms, ReadTerms.words_ofOptions, List.map_map]
    simp [draft, Draft.command, Draft.words, Draft.body, Request.tokens, Command.words,
      ReadTerms.opening, Function.comp_def]

/-- **A read says what it asks for, and nothing else.** A read that breaks no rule has a request,
and read from the left its tokens give back all that it asks for, whatever its names are. So two
reads have the same tokens exactly when they ask for the same. -/
theorem uniquely_readable (read : OptionedRead) (h : read.Admitted) :
    ∃ request, read.request = .ok request ∧
      ReadTerms.ofTokens? request.tokens = some read.terms ∧
      ∀ (other : OptionedRead) (request' : Request), other.request = .ok request' →
        (request'.tokens = request.tokens ↔ other.terms = read.terms) := by
  obtain ⟨request, hrequest⟩ := exists_request_iff.2 h
  have hread : ReadTerms.ofTokens? request.tokens = some read.terms := by
    rw [tokens_of_request hrequest, ReadTerms.ofTokens?_words]
  refine ⟨request, hrequest, hread, ?_⟩
  intro other request' hother
  constructor
  · intro htokens
    rw [← htokens, tokens_of_request hother, ReadTerms.ofTokens?_words] at hread
    exact Option.some.inj hread
  · intro hterms
    rw [tokens_of_request hrequest, tokens_of_request hother, hterms]

/-- Names that are words of requests, and names that are empty or come twice. The beginning of a
stream is asked for as the place after the least id. -/
theorem uniquely_readable_odd_names :
    let group : OptionedRead := .asConsumer ⟨"STREAMS", ""⟩
      { block := some ⟨500000, by decide⟩, noAck := true }
      [("NOACK", .undelivered), ("", .pendingAfter ⟨5, 1⟩), ("NOACK", .undelivered)]
    let plain : OptionedRead := .plain { count := some 0 } [("0-0", .beginning), ("COUNT", .latest)]
    let other : OptionedRead := .plain { count := some 0 }
      [("0-0", .after .least), ("COUNT", .latest)]
    (group.Admitted ∧ ∃ request, group.request = .ok request ∧
      ReadTerms.ofTokens? request.tokens = some ⟨some ⟨"STREAMS", ""⟩, none, some 1, true,
        [("NOACK", .undelivered), ("", .after ⟨5, 1⟩), ("NOACK", .undelivered)]⟩) ∧
    plain.Admitted ∧ other.Admitted ∧ ∃ request request', plain.request = .ok request ∧
      other.request = .ok request' ∧ request'.tokens = request.tokens := by
  intro group plain other
  have hgroup : group.Admitted := ⟨nofun, nofun⟩
  have hplain : plain.Admitted := ⟨nofun, fun _ => rfl⟩
  have hother : other.Admitted := ⟨nofun, fun _ => rfl⟩
  have hterms : group.terms = ⟨some ⟨"STREAMS", ""⟩, none, some 1, true,
      [("NOACK", .undelivered), ("", .after ⟨5, 1⟩), ("NOACK", .undelivered)]⟩ := by decide
  obtain ⟨request, hrequest, hread, -⟩ := uniquely_readable group hgroup
  obtain ⟨first, hfirst, -, hsame⟩ := uniquely_readable plain hplain
  obtain ⟨second, hsecond⟩ := exists_request_iff.2 hother
  rw [hterms] at hread
  exact ⟨⟨hgroup, request, hrequest, hread⟩, hplain, hother, first, second, hfirst, hsecond,
    (hsame other second hsecond).2 rfl⟩

end OptionedRead

end AppendLog
