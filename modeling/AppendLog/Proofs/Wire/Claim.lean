import AppendLog.Proofs.Wire.Clause
import AppendLog.Proofs.Wire.Draft

/-!
# Claims that come back from the wire

What a claim asks for is in its tokens and in nothing else. `ClaimTerms.ofTokens?` reads it off them
from the left as a server does: the names and the idle time by their places, then ids for as long as
there are any, then the options. The ids end where the options begin, since no word of an option can
be read as an id; the numbers of the options could be, but each stands behind its word.
-/

namespace AppendLog

/-! ## Ids -/

namespace EntryId

/-- Take as many ids as there are. -/
def takeAll : List String → List EntryId × List String
  | [] => ([], [])
  | word :: rest =>
    match parse word with
    | .ok id => (id :: (takeAll rest).1, (takeAll rest).2)
    | .error _ => ([], word :: rest)

/-- A word that cannot be read as an id. -/
def IsForeign (word : String) : Prop := ∀ id, parse word ≠ .ok id

theorem takeAll_of_foreign {words : List String} (h : Clause.Next IsForeign words) :
    takeAll words = ([], words) := by
  cases words with
  | nil => rfl
  | cons word rest =>
    rw [takeAll]
    cases hword : parse word with
    | ok id => exact absurd hword (h word rfl id)
    | error fault => rfl

/-- The ids are taken in their order, and nothing behind them is. -/
theorem takeAll_texts (ids : List EntryId) {words : List String}
    (h : Clause.Next IsForeign words) : takeAll (ids.map text ++ words) = (ids, words) := by
  induction ids with
  | nil => exact takeAll_of_foreign h
  | cons id rest ih => rw [List.map_cons, List.cons_append, takeAll, parse_text, ih]

end EntryId

/-! ## What a claim asks for -/

/-- What a claim asks a server for. -/
structure ClaimTerms where
  key : String
  consumer : Consumer
  /-- The milliseconds that an entry must have been idle. -/
  minIdle : Nat
  ids : List EntryId
  /-- The milliseconds of idle time to set. -/
  idle : Option Nat
  time : Option Nat
  retryCount : Option Nat
  force : Bool
  idsOnly : Bool
  deriving DecidableEq

namespace ClaimTerms

/-- The words behind the ids. -/
def optionWords (terms : ClaimTerms) : List String :=
  Clause.number "IDLE" terms.idle ++ (Clause.number "TIME" terms.time ++
    (Clause.number "RETRYCOUNT" terms.retryCount ++ (Clause.flag "FORCE" terms.force ++
      (Clause.flag "JUSTID" terms.idsOnly ++ []))))

/-- The words of a claim in full. -/
def words (terms : ClaimTerms) : List String :=
  "XCLAIM" :: terms.key :: terms.consumer.group :: terms.consumer.name ::
    Decimal.write terms.minIdle :: (terms.ids.map EntryId.text ++ terms.optionWords)

/-- Read the options of a claim, behind which nothing may stand. -/
def readOptions? (key : String) (consumer : Consumer) (minIdle : Nat) (ids : List EntryId)
    (words : List String) : Option ClaimTerms := do
  let (idle, words) ← Clause.takeNumber? "IDLE" words
  let (time, words) ← Clause.takeNumber? "TIME" words
  let (retryCount, words) ← Clause.takeNumber? "RETRYCOUNT" words
  let (force, words) := Clause.takeFlag "FORCE" words
  let (idsOnly, words) := Clause.takeFlag "JUSTID" words
  if words = [] then some ⟨key, consumer, minIdle, ids, idle, time, retryCount, force, idsOnly⟩
  else none

/-- Read the words of a claim from the left. -/
def ofWords? : List String → Option ClaimTerms
  | "XCLAIM" :: key :: group :: name :: words => do
    let (minIdle, words) ← Clause.takeNumeral? words
    let (ids, words) := EntryId.takeAll words
    readOptions? key ⟨group, name⟩ minIdle ids words
  | _ => none

/-- Read the tokens of a claim from the left. -/
def ofTokens? (tokens : List Token) : Option ClaimTerms :=
  (tokens.mapM String.fromUTF8?).bind ofWords?

/-! ### Reading back -/

theorem readOptions?_optionWords (terms : ClaimTerms) :
    readOptions? terms.key terms.consumer terms.minIdle terms.ids terms.optionWords =
      some terms := by
  obtain ⟨key, consumer, minIdle, ids, idle, time, retryCount, force, idsOnly⟩ := terms
  -- What is behind a clause begins with the word of a later one, and no two are the same.
  have hjustId : Clause.Absent "JUSTID" [] := Clause.next_nil _
  have hforce : Clause.Absent "FORCE" (Clause.flag "JUSTID" idsOnly ++ []) :=
    Clause.next_flag (by decide) _ (Clause.next_nil _)
  have hretryCount : Clause.Absent "RETRYCOUNT"
      (Clause.flag "FORCE" force ++ (Clause.flag "JUSTID" idsOnly ++ [])) :=
    Clause.next_flag (by decide) _ (Clause.next_flag (by decide) _ (Clause.next_nil _))
  have htime : Clause.Absent "TIME" (Clause.number "RETRYCOUNT" retryCount ++
      (Clause.flag "FORCE" force ++ (Clause.flag "JUSTID" idsOnly ++ []))) :=
    Clause.next_number (by decide) _ (Clause.next_flag (by decide) _
      (Clause.next_flag (by decide) _ (Clause.next_nil _)))
  have hidle : Clause.Absent "IDLE" (Clause.number "TIME" time ++
      (Clause.number "RETRYCOUNT" retryCount ++
        (Clause.flag "FORCE" force ++ (Clause.flag "JUSTID" idsOnly ++ [])))) :=
    Clause.next_number (by decide) _ (Clause.next_number (by decide) _
      (Clause.next_flag (by decide) _ (Clause.next_flag (by decide) _ (Clause.next_nil _))))
  simp only [readOptions?, optionWords, Bind.bind, Option.bind,
    Clause.takeNumber?_number _ hidle, Clause.takeNumber?_number _ htime,
    Clause.takeNumber?_number _ hretryCount, Clause.takeFlag_flag _ hforce,
    Clause.takeFlag_flag _ hjustId, if_true]

/-- No option is taken for an id: what comes behind the ids is a word that begins with a letter. -/
theorem foreign_optionWords (terms : ClaimTerms) :
    Clause.Next EntryId.IsForeign terms.optionWords := by
  have hletter {word : String} {letter : Char} {rest : List Char}
      (hs : word.toList = letter :: rest) (hm : letter.isDigit = false) :
      EntryId.IsForeign word := EntryId.parse_ne_ok_of_mark hs hm
  apply Clause.next_number (hletter (show "IDLE".toList = 'I' :: _ from rfl) rfl)
  apply Clause.next_number (hletter (show "TIME".toList = 'T' :: _ from rfl) rfl)
  apply Clause.next_number (hletter (show "RETRYCOUNT".toList = 'R' :: _ from rfl) rfl)
  apply Clause.next_flag (hletter (show "FORCE".toList = 'F' :: _ from rfl) rfl)
  apply Clause.next_flag (hletter (show "JUSTID".toList = 'J' :: _ from rfl) rfl)
  exact Clause.next_nil _

theorem ofWords?_words (terms : ClaimTerms) : ofWords? terms.words = some terms := by
  simp only [words, ofWords?, Bind.bind, Option.bind, Clause.takeNumeral?_write,
    EntryId.takeAll_texts terms.ids (foreign_optionWords terms)]
  exact readOptions?_optionWords terms

theorem ofTokens?_words (terms : ClaimTerms) :
    ofTokens? (terms.words.map String.toUTF8) = some terms := by
  rw [ofTokens?, mapM_fromUTF8?_toUTF8]
  exact ofWords?_words terms

end ClaimTerms

/-! ## Requests of claims -/

/-- A claim with its arguments, of entries or of their ids only. -/
structure Claiming where
  key : String
  consumer : Consumer
  options : ClaimOptions
  ids : List EntryId
  idsOnly : Bool

namespace Claiming

/-- The request of a claim, refused when it is of no ids. -/
def request (claiming : Claiming) : Except Fault Request :=
  Request.claim claiming.key claiming.consumer claiming.options claiming.ids claiming.idsOnly

/-- What a claim asks for. Spans of time are sent in whole milliseconds; the idle time to claim from
is no more than 64 bits hold. -/
def terms (claiming : Claiming) : ClaimTerms where
  key := claiming.key
  consumer := claiming.consumer
  minIdle := min (claiming.options.minIdle.nanoseconds / 1000000) (UInt64.size - 1)
  ids := claiming.ids
  idle := claiming.options.idle.map fun span => span.nanoseconds / 1000000
  time := claiming.options.time.map UInt64.toNat
  retryCount := claiming.options.retryCount.map UInt64.toNat
  force := claiming.options.force
  idsOnly := claiming.idsOnly

theorem optionWords_terms (claiming : Claiming) : claiming.terms.optionWords =
    claiming.options.words ++ Clause.flag "JUSTID" claiming.idsOnly := by
  simp only [ClaimTerms.optionWords, ClaimOptions.words, List.append_nil, List.append_assoc]
  rfl

/-- The tokens of a claim are the words of its terms. -/
theorem tokens_of_request {claiming : Claiming} {request : Request}
    (h : claiming.request = .ok request) :
    request.tokens = claiming.terms.words.map String.toUTF8 := by
  have hminIdle : claiming.options.minIdle.milliseconds.toNat = claiming.terms.minIdle :=
    Duration.toNat_milliseconds _
  let draft : Draft :=
    .claim claiming.key claiming.consumer claiming.options claiming.ids claiming.idsOnly
  rw [Draft.request_eq (show draft.request = .ok request from h)]
  simp only [draft, Draft.command, Draft.words, Draft.body, hminIdle, Request.tokens,
    Command.words, ClaimTerms.words, optionWords_terms, List.append_nil]
  rfl

theorem exists_request {claiming : Claiming} (h : claiming.ids ≠ []) :
    ∃ request, claiming.request = .ok request := by
  have hsome : claiming.ids.isEmpty = false := by simpa using h
  rw [Claiming.request, Request.claim, hsome]
  exact ⟨_, rfl⟩

theorem ofTokens?_request {claiming : Claiming} {request : Request}
    (h : claiming.request = .ok request) :
    ClaimTerms.ofTokens? request.tokens = some claiming.terms := by
  rw [tokens_of_request h, ClaimTerms.ofTokens?_words]

/-- **A claim says what it asks for, and nothing else.** A claim of at least one id has a request,
and read from the left its tokens give back all that it asks for. So two claims have the same tokens
exactly when they ask for the same, and one for ids only never has the tokens of one for entries. -/
theorem told_apart (claiming : Claiming) (h : claiming.ids ≠ []) :
    ∃ request, claiming.request = .ok request ∧
      ClaimTerms.ofTokens? request.tokens = some claiming.terms ∧
      ∀ (other : Claiming) (request' : Request), other.request = .ok request' →
        (request'.tokens = request.tokens ↔ other.terms = claiming.terms) ∧
        (other.idsOnly ≠ claiming.idsOnly → request'.tokens ≠ request.tokens) := by
  obtain ⟨request, hrequest⟩ := exists_request h
  have hread := ofTokens?_request hrequest
  refine ⟨request, hrequest, hread, ?_⟩
  intro other request' hother
  have hterms (htokens : request'.tokens = request.tokens) : other.terms = claiming.terms := by
    rw [← htokens, tokens_of_request hother, ClaimTerms.ofTokens?_words] at hread
    exact Option.some.inj hread
  refine ⟨⟨hterms, fun hsame => ?_⟩, fun hdiffer htokens => ?_⟩
  · rw [tokens_of_request hrequest, tokens_of_request hother, hsame]
  · exact hdiffer (congrArg ClaimTerms.idsOnly (hterms htokens))

/-- Names that are words of options, a number of an option that could be an id, and the longest span
of time, which the idle time to claim from does not hold. -/
theorem told_apart_like_options :
    let claiming : Claiming := ⟨"IDLE", ⟨"1-0", "FORCE"⟩,
      { minIdle := .longest, idle := some .longest, retryCount := some 7 }, [⟨2, 0⟩, ⟨1, 0⟩], false⟩
    let idsOnly : Claiming := { claiming with idsOnly := true }
    claiming.ids ≠ [] ∧ ∃ request request', claiming.request = .ok request ∧
      ClaimTerms.ofTokens? request.tokens = some ⟨"IDLE", ⟨"1-0", "FORCE"⟩, 18446744073709551615,
        [⟨2, 0⟩, ⟨1, 0⟩], some 18446744073709551615999, none, some 7, false, false⟩ ∧
      idsOnly.request = .ok request' ∧ request'.tokens ≠ request.tokens := by
  intro claiming idsOnly
  have hids : claiming.ids ≠ [] := nofun
  obtain ⟨request, hrequest, hread, hother⟩ := told_apart claiming hids
  obtain ⟨request', hrequest', -, -⟩ := told_apart idsOnly nofun
  have hterms : claiming.terms = ⟨"IDLE", ⟨"1-0", "FORCE"⟩, 18446744073709551615, [⟨2, 0⟩, ⟨1, 0⟩],
      some 18446744073709551615999, none, some 7, false, false⟩ := by decide
  rw [hterms] at hread
  exact ⟨hids, request, request', hrequest, hread, hrequest', (hother _ _ hrequest').2 nofun⟩

end Claiming

end AppendLog
