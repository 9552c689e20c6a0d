import AppendLog.Proofs.Wire.Append
import AppendLog.Proofs.Wire.Clause

/-!
# Appends that come back from the wire

What an append asks for is in its tokens and in nothing else. `AppendTerms.ofTokens?` reads it off
them from the left as a server does: the key, how to trim the stream if the word for it comes next,
the id or a star, and then names and values two by two to the end. Keys, names and values are the
caller's and may be any words; they are told from the words of the request by where they stand.
-/

namespace AppendLog

/-! ## What an append asks for -/

/-- How a stream is trimmed when an entry is appended. -/
structure Trimming where
  maxLength : Nat
  approximately : Bool
  deriving DecidableEq

/-- What an append asks a server for. -/
structure AppendTerms where
  key : String
  trimming : Option Trimming
  /-- The id of the new entry, if the server is not to assign one. -/
  id : Option EntryId
  pairs : List (String × ByteArray)

namespace AppendTerms

/-- Take a text, which must come next. -/
def takeText? : List Token → Option (String × List Token)
  | [] => none
  | token :: rest => (String.fromUTF8? token).map fun text => (text, rest)

/-- Take the count that ends the words for trimming. -/
def takeCount? (approximately : Bool) (tokens : List Token) : Option (Trimming × List Token) := do
  let (numeral, rest) ← takeText? tokens
  let n ← Decimal.number? numeral.toList
  return (⟨n, approximately⟩, rest)

/-- Take the words for trimming, if the first of them comes next. -/
def takeTrimming? (tokens : List Token) : Option (Option Trimming × List Token) := do
  let (word, rest) ← takeText? tokens
  if word = "MAXLEN" then
    let (mark, behind) ← takeText? rest
    let (trimming, rest) ← if mark = "~" then takeCount? true behind else takeCount? false rest
    return (some trimming, rest)
  else return (none, tokens)

/-- Take an id, or a star for none. -/
def takeId? (tokens : List Token) : Option (Option EntryId × List Token) := do
  let (word, rest) ← takeText? tokens
  if word = "*" then return (none, rest)
  else
    match EntryId.parse word with
    | .ok id => return (some id, rest)
    | .error _ => none

/-- Read names and values, two by two. A name without a value is refused. -/
def readPairs? : List Token → Option (List (String × ByteArray))
  | [] => some []
  | [_] => none
  | name :: value :: rest => do
    let name ← String.fromUTF8? name
    let pairs ← readPairs? rest
    return (name, value) :: pairs

/-- Read the tokens of an append from the left, to the end. -/
def ofTokens? (tokens : List Token) : Option AppendTerms := do
  let (command, tokens) ← takeText? tokens
  let (key, tokens) ← takeText? tokens
  let (trimming, tokens) ← takeTrimming? tokens
  let (id, tokens) ← takeId? tokens
  let pairs ← readPairs? tokens
  if command = "XADD" then some ⟨key, trimming, id, pairs⟩ else none

/-! ### Reading back -/

@[simp] theorem takeText?_toUTF8 (text : String) (rest : List Token) :
    takeText? (text.toUTF8 :: rest) = some (text, rest) := by
  rw [takeText?, fromUTF8?_toUTF8]
  rfl

theorem takeCount?_write (approximately : Bool) (n : Nat) (rest : List Token) :
    takeCount? approximately ((Decimal.write n).toUTF8 :: rest) =
      some (⟨n, approximately⟩, rest) := by
  simp only [takeCount?, takeText?_toUTF8, Bind.bind, Option.bind, Decimal.number?_write]
  rfl

theorem takeTrimming?_of_ne {word : String} (h : word ≠ "MAXLEN") (rest : List Token) :
    takeTrimming? (word.toUTF8 :: rest) = some (none, word.toUTF8 :: rest) := by
  simp only [takeTrimming?, takeText?_toUTF8, Bind.bind, Option.bind, if_neg h]
  rfl

/-- Behind the word for trimming and a tilde comes the count. -/
theorem takeTrimming?_of_tilde {word mark : String} (hword : word = "MAXLEN") (hmark : mark = "~")
    (n : Nat) (rest : List Token) :
    takeTrimming? (word.toUTF8 :: mark.toUTF8 :: (Decimal.write n).toUTF8 :: rest) =
      some (some ⟨n, true⟩, rest) := by
  simp only [takeTrimming?, takeText?_toUTF8, Bind.bind, Option.bind, if_pos hword, if_pos hmark,
    takeCount?_write]
  rfl

/-- Behind the word for trimming comes the count, which is no tilde. -/
theorem takeTrimming?_of_count {word : String} (hword : word = "MAXLEN") (n : Nat)
    (rest : List Token) :
    takeTrimming? (word.toUTF8 :: (Decimal.write n).toUTF8 :: rest) =
      some (some ⟨n, false⟩, rest) := by
  have hmark : Decimal.write n ≠ "~" := fun h =>
    Request.write_ne_tilde n (congrArg String.toUTF8 h)
  simp only [takeTrimming?, takeText?_toUTF8, Bind.bind, Option.bind, if_pos hword, if_neg hmark,
    takeCount?_write]
  rfl

theorem takeId?_of_eq {word : String} (h : word = "*") (rest : List Token) :
    takeId? (word.toUTF8 :: rest) = some (none, rest) := by
  simp only [takeId?, takeText?_toUTF8, Bind.bind, Option.bind, if_pos h]
  rfl

theorem takeId?_text (id : EntryId) (rest : List Token) :
    takeId? (id.text.toUTF8 :: rest) = some (some id, rest) := by
  have hstar : id.text ≠ "*" := EntryId.text_ne_of_mark (show "*".toList = ['*'] from rfl) rfl
  simp only [takeId?, takeText?_toUTF8, Bind.bind, Option.bind, if_neg hstar, EntryId.parse_text]
  rfl

theorem readPairs?_flatMap (pairs : List (String × ByteArray)) :
    readPairs? (pairs.flatMap fun (name, value) => [name.toUTF8, value]) = some pairs := by
  induction pairs with
  | nil => rfl
  | cons pair rest ih =>
    simp only [List.flatMap_cons, List.cons_append, List.nil_append, readPairs?,
      fromUTF8?_toUTF8, Bind.bind, Option.bind, ih]
    rfl

end AppendTerms

namespace AppendOptions

/-- How the stream is to be trimmed. The flag alone says nothing. -/
def trimming (options : AppendOptions) : Option Trimming :=
  options.maxLength.map fun n => ⟨n.toNat, options.approximately⟩

theorem trimming_eq_iff {a b : AppendOptions} : a.trimming = b.trimming ↔
    a.maxLength = b.maxLength ∧ (b.maxLength ≠ none → a.approximately = b.approximately) := by
  obtain ⟨id, maxLength, approximately⟩ := a
  obtain ⟨id', maxLength', approximately'⟩ := b
  cases maxLength <;> cases maxLength' <;> simp [trimming, UInt64.toNat_inj]

/-- The words for trimming say how to trim, and nothing else. -/
theorem trimWords_congr {a b : AppendOptions} (h : a.trimming = b.trimming) :
    a.trimWords = b.trimWords := by
  obtain ⟨hlength, happroximately⟩ := trimming_eq_iff.1 h
  unfold trimWords
  rw [hlength]
  cases hb : b.maxLength with
  | none => rfl
  | some n => rw [happroximately (by simp [hb])]

open AppendTerms in
/-- What comes behind the words for trimming is the id, which is none of them. -/
theorem takeTrimming?_trimWords (options : AppendOptions) (rest : List Token) :
    takeTrimming? (options.trimWords.map String.toUTF8 ++ options.idWord.toUTF8 :: rest) =
      some (options.trimming, options.idWord.toUTF8 :: rest) := by
  have hid : options.idWord ≠ "MAXLEN" := fun h =>
    Request.idWord_ne_maxLen options (congrArg String.toUTF8 h)
  unfold trimWords trimming
  cases options.maxLength with
  | none => exact takeTrimming?_of_ne hid rest
  | some n =>
    cases options.approximately with
    | true => exact takeTrimming?_of_tilde rfl rfl n.toNat _
    | false => exact takeTrimming?_of_count rfl n.toNat _

open AppendTerms in
theorem takeId?_idWord (options : AppendOptions) (rest : List Token) :
    takeId? (options.idWord.toUTF8 :: rest) = some (options.id, rest) := by
  unfold idWord
  cases options.id with
  | none => exact takeId?_of_eq rfl rest
  | some id => exact takeId?_text id rest

/-- The number of words for trimming. -/
def trimCount (options : AppendOptions) : Nat :=
  match options.trimming with
  | none => 0
  | some trimming => if trimming.approximately then 3 else 2

theorem length_trimWords (options : AppendOptions) :
    options.trimWords.length = options.trimCount := by
  obtain ⟨id, maxLength, approximately⟩ := options
  cases maxLength with
  | none => rfl
  | some n => cases approximately <;> rfl

end AppendOptions

/-! ## Requests of appends -/

/-- An append with its arguments. -/
structure Appending where
  key : String
  options : AppendOptions
  body : Fields

namespace Appending

/-- The request of an append, refused when its body is empty. -/
def request (appending : Appending) : Except Fault Request :=
  Request.append appending.key appending.options appending.body

/-- What an append asks for. -/
def terms (appending : Appending) : AppendTerms where
  key := appending.key
  trimming := appending.options.trimming
  id := appending.options.id
  pairs := appending.body.pairs

/-- The number of tokens of an append: the name of the command, the key and the id, the words for
trimming, and two for every field. -/
def tokenCount (appending : Appending) : Nat :=
  3 + appending.options.trimCount + 2 * appending.body.size

/-- Two appends ask for the same. Whether to trim approximately counts only where a stream is
trimmed. -/
structure Agrees (a b : Appending) : Prop where
  key : a.key = b.key
  maxLength : a.options.maxLength = b.options.maxLength
  approximately : b.options.maxLength ≠ none → a.options.approximately = b.options.approximately
  id : a.options.id = b.options.id
  body : a.body = b.body

variable {appending other : Appending} {sent sent' : Request}

open AppendTerms in
/-- The tokens of an append are read back as its terms. -/
theorem ofTokens?_of_request (h : appending.request = .ok sent) :
    ofTokens? sent.tokens = some appending.terms := by
  rw [Request.tokens_of_append h]
  simp only [ofTokens?, takeText?_toUTF8, AppendOptions.takeTrimming?_trimWords,
    AppendOptions.takeId?_idWord, Fields.tokens, readPairs?_flatMap, Bind.bind, Option.bind,
    if_true]
  rfl

theorem length_tokens_of_request (h : appending.request = .ok sent) :
    sent.tokens.length = appending.tokenCount := by
  have hbody : appending.body.tokens.length = 2 * appending.body.size := by
    rw [Fields.tokens, List.length_flatMap]
    -- Every field gives two tokens.
    change (appending.body.pairs.map fun _ => 2).sum = _
    rw [List.map_const', List.sum_replicate_nat, Nat.mul_comm, Fields.size]
  rw [Request.tokens_of_append h]
  simp only [List.length_cons, List.length_append, List.length_map,
    AppendOptions.length_trimWords, hbody, tokenCount]
  omega

/-- Appends agree when their terms are the same. -/
theorem agrees_iff_terms_eq : other.Agrees appending ↔ other.terms = appending.terms := by
  obtain ⟨key, options, ⟨pairs, distinct⟩⟩ := appending
  obtain ⟨key', options', ⟨pairs', distinct'⟩⟩ := other
  simp only [terms, AppendTerms.mk.injEq, AppendOptions.trimming_eq_iff]
  constructor
  · rintro ⟨hkey, hlength, happroximately, hid, hbody⟩
    exact ⟨hkey, ⟨hlength, happroximately⟩, hid, congrArg Fields.pairs hbody⟩
  · rintro ⟨hkey, ⟨hlength, happroximately⟩, hid, rfl⟩
    exact ⟨hkey, hlength, happroximately, hid, rfl⟩

theorem Agrees.tokens_eq (h : other.Agrees appending) (hsent : appending.request = .ok sent)
    (hsent' : other.request = .ok sent') : sent'.tokens = sent.tokens := by
  have htrimming : other.options.trimming = appending.options.trimming :=
    AppendOptions.trimming_eq_iff.2 ⟨h.maxLength, h.approximately⟩
  have hid : other.options.idWord = appending.options.idWord := by
    rw [AppendOptions.idWord, AppendOptions.idWord, h.id]
  rw [Request.tokens_of_append hsent, Request.tokens_of_append hsent', h.key, h.body, hid,
    AppendOptions.trimWords_congr htrimming]

/-- **An append says what it asks for, and nothing else.** An append of a body that is not empty has
a request, and read from the left its tokens give back all that it asks for: the key, how to trim,
the id and every name with its value. So two appends have the same tokens exactly when they agree on
that, and how many tokens there are is told by it too. -/
theorem spelled_out (appending : Appending) (h : appending.body.isEmpty = false) :
    ∃ sent, appending.request = .ok sent ∧
      AppendTerms.ofTokens? sent.tokens = some appending.terms ∧
      sent.tokens.length = appending.tokenCount ∧
      ∀ (other : Appending) (sent' : Request), other.request = .ok sent' →
        (sent'.tokens = sent.tokens ↔ other.Agrees appending) := by
  have hsent := Request.append_of_nonempty appending.key appending.options h
  have hread := ofTokens?_of_request hsent
  refine ⟨_, hsent, hread, length_tokens_of_request hsent, ?_⟩
  intro other sent' hsent'
  constructor
  · intro htokens
    rw [← htokens, ofTokens?_of_request hsent'] at hread
    exact agrees_iff_terms_eq.2 (Option.some.inj hread)
  · intro hagrees
    exact hagrees.tokens_eq hsent hsent'

/-- A key, names and values that are words of a request, an empty name, and a value that is no text.
The flag leaves no trace where the stream is not trimmed. -/
theorem spelled_out_odd_names :
    let body : Fields := ⟨[("~", "MAXLEN".toUTF8), ("", ⟨#[0xff]⟩), ("1-0", "*".toUTF8)], by decide⟩
    let trimmed : Appending := ⟨"MAXLEN", { maxLength := some 7, approximately := true }, body⟩
    let flagged : Appending := ⟨"MAXLEN", { id := some ⟨1, 0⟩, approximately := true }, body⟩
    let plain : Appending := ⟨"MAXLEN", { id := some ⟨1, 0⟩ }, body⟩
    body.isEmpty = false ∧
    (∃ sent, trimmed.request = .ok sent ∧ AppendTerms.ofTokens? sent.tokens =
      some ⟨"MAXLEN", some ⟨7, true⟩, none, body.pairs⟩ ∧ sent.tokens.length = 12) ∧
    ∃ sent sent', plain.request = .ok sent ∧ flagged.request = .ok sent' ∧
      AppendTerms.ofTokens? sent.tokens = some ⟨"MAXLEN", none, some ⟨1, 0⟩, body.pairs⟩ ∧
      sent'.tokens = sent.tokens := by
  intro body trimmed flagged plain
  obtain ⟨first, hfirst, hreadFirst, hcount, -⟩ := spelled_out trimmed rfl
  obtain ⟨sent, hsent, hread, -, hsame⟩ := spelled_out plain rfl
  obtain ⟨sent', hsent', -⟩ := spelled_out flagged rfl
  have hagrees : flagged.Agrees plain := ⟨rfl, rfl, fun h => absurd rfl h, rfl, rfl⟩
  exact ⟨rfl, ⟨first, hfirst, hreadFirst, hcount⟩, sent, sent', hsent, hsent', hread,
    (hsame flagged sent' hsent').2 hagrees⟩

end Appending

end AppendLog
