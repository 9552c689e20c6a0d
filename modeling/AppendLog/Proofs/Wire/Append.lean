import AppendLog.Proofs.Wire.Entry
import AppendLog.Request.Stream
import Mathlib

/-!
# Bodies that go out and come back

The body of an append is told from its request as a server tells it: `Request.bodyTokens` reads the
tokens from the left and keeps those after the id. `Request.bodyTokens_of_append` says that these
are the names and values of the body, whatever the key, the options and the names are. A server
that hands them out as they came is understood: `Appended.read_back`.
-/

namespace AppendLog

/-! ## The body in a request -/

/-- The names and values of a body as tokens, one after the other. -/
def Fields.tokens (fields : Fields) : List Token :=
  fields.pairs.flatMap fun (name, value) => [name.toUTF8, value]

theorem Fields.map_bulk_tokens (fields : Fields) : fields.tokens.map .bulk = fields.toReplies := by
  simp [tokens, toReplies, List.map_flatMap]

namespace Request

/-- What follows a count, in front of which there may be a tilde. -/
def afterCount : List Token → List Token
  | mark :: rest => if mark = "~".toUTF8 then rest.drop 1 else rest
  | [] => []

/-- What follows the words that trim the stream, if there are any. -/
def afterTrim : List Token → List Token
  | word :: rest => if word = "MAXLEN".toUTF8 then afterCount rest else word :: rest
  | [] => []

/-- The tokens of an append that follow the id: the name of the command and the key stand in front
of the words that trim the stream, and the id behind them. -/
def bodyTokens (request : Request) : List Token :=
  (afterTrim (request.tokens.drop 2)).drop 1

theorem write_ne_tilde (n : Nat) : (Decimal.write n).toUTF8 ≠ "~".toUTF8 := by
  intro h
  have hword : Decimal.write n = "~" := String.toByteArray_inj.1 h
  have hdigit : '~'.isDigit = true := by
    apply (Decimal.isNumeral_write n).2
    rw [hword]
    decide
  exact absurd hdigit (by decide)

/-- No id is taken for the word that starts trimming. -/
theorem idWord_ne_maxLen (options : AppendOptions) :
    options.idWord.toUTF8 ≠ "MAXLEN".toUTF8 := by
  intro h
  have hword : options.idWord = "MAXLEN" := String.toByteArray_inj.1 h
  unfold AppendOptions.idWord at hword
  split at hword
  · exact absurd hword (by decide)
  · next id _ =>
    have hstart : "MAXLEN".toList = 'M' :: ['A', 'X', 'L', 'E', 'N'] := rfl
    exact EntryId.text_ne_of_mark hstart rfl hword

/-- The words that trim the stream end before the id. -/
theorem afterTrim_trimWords (options : AppendOptions) (body : List Token) :
    afterTrim (options.trimWords.map String.toUTF8 ++ options.idWord.toUTF8 :: body) =
      options.idWord.toUTF8 :: body := by
  unfold AppendOptions.trimWords
  split
  · simp only [List.map_nil, List.nil_append, afterTrim]
    rw [if_neg (idWord_ne_maxLen options)]
  · next n _ =>
    cases options.approximately with
    | true => simp [Clause.flag, afterTrim, afterCount]
    | false =>
      simp only [Clause.flag, Bool.false_eq_true, if_false, List.nil_append, List.map_cons,
        List.map_nil, List.cons_append, afterTrim, if_true, afterCount]
      rw [if_neg (write_ne_tilde n.toNat)]

theorem append_of_nonempty (key : String) (options : AppendOptions) {body : Fields}
    (hbody : body.isEmpty = false) :
    append key options body = .ok ⟨.append,
      (key :: options.trimWords ++ [options.idWord]).map String.toUTF8 ++ body.tokens⟩ := by
  rw [append, hbody]
  rfl

/-- An append in full: the command, the key, the words that trim the stream, the id, the body. -/
theorem tokens_of_append {key : String} {options : AppendOptions} {body : Fields}
    {request : Request} (h : append key options body = .ok request) :
    request.tokens = "XADD".toUTF8 :: key.toUTF8 :: (options.trimWords.map String.toUTF8 ++
      options.idWord.toUTF8 :: body.tokens) := by
  cases hbody : body.isEmpty with
  | true =>
    rw [append, hbody] at h
    cases h
  | false =>
    rw [append_of_nonempty key options hbody] at h
    obtain rfl := Except.ok.inj h
    simp [tokens, Command.words]

/-- The tokens after the id of an append are those of its body. -/
theorem bodyTokens_of_append {key : String} {options : AppendOptions} {body : Fields}
    {request : Request} (h : append key options body = .ok request) :
    request.bodyTokens = body.tokens := by
  rw [bodyTokens, tokens_of_append h]
  simp only [List.drop_succ_cons, List.drop_zero]
  rw [afterTrim_trimWords]
  rfl

end Request

/-! ## The body in a reply -/

/-- An append with the entry that it came to: its body, and the id that it was given. -/
structure Appended where
  key : String
  options : AppendOptions
  entry : Entry

namespace Appended

def request (appended : Appended) : Except Fault Request :=
  Request.append appended.key appended.options appended.entry.fields

/-- The element of a reply that hands an entry out: its id, and what was sent after the id. -/
def element (appended : Appended) : Except Fault Reply :=
  appended.request.map fun request =>
    .array [.bulk appended.entry.id.text.toUTF8, .array (request.bodyTokens.map .bulk)]

theorem element_eq {appended : Appended} (hbody : appended.entry.fields.isEmpty = false) :
    appended.element = .ok appended.entry.toReply := by
  have hrequest := Request.append_of_nonempty appended.key appended.options hbody
  have htokens := Request.bodyTokens_of_append hrequest
  rw [element, request, hrequest, Except.map, htokens, Fields.map_bulk_tokens, Entry.toReply]

/-- **What is appended is what is read.** However entries are appended, the tokens after the ids
are put into a reply as they were sent and are read as the same entries: in their order, with the
fields in theirs, names and bytes included. A read of their stream gives the same entries under its
name. -/
theorem read_back (command : Command) (appended : List Appended)
    (hbody : ∀ one ∈ appended, one.entry.fields.isEmpty = false) :
    (∀ one ∈ appended, ∃ request, one.request = .ok request ∧ request.tokens =
      ("XADD" :: one.key :: one.options.trimWords ++ [one.options.idWord]).map String.toUTF8 ++
        request.bodyTokens) ∧
    ∃ elements, appended.mapM element = .ok elements ∧
      Reply.entries command (.array elements) = .ok (appended.map entry) ∧
      ∀ (key : Reply) (name : String), key.IsText name →
        Reply.messages command (.array [.array [key, .array elements]]) =
          .ok (appended.map fun one => ⟨name, one.entry⟩) := by
  have hentries : Reply.entries command (.array (appended.map fun one => one.entry.toReply)) =
      .ok (appended.map entry) := by
    have h := Reply.entries_map_toReply command (appended.map entry)
    rw [List.map_map] at h
    exact h
  constructor
  · intro one hmem
    have hrequest := Request.append_of_nonempty one.key one.options (hbody one hmem)
    refine ⟨_, hrequest, ?_⟩
    rw [Request.tokens_of_append hrequest, Request.bodyTokens_of_append hrequest]
    simp
  · refine ⟨_, mapM_of_ok fun one hmem => element_eq (hbody one hmem), hentries, ?_⟩
    intro key name hkey
    rw [Reply.messages_of_entries command hkey hentries, List.map_map]
    rfl

/-- Two appends that are hard to read: names like the words of a request, an empty name, and values
that are empty or no text. -/
theorem read_back_odd_bodies :
    let trimmed : Appended := ⟨"MAXLEN", { maxLength := some 5, approximately := true },
      ⟨⟨1, 0⟩, ⟨[("", ⟨#[0xff]⟩), ("*", .empty)], by decide⟩⟩⟩
    let given : Appended := ⟨"", { id := some ⟨2, 7⟩ },
      ⟨⟨2, 7⟩, ⟨[("MAXLEN", "~".toUTF8), ("2-7", "5".toUTF8)], by decide⟩⟩⟩
    (∀ one ∈ [trimmed, given], one.entry.fields.isEmpty = false) ∧ (Reply.status "s").IsText "s" ∧
      ∃ elements, [trimmed, given].mapM element = .ok elements ∧
        Reply.entries .range (.array elements) = .ok [trimmed.entry, given.entry] ∧
        Reply.messages .read (.array [.array [.status "s", .array elements]]) =
          .ok [⟨"s", trimmed.entry⟩, ⟨"s", given.entry⟩] := by
  intro trimmed given
  have hbody : ∀ one ∈ [trimmed, given], one.entry.fields.isEmpty = false := by
    intro one hmem
    simp only [List.mem_cons, List.not_mem_nil, or_false] at hmem
    rcases hmem with rfl | rfl <;> rfl
  obtain ⟨-, elements, helements, hentries, -⟩ := read_back .range [trimmed, given] hbody
  obtain ⟨-, elements', helements', -, hmessages⟩ := read_back .read [trimmed, given] hbody
  obtain rfl := Except.ok.inj (helements.symm.trans helements')
  exact ⟨hbody, .status, elements, helements, hentries, hmessages _ "s" .status⟩

end Appended

end AppendLog
