import AppendLog.Proofs.Base64
import AppendLog.Proofs.Fields
import AppendLog.Proofs.Renderer.Drafts
import AppendLog.Proofs.Renderer.Run
import AppendLog.Proofs.Wire.Append

/-!
# Tokens as they are told

The renderer tells the tokens of a request as texts, all of them in one encoding. Who reads the line
and decodes the texts has the tokens again, byte for byte: `Answer.told?_line` and
`Answer.tells_encodeTokens`. So has the bytes of a body whoever gave them to the renderer in base64,
`Instruction.AppendsBinary.told`, whichever encoding the answer then is in.
-/

namespace AppendLog.Renderer

namespace Answer

/-! ## What a line tells -/

/-- The encoding and the texts that the line of an answer gives for tokens. -/
def told? (line : String) : Option (String × List String) := do
  let record ← (← Json.parse? line).partialRecord? ["tokens", "encoding"]
  let texts ← record.required? "tokens" (Json.list? Json.text?)
  return (← record.required? "encoding" Json.text?, texts)

/-- The tokens that texts stand for in an encoding. -/
def decodeTokens? (encoding : String) (texts : List String) : Option (List Token) :=
  match encoding with
  | "utf8" => some (texts.map String.toUTF8)
  | "base64" => texts.mapM Base64.decode?
  | _ => none

theorem told?_line (request : Request) : told? (rendered request).line =
    some ((encodeTokens request.tokens).2, (encodeTokens request.tokens).1) := by
  rw [told?, parse?_line]
  generalize htold : encodeTokens request.tokens = told
  obtain ⟨texts, encoding⟩ := told
  have hfields : (toJson (rendered request)).partialRecord? ["tokens", "encoding"] =
      some [("tokens", .array (texts.map .ofText)), ("encoding", .ofText encoding)] := by
    simp only [toJson, htold]
    rfl
  have htexts : (Json.array (texts.map .ofText)).list? Json.text? = some texts := by
    rw [Json.list?, mapM_map_of_some Json.text?_ofText, List.map_id']
  simp [hfields, Json.Record.required?, List.lookup, htexts]

/-! ## Encodings -/

/-- Tokens are all texts if and only if they are read as texts. -/
theorem mapM_fromUTF8?_eq_some_iff {tokens : List Token} {texts : List String} :
    tokens.mapM String.fromUTF8? = some texts ↔ texts.map String.toUTF8 = tokens := by
  constructor
  · intro h
    induction tokens generalizing texts with
    | nil =>
      obtain rfl := Option.some.inj h
      rfl
    | cons token rest ih =>
      simp only [List.mapM_cons, Option.bind_eq_bind, Option.bind_eq_some_iff] at h
      obtain ⟨text, htext, texts, htexts, h⟩ := h
      obtain rfl := Option.some.inj h
      rw [List.map_cons, ih htexts, toUTF8_of_fromUTF8? htext]
  · rintro rfl
    exact mapM_fromUTF8?_toUTF8 texts

/-- The tokens are told as texts, or one of them is none and all are told in base64. -/
theorem encodeTokens_cases (tokens : List Token) :
    (∃ texts : List String, texts.map String.toUTF8 = tokens ∧
      encodeTokens tokens = (texts, "utf8")) ∨
    (∃ token ∈ tokens, ¬ token.IsValidUTF8) ∧
      encodeTokens tokens = (tokens.map Base64.encode, "base64") := by
  rw [encodeTokens]
  split
  · next texts htexts => exact .inl ⟨texts, mapM_fromUTF8?_eq_some_iff.1 htexts, rfl⟩
  · next hnone =>
    refine .inr ⟨?_, rfl⟩
    by_contra! hvalid
    obtain ⟨texts, htexts⟩ : tokens ∈ Set.range (List.map String.toUTF8) := by
      rw [Set.range_list_map]
      exact fun token hmem => ⟨⟨token, hvalid token hmem⟩, rfl⟩
    rw [mapM_fromUTF8?_eq_some_iff.2 htexts] at hnone
    cases hnone

/-- Texts in an encoding say what the tokens are, and the encoding says whether all are texts. -/
structure Tells (tokens : List Token) (encoding : String) (texts : List String) : Prop where
  utf8_iff : encoding = "utf8" ↔ ∀ token ∈ tokens, token.IsValidUTF8
  base64_iff : encoding = "base64" ↔ ∃ token ∈ tokens, ¬ token.IsValidUTF8
  base64 : encoding = "base64" →
    List.Forall₂ (fun token text => Base64.IsBase64 token.data.toList text.toList) tokens texts
  decoded : decodeTokens? encoding texts = some tokens

theorem tells_encodeTokens (tokens : List Token) :
    Tells tokens (encodeTokens tokens).2 (encodeTokens tokens).1 := by
  have hother : "utf8" ≠ "base64" := by decide
  obtain ⟨texts, rfl, htold⟩ | ⟨⟨token, hmem, htoken⟩, htold⟩ := encodeTokens_cases tokens
  · have hvalid : ∀ token ∈ texts.map String.toUTF8, token.IsValidUTF8 := by
      intro token hmem
      obtain ⟨text, -, rfl⟩ := List.mem_map.1 hmem
      exact text.isValidUTF8
    rw [htold]
    exact {
      utf8_iff := iff_of_true rfl hvalid
      base64_iff := iff_of_false hother fun ⟨token, hmem, h⟩ => h (hvalid token hmem)
      base64 := fun h => absurd h hother
      decoded := rfl }
  · rw [htold]
    exact {
      utf8_iff := iff_of_false hother.symm fun h => htoken (h token hmem)
      base64_iff := iff_of_true rfl ⟨token, hmem, htoken⟩
      base64 := fun _ => List.forall₂_map_right_iff.2
        (List.forall₂_same.2 fun token _ => Base64.isBase64_encode token)
      decoded := by
        rw [decodeTokens?, mapM_map_of_some Base64.decode?_encode, List.map_id'] }

end Answer

namespace Instruction

/-! ## Bodies in base64 -/

/-- An instruction to append names with values that it gives in base64. -/
structure AppendsBinary (instruction : Instruction) (pairs : List (String × ByteArray)) : Prop where
  kind : instruction.kind = "render"
  operation : instruction.operation = some "xadd"
  /-- An id that is given can be read. -/
  id : ∀ text, instruction.id = some text → ∃ id, EntryId.parse text = .ok id
  binary : instruction.binary = true
  body : List.Forall₂ (fun field pair => field.1 = pair.1 ∧
    Base64.IsBase64 pair.2.data.toList field.2.toList) instruction.body pairs
  nonempty : pairs ≠ []
  distinct : (pairs.map Prod.fst).Nodup

variable {instruction : Instruction} {pairs : List (String × ByteArray)}

theorem readValue_of_isBase64 {value : String} {bytes : ByteArray}
    (h : Base64.IsBase64 bytes.data.toList value.toList) : readValue true value = .ok bytes := by
  rw [readValue, if_pos rfl, Base64.decode?_eq_some_iff.2 h]

/-- A body in base64 is read as the bytes that were meant. -/
theorem readBody_of_isBase64 (hbinary : instruction.binary = true)
    (hbody : List.Forall₂ (fun field pair => field.1 = pair.1 ∧
      Base64.IsBase64 pair.2.data.toList field.2.toList) instruction.body pairs) :
    instruction.readBody = Fields.ofPairs pairs := by
  rw [readBody, Fields.ofPairs, hbinary]
  generalize Fields.empty = fields
  generalize instruction.body = body at hbody
  induction hbody generalizing fields with
  | nil => rfl
  | @cons field pair rest rest' hfield _ ih =>
    obtain ⟨name, value⟩ := field
    obtain ⟨name', bytes⟩ := pair
    obtain ⟨rfl, hvalue⟩ := hfield
    rw [List.foldlM_cons, Fields.insertAll_cons]
    simp only [readValue_of_isBase64 hvalue, Except.bind, Bind.bind]
    cases fields.insert name bytes with
    | error fault => rfl
    | ok next => exact ih next

theorem exists_appendOptions
    (hid : ∀ text, instruction.id = some text → ∃ id, EntryId.parse text = .ok id) :
    ∃ options, instruction.appendOptions = .ok options := by
  rw [appendOptions]
  cases h : instruction.id with
  | none => exact ⟨_, rfl⟩
  | some text =>
    obtain ⟨id, hid⟩ := hid text h
    rw [Option.mapM_some, hid]
    exact ⟨_, rfl⟩

theorem request_of_xadd (h : instruction.operation = some "xadd") :
    instruction.request = (do
      let options ← instruction.appendOptions
      Request.append (orEmpty instruction.key) options (← instruction.readBody)) := by
  rw [request, h]
  rfl

theorem answer_of_render {request : Request} (hkind : instruction.kind = "render")
    (h : instruction.request = .ok request) : instruction.answer = .rendered request := by
  rw [answer, hkind, h]
  rfl

/-- Such an instruction is answered, and the tokens told in the answer end with the body. -/
theorem AppendsBinary.told (h : instruction.AppendsBinary pairs) :
    ∃ options request encoding texts, instruction.appendOptions = .ok options ∧
      instruction.answer = .rendered request ∧
      Answer.told? instruction.answer.line = some (encoding, texts) ∧
      Answer.decodeTokens? encoding texts = some (("XADD" :: orEmpty instruction.key ::
        (options.trimWords ++ [options.idWord])).map String.toUTF8 ++
          pairs.flatMap fun (name, value) => [name.toUTF8, value]) := by
  obtain ⟨options, hoptions⟩ := exists_appendOptions h.id
  have hbody : instruction.readBody = .ok ⟨pairs, h.distinct⟩ := by
    rw [readBody_of_isBase64 h.binary h.body]
    exact Fields.ofPairs_eq_ok_iff.2 rfl
  have hnonempty : (⟨pairs, h.distinct⟩ : Fields).isEmpty = false :=
    List.isEmpty_eq_false_iff.2 h.nonempty
  obtain ⟨request, hmade⟩ : ∃ request,
      Request.append (orEmpty instruction.key) options ⟨pairs, h.distinct⟩ = .ok request :=
    ⟨_, Request.append_of_nonempty _ options hnonempty⟩
  have hrequest : instruction.request = .ok request := by
    rw [request_of_xadd h.operation, hoptions, hbody]
    exact hmade
  have hanswer := answer_of_render h.kind hrequest
  have htokens : request.tokens = ("XADD" :: orEmpty instruction.key ::
      (options.trimWords ++ [options.idWord])).map String.toUTF8 ++
        pairs.flatMap fun (name, value) => [name.toUTF8, value] := by
    rw [Request.tokens_of_append hmade, Fields.tokens]
    simp
  refine ⟨options, request, (Answer.encodeTokens request.tokens).2,
    (Answer.encodeTokens request.tokens).1, hoptions, hanswer, ?_, ?_⟩
  · rw [hanswer, Answer.told?_line]
  · rw [(Answer.tells_encodeTokens _).decoded, htokens]

end Instruction

/-- **The tokens that are told determine what is sent.** The line that answers with a request tells
its tokens in UTF-8 if each of them is valid, and in base64 if one is not, and read in the encoding
that it names they are the tokens of the request, each with its bytes and in its place. So whoever
gives the values of a body in base64 is told them as they were meant, behind the words of the
command: there is a request for any names that are different, one at least, whatever the values. -/
theorem tokens_told :
    (∀ request : Request, ∃ encoding texts,
      Answer.told? (Answer.rendered request).line = some (encoding, texts) ∧
      Answer.Tells request.tokens encoding texts) ∧
    ∀ (instruction : Instruction) (pairs : List (String × ByteArray)),
      instruction.AppendsBinary pairs →
      ∃ options request encoding texts, instruction.appendOptions = .ok options ∧
        instruction.answer = .rendered request ∧
        Answer.told? instruction.answer.line = some (encoding, texts) ∧
        Answer.decodeTokens? encoding texts =
          some (("XADD" :: Instruction.orEmpty instruction.key ::
            (options.trimWords ++ [options.idWord])).map String.toUTF8 ++
              pairs.flatMap fun (name, value) => [name.toUTF8, value]) :=
  ⟨fun request => ⟨_, _, Answer.told?_line request, Answer.tells_encodeTokens request.tokens⟩,
    fun _ _ h => h.told⟩

/-- A body with values of no, one, two and three bytes, of which one is no text. -/
theorem tokens_told_odd_values :
    let instruction : Instruction := {
      kind := "render", operation := some "xadd", key := some "k", id := some "5-0", binary := true
      body := [("", ""), ("a", "/w=="), ("b", "MTI="), ("c", "MTIz")] }
    let pairs : List (String × ByteArray) :=
      [("", .empty), ("a", ⟨#[0xff]⟩), ("b", "12".toUTF8), ("c", "123".toUTF8)]
    ∃ encoding texts, Answer.told? instruction.answer.line = some (encoding, texts) ∧
      Answer.decodeTokens? encoding texts = some (["XADD", "k", "5-0"].map String.toUTF8 ++
        pairs.flatMap fun (name, value) => [name.toUTF8, value]) := by
  intro instruction pairs
  have hid : EntryId.parse "5-0" = .ok ⟨5, 0⟩ := EntryId.parse_text ⟨5, 0⟩
  have hvalue {bytes : ByteArray} {text : String}
      (h : Base64.encodeList bytes.data.toList = text.toList) :
      Base64.IsBase64 bytes.data.toList text.toList :=
    Base64.isBase64_iff_encodeList_eq.2 h
  have happends : instruction.AppendsBinary pairs := {
    kind := rfl
    operation := rfl
    id := by
      intro text htext
      obtain rfl := Option.some.inj htext
      exact ⟨_, hid⟩
    binary := rfl
    body := .cons ⟨rfl, hvalue (by decide)⟩ (.cons ⟨rfl, hvalue (by decide)⟩
      (.cons ⟨rfl, hvalue (by decide)⟩ (.cons ⟨rfl, hvalue (by decide)⟩ .nil)))
    nonempty := by decide
    distinct := by decide }
  obtain ⟨options, -, encoding, texts, hoptions, -, htold, hdecoded⟩ :=
    tokens_told.2 instruction pairs happends
  have hgiven : instruction.appendOptions = .ok { id := some ⟨5, 0⟩ } := by
    rw [Instruction.appendOptions, Option.mapM_some, hid]
    rfl
  obtain rfl := Except.ok.inj (hgiven.symm.trans hoptions)
  exact ⟨encoding, texts, htold, hdecoded⟩

end AppendLog.Renderer
