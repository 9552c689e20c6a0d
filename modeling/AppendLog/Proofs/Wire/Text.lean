import AppendLog.Position
import AppendLog.Range

/-!
# Texts that come back from the wire

Ids, bounds and positions are sent as texts, and texts as bytes. Each is read back as what it was
written from: `EntryId.parse_text`, `Range.parse_text` and `Position.parse_text`. A bound takes a
mark of one character for no bound, and no id starts with one.
-/

namespace AppendLog

theorem fromUTF8?_toUTF8 (s : String) : String.fromUTF8? s.toUTF8 = some s := by
  have h : s.toUTF8.IsValidUTF8 := s.isValidUTF8
  rw [String.fromUTF8?, dif_pos h]
  rfl

/-- What is read back item by item is read back as a list. -/
theorem mapM_map_of_some {α β γ : Type} {write : α → β} {read : β → Option γ} {meant : α → γ}
    (h : ∀ a, read (write a) = some (meant a)) (items : List α) :
    (items.map write).mapM read = some (items.map meant) := by
  induction items with
  | nil => rfl
  | cons a rest ih =>
    rw [List.map_cons, List.mapM_cons, h, ih]
    rfl

/-- Texts sent as tokens are read back one by one. -/
theorem mapM_fromUTF8?_toUTF8 (texts : List String) :
    (texts.map String.toUTF8).mapM String.fromUTF8? = some texts := by
  rw [mapM_map_of_some fromUTF8?_toUTF8, List.map_id']

/-! ## Ids -/

namespace EntryId

theorem readPart_write (w : UInt64) : readPart (Decimal.write w.toNat).toList = .ok w := by
  have hn := Decimal.isNumeral_write w.toNat
  have hw : Decimal.value (Decimal.write w.toNat).toList < UInt64.size := by
    rw [Decimal.value_write]
    exact w.toNat_lt
  rw [readPart, if_neg hn.1, if_pos hn, if_pos hw, Decimal.value_write, UInt64.ofNat_toNat]

theorem toList_text (id : EntryId) :
    id.text.toList = (Decimal.write id.timestamp.toNat).toList ++
      '-' :: (Decimal.write id.sequence.toNat).toList := by
  simp [text]

theorem ne_hyphen_of_isNumeral {cs : List Char} (h : Decimal.IsNumeral cs) :
    ∀ c ∈ cs, (c != '-') = true := by
  intro c hc
  have hd := h.2 c hc
  rw [bne_iff_ne]
  rintro rfl
  exact absurd hd (by decide)

/-- The first hyphen of a text is the one between the parts, since no digit is a hyphen. -/
theorem read_text (id : EntryId) : read id.text.toList = .ok id := by
  have hd := ne_hyphen_of_isNumeral (Decimal.isNumeral_write id.timestamp.toNat)
  rw [toList_text, read, if_neg (by simp), List.takeWhile_append_of_pos hd,
    List.dropWhile_append_of_pos hd, List.takeWhile_cons_of_neg (by decide),
    List.dropWhile_cons_of_neg (by decide), List.append_nil, readPart_write]
  simp only [readPart_write, Bind.bind, Except.bind, Pure.pure, Except.pure]

theorem parse_text (id : EntryId) : parse id.text = .ok id := by
  rw [parse, read_text]
  rfl

theorem parse_eq_ok_iff {text : String} {id : EntryId} :
    parse text = .ok id ↔ read text.toList = .ok id := by
  rw [parse]
  cases read text.toList with
  | error defect => exact ⟨nofun, nofun⟩
  | ok found =>
    constructor
    · intro h
      rw [Except.ok.inj h]
    · intro h
      rw [Except.ok.inj h]
      rfl

theorem exists_digit_text (id : EntryId) :
    ∃ c cs, id.text.toList = c :: cs ∧ c.isDigit = true := by
  have hn := Decimal.isNumeral_write id.timestamp.toNat
  obtain ⟨c, cs, hc⟩ := List.exists_cons_of_ne_nil hn.1
  refine ⟨c, cs ++ '-' :: (Decimal.write id.sequence.toNat).toList, ?_, hn.2 c (by simp [hc])⟩
  rw [toList_text, hc, List.cons_append]

theorem text_ne_of_mark {id : EntryId} {symbol : String} {mark : Char} {rest : List Char}
    (hs : symbol.toList = mark :: rest) (hm : mark.isDigit = false) : id.text ≠ symbol := by
  obtain ⟨c, cs, hc, hd⟩ := id.exists_digit_text
  intro h
  rw [h, hs] at hc
  obtain ⟨rfl, -⟩ := List.cons.inj hc
  rw [hm] at hd
  exact Bool.false_ne_true hd

/-- No text that begins with a mark is read as an id: before the first hyphen stands nothing, or
something that is no numeral. -/
theorem parse_ne_ok_of_mark {symbol : String} {mark : Char} {rest : List Char}
    (hs : symbol.toList = mark :: rest) (hm : mark.isDigit = false) (id : EntryId) :
    parse symbol ≠ .ok id := by
  have hpart : ∃ defect, readPart ((mark :: rest).takeWhile (· != '-')) = .error defect := by
    by_cases hhyphen : mark = '-'
    · subst hhyphen
      exact ⟨.missingPart, rfl⟩
    · have hnumeral : ¬ Decimal.IsNumeral (mark :: rest.takeWhile (· != '-')) := by
        intro h
        have hd := h.2 mark List.mem_cons_self
        rw [hm] at hd
        exact Bool.false_ne_true hd
      rw [List.takeWhile_cons_of_pos (by simpa using hhyphen), readPart, if_neg (by simp),
        if_neg hnumeral]
      exact ⟨_, rfl⟩
  obtain ⟨defect, hdefect⟩ := hpart
  intro h
  rw [parse, hs, read, if_neg (by simp), hdefect] at h
  cases h

end EntryId

/-! ## Bounds, ranges and positions -/

theorem Bound.parse_text {symbol : String} {mark : Char} (hs : symbol.toList = [mark])
    (hm : mark.isDigit = false) (hp : mark ≠ '(') (bound : Bound) :
    Bound.parse symbol (bound.text symbol) = .ok bound := by
  cases bound with
  | unbounded => rw [Bound.text, Bound.parse, if_pos rfl]
  | included id =>
    obtain ⟨c, cs, hc, hd⟩ := id.exists_digit_text
    -- An id starts with a digit, so it is not taken for an exclusive bound.
    have hne : c ≠ '(' := by
      rintro rfl
      exact absurd hd (by decide)
    rw [Bound.text, Bound.parse, if_neg (EntryId.text_ne_of_mark hs hm), hc]
    split
    · next h => exact absurd (List.cons.inj h).1 hne
    · rw [EntryId.parse_text]
      rfl
  | excluded id =>
    have hl : ("(" ++ id.text).toList = '(' :: id.text.toList := by simp
    have hne : "(" ++ id.text ≠ symbol := by
      intro h
      rw [h, hs] at hl
      exact hp (List.cons.inj hl).1
    rw [Bound.text, Bound.parse, if_neg hne, hl]
    simp only [String.ofList_toList, EntryId.parse_text]
    rfl

theorem Range.parse_text (range : Range) :
    Range.parse range.lowerText range.upperText = .ok range := by
  have hl : Bound.parse "-" range.lowerText = .ok range.lower :=
    Bound.parse_text (show "-".toList = ['-'] from rfl) rfl (by decide) range.lower
  have hu : Bound.parse "+" range.upperText = .ok range.upper :=
    Bound.parse_text (show "+".toList = ['+'] from rfl) rfl (by decide) range.upper
  rw [Range.parse, hl, hu]
  rfl

/-- The beginning is sent as the least id, so it is read back as the place after that one. -/
theorem Position.parse_text (position : Position) :
    Position.parse position.text =
      .ok (if position = .beginning then .after .least else position) := by
  have hne (id : EntryId) : id.text ≠ "$" :=
    EntryId.text_ne_of_mark (show "$".toList = ['$'] from rfl) rfl
  cases position with
  | beginning =>
    rw [Position.text, Position.parse, if_neg (hne _), EntryId.parse_text]
    rfl
  | latest => rfl
  | after id =>
    rw [Position.text, Position.parse, if_neg (hne _), EntryId.parse_text]
    rfl

end AppendLog
