import AppendLog.Json.Values
import AppendLog.Proofs.Json.Print
import AppendLog.Proofs.Reply.Results
import AppendLog.Proofs.Wire.Text

/-!
# Which texts are ids

An id is written in one way and may be read from many: each part with any number of zeros in front,
and the sequence left out where it is zero. `EntryId.Spells` is the grammar of these texts, on the
numerals of 64 bits, `Decimal.Denotes`. `EntryId.text_exact` says that the readers of ids, in texts
and in JSON, take exactly this grammar, and that the text of an id is one of its spellings and of no
other id.
-/

namespace AppendLog

/-! ## Numerals of 64 bits -/

namespace Decimal

/-- A numeral stands for a word. It may begin with zeros. -/
structure Denotes (cs : List Char) (w : UInt64) : Prop where
  numeral : IsNumeral cs
  value_eq : value cs = w.toNat

variable {cs : List Char} {w : UInt64}

theorem Denotes.value_lt (h : Denotes cs w) : value cs < UInt64.size := by
  rw [h.value_eq]
  exact w.toNat_lt

theorem Denotes.ofNat_value (h : Denotes cs w) : UInt64.ofNat (value cs) = w := by
  rw [h.value_eq, UInt64.ofNat_toNat]

theorem denotes_ofNat (hcs : IsNumeral cs) (h : value cs < UInt64.size) :
    Denotes cs (UInt64.ofNat (value cs)) :=
  ⟨hcs, (UInt64.toNat_ofNat_of_lt' h).symm⟩

/-- A numeral stands for a word when its value is not too large. -/
theorem exists_denotes_iff : (∃ w, Denotes cs w) ↔ IsNumeral cs ∧ value cs < UInt64.size := by
  constructor
  · rintro ⟨w, h⟩
    exact ⟨h.numeral, h.value_lt⟩
  · rintro ⟨hcs, h⟩
    exact ⟨_, denotes_ofNat hcs h⟩

theorem word?_eq_some_iff : word? cs = some w ↔ Denotes cs w := by
  constructor
  · intro h
    rw [word?] at h
    split at h
    · next hcs =>
      obtain rfl := Option.some.inj h
      exact denotes_ofNat hcs.1 hcs.2
    · cases h
  · intro h
    rw [word?, if_pos ⟨h.numeral, h.value_lt⟩, h.ofNat_value]

theorem isNumeral_of_all (hcs : cs ≠ []) (h : cs.all Char.isDigit = true) : IsNumeral cs :=
  ⟨hcs, List.all_eq_true.1 h⟩

/-- No numeral holds a character that is no digit. -/
theorem IsNumeral.notMem {mark : Char} (h : IsNumeral cs) (hmark : mark.isDigit = false) :
    mark ∉ cs := by
  intro hmem
  rw [h.2 mark hmem] at hmark
  cases hmark

end Decimal

namespace EntryId

open Decimal

variable {cs front back : List Char} {id : EntryId}

theorem readPart_eq_ok_iff {w : UInt64} : readPart cs = .ok w ↔ Denotes cs w := by
  constructor
  · intro h
    rw [readPart] at h
    split at h
    · cases h
    · split at h
      · next hnumeral =>
        split at h
        · next hvalue =>
          obtain rfl := Except.ok.inj h
          exact denotes_ofNat hnumeral hvalue
        · cases h
      · cases h
  · intro h
    rw [readPart, if_neg h.numeral.1, if_pos h.numeral, if_pos h.value_lt, h.ofNat_value]

/-! ## The grammar of ids -/

/-- The texts of an id: its timestamp alone where the sequence is zero, or both its parts around a
hyphen. -/
inductive Spells : EntryId → List Char → Prop where
  | short {timestamp : UInt64} {cs : List Char} (h : Denotes cs timestamp) :
      Spells ⟨timestamp, 0⟩ cs
  | full {timestamp sequence : UInt64} {front back : List Char} (hfront : Denotes front timestamp)
      (hback : Denotes back sequence) : Spells ⟨timestamp, sequence⟩ (front ++ '-' :: back)

/-- What can be a part of an id: digits of a value that 64 bits hold. -/
def IsPart (cs : List Char) : Prop := IsNumeral cs ∧ value cs < UInt64.size

theorem exists_spells_iff : (∃ id, Spells id cs) ↔
    IsPart cs ∨ ∃ front back, cs = front ++ '-' :: back ∧ IsPart front ∧ IsPart back := by
  constructor
  · rintro ⟨id, h⟩
    cases h with
    | short h => exact .inl (exists_denotes_iff.1 ⟨_, h⟩)
    | full hfront hback =>
      exact .inr ⟨_, _, rfl, exists_denotes_iff.1 ⟨_, hfront⟩, exists_denotes_iff.1 ⟨_, hback⟩⟩
  · rintro (h | ⟨front, back, rfl, hfront, hback⟩)
    · obtain ⟨w, hw⟩ := exists_denotes_iff.2 h
      exact ⟨_, .short hw⟩
    · obtain ⟨timestamp, htimestamp⟩ := exists_denotes_iff.2 hfront
      obtain ⟨sequence, hsequence⟩ := exists_denotes_iff.2 hback
      exact ⟨_, .full htimestamp hsequence⟩

/-! ## Reading a text -/

theorem bne_hyphen_of_notMem (h : '-' ∉ cs) : ∀ c ∈ cs, (c != '-') = true := by
  intro c hmem
  rw [bne_iff_ne]
  rintro rfl
  exact h hmem

/-- Without a hyphen all of a text is the timestamp. -/
theorem read_of_notMem (hcs : cs ≠ []) (h : '-' ∉ cs) :
    read cs = (readPart cs).map fun timestamp => ⟨timestamp, 0⟩ := by
  have hall := bne_hyphen_of_notMem h
  have htake : cs.takeWhile (· != '-') = cs := List.takeWhile_eq_self_iff.2 hall
  have hdrop : cs.dropWhile (· != '-') = [] := List.dropWhile_eq_nil_iff.2 hall
  rw [read, if_neg hcs, htake, hdrop]
  cases readPart cs <;> rfl

/-- The first hyphen parts a text. -/
theorem read_of_hyphen (h : '-' ∉ front) : read (front ++ '-' :: back) =
    (readPart front).bind fun timestamp =>
      (readPart back).map fun sequence => ⟨timestamp, sequence⟩ := by
  have hall := bne_hyphen_of_notMem h
  rw [read, if_neg (by simp), List.takeWhile_append_of_pos hall,
    List.dropWhile_append_of_pos hall, List.takeWhile_cons_of_neg (by decide),
    List.dropWhile_cons_of_neg (by decide), List.append_nil]
  cases readPart front with
  | error defect => rfl
  | ok timestamp =>
    change (do return (⟨timestamp, ← readPart back⟩ : EntryId)) = _
    cases readPart back <;> rfl

theorem spells_of_read (h : read cs = .ok id) : Spells id cs := by
  by_cases hhyphen : '-' ∈ cs
  · obtain ⟨front, back, rfl, hfront⟩ := List.eq_append_cons_of_mem hhyphen
    rw [read_of_hyphen hfront] at h
    cases hfirst : readPart front with
    | error defect =>
      rw [hfirst] at h
      cases h
    | ok timestamp =>
      cases hsecond : readPart back with
      | error defect =>
        rw [hfirst, hsecond] at h
        cases h
      | ok sequence =>
        rw [hfirst, hsecond] at h
        obtain rfl := Except.ok.inj h
        exact .full (readPart_eq_ok_iff.1 hfirst) (readPart_eq_ok_iff.1 hsecond)
  · by_cases hcs : cs = []
    · rw [read, if_pos hcs] at h
      cases h
    · rw [read_of_notMem hcs hhyphen] at h
      cases hpart : readPart cs with
      | error defect =>
        rw [hpart] at h
        cases h
      | ok timestamp =>
        rw [hpart] at h
        obtain rfl := Except.ok.inj h
        exact .short (readPart_eq_ok_iff.1 hpart)

/-- No digit is a hyphen, so a numeral is one part. -/
theorem read_of_spells (h : Spells id cs) : read cs = .ok id := by
  cases h with
  | short h =>
    rw [read_of_notMem h.numeral.1 (h.numeral.notMem rfl), readPart_eq_ok_iff.2 h]
    rfl
  | full hfront hback =>
    rw [read_of_hyphen (hfront.numeral.notMem rfl), readPart_eq_ok_iff.2 hfront,
      readPart_eq_ok_iff.2 hback]
    rfl

theorem parse_eq_ok_iff_spells {text : String} : parse text = .ok id ↔ Spells id text.toList := by
  rw [parse_eq_ok_iff]
  exact ⟨spells_of_read, read_of_spells⟩

/-- The fault of a text that is no id carries the text. -/
theorem exists_defect_of_parse {text : String} {fault : Fault} (h : parse text = .error fault) :
    ∃ defect, fault = .malformedId text defect := by
  rw [parse] at h
  cases hread : read text.toList with
  | ok id =>
    rw [hread] at h
    cases h
  | error defect =>
    rw [hread] at h
    exact ⟨defect, (Except.error.inj h).symm⟩

theorem text_inj {a b : EntryId} : a.text = b.text ↔ a = b := by
  constructor
  · intro h
    have hparse := a.parse_text
    rw [h, parse_text] at hparse
    exact (Except.ok.inj hparse).symm
  · rintro rfl
    rfl

/-! ## Ids in JSON -/

theorem ofJson?_ofText (text : String) : ofJson? (.ofText text) = (parse text).toOption := by
  change (read text.toList).toOption = _
  rw [parse]
  cases read text.toList <;> rfl

/-- In JSON an id is a string that is one as a text. -/
theorem ofJson?_eq_some_iff {json : Json} :
    ofJson? json = some id ↔ ∃ text, json = .ofText text ∧ parse text = .ok id := by
  have hread (text : String) : ofJson? (.ofText text) = some id ↔ parse text = .ok id := by
    rw [ofJson?_ofText]
    cases parse text <;> simp [Except.toOption]
  constructor
  · intro h
    obtain ⟨text, htext, -⟩ := Option.bind_eq_some_iff.1 h
    cases json with
    | string found =>
      obtain rfl : found = some text := htext
      exact ⟨text, rfl, (hread text).1 h⟩
    | _ => cases htext
  · rintro ⟨text, rfl, h⟩
    exact (hread text).2 h

/-- **The texts of an id are exactly its spellings.** A text is read as an id if and only if it is a
spelling of that id: digits of a value that 64 bits hold, or two such parts around a hyphen. Every
other text is refused with a fault that carries it. In JSON the strings of these texts are read, and
as the same ids. An id is read back from its text, to read a text and write it twice is to do so
once, and no two ids have the same text. -/
theorem text_exact :
    (∀ (text : String) (id : EntryId), parse text = .ok id ↔ Spells id text.toList) ∧
    (∀ cs, (∃ id, Spells id cs) ↔
      IsPart cs ∨ ∃ front back, cs = front ++ '-' :: back ∧ IsPart front ∧ IsPart back) ∧
    (∀ (text : String) (fault : Fault), parse text = .error fault →
      ∃ defect, fault = .malformedId text defect) ∧
    (∀ (json : Json) (id : EntryId), ofJson? json = some id ↔
      ∃ text, json = .ofText text ∧ parse text = .ok id) ∧
    (∀ text : String,
      (Json.parse? (Json.ofText text).print).bind ofJson? = (parse text).toOption) ∧
    (∀ id : EntryId, parse id.text = .ok id) ∧
    (∀ text written : String, (parse text).map EntryId.text = .ok written →
      (parse written).map EntryId.text = .ok written) ∧
    ∀ a b : EntryId, a.text = b.text ↔ a = b := by
  refine ⟨fun text id => parse_eq_ok_iff_spells, fun cs => exists_spells_iff,
    fun text fault => exists_defect_of_parse, fun json id => ofJson?_eq_some_iff, ?_,
    parse_text, ?_, fun a b => text_inj⟩
  · intro text
    have hparse : Json.parse? (Json.ofText text).print = some (.ofText text) :=
      Json.parse?_print (.string (some text))
    rw [hparse, Option.bind_some, ofJson?_ofText]
  · intro text written h
    obtain ⟨id, -, rfl⟩ := exists_of_map_eq_ok h
    rw [parse_text]
    rfl

/-- A text with zeros in front, which is written without them, and a text with a sign. -/
theorem text_exact_leading_zeros :
    Spells ⟨12, 3⟩ "00012-003".toList ∧ parse "00012-003" = .ok ⟨12, 3⟩ ∧
    (parse "00012-003").map EntryId.text = .ok "12-3" ∧
    (parse "12-3").map EntryId.text = .ok "12-3" ∧
    ∃ fault defect, parse "+5" = .error fault ∧ fault = .malformedId "+5" defect := by
  have hfront : Denotes "00012".toList 12 := ⟨isNumeral_of_all nofun rfl, by decide⟩
  have hback : Denotes "003".toList 3 := ⟨isNumeral_of_all nofun rfl, by decide⟩
  have hspells : Spells ⟨12, 3⟩ ("00012".toList ++ '-' :: "003".toList) := .full hfront hback
  obtain ⟨htaken, -, hrefused, -, -, -, hwritten, -⟩ := text_exact
  have hparse : parse "00012-003" = .ok ⟨12, 3⟩ := (htaken _ _).2 hspells
  have hshort : (parse "00012-003").map EntryId.text = .ok "12-3" := by
    rw [hparse]
    decide
  refine ⟨hspells, hparse, hshort, hwritten _ _ hshort, ?_⟩
  cases hsigned : parse "+5" with
  | ok id =>
    have hmark : "+5".toList = '+' :: ['5'] := rfl
    exact absurd hsigned (parse_ne_ok_of_mark hmark rfl id)
  | error fault =>
    obtain ⟨defect, hdefect⟩ := hrefused "+5" fault hsigned
    exact ⟨fault, defect, rfl, hdefect⟩

end EntryId

end AppendLog
