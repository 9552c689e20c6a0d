import AppendLog.Proofs.Json.Scan
import AppendLog.Text.Blank

/-!
# Printed values read back

`parse?` takes the text of a value back to the value, if its numbers are whole ones without sign:
`parse?_print`. The text has no control character in it and so is one line: `visible_print`.
A text of nothing but white space is no value: `parse?_of_isBlank`.
-/

namespace AppendLog.Json

open Token (Delimited atom delimited_nil delimited_cons)
open Reader (Frame State)

/-- Every number in a value is a whole one without sign. -/
inductive Plain : Json → Prop where
  | null : Plain null
  | bool (value : Bool) : Plain (bool value)
  | natural (n : Nat) : Plain (natural n)
  | string (text? : Option String) : Plain (string text?)
  | array {items : List Json} (h : ∀ item ∈ items, Plain item) : Plain (array items)
  | object {members : List (Option String × Json)} (h : ∀ member ∈ members, Plain member.2) :
    Plain (object members)

theorem plain_ofMembers {members : List (String × Json)} :
    Plain (ofMembers members) ↔ ∀ member ∈ members, Plain member.2 := by
  constructor
  · intro h member hmember
    cases h with
    | object h => exact h _ (List.mem_map.2 ⟨member, hmember, rfl⟩)
  · intro h
    apply Plain.object
    intro member hmember
    obtain ⟨named, hnamed, rfl⟩ := List.mem_map.1 hmember
    exact h named hnamed

variable {cs rest : List Char} {c : Char} {value : Json} {state next : State}
  {inside : List Frame}

/-! ## Both machines -/

/-- The value that is read when the machine of the tokens and that of the values go on over what is
left of a text. -/
def readFrom? (mode : Token.Mode) (state : State) (cs : List Char) : Option Json :=
  (Token.scanFrom? mode cs).bind fun tokens =>
    (tokens.foldlM Reader.step? state).bind Reader.result?

theorem parse?_eq (text : String) : parse? text = readFrom? .between (.value []) text.toList := by
  rw [parse?, Token.scan?_eq]
  rfl

/-- A token that is completed is taken by the machine of the values. -/
theorem readFrom?_of_token {token : Token} (hscan : Token.scanFrom? .between (cs ++ rest) =
      (Token.scanFrom? .between rest).map (token :: ·))
    (hread : Reader.step? state token = some next) :
    readFrom? .between state (cs ++ rest) = readFrom? .between next rest := by
  rw [readFrom?, hscan, readFrom?]
  cases Token.scanFrom? .between rest with
  | none => rfl
  | some tokens =>
    rw [Option.map_some, Option.bind_some, Option.bind_some, List.foldlM_cons, hread]
    rfl

theorem readFrom?_mark {token : Token} (hmark : Token.begin? c = some (.between, some token))
    (hread : Reader.step? state token = some next) (rest : List Char) :
    readFrom? .between state (c :: rest) = readFrom? .between next rest := by
  have hstep : Token.step? .between c = some (.between, [token]) := by
    rw [Token.step?, hmark]
    rfl
  have hscan : Token.scanFrom? .between ([c] ++ rest) =
      (Token.scanFrom? .between rest).map (token :: ·) := Token.scanFrom?_cons hstep rest
  exact readFrom?_of_token hscan hread

/-! ## Values in their place -/

/-- A value may come next, and `inside` are the containers around it. -/
inductive Expects : State → List Frame → Prop where
  | value (inside : List Frame) : Expects (.value inside) inside
  | firstItem (inside : List Frame) : Expects (.firstItem inside) (.array [] :: inside)

/-- Wherever a value may come, the characters are read as this one. -/
def Spells (cs : List Char) (value : Json) : Prop :=
  ∀ ⦃state inside rest⦄, Expects state inside → Delimited rest →
    readFrom? .between state (cs ++ rest) = readFrom? .between (.after value inside) rest

theorem spells_of_atom (h : ∀ ⦃rest⦄, Delimited rest → Token.scanFrom? .between (cs ++ rest) =
    (Token.scanFrom? .between rest).map (atom value :: ·)) : Spells cs value := by
  intro state inside rest hstate hrest
  apply readFrom?_of_token (h hrest)
  cases hstate <;> rfl

/-- A value that is written as a word. -/
theorem spells_word (hprint : (print value).toList = c :: cs)
    (hword : cs.all Char.isLower = true)
    (hbegin : Token.begin? c = some (.inWord [c], none))
    (hvalue : Token.word? (c :: cs) = some value) : Spells (print value).toList value := by
  rw [hprint]
  apply spells_of_atom
  intro rest hrest
  exact Token.scanFrom?_word hbegin (List.all_eq_true.1 hword) hvalue hrest

/-- Items are read into the array that they are in, up to its end. -/
theorem readFrom?_items {items : List Json} (hne : items ≠ [])
    (h : ∀ item ∈ items, Spells (print item).toList item) {taken : List Json}
    (hstate : Expects state (.array taken :: inside)) (rest : List Char) :
    readFrom? .between state ((printItems items).toList ++ ']' :: rest) =
      readFrom? .between (.after (.array (taken.reverse ++ items)) inside) rest := by
  induction items generalizing taken state with
  | nil => exact absurd rfl hne
  | cons item items ih =>
    have hitem := h item List.mem_cons_self
    cases items with
    | nil =>
      rw [printItems, hitem hstate (delimited_cons rfl rfl rest), readFrom?_mark rfl rfl]
      simp
    | cons second others =>
      have hothers : ∀ other ∈ second :: others, Spells (print other).toList other :=
        fun other hother => h other (List.mem_cons_of_mem item hother)
      have hprinted : (printItems (item :: second :: others)).toList ++ ']' :: rest =
          (print item).toList ++ ',' :: ((printItems (second :: others)).toList ++ ']' :: rest) := by
        simp [printItems]
      rw [hprinted, hitem hstate (delimited_cons rfl rfl _), readFrom?_mark rfl rfl,
        ih (List.cons_ne_nil second others) hothers (.value _)]
      simp

theorem spells_array {items : List Json} (h : ∀ item ∈ items, Spells (print item).toList item) :
    Spells (print (array items)).toList (array items) := by
  intro state inside rest hstate _
  have hprinted : (print (array items)).toList ++ rest =
      '[' :: ((printItems items).toList ++ ']' :: rest) := by
    simp [print]
  have hopening : Reader.step? state .openBracket = some (.firstItem inside) := by
    cases hstate <;> rfl
  rw [hprinted, readFrom?_mark rfl hopening]
  by_cases hne : items = []
  · subst hne
    exact readFrom?_mark rfl rfl rest
  · exact readFrom?_items hne h (.firstItem inside) rest

/-- The name of a member may come next, after the members that were taken. -/
inductive ExpectsName : State → List (Option String × Json) → List Frame → Prop where
  | first (inside : List Frame) : ExpectsName (.firstName inside) [] inside
  | name (members : List (Option String × Json)) (inside : List Frame) :
    ExpectsName (.name members inside) members inside

/-- Members are read into the object that they are in, up to its end. -/
theorem readFrom?_members {members : List (Option String × Json)} (hne : members ≠ [])
    (h : ∀ member ∈ members, Spells (print member.2).toList member.2)
    {taken : List (Option String × Json)} (hstate : ExpectsName state taken inside)
    (rest : List Char) :
    readFrom? .between state ((printMembers members).toList ++ '}' :: rest) =
      readFrom? .between (.after (.object (taken.reverse ++ members)) inside) rest := by
  induction members generalizing taken state with
  | nil => exact absurd rfl hne
  | cons member members ih =>
    obtain ⟨name, value⟩ := member
    have hvalue : Spells (print value).toList value := h (name, value) List.mem_cons_self
    have hname : Reader.step? state (atom (string name)) = some (.colon taken name inside) := by
      cases hstate <;> rfl
    have hfirst (after : List Char) (hafter : Delimited after) :
        readFrom? .between state
            ((printString name).toList ++ ':' :: ((print value).toList ++ after)) =
          readFrom? .between (.after value (.object taken name :: inside)) after := by
      rw [readFrom?_of_token (Token.scanFrom?_string name _) hname, readFrom?_mark rfl rfl,
        hvalue (.value _) hafter]
    cases members with
    | nil =>
      have hprinted : (printMembers [(name, value)]).toList ++ '}' :: rest =
          (printString name).toList ++ ':' :: ((print value).toList ++ '}' :: rest) := by
        simp [printMembers]
      rw [hprinted, hfirst _ (delimited_cons rfl rfl rest), readFrom?_mark rfl rfl]
      simp
    | cons second others =>
      have hothers : ∀ other ∈ second :: others, Spells (print other.2).toList other.2 :=
        fun other hother => h other (List.mem_cons_of_mem (name, value) hother)
      have hprinted : (printMembers ((name, value) :: second :: others)).toList ++ '}' :: rest =
          (printString name).toList ++ ':' :: ((print value).toList ++
            ',' :: ((printMembers (second :: others)).toList ++ '}' :: rest)) := by
        simp [printMembers]
      rw [hprinted, hfirst _ (delimited_cons rfl rfl _), readFrom?_mark rfl rfl,
        ih (List.cons_ne_nil second others) hothers (.name _ _)]
      simp

theorem spells_object {members : List (Option String × Json)}
    (h : ∀ member ∈ members, Spells (print member.2).toList member.2) :
    Spells (print (object members)).toList (object members) := by
  intro state inside rest hstate _
  have hprinted : (print (object members)).toList ++ rest =
      '{' :: ((printMembers members).toList ++ '}' :: rest) := by
    simp [print]
  have hopening : Reader.step? state .openBrace = some (.firstName inside) := by
    cases hstate <;> rfl
  rw [hprinted, readFrom?_mark rfl hopening]
  by_cases hne : members = []
  · subst hne
    exact readFrom?_mark rfl rfl rest
  · exact readFrom?_members hne h (.first inside) rest

/-! ## Whole texts -/

theorem spells_print (h : Plain value) : Spells (print value).toList value := by
  induction h with
  | null =>
    have hprint : (print null).toList = ['n', 'u', 'l', 'l'] := rfl
    exact spells_word hprint rfl rfl rfl
  | bool value =>
    cases value with
    | false =>
      have hprint : (print (bool false)).toList = ['f', 'a', 'l', 's', 'e'] := rfl
      exact spells_word hprint rfl rfl rfl
    | true =>
      have hprint : (print (bool true)).toList = ['t', 'r', 'u', 'e'] := rfl
      exact spells_word hprint rfl rfl rfl
  | natural n => exact spells_of_atom fun _ hrest => Token.scanFrom?_natural n hrest
  | string text? => exact spells_of_atom fun rest _ => Token.scanFrom?_string text? rest
  | array _ ih => exact spells_array ih
  | object _ ih => exact spells_object ih

theorem parse?_print (h : Plain value) : parse? (print value) = some value := by
  have hread := spells_print h (.value []) delimited_nil
  rw [List.append_nil] at hread
  rw [parse?_eq, hread]
  rfl

/-! ## Blank texts -/

theorem toNat_of_isBlankChar (h : Text.isBlankChar c = true) :
    c.toNat ≤ 0x20 ∨ 0x7F < c.toNat := by
  simp only [Text.isBlankChar, Bool.or_eq_true, Bool.and_eq_true, decide_eq_true_eq,
    beq_iff_eq] at h
  omega

/-- White space is left out or refused; no token begins with it. -/
theorem begin?_of_isBlankChar (h : Text.isBlankChar c = true) :
    Token.begin? c = some (.between, none) ∨ Token.begin? c = none := by
  have hrange := toNat_of_isBlankChar h
  have hne : ∀ mark : Char, ¬ (mark.toNat ≤ 0x20 ∨ 0x7F < mark.toNat) → c ≠ mark := by
    rintro mark hmark rfl
    exact hmark hrange
  have hdigit : c.isDigit = false := by
    rw [Bool.eq_false_iff, Ne, Char.isDigit_iff_toNat]
    have hzero : '0'.toNat = 0x30 := rfl
    have hnine : '9'.toNat = 0x39 := rfl
    omega
  have hlower : c.isLower = false := by
    change (decide (c.val ≥ 'a'.val) && decide (c.val ≤ 'z'.val)) = false
    simp only [Bool.and_eq_false_iff, decide_eq_false_iff_not, ge_iff_le, UInt32.le_iff_toNat_le,
      Char.toNat_val]
    have ha : 'a'.toNat = 0x61 := rfl
    have hz : 'z'.toNat = 0x7A := rfl
    omega
  by_cases hspace : c = ' ' ∨ c = '\t' ∨ c = '\n' ∨ c = '\r'
  · left
    rw [Token.begin?, if_pos hspace]
  · right
    rw [Token.begin?, if_neg hspace]
    simp [hne, hdigit, hlower]

theorem readFrom?_blank (h : ∀ c ∈ cs, Text.isBlankChar c = true) :
    readFrom? .between (.value []) cs = none := by
  induction cs with
  | nil => rfl
  | cons c cs ih =>
    have hcs := ih fun d hd => h d (List.mem_cons_of_mem c hd)
    rcases begin?_of_isBlankChar (h c List.mem_cons_self) with hc | hc
    · have hstep : Token.step? .between c = some (.between, []) := by
        rw [Token.step?, hc]
        rfl
      rw [readFrom?, Token.scanFrom?_silent hstep]
      exact hcs
    · rw [readFrom?, Token.scanFrom?, Token.step?, hc]
      rfl

theorem parse?_of_isBlank {text : String} (h : Text.isBlank text = true) : parse? text = none := by
  rw [parse?_eq]
  exact readFrom?_blank (List.all_eq_true.1 h)

/-! ## One line -/

/-- Characters of which none is a control character; an end of line is one. -/
def Visible (cs : List Char) : Prop := ∀ c ∈ cs, 0x20 ≤ c.toNat

instance (cs : List Char) : Decidable (Visible cs) := List.decidableBAll _ cs

@[simp] theorem visible_append {ds : List Char} : Visible (cs ++ ds) ↔ Visible cs ∧ Visible ds :=
  List.forall_mem_append

@[simp] theorem visible_cons : Visible (c :: cs) ↔ 0x20 ≤ c.toNat ∧ Visible cs :=
  List.forall_mem_cons

@[simp] theorem visible_nil : Visible [] := List.forall_mem_nil _

theorem toNat_digitChar_ge : ∀ digit < 16, 0x20 ≤ (Nat.digitChar digit).toNat := by decide

theorem visible_escapeChar (c : Char) : Visible (escapeChar c) := by
  rw [escapeChar]
  split
  · next h => rcases h with rfl | rfl <;> decide
  split
  · decide
  split
  · decide
  split
  · decide
  split
  · decide
  split
  · decide
  split
  · next h =>
    have hhigh := toNat_digitChar_ge (c.toNat / 16) (by omega)
    have hlow := toNat_digitChar_ge (c.toNat % 16) (by omega)
    simp [hhigh, hlow]
  · next h => simpa using h

theorem visible_printString (text? : Option String) : Visible (printString text?).toList := by
  cases text? with
  | none => decide
  | some text =>
    have hbody : Visible (text.toList.flatMap escapeChar) := by
      intro c hc
      obtain ⟨d, _, hd⟩ := List.mem_flatMap.1 hc
      exact visible_escapeChar d c hd
    simpa [printString] using hbody

theorem visible_write (n : Nat) : Visible (Decimal.write n).toList := by
  intro c hc
  have hdigit := (Decimal.isNumeral_write n).2 c hc
  have hge : '0'.toNat ≤ c.toNat := (Char.isDigit_iff_toNat.1 hdigit).1
  exact Nat.le_trans (by decide) hge

theorem visible_printItems {items : List Json} (h : ∀ item ∈ items, Visible (print item).toList) :
    Visible (printItems items).toList := by
  induction items with
  | nil => decide
  | cons item items ih =>
    have hitem := h item List.mem_cons_self
    have hothers := ih fun other hother => h other (List.mem_cons_of_mem item hother)
    cases items with
    | nil => exact hitem
    | cons second others => simp [printItems, hitem, hothers]

theorem visible_printMembers {members : List (Option String × Json)}
    (h : ∀ member ∈ members, Visible (print member.2).toList) :
    Visible (printMembers members).toList := by
  induction members with
  | nil => decide
  | cons member members ih =>
    obtain ⟨name, value⟩ := member
    have hname := visible_printString name
    have hvalue : Visible (print value).toList := h (name, value) List.mem_cons_self
    have hothers := ih fun other hother => h other (List.mem_cons_of_mem (name, value) hother)
    cases members with
    | nil => simp [printMembers, hname, hvalue]
    | cons second others => simp [printMembers, hname, hvalue, hothers]

theorem visible_print (h : Plain value) : Visible (print value).toList := by
  induction h with
  | null => decide
  | bool value => cases value <;> decide
  | natural n => exact visible_write n
  | string text? => exact visible_printString text?
  | array _ ih => simpa [print] using visible_printItems ih
  | object _ ih => simpa [print] using visible_printMembers ih

end AppendLog.Json
