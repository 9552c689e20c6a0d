import AppendLog.Json.Printer
import AppendLog.Json.Reader
import Mathlib.Data.List.TakeWhile

/-!
# Cutting printed values into tokens

The machine of `Token.scan?` goes from left to right, so what it makes of printed characters can be
told for anything that follows them: `scanFrom?_string`, `scanFrom?_number` and `scanFrom?_word`.
A number or a word needs a character after it that it cannot hold.
-/

namespace AppendLog.Json.Token

variable {α : Type} {mode next : Mode} {tokens : List Token} {value : Json} {c : Char}
  {cs rest : List Char}

/-- The tokens of what is left of a text, from where the machine stands. -/
def scanFrom? (mode : Mode) : List Char → Option (List Token)
  | [] => finish? mode
  | c :: cs => (step? mode c).bind fun (next, tokens) => (scanFrom? next cs).map (tokens ++ ·)

theorem scanFrom?_cons (h : step? mode c = some (next, tokens)) (cs : List Char) :
    scanFrom? mode (c :: cs) = (scanFrom? next cs).map (tokens ++ ·) := by
  rw [scanFrom?, h, Option.bind_some]

theorem scanFrom?_silent (h : step? mode c = some (next, [])) (cs : List Char) :
    scanFrom? mode (c :: cs) = scanFrom? next cs := by
  rw [scanFrom?_cons h]
  simp

/-- The tokens that were completed before stand in front of the others. -/
theorem foldlM_advance? (mode : Mode) (done : List Token) (cs : List Char) :
    ((cs.foldlM advance? (mode, done)).bind fun (mode, tokens) =>
      (finish? mode).map (tokens.reverse ++ ·)) = (scanFrom? mode cs).map (done.reverse ++ ·) := by
  induction cs generalizing mode done with
  | nil => rfl
  | cons c cs ih =>
    cases hstep : step? mode c with
    | none => simp [scanFrom?, advance?, hstep]
    | some reached =>
      obtain ⟨next, tokens⟩ := reached
      have hnext : advance? (mode, done) c = some (next, tokens.reverse ++ done) := by
        simp [advance?, hstep]
      rw [List.foldlM_cons, hnext, scanFrom?_cons hstep]
      simp [ih, Function.comp_def]

theorem scanFrom?_eq_foldlM (mode : Mode) (cs : List Char) :
    scanFrom? mode cs = (cs.foldlM advance? (mode, [])).bind fun (mode, tokens) =>
      (finish? mode).map (tokens.reverse ++ ·) := by
  rw [foldlM_advance?]
  simp

theorem scan?_eq (cs : List Char) : scan? cs = scanFrom? .between cs := by
  rw [scanFrom?_eq_foldlM, scan?]
  cases cs.foldlM advance? (.between, []) with
  | none => rfl
  | some reached =>
    obtain ⟨mode, tokens⟩ := reached
    simp only [Option.bind_eq_bind, Option.bind_some, Option.pure_def]
    cases finish? mode <;> rfl

/-- A part of a text in which the machine goes from one place to another. -/
theorem scanFrom?_append (h : cs.foldlM advance? (mode, []) = some (next, [])) (rest : List Char) :
    scanFrom? mode (cs ++ rest) = scanFrom? next rest := by
  rw [scanFrom?_eq_foldlM, List.foldlM_append, h, scanFrom?_eq_foldlM next]
  rfl

/-- A part of a text that the machine takes in, piece by piece, without completing a token. -/
theorem scanFrom?_flatMap {within : List α → Mode} {write : α → List Char} {as : List α}
    (h : ∀ a ∈ as, ∀ taken rest,
      scanFrom? (within taken) (write a ++ rest) = scanFrom? (within (a :: taken)) rest)
    (taken : List α) (rest : List Char) :
    scanFrom? (within taken) (as.flatMap write ++ rest) =
      scanFrom? (within (as.reverse ++ taken)) rest := by
  induction as generalizing taken with
  | nil => rfl
  | cons a as ih =>
    have hrest := ih fun b hb => h b (List.mem_cons_of_mem a hb)
    rw [List.flatMap_cons, List.append_assoc, h a List.mem_cons_self, hrest]
    simp

/-! ## Numbers and words -/

/-- What follows a number or a word does not go on with it. -/
def Delimited (rest : List Char) : Prop :=
  ∀ c, rest.head? = some c → isNumberChar c = false ∧ c.isLower = false

theorem delimited_nil : Delimited [] := by
  intro c hc
  cases hc

theorem delimited_cons (hnumber : isNumberChar c = false) (hword : c.isLower = false)
    (cs : List Char) : Delimited (c :: cs) := by
  rintro _ ⟨⟩
  exact ⟨hnumber, hword⟩

/-- Numbers and words are taken in one way: the machine keeps characters of one kind, and reads a
value from them when another comes, with which something new begins, or at the end. -/
structure Gathers (within : List Char → Mode) (holds : Char → Bool)
    (read? : List Char → Option Json) : Prop where
  step : ∀ taken c, step? (within taken) c =
    if holds c then some (within (c :: taken), [])
    else do
      let value ← read? taken.reverse
      let (mode, token) ← begin? c
      return (mode, atom value :: token.toList)
  finish : ∀ taken, finish? (within taken) =
    (read? taken.reverse).map fun value => [atom value]

theorem gathers_number : Gathers .inNumber isNumberChar number? :=
  ⟨fun _ _ => rfl, fun _ => rfl⟩

theorem gathers_word : Gathers .inWord Char.isLower word? :=
  ⟨fun _ _ => rfl, fun _ => rfl⟩

namespace Gathers

variable {within : List Char → Mode} {holds : Char → Bool} {read? : List Char → Option Json}

theorem scanFrom?_take (h : Gathers within holds read?) (hcs : ∀ d ∈ cs, holds d = true)
    (taken rest : List Char) :
    scanFrom? (within taken) (cs ++ rest) = scanFrom? (within (cs.reverse ++ taken)) rest := by
  have htake : ∀ d ∈ cs, ∀ taken rest,
      scanFrom? (within taken) ([d] ++ rest) = scanFrom? (within (d :: taken)) rest := by
    intro d hd taken rest
    apply scanFrom?_silent
    rw [h.step, if_pos (hcs d hd)]
  have hall := scanFrom?_flatMap htake taken rest
  rw [List.flatMap_singleton'] at hall
  exact hall

/-- What comes behind completes the value, and is scanned as if it stood alone. -/
theorem scanFrom?_end (h : Gathers within holds read?) {taken : List Char}
    (hvalue : read? taken.reverse = some value)
    (hrest : ∀ d, rest.head? = some d → holds d = false) :
    scanFrom? (within taken) rest = (scanFrom? .between rest).map (atom value :: ·) := by
  cases rest with
  | nil =>
    rw [scanFrom?, h.finish, hvalue]
    rfl
  | cons d rest =>
    have hd : ¬ holds d = true := by
      rw [hrest d rfl]
      exact Bool.false_ne_true
    rw [scanFrom?, h.step, if_neg hd, hvalue, scanFrom?, step?]
    cases begin? d <;> simp [Function.comp_def]

theorem scanFrom?_eq (h : Gathers within holds read?) (hbegin : begin? c = some (within [c], none))
    (hcs : ∀ d ∈ cs, holds d = true) (hvalue : read? (c :: cs) = some value)
    (hrest : ∀ d, rest.head? = some d → holds d = false) :
    scanFrom? .between (c :: cs ++ rest) = (scanFrom? .between rest).map (atom value :: ·) := by
  have hfirst : step? .between c = some (within [c], []) := by
    rw [step?, hbegin]
    rfl
  have htaken : read? (cs.reverse ++ [c]).reverse = some value := by
    rw [List.reverse_append, List.reverse_reverse]
    exact hvalue
  rw [List.cons_append, scanFrom?_silent hfirst, h.scanFrom?_take hcs, h.scanFrom?_end htaken hrest]

end Gathers

theorem scanFrom?_number (hbegin : begin? c = some (.inNumber [c], none))
    (hcs : ∀ d ∈ cs, isNumberChar d = true) (hvalue : number? (c :: cs) = some value)
    (hrest : Delimited rest) :
    scanFrom? .between (c :: cs ++ rest) = (scanFrom? .between rest).map (atom value :: ·) :=
  gathers_number.scanFrom?_eq hbegin hcs hvalue fun d hd => (hrest d hd).1

theorem scanFrom?_word (hbegin : begin? c = some (.inWord [c], none))
    (hcs : ∀ d ∈ cs, d.isLower = true) (hvalue : word? (c :: cs) = some value)
    (hrest : Delimited rest) :
    scanFrom? .between (c :: cs ++ rest) = (scanFrom? .between rest).map (atom value :: ·) :=
  gathers_word.scanFrom?_eq hbegin hcs hvalue fun d hd => (hrest d hd).2

/-- Digits without a zero in front are read as a whole number. -/
theorem number?_of_isWholePart (hwhole : isWholePart cs = true) (hcs : ∀ d ∈ cs, d.isDigit = true) :
    number? cs = some (natural (Decimal.value cs)) := by
  have htake : cs.takeWhile Char.isDigit = cs := List.takeWhile_eq_self_iff.2 hcs
  have hdrop : cs.dropWhile Char.isDigit = [] := List.dropWhile_eq_nil_iff.2 hcs
  cases cs with
  | nil => cases hwhole
  | cons c cs =>
    have hminus : c ≠ '-' := by
      rintro rfl
      exact absurd (hcs '-' List.mem_cons_self) (by decide)
    simp [number?, hminus, htake, hdrop, hwhole, isFractionAndExponent, isExponent]

theorem exists_toDigits_eq_cons {n : Nat} (hn : 0 < n) :
    ∃ c cs, Nat.toDigits 10 n = c :: cs ∧ c ≠ '0' := by
  induction n using Nat.strongRecOn with
  | ind n ih =>
    rw [Nat.toDigits_eq_if (by decide)]
    split
    · refine ⟨_, _, rfl, ?_⟩
      rw [Ne, Nat.digitChar_eq_zero]
      omega
    · next hge =>
      -- The digits in front of the last one are those of a number that is not zero.
      obtain ⟨c, cs, hcs, hc⟩ := ih (n / 10) (by omega) (by omega)
      rw [hcs]
      exact ⟨c, _, rfl, hc⟩

/-- A numeral has no zero in front of other digits. -/
theorem isWholePart_write (n : Nat) : isWholePart (Decimal.write n).toList = true := by
  rw [Decimal.toList_write]
  rcases Nat.eq_zero_or_pos n with rfl | hn
  · rfl
  · obtain ⟨c, cs, hcs, hc⟩ := exists_toDigits_eq_cons hn
    simp [hcs, isWholePart, hc]

theorem begin?_of_isDigit (h : c.isDigit = true) : begin? c = some (.inNumber [c], none) := by
  have hne : ∀ mark : Char, mark.isDigit = false → c ≠ mark := by
    rintro mark hmark rfl
    rw [h] at hmark
    cases hmark
  simp [begin?, h, hne]

theorem scanFrom?_natural (n : Nat) (hrest : Delimited rest) :
    scanFrom? .between ((Decimal.write n).toList ++ rest) =
      (scanFrom? .between rest).map (atom (natural n) :: ·) := by
  have hdigits := (Decimal.isNumeral_write n).2
  have hvalue : number? (Decimal.write n).toList = some (natural n) := by
    rw [number?_of_isWholePart (isWholePart_write n) hdigits, Decimal.value_write]
  cases hcs : (Decimal.write n).toList with
  | nil => exact absurd hcs (Decimal.isNumeral_write n).1
  | cons c cs =>
    rw [hcs] at hdigits hvalue
    refine scanFrom?_number (begin?_of_isDigit (hdigits c List.mem_cons_self)) ?_ hvalue hrest
    intro d hd
    rw [isNumberChar, hdigits d (List.mem_cons_of_mem c hd)]
    rfl

/-! ## Strings -/

theorem charsOfUnits?_cons {unit : Nat} (hhigh : isHighSurrogate unit = false)
    (hlow : isLowSurrogate unit = false) (units : List Nat) :
    charsOfUnits? (unit :: units) = (charsOfUnits? units).map (Char.ofNat unit :: ·) := by
  cases units with
  | nil => simp [charsOfUnits?, hhigh, hlow]
  | cons next rest => simp [charsOfUnits?, hhigh, hlow]

/-- No character is half of a surrogate pair. -/
theorem charsOfUnits?_map (cs : List Char) : charsOfUnits? (cs.map Char.toNat) = some cs := by
  induction cs with
  | nil => rfl
  | cons c cs ih =>
    have hc : c.toNat < 0xD800 ∨ 0xDFFF < c.toNat := c.valid.imp_right And.left
    have hhigh : isHighSurrogate c.toNat = false := by
      rw [isHighSurrogate, Bool.and_eq_false_iff, decide_eq_false_iff_not, decide_eq_false_iff_not]
      omega
    have hlow : isLowSurrogate c.toNat = false := by
      rw [isLowSurrogate, Bool.and_eq_false_iff, decide_eq_false_iff_not, decide_eq_false_iff_not]
      omega
    rw [List.map_cons, charsOfUnits?_cons hhigh hlow, ih, Char.ofNat_toNat]
    rfl

variable {units : List Nat} {unit : Nat}

theorem scanFrom?_letter (h : escape? c = some unit) (hc : c ≠ 'u') (cs : List Char) :
    scanFrom? (.inString units) ('\\' :: c :: cs) = scanFrom? (.inString (unit :: units)) cs := by
  have hslash : step? (.inString units) '\\' = some (.afterBackslash units, []) := rfl
  rw [scanFrom?_silent hslash]
  apply scanFrom?_silent
  rw [step?, if_neg hc, h]
  rfl

theorem hexDigit?_digitChar : ∀ digit < 16, hexDigit? (Nat.digitChar digit) = some digit := by
  decide

theorem scanFrom?_control (h : unit < 0x20) (cs : List Char) :
    scanFrom? (.inString units) ('\\' :: 'u' :: '0' :: '0' :: Nat.digitChar (unit / 16) ::
      Nat.digitChar (unit % 16) :: cs) = scanFrom? (.inString (unit :: units)) cs := by
  have hhigh := hexDigit?_digitChar (unit / 16) (by omega)
  have hlow := hexDigit?_digitChar (unit % 16) (by omega)
  have hvalue : 16 * (unit / 16) + unit % 16 = unit := Nat.div_add_mod unit 16
  calc scanFrom? (.inString units) (['\\', 'u', '0', '0'] ++ Nat.digitChar (unit / 16) ::
        Nat.digitChar (unit % 16) :: cs)
      = scanFrom? (.inUnit units 2 0) (Nat.digitChar (unit / 16) ::
          Nat.digitChar (unit % 16) :: cs) := scanFrom?_append rfl _
    _ = scanFrom? (.inUnit units 3 (unit / 16)) (Nat.digitChar (unit % 16) :: cs) := by
      apply scanFrom?_silent
      simp [step?, hhigh]
    _ = scanFrom? (.inString (unit :: units)) cs := by
      apply scanFrom?_silent
      simp [step?, hlow, hvalue]

/-- However a character is written in a string, it is taken in as itself. -/
theorem scanFrom?_escapeChar (units : List Nat) (c : Char) (rest : List Char) :
    scanFrom? (.inString units) (escapeChar c ++ rest) =
      scanFrom? (.inString (c.toNat :: units)) rest := by
  rw [escapeChar]
  split
  · next h =>
    apply scanFrom?_letter
    · rw [escape?, if_pos (h.imp_right Or.inl)]
    · rcases h with rfl | rfl <;> decide
  split
  · next h =>
    subst h
    exact scanFrom?_letter rfl (by decide) rest
  split
  · next h =>
    subst h
    exact scanFrom?_letter rfl (by decide) rest
  split
  · next h =>
    subst h
    exact scanFrom?_letter rfl (by decide) rest
  split
  · next h =>
    subst h
    exact scanFrom?_letter rfl (by decide) rest
  split
  · next h =>
    subst h
    exact scanFrom?_letter rfl (by decide) rest
  split
  · next h => exact scanFrom?_control h rest
  · next hmark _ _ _ _ _ hvisible =>
    obtain ⟨hquote, hslash⟩ := not_or.1 hmark
    apply scanFrom?_silent
    rw [step?, if_neg hquote, if_neg hslash, if_neg hvisible]

/-- What a string holds is taken in character by character. -/
theorem scanFrom?_flatMap_escapeChar (cs rest : List Char) :
    scanFrom? (.inString []) (cs.flatMap escapeChar ++ rest) =
      scanFrom? (.inString (cs.map Char.toNat).reverse) rest := by
  let within (taken : List Char) : Mode := .inString (taken.map Char.toNat)
  have htake : ∀ c ∈ cs, ∀ taken rest,
      scanFrom? (within taken) (escapeChar c ++ rest) = scanFrom? (within (c :: taken)) rest :=
    fun c _ taken rest => scanFrom?_escapeChar (taken.map Char.toNat) c rest
  have h := scanFrom?_flatMap htake [] rest
  rw [List.append_nil] at h
  rw [← List.map_reverse]
  exact h

theorem scanFrom?_string (text? : Option String) (rest : List Char) :
    scanFrom? .between ((printString text?).toList ++ rest) =
      (scanFrom? .between rest).map (atom (string text?) :: ·) := by
  cases text? with
  | none =>
    have hescape : scanFrom? .between (['"', '\\', 'u', 'd', '8', '0', '0'] ++ '"' :: rest) =
        scanFrom? (.inString [0xD800]) ('"' :: rest) := scanFrom?_append rfl _
    have hclosing : step? (.inString [0xD800]) '"' = some (.between, [atom (string none)]) := rfl
    rw [scanFrom?_cons hclosing] at hescape
    exact hescape
  | some text =>
    have hprinted : (printString (some text)).toList ++ rest =
        '"' :: (text.toList.flatMap escapeChar ++ '"' :: rest) := by
      simp [printString]
    have hclosing : step? (.inString (text.toList.map Char.toNat).reverse) '"' =
        some (.between, [atom (string (some text))]) := by
      simp [step?, charsOfUnits?_map]
    have hopening : step? .between '"' = some (.inString [], []) := rfl
    rw [hprinted, scanFrom?_silent hopening, scanFrom?_flatMap_escapeChar, scanFrom?_cons hclosing]
    rfl

end AppendLog.Json.Token
