import AppendLog.Base64
import Mathlib.Algebra.Group.Nat.Defs
import Mathlib.Data.List.Forall2

/-!
# Bytes and their base64

Base64 of bytes, as the standard has it: the bits of all bytes in a row, with zeros behind them up
to a multiple of six, are read six at a time as numbers of symbols, and equals signs fill the text
up to a multiple of four symbols. `Base64.IsBase64` says that without a word about groups of bytes.
Writing makes this text and no other, and reading takes this text and no other:
`Base64.decode?_eq_some_iff`.
-/

namespace AppendLog.Base64

/-! ## The standard -/

/-- The symbols in the order of their numbers. -/
def alphabet : List Char :=
  "ABCDEFGHIJKLMNOPQRSTUVWXYZabcdefghijklmnopqrstuvwxyz0123456789+/".toList

/-- The bits of a number, the highest first. -/
def bits : (width n : Nat) → List Nat
  | 0, _ => []
  | width + 1, n => bits width (n / 2) ++ [n % 2]

/-- The text that is base64 of bytes. -/
inductive IsBase64 (bytes : List UInt8) : List Char → Prop where
  | mk {numbers : List Nat} {symbols : List Char} {zeros padding : Nat}
      (hbits : numbers.flatMap (bits 6) =
        bytes.flatMap (fun byte => bits 8 byte.toNat) ++ List.replicate zeros 0)
      (hzeros : zeros < 6)
      (hsymbols : List.Forall₂ (fun n symbol => alphabet[n]? = some symbol) numbers symbols)
      (hlength : (symbols.length + padding) % 4 = 0) (hpadding : padding < 4) :
      IsBase64 bytes (symbols ++ List.replicate padding '=')

/-! ## Symbols -/

theorem alphabet_eq : alphabet = (List.range 64).map symbol := by
  decide

theorem alphabet_getElem?_eq_some_iff {n : Nat} {c : Char} :
    alphabet[n]? = some c ↔ n < 64 ∧ symbol n = c := by
  rw [alphabet_eq, List.getElem?_map, Option.map_eq_some_iff]
  simp only [List.getElem?_eq_some_iff, List.length_range, List.getElem_range]
  constructor
  · rintro ⟨_, ⟨hn, rfl⟩, hc⟩
    exact ⟨hn, hc⟩
  · rintro ⟨hn, hc⟩
    exact ⟨n, ⟨hn, rfl⟩, hc⟩

theorem symbol_ne_pad {n : Nat} (h : n < 64) : symbol n ≠ '=' := by
  revert n
  decide

/-- A range of characters stands for numbers that follow each other. -/
theorem symbol_of_range {first last c : Char} (offset : Nat) (h : first ≤ c ∧ c ≤ last)
    (hrange : ∀ k ≤ last.toNat - first.toNat,
      k + offset < 64 ∧ symbol (k + offset) = Char.ofNat (first.toNat + k)) :
    c.toNat - first.toNat + offset < 64 ∧ symbol (c.toNat - first.toNat + offset) = c := by
  obtain ⟨hfirst, hlast⟩ : first.toNat ≤ c.toNat ∧ c.toNat ≤ last.toNat := h
  obtain ⟨hbound, hsymbol⟩ := hrange (c.toNat - first.toNat) (Nat.sub_le_sub_right hlast _)
  rw [Nat.add_sub_cancel' hfirst, Char.ofNat_toNat] at hsymbol
  exact ⟨hbound, hsymbol⟩

/-- A number is read from its own symbol only. -/
theorem symbol_of_sextet? {c : Char} {n : Nat} (h : sextet? c = some n) :
    n < 64 ∧ symbol n = c := by
  unfold sextet? at h
  split at h
  · next hc => exact Option.some.inj h ▸ symbol_of_range 0 hc (by decide)
  split at h
  · next hc => exact Option.some.inj h ▸ symbol_of_range 26 hc (by decide)
  split at h
  · next hc => exact Option.some.inj h ▸ symbol_of_range 52 hc (by decide)
  split at h
  · next hc => exact Option.some.inj h ▸ ⟨by decide, hc.symm⟩
  split at h
  · next hc => exact Option.some.inj h ▸ ⟨by decide, hc.symm⟩
  · cases h

/-! ## Bits -/

theorem length_bits (width n : Nat) : (bits width n).length = width := by
  induction width generalizing n with
  | zero => rfl
  | succ width ih => rw [bits, List.length_append, ih, List.length_singleton]

/-- Bits behind bits are those of one number. -/
theorem bits_append_bits (width m : Nat) {width' n : Nat} (h : n < 2 ^ width') :
    bits width m ++ bits width' n = bits (width + width') (m * 2 ^ width' + n) := by
  induction width' generalizing n with
  | zero =>
    obtain rfl := Nat.lt_one_iff.1 h
    simp [bits]
  | succ width' ih =>
    have hhigh : (m * 2 ^ (width' + 1) + n) / 2 = m * 2 ^ width' + n / 2 := by
      rw [Nat.pow_succ, ← Nat.mul_assoc]
      omega
    have hlow : (m * 2 ^ (width' + 1) + n) % 2 = n % 2 := by
      rw [Nat.pow_succ, ← Nat.mul_assoc]
      omega
    rw [bits, ← List.append_assoc, ih (by rw [Nat.pow_succ] at h; omega), ← Nat.add_assoc, bits,
      hhigh, hlow]

theorem bits_inj {width m n : Nat} (hm : m < 2 ^ width) (hn : n < 2 ^ width)
    (h : bits width m = bits width n) : m = n := by
  induction width generalizing m n with
  | zero => omega
  | succ width ih =>
    rw [Nat.pow_succ] at hm hn
    obtain ⟨hhigh, hlow⟩ := List.append_inj' h rfl
    have := ih (by omega) (by omega) hhigh
    have := List.singleton_inj.1 hlow
    omega

theorem length_flatMap_bits (width : Nat) (numbers : List Nat) :
    (numbers.flatMap (bits width)).length = width * numbers.length := by
  induction numbers with
  | nil => rfl
  | cons n rest ih =>
    rw [List.flatMap_cons, List.length_append, length_bits, ih, List.length_cons, Nat.mul_succ,
      Nat.add_comm]

theorem flatMap_bits_inj {width : Nat} {numbers numbers' : List Nat}
    (hlength : numbers.length = numbers'.length) (hlt : ∀ n ∈ numbers, n < 2 ^ width)
    (hlt' : ∀ n ∈ numbers', n < 2 ^ width)
    (h : numbers.flatMap (bits width) = numbers'.flatMap (bits width)) : numbers = numbers' := by
  induction numbers generalizing numbers' with
  | nil => exact (List.length_eq_zero_iff.1 hlength.symm).symm
  | cons n rest ih =>
    cases numbers' with
    | nil => cases hlength
    | cons n' rest' =>
      rw [List.forall_mem_cons] at hlt hlt'
      rw [List.flatMap_cons, List.flatMap_cons] at h
      obtain ⟨hfirst, hrest⟩ := List.append_inj h (by rw [length_bits, length_bits])
      rw [bits_inj hlt.1 hlt'.1 hfirst, ih (Nat.succ.inj hlength) hlt.2 hlt'.2 hrest]

/-! ## Writing -/

theorem bits_one (a : UInt8) :
    bits 6 (a.toNat / 4) ++ bits 6 (a.toNat % 4 * 16) = bits 8 a.toNat ++ bits 4 0 := by
  rw [bits_append_bits 6 _ (by omega), bits_append_bits 8 _ (by omega)]
  exact congrArg (bits 12) (by omega)

theorem bits_two (a b : UInt8) :
    bits 6 (a.toNat / 4) ++ (bits 6 (a.toNat % 4 * 16 + b.toNat / 16) ++
      bits 6 (b.toNat % 16 * 4)) = bits 8 a.toNat ++ (bits 8 b.toNat ++ bits 2 0) := by
  have := b.toNat_lt
  rw [bits_append_bits 6 _ (by omega), bits_append_bits 6 _ (by omega),
    bits_append_bits 8 _ (by omega), bits_append_bits 8 _ (by omega)]
  exact congrArg (bits 18) (by omega)

theorem bits_three (a b c : UInt8) :
    bits 6 (a.toNat / 4) ++ (bits 6 (a.toNat % 4 * 16 + b.toNat / 16) ++
      (bits 6 (b.toNat % 16 * 4 + c.toNat / 64) ++ bits 6 (c.toNat % 64))) =
      bits 8 a.toNat ++ (bits 8 b.toNat ++ bits 8 c.toNat) := by
  have := b.toNat_lt
  have := c.toNat_lt
  rw [bits_append_bits 6 _ (by omega), bits_append_bits 6 _ (by omega),
    bits_append_bits 6 _ (by omega), bits_append_bits 8 _ (by omega),
    bits_append_bits 8 _ (by omega)]
  exact congrArg (bits 24) (by omega)

theorem forall₂_alphabet_iff {numbers : List Nat} {symbols : List Char} :
    List.Forall₂ (fun n symbol => alphabet[n]? = some symbol) numbers symbols ↔
      (∀ n ∈ numbers, n < 64) ∧ numbers.map symbol = symbols := by
  induction numbers generalizing symbols with
  | nil => simp [eq_comm]
  | cons n rest ih =>
    cases symbols with
    | nil => simp
    | cons c symbols =>
      rw [List.forall₂_cons, ih, alphabet_getElem?_eq_some_iff, List.forall_mem_cons, List.map_cons,
        List.cons.injEq]
      exact and_and_and_comm

/-- The text in terms of the numbers of its symbols. -/
theorem isBase64_iff {bytes : List UInt8} {text : List Char} :
    IsBase64 bytes text ↔ ∃ (numbers : List Nat) (zeros padding : Nat),
      (∀ n ∈ numbers, n < 64) ∧ text = numbers.map symbol ++ List.replicate padding '=' ∧
      numbers.flatMap (bits 6) =
        bytes.flatMap (fun byte => bits 8 byte.toNat) ++ List.replicate zeros 0 ∧ zeros < 6 ∧
      (numbers.length + padding) % 4 = 0 ∧ padding < 4 := by
  constructor
  · rintro ⟨hbits, hzeros, hsymbols, hlength, hpadding⟩
    obtain ⟨hnumbers, rfl⟩ := forall₂_alphabet_iff.1 hsymbols
    rw [List.length_map] at hlength
    exact ⟨_, _, _, hnumbers, rfl, hbits, hzeros, hlength, hpadding⟩
  · rintro ⟨numbers, zeros, padding, hnumbers, rfl, hbits, hzeros, hlength, hpadding⟩
    rw [← List.length_map symbol] at hlength
    exact ⟨hbits, hzeros, forall₂_alphabet_iff.2 ⟨hnumbers, rfl⟩, hlength, hpadding⟩

theorem isBase64_encodeList (bytes : List UInt8) : IsBase64 bytes (encodeList bytes) := by
  rw [isBase64_iff]
  induction bytes using encodeList.induct with
  | case1 => exact ⟨[], 0, 0, by simp, rfl, rfl, by decide, rfl, by decide⟩
  | case2 a =>
    have := a.toNat_lt
    refine ⟨[a.toNat / 4, a.toNat % 4 * 16], 4, 2, ?_, rfl, bits_one a, by decide, by simp,
      by decide⟩
    simp only [List.forall_mem_cons]
    refine ⟨by omega, by omega, by simp⟩
  | case3 a b =>
    have := a.toNat_lt
    have := b.toNat_lt
    refine ⟨[a.toNat / 4, a.toNat % 4 * 16 + b.toNat / 16, b.toNat % 16 * 4], 2, 1, ?_, rfl,
      bits_two a b, by decide, by simp, by decide⟩
    simp only [List.forall_mem_cons]
    refine ⟨by omega, by omega, by omega, by simp⟩
  | case4 a b c rest ih =>
    have := a.toNat_lt
    have := b.toNat_lt
    have := c.toNat_lt
    obtain ⟨numbers, zeros, padding, hnumbers, htext, hbits, hzeros, hlength, hpadding⟩ := ih
    refine ⟨a.toNat / 4 :: (a.toNat % 4 * 16 + b.toNat / 16) ::
      (b.toNat % 16 * 4 + c.toNat / 64) :: c.toNat % 64 :: numbers, zeros, padding, ?_, ?_, ?_,
      hzeros, ?_, hpadding⟩
    · simp only [List.forall_mem_cons]
      refine ⟨by omega, by omega, by omega, by omega, hnumbers⟩
    · rw [encodeList, htext]
      rfl
    · have hgroup := congrArg (· ++ numbers.flatMap (bits 6)) (bits_three a b c)
      simpa only [List.flatMap_cons, List.append_assoc, hbits] using hgroup
    · rw [← hlength]
      simp only [List.length_cons]
      omega

/-- Bytes have one text that is their base64. -/
theorem IsBase64.unique {bytes : List UInt8} {text text' : List Char} (h : IsBase64 bytes text)
    (h' : IsBase64 bytes text') : text = text' := by
  obtain ⟨numbers, zeros, padding, hnumbers, rfl, hbits, hzeros, hlength, hpadding⟩ :=
    isBase64_iff.1 h
  obtain ⟨numbers', zeros', padding', hnumbers', rfl, hbits', hzeros', hlength', hpadding'⟩ :=
    isBase64_iff.1 h'
  -- The number of bits leaves one number of symbols, and so one of zeros and of equals signs.
  have hcount := congrArg List.length hbits
  have hcount' := congrArg List.length hbits'
  rw [List.length_append, List.length_replicate, length_flatMap_bits] at hcount hcount'
  have hsame : numbers.length = numbers'.length := by omega
  obtain rfl : zeros = zeros' := by omega
  obtain rfl : padding = padding' := by omega
  rw [flatMap_bits_inj hsame hnumbers hnumbers' (hbits.trans hbits'.symm)]

theorem isBase64_iff_encodeList_eq {bytes : List UInt8} {text : List Char} :
    IsBase64 bytes text ↔ encodeList bytes = text := by
  constructor
  · exact (isBase64_encodeList bytes).unique
  · rintro rfl
    exact isBase64_encodeList bytes

/-! ## Reading -/

theorem ofNat_eq {byte : UInt8} {n : Nat} (h : n = byte.toNat) : UInt8.ofNat n = byte := by
  rw [h, UInt8.ofNat_toNat]

theorem decodeList?_encodeList (bytes : List UInt8) :
    decodeList? (encodeList bytes) = some bytes := by
  induction bytes using encodeList.induct with
  | case1 => rfl
  | case2 a =>
    have := a.toNat_lt
    rw [encodeList, decodeList?, if_pos rfl, if_pos rfl, if_pos rfl, decodeOne?,
      sextet?_symbol (by omega), sextet?_symbol (by omega)]
    simp only [Option.bind_eq_bind, Option.bind_some]
    rw [if_pos (by omega), @ofNat_eq a _ (by omega)]
  | case3 a b =>
    have := a.toNat_lt
    have := b.toNat_lt
    rw [encodeList, decodeList?, if_pos rfl, if_pos rfl, if_neg (symbol_ne_pad (by omega)),
      decodeTwo?, sextet?_symbol (by omega), sextet?_symbol (by omega), sextet?_symbol (by omega)]
    simp only [Option.bind_eq_bind, Option.bind_some]
    rw [if_pos (by omega), @ofNat_eq a _ (by omega), @ofNat_eq b _ (by omega)]
  | case4 a b c rest ih =>
    have := a.toNat_lt
    have := b.toNat_lt
    have := c.toNat_lt
    rw [encodeList, decodeList?, if_neg (symbol_ne_pad (by omega)), decodeThree?,
      sextet?_symbol (by omega), sextet?_symbol (by omega), sextet?_symbol (by omega),
      sextet?_symbol (by omega), ih]
    simp only [Option.bind_eq_bind, Option.bind_some]
    rw [@ofNat_eq a _ (by omega), @ofNat_eq b _ (by omega), @ofNat_eq c _ (by omega)]
    rfl

theorem encodeList_of_decodeOne? {p q : Char} {bytes : List UInt8}
    (h : decodeOne? p q = some bytes) : encodeList bytes = [p, q, '=', '='] := by
  simp only [decodeOne?, Option.bind_eq_bind, Option.bind_eq_some_iff] at h
  obtain ⟨m, hp, n, hq, h⟩ := h
  obtain ⟨hm, rfl⟩ := symbol_of_sextet? hp
  obtain ⟨hn, rfl⟩ := symbol_of_sextet? hq
  split at h
  · obtain rfl := Option.some.inj h
    have hfirst : (m * 4 + n / 16) % 2 ^ 8 / 4 = m := by omega
    have hsecond : (m * 4 + n / 16) % 2 ^ 8 % 4 * 16 = n := by omega
    rw [encodeList, UInt8.toNat_ofNat', hfirst, hsecond]
  · cases h

theorem encodeList_of_decodeTwo? {p q r : Char} {bytes : List UInt8}
    (h : decodeTwo? p q r = some bytes) : encodeList bytes = [p, q, r, '='] := by
  simp only [decodeTwo?, Option.bind_eq_bind, Option.bind_eq_some_iff] at h
  obtain ⟨m, hp, n, hq, k, hr, h⟩ := h
  obtain ⟨hm, rfl⟩ := symbol_of_sextet? hp
  obtain ⟨hn, rfl⟩ := symbol_of_sextet? hq
  obtain ⟨hk, rfl⟩ := symbol_of_sextet? hr
  split at h
  · obtain rfl := Option.some.inj h
    have hfirst : (m * 4 + n / 16) % 2 ^ 8 / 4 = m := by omega
    have hsecond :
        (m * 4 + n / 16) % 2 ^ 8 % 4 * 16 + (n % 16 * 16 + k / 4) % 2 ^ 8 / 16 = n := by
      omega
    have hthird : (n % 16 * 16 + k / 4) % 2 ^ 8 % 16 * 4 = k := by omega
    rw [encodeList, UInt8.toNat_ofNat', UInt8.toNat_ofNat', hfirst, hsecond, hthird]
  · cases h

theorem encodeList_of_decodeThree? {p q r s : Char} {bytes rest : List UInt8}
    (h : decodeThree? p q r s = some bytes) :
    encodeList (bytes ++ rest) = p :: q :: r :: s :: encodeList rest := by
  simp only [decodeThree?, Option.bind_eq_bind, Option.bind_eq_some_iff] at h
  obtain ⟨m, hp, n, hq, k, hr, l, hs, h⟩ := h
  obtain ⟨hm, rfl⟩ := symbol_of_sextet? hp
  obtain ⟨hn, rfl⟩ := symbol_of_sextet? hq
  obtain ⟨hk, rfl⟩ := symbol_of_sextet? hr
  obtain ⟨hl, rfl⟩ := symbol_of_sextet? hs
  obtain rfl := Option.some.inj h
  have hfirst : (m * 4 + n / 16) % 2 ^ 8 / 4 = m := by omega
  have hsecond :
      (m * 4 + n / 16) % 2 ^ 8 % 4 * 16 + (n % 16 * 16 + k / 4) % 2 ^ 8 / 16 = n := by
    omega
  have hthird : (n % 16 * 16 + k / 4) % 2 ^ 8 % 16 * 4 + (k % 4 * 64 + l) % 2 ^ 8 / 64 = k := by
    omega
  have hfourth : (k % 4 * 64 + l) % 2 ^ 8 % 64 = l := by omega
  rw [List.cons_append, List.cons_append, List.cons_append, List.nil_append, encodeList,
    UInt8.toNat_ofNat', UInt8.toNat_ofNat', UInt8.toNat_ofNat', hfirst, hsecond, hthird, hfourth]

/-- Symbols are read as bytes only if they are what is written for them. -/
theorem encodeList_of_decodeList? {symbols : List Char} {bytes : List UInt8}
    (h : decodeList? symbols = some bytes) : encodeList bytes = symbols := by
  fun_induction decodeList? symbols generalizing bytes with
  | case1 =>
    obtain rfl := Option.some.inj h
    rfl
  | case2 p q => exact encodeList_of_decodeOne? h
  | case3 p q r => exact encodeList_of_decodeTwo? h
  | case4 => cases h
  | case5 p q r s rest _ ih =>
    simp only [Option.bind_eq_bind, Option.bind_eq_some_iff] at h
    obtain ⟨group, hgroup, later, hlater, h⟩ := h
    obtain rfl := Option.some.inj h
    rw [encodeList_of_decodeThree? hgroup, ih hlater]
  | case6 => cases h

theorem decodeList?_eq_some_iff {symbols : List Char} {bytes : List UInt8} :
    decodeList? symbols = some bytes ↔ IsBase64 bytes symbols := by
  rw [isBase64_iff_encodeList_eq]
  constructor
  · exact encodeList_of_decodeList?
  · rintro rfl
    exact decodeList?_encodeList bytes

/-! ## Texts -/

theorem isBase64_encode (bytes : ByteArray) :
    IsBase64 bytes.data.toList (encode bytes).toList := by
  rw [encode, String.toList_ofList]
  exact isBase64_encodeList _

/-- **Reading is exact.** A text is read as the bytes of which it is base64, and if there are none
it is not read at all. -/
theorem decode?_eq_some_iff {text : String} {bytes : ByteArray} :
    decode? text = some bytes ↔ IsBase64 bytes.data.toList text.toList := by
  rw [decode?, Option.map_eq_some_iff, ← decodeList?_eq_some_iff]
  constructor
  · rintro ⟨found, hfound, rfl⟩
    exact hfound
  · intro h
    exact ⟨_, h, rfl⟩

theorem decode?_encode (bytes : ByteArray) : decode? (encode bytes) = some bytes :=
  decode?_eq_some_iff.2 (isBase64_encode bytes)

end AppendLog.Base64
