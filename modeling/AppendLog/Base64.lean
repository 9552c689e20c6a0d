/-!
# Base64

Bytes as text in the standard alphabet: three bytes to four symbols, the last group filled up with
equals signs. Reading takes exactly what writing gives: all padding, no white space, and zeros in
the bits that the last group leaves over.
-/

namespace AppendLog.Base64

/-! ## Symbols -/

/-- The symbol of a number below 64. -/
def symbol (n : Nat) : Char :=
  if n < 26 then Char.ofNat ('A'.toNat + n)
  else if n < 52 then Char.ofNat ('a'.toNat + (n - 26))
  else if n < 62 then Char.ofNat ('0'.toNat + (n - 52))
  else if n = 62 then '+'
  else '/'

def sextet? (c : Char) : Option Nat :=
  if 'A' ≤ c ∧ c ≤ 'Z' then some (c.toNat - 'A'.toNat)
  else if 'a' ≤ c ∧ c ≤ 'z' then some (c.toNat - 'a'.toNat + 26)
  else if '0' ≤ c ∧ c ≤ '9' then some (c.toNat - '0'.toNat + 52)
  else if c = '+' then some 62
  else if c = '/' then some 63
  else none

theorem sextet?_symbol {n : Nat} (h : n < 64) : sextet? (symbol n) = some n := by
  revert n
  decide

/-! ## Groups -/

def encodeList : List UInt8 → List Char
  | [] => []
  | [a] => [symbol (a.toNat / 4), symbol (a.toNat % 4 * 16), '=', '=']
  | [a, b] =>
    [symbol (a.toNat / 4), symbol (a.toNat % 4 * 16 + b.toNat / 16), symbol (b.toNat % 16 * 4), '=']
  | a :: b :: c :: rest =>
    symbol (a.toNat / 4) :: symbol (a.toNat % 4 * 16 + b.toNat / 16) ::
      symbol (b.toNat % 16 * 4 + c.toNat / 64) :: symbol (c.toNat % 64) :: encodeList rest

/-- The bytes of a last group with two equals signs. -/
def decodeOne? (p q : Char) : Option (List UInt8) := do
  let p ← sextet? p
  let q ← sextet? q
  if q % 16 = 0 then some [UInt8.ofNat (p * 4 + q / 16)] else none

/-- The bytes of a last group with one equals sign. -/
def decodeTwo? (p q r : Char) : Option (List UInt8) := do
  let p ← sextet? p
  let q ← sextet? q
  let r ← sextet? r
  if r % 4 = 0 then some [UInt8.ofNat (p * 4 + q / 16), UInt8.ofNat (q % 16 * 16 + r / 4)]
  else none

/-- The bytes of a full group. -/
def decodeThree? (p q r s : Char) : Option (List UInt8) := do
  let p ← sextet? p
  let q ← sextet? q
  let r ← sextet? r
  let s ← sextet? s
  some [UInt8.ofNat (p * 4 + q / 16), UInt8.ofNat (q % 16 * 16 + r / 4),
    UInt8.ofNat (r % 4 * 64 + s)]

/-- The bytes of symbols. Equals signs stand at the end of the last group only. -/
def decodeList? : List Char → Option (List UInt8)
  | [] => some []
  | p :: q :: r :: s :: rest =>
    if s = '=' then
      if rest = [] then
        if r = '=' then decodeOne? p q else decodeTwo? p q r
      else none
    else do
      let group ← decodeThree? p q r s
      let bytes ← decodeList? rest
      some (group ++ bytes)
  | _ => none

/-! ## Texts -/

def encode (bytes : ByteArray) : String := String.ofList (encodeList bytes.data.toList)

def decode? (text : String) : Option ByteArray :=
  (decodeList? text.toList).map fun bytes => ⟨bytes.toArray⟩

end AppendLog.Base64
