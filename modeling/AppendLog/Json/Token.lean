import AppendLog.Decimal
import AppendLog.Json

/-!
# Tokens of JSON text

A JSON text is cut into tokens by a machine that takes one character at a time. Numbers and words
end where a character comes that they cannot hold; what they hold is checked then.
-/

namespace AppendLog.Json

/-- A token: a mark of punctuation, or a value that is not made of others. -/
inductive Token where
  | openBrace
  | closeBrace
  | openBracket
  | closeBracket
  | comma
  | colon
  | atom (value : Json)

namespace Token

/-! ## Strings -/

/-- Whether a code unit is the first half of a surrogate pair. -/
def isHighSurrogate (unit : Nat) : Bool := 0xD800 ≤ unit && unit ≤ 0xDBFF

/-- Whether a code unit is the second half of a surrogate pair. -/
def isLowSurrogate (unit : Nat) : Bool := 0xDC00 ≤ unit && unit ≤ 0xDFFF

def joinSurrogates (high low : Nat) : Nat := 0x10000 + (high - 0xD800) * 0x400 + (low - 0xDC00)

/-- The characters of a list of code points and halves of pairs, if every half has its other. -/
def charsOfUnits? : List Nat → Option (List Char)
  | [] => some []
  | [unit] =>
    if isHighSurrogate unit || isLowSurrogate unit then none else some [Char.ofNat unit]
  | unit :: next :: rest =>
    if isHighSurrogate unit then
      if isLowSurrogate next then
        (charsOfUnits? rest).map (Char.ofNat (joinSurrogates unit next) :: ·)
      else none
    else if isLowSurrogate unit then none
    else (charsOfUnits? (next :: rest)).map (Char.ofNat unit :: ·)

def hexDigit? (c : Char) : Option Nat :=
  if '0' ≤ c ∧ c ≤ '9' then some (c.toNat - '0'.toNat)
  else if 'a' ≤ c ∧ c ≤ 'f' then some (c.toNat - 'a'.toNat + 10)
  else if 'A' ≤ c ∧ c ≤ 'F' then some (c.toNat - 'A'.toNat + 10)
  else none

/-- The code point that a letter after a backslash stands for. -/
def escape? (c : Char) : Option Nat :=
  if c = '"' ∨ c = '\\' ∨ c = '/' then some c.toNat
  else if c = 'b' then some 0x08
  else if c = 'f' then some 0x0C
  else if c = 'n' then some 0x0A
  else if c = 'r' then some 0x0D
  else if c = 't' then some 0x09
  else none

/-! ## Numbers and words -/

/-- Whether a character may stand in a number. -/
def isNumberChar (c : Char) : Bool :=
  c.isDigit || c == '-' || c == '+' || c == '.' || c == 'e' || c == 'E'

/-- Whether digits form a whole part: at least one, and no zero before others. -/
def isWholePart (cs : List Char) : Bool :=
  match cs with
  | [] => false
  | ['0'] => true
  | c :: _ => c != '0'

/-- Whether characters form an exponent, or there is none. -/
def isExponent (cs : List Char) : Bool :=
  match cs with
  | [] => true
  | mark :: rest =>
    let digits := match rest with
      | '+' :: digits => digits
      | '-' :: digits => digits
      | digits => digits
    (mark == 'e' || mark == 'E') && decide (Decimal.IsNumeral digits)

/-- Whether characters form what follows the whole part of a number. -/
def isFractionAndExponent (cs : List Char) : Bool :=
  match cs with
  | '.' :: rest =>
    !(rest.takeWhile Char.isDigit).isEmpty && isExponent (rest.dropWhile Char.isDigit)
  | cs => isExponent cs

def number? (cs : List Char) : Option Json :=
  let unsigned := match cs with
    | '-' :: rest => rest
    | cs => cs
  let whole := unsigned.takeWhile Char.isDigit
  let rest := unsigned.dropWhile Char.isDigit
  if isWholePart whole && isFractionAndExponent rest then
    if cs = whole then some (natural (Decimal.value cs))
    else some (otherNumber (String.ofList cs))
  else none

def word? (cs : List Char) : Option Json :=
  if cs = "null".toList then some null
  else if cs = "true".toList then some (bool true)
  else if cs = "false".toList then some (bool false)
  else none

/-! ## The machine -/

/-- Where the machine stands. Characters and units read so far are in reverse. -/
inductive Mode where
  | between
  | inString (units : List Nat)
  | afterBackslash (units : List Nat)
  /-- Inside a code unit escape, of which `count` digits with this value were read. -/
  | inUnit (units : List Nat) (count value : Nat)
  | inNumber (cs : List Char)
  | inWord (cs : List Char)

/-- Take a character with which something new begins. -/
def begin? (c : Char) : Option (Mode × Option Token) :=
  if c = ' ' ∨ c = '\t' ∨ c = '\n' ∨ c = '\r' then some (.between, none)
  else if c = '{' then some (.between, some openBrace)
  else if c = '}' then some (.between, some closeBrace)
  else if c = '[' then some (.between, some openBracket)
  else if c = ']' then some (.between, some closeBracket)
  else if c = ',' then some (.between, some comma)
  else if c = ':' then some (.between, some colon)
  else if c = '"' then some (.inString [], none)
  else if c = '-' ∨ c.isDigit then some (.inNumber [c], none)
  else if c.isLower then some (.inWord [c], none)
  else none

/-- Take a character; the tokens are those that it completes. -/
def step? (mode : Mode) (c : Char) : Option (Mode × List Token) :=
  match mode with
  | .between => (begin? c).map fun (mode, token) => (mode, token.toList)
  | .inString units =>
    if c = '"' then
      some (.between, [atom (string ((charsOfUnits? units.reverse).map String.ofList))])
    else if c = '\\' then some (.afterBackslash units, [])
    else if c.toNat < 0x20 then none
    else some (.inString (c.toNat :: units), [])
  | .afterBackslash units =>
    if c = 'u' then some (.inUnit units 0 0, [])
    else (escape? c).map fun unit => (.inString (unit :: units), [])
  | .inUnit units count value =>
    (hexDigit? c).map fun digit =>
      let value := 16 * value + digit
      if count = 3 then (.inString (value :: units), []) else (.inUnit units (count + 1) value, [])
  | .inNumber cs =>
    if isNumberChar c then some (.inNumber (c :: cs), [])
    else do
      let value ← number? cs.reverse
      let (mode, token) ← begin? c
      return (mode, atom value :: token.toList)
  | .inWord cs =>
    if c.isLower then some (.inWord (c :: cs), [])
    else do
      let value ← word? cs.reverse
      let (mode, token) ← begin? c
      return (mode, atom value :: token.toList)

/-- The tokens that the end of the text completes. -/
def finish? : Mode → Option (List Token)
  | .between => some []
  | .inNumber cs => (number? cs.reverse).map fun value => [atom value]
  | .inWord cs => (word? cs.reverse).map fun value => [atom value]
  | _ => none

/-- Take a character, keeping the tokens so far in reverse. -/
def advance? (state : Mode × List Token) (c : Char) : Option (Mode × List Token) :=
  (step? state.1 c).map fun (mode, tokens) => (mode, tokens.reverse ++ state.2)

def scan? (cs : List Char) : Option (List Token) := do
  let (mode, tokens) ← cs.foldlM advance? (.between, [])
  return tokens.reverse ++ (← finish? mode)

end Token

end AppendLog.Json
