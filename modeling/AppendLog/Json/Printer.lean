import AppendLog.Decimal
import AppendLog.Json

/-!
# Writing JSON text

The compact form: no white space, members in their order, and escapes only where JSON asks for them.
-/

namespace AppendLog.Json

/-- One character of a string. The quote, the backslash and the controls are escaped, those that
have a letter by it. -/
def escapeChar (c : Char) : List Char :=
  if c = '"' ∨ c = '\\' then ['\\', c]
  else if c = '\x08' then ['\\', 'b']
  else if c = '\x0c' then ['\\', 'f']
  else if c = '\n' then ['\\', 'n']
  else if c = '\r' then ['\\', 'r']
  else if c = '\t' then ['\\', 't']
  else if c.toNat < 0x20 then
    ['\\', 'u', '0', '0', Nat.digitChar (c.toNat / 16), Nat.digitChar (c.toNat % 16)]
  else [c]

/-- A string in double quotes. One that is no text is given by half of a surrogate pair, which reads
back as no text. -/
def printString : Option String → String
  | some text => String.ofList ('"' :: text.toList.flatMap escapeChar ++ ['"'])
  | none => "\"\\ud800\""

mutual

/-- The compact text of a value. -/
def print : Json → String
  | null => "null"
  | bool true => "true"
  | bool false => "false"
  | natural n => Decimal.write n
  | otherNumber lexeme => lexeme
  | string text => printString text
  | array items => "[" ++ printItems items ++ "]"
  | object members => "\x7b" ++ printMembers members ++ "\x7d"

def printItems : List Json → String
  | [] => ""
  | [item] => print item
  | item :: rest => print item ++ "," ++ printItems rest

def printMembers : List (Option String × Json) → String
  | [] => ""
  | [(name, value)] => printString name ++ ":" ++ print value
  | (name, value) :: rest => printString name ++ ":" ++ print value ++ "," ++ printMembers rest

end

end AppendLog.Json
