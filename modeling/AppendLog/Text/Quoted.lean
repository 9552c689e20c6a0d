import AppendLog.Text.Unprintable

/-!
# Quoted text

How a message shows a text that came from outside: in double quotes, with everything that could
not be told apart on screen written as an escape.
-/

namespace AppendLog.Text

/-- The escape of a character by its code point, in lower-case hexadecimal. -/
def codePointEscape (c : Char) : List Char :=
  '\\' :: 'u' :: '{' :: Nat.toDigits 16 c.toNat ++ ['}']

/-- One character inside double quotes. The double quote and the backslash take a backslash, four
controls have a letter, and any other character without a visible form is given by code point. -/
def quoteChar (c : Char) : List Char :=
  if c = '"' ∨ c = '\\' then ['\\', c]
  else if c = '\x00' then ['\\', '0']
  else if c = '\t' then ['\\', 't']
  else if c = '\r' then ['\\', 'r']
  else if c = '\n' then ['\\', 'n']
  else if isUnprintable c then codePointEscape c
  else [c]

/-- A text in double quotes. -/
def quote (text : String) : String :=
  String.ofList ('"' :: text.toList.flatMap quoteChar ++ ['"'])

end AppendLog.Text
