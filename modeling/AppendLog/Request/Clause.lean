import AppendLog.Decimal

/-!
# Optional clauses

The words by which an optional argument appears in a request: nothing when it is not set.
-/

namespace AppendLog.Clause

/-- A word followed by a number, when there is one. -/
def number (word : String) : Option Nat → List String
  | none => []
  | some n => [word, Decimal.write n]

/-- A word alone, when it is set. -/
def flag (word : String) (set : Bool) : List String := if set then [word] else []

end AppendLog.Clause
