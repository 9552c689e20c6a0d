import AppendLog.Proofs.Wire.Text
import AppendLog.Request.Clause

/-!
# Clauses that come back from the wire

A server reads the words of a request from the left and decides by the word that comes next:
`Clause.Next`. A clause is there if its word comes next, so what is behind a clause must not begin
with that word: `Clause.Absent`. Then `Clause.takeNumber?` and `Clause.takeFlag` take back what
`Clause.number` and `Clause.flag` wrote.
-/

namespace AppendLog

/-- The number that a numeral stands for, however large. -/
def Decimal.number? (cs : List Char) : Option Nat :=
  if Decimal.IsNumeral cs then some (Decimal.value cs) else none

@[simp] theorem Decimal.number?_write (n : Nat) : number? (write n).toList = some n := by
  rw [number?, if_pos (isNumeral_write n), value_write]

namespace Clause

variable {word : String} {words : List String} {p : String → Prop}

/-! ## What comes next -/

/-- The word that comes next has a property, if there is one. -/
def Next (p : String → Prop) (words : List String) : Prop := ∀ word, words.head? = some word → p word

/-- A certain word does not come next. -/
abbrev Absent (word : String) (words : List String) : Prop := Next (· ≠ word) words

theorem next_nil (p : String → Prop) : Next p [] := by
  intro word h
  cases h

theorem next_cons (h : p word) (words : List String) : Next p (word :: words) := by
  intro word' hword
  obtain rfl := Option.some.inj hword
  exact h

theorem absent_cons {other : String} (h : other ≠ word) (words : List String) :
    Absent word (other :: words) :=
  next_cons (p := (· ≠ word)) h words

/-- What comes next is the word of the clause, or what comes next behind it. -/
theorem next_number (h : p word) (n : Option Nat) (hrest : Next p words) :
    Next p (number word n ++ words) := by
  cases n with
  | none => exact hrest
  | some n => exact next_cons h _

theorem next_flag (h : p word) (set : Bool) (hrest : Next p words) :
    Next p (flag word set ++ words) := by
  cases set with
  | false => exact hrest
  | true => exact next_cons h _

/-! ## Taking clauses -/

/-- Take a number, which must come next. -/
def takeNumeral? : List String → Option (Nat × List String)
  | [] => none
  | numeral :: rest => (Decimal.number? numeral.toList).map fun n => (n, rest)

/-- Take a word and the number behind it, if the word comes next. -/
def takeNumber? (word : String) : List String → Option (Option Nat × List String)
  | [] => some (none, [])
  | first :: rest =>
    if first = word then (takeNumeral? rest).map fun (n, rest) => (some n, rest)
    else some (none, first :: rest)

/-- Take a word, if it comes next. -/
def takeFlag (word : String) : List String → Bool × List String
  | [] => (false, [])
  | first :: rest => if first = word then (true, rest) else (false, first :: rest)

@[simp] theorem takeNumeral?_write (n : Nat) (words : List String) :
    takeNumeral? (Decimal.write n :: words) = some (n, words) := by
  rw [takeNumeral?, Decimal.number?_write]
  rfl

theorem takeNumber?_of_absent (h : Absent word words) :
    takeNumber? word words = some (none, words) := by
  cases words with
  | nil => rfl
  | cons first rest =>
    have hfirst : first ≠ word := h first rfl
    rw [takeNumber?, if_neg hfirst]

theorem takeFlag_of_absent (h : Absent word words) : takeFlag word words = (false, words) := by
  cases words with
  | nil => rfl
  | cons first rest =>
    have hfirst : first ≠ word := h first rfl
    rw [takeFlag, if_neg hfirst]

theorem takeNumber?_number (n : Option Nat) (h : Absent word words) :
    takeNumber? word (number word n ++ words) = some (n, words) := by
  cases n with
  | none => exact takeNumber?_of_absent h
  | some n =>
    change takeNumber? word (word :: Decimal.write n :: words) = some (some n, words)
    rw [takeNumber?, if_pos rfl, takeNumeral?_write]
    rfl

theorem takeFlag_flag (set : Bool) (h : Absent word words) :
    takeFlag word (flag word set ++ words) = (set, words) := by
  cases set with
  | false => exact takeFlag_of_absent h
  | true =>
    change takeFlag word (word :: words) = (true, words)
    rw [takeFlag, if_pos rfl]

end Clause

end AppendLog
