import AppendLog.EntryId.Text

/-!
# Ranges of ids

A range is a lower and an upper bound, each absent, inclusive or exclusive. `id ∈ range` is
decidable. A range has a text for either end, with `-` and `+` for the absent bounds and an opening
parenthesis before an exclusive one. Whether the ends are in order is left to the server.
-/

namespace AppendLog

inductive Bound where
  | unbounded
  | included (id : EntryId)
  | excluded (id : EntryId)
  deriving DecidableEq

namespace Bound

/-- Whether an id is on the inner side of this bound taken as the lower end. -/
def AdmitsAbove (bound : Bound) (id : EntryId) : Prop :=
  match bound with
  | unbounded => True
  | included low => low ≤ id
  | excluded low => low < id

/-- Whether an id is on the inner side of this bound taken as the upper end. -/
def AdmitsBelow (bound : Bound) (id : EntryId) : Prop :=
  match bound with
  | unbounded => True
  | included high => id ≤ high
  | excluded high => id < high

instance (bound : Bound) (id : EntryId) : Decidable (bound.AdmitsAbove id) := by
  unfold AdmitsAbove
  split <;> infer_instance

instance (bound : Bound) (id : EntryId) : Decidable (bound.AdmitsBelow id) := by
  unfold AdmitsBelow
  split <;> infer_instance

/-- The text of a bound, where `symbol` stands for no bound. -/
def text (symbol : String) : Bound → String
  | unbounded => symbol
  | included id => id.text
  | excluded id => "(" ++ id.text

/-- Read a bound, where `symbol` stands for no bound. One opening parenthesis makes it exclusive. -/
def parse (symbol given : String) : Except Fault Bound :=
  if given = symbol then .ok unbounded
  else
    match given.toList with
    | '(' :: rest => excluded <$> EntryId.parse (String.ofList rest)
    | _ => included <$> EntryId.parse given

end Bound

/-- A lower and an upper bound over ids. Without bounds given it is the whole stream. -/
structure Range where
  lower : Bound := .unbounded
  upper : Bound := .unbounded
  deriving DecidableEq

namespace Range

def closed (low high : EntryId) : Range := ⟨.included low, .included high⟩

def exclusive (low high : EntryId) : Range := ⟨.excluded low, .excluded high⟩

instance : Membership EntryId Range where
  mem range id := range.lower.AdmitsAbove id ∧ range.upper.AdmitsBelow id

instance (id : EntryId) (range : Range) : Decidable (id ∈ range) :=
  inferInstanceAs (Decidable (_ ∧ _))

def lowerText (range : Range) : String := range.lower.text "-"

def upperText (range : Range) : String := range.upper.text "+"

/-- Read a range from the texts of its ends, the lower one first. -/
def parse (lower upper : String) : Except Fault Range :=
  return ⟨← Bound.parse "-" lower, ← Bound.parse "+" upper⟩

end Range

end AppendLog
