/-!
# JSON values

A JSON value as it is written: members of an object keep their order and may repeat, a whole number
without sign is told apart from any other number, and a string may fail to be a text.
-/

namespace AppendLog

inductive Json where
  | null
  | bool (value : Bool)
  /-- A number written with digits only. -/
  | natural (n : Nat)
  /-- Any other number, as it is written. -/
  | otherNumber (lexeme : String)
  /-- A string. There is no text when an escape leaves half of a surrogate pair alone. -/
  | string (text? : Option String)
  | array (items : List Json)
  | object (members : List (Option String × Json))

namespace Json

instance : Inhabited Json := ⟨null⟩

def ofText (text : String) : Json := string (some text)

def ofWord (n : UInt64) : Json := natural n.toNat

/-- The object of members whose names are texts. -/
def ofMembers (members : List (String × Json)) : Json :=
  object (members.map fun (name, value) => (some name, value))

/-! ## Views -/

def text? : Json → Option String
  | string text => text
  | _ => none

/-- The number, if it is whole and fits in 64 bits. -/
def word? : Json → Option UInt64
  | natural n => if n < UInt64.size then some (UInt64.ofNat n) else none
  | _ => none

def bool? : Json → Option Bool
  | bool value => some value
  | _ => none

/-- The items of an array, each read by `read`. -/
def list? {α : Type} (read : Json → Option α) : Json → Option (List α)
  | array items => items.mapM read
  | _ => none

/-- The two texts of an array of two. -/
def textPair? : Json → Option (String × String)
  | array [first, second] => return (← first.text?, ← second.text?)
  | _ => none

/-- What is read from a value, or nothing for null. -/
def nullable? {α : Type} (read : Json → Option α) : Json → Option (Option α)
  | null => some none
  | value => some <$> read value

@[simp] theorem text?_ofText (text : String) : (ofText text).text? = some text := rfl

@[simp] theorem word?_ofWord (n : UInt64) : (ofWord n).word? = some n := by
  have h : n.toNat < UInt64.size := n.toNat_lt
  simp [ofWord, word?, h]

end Json

end AppendLog
