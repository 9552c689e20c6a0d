import AppendLog.Json.Token

/-!
# Reading JSON text

A value is put together from tokens by a machine that keeps the containers it is inside of. It takes
exactly the JSON grammar: no comma too many, nothing after the value but white space.
-/

namespace AppendLog.Json

namespace Reader

/-- A container part way through; what was read is in reverse. -/
inductive Frame where
  | array (items : List Json)
  /-- An object of which the value of `name` is being read. -/
  | object (members : List (Option String × Json)) (name : Option String)

/-- What may come next, inside of which containers. -/
inductive State where
  | value (inside : List Frame)
  /-- The first item of an array, or its end. -/
  | firstItem (inside : List Frame)
  /-- The first name of an object, or its end. -/
  | firstName (inside : List Frame)
  | name (members : List (Option String × Json)) (inside : List Frame)
  /-- The colon after a name. -/
  | colon (members : List (Option String × Json)) (name : Option String) (inside : List Frame)
  | after (value : Json) (inside : List Frame)

/-- Take the token with which a value begins. -/
def begin? (inside : List Frame) : Token → Option State
  | .atom value => some (.after value inside)
  | .openBracket => some (.firstItem inside)
  | .openBrace => some (.firstName inside)
  | _ => none

def step? : State → Token → Option State
  | .value inside, token => begin? inside token
  | .firstItem inside, .closeBracket => some (.after (.array []) inside)
  | .firstItem inside, token => begin? (.array [] :: inside) token
  | .firstName inside, .closeBrace => some (.after (.object []) inside)
  | .firstName inside, .atom (.string name) => some (.colon [] name inside)
  | .name members inside, .atom (.string name) => some (.colon members name inside)
  | .colon members name inside, .colon => some (.value (.object members name :: inside))
  | .after value (.array items :: inside), .comma =>
    some (.value (.array (value :: items) :: inside))
  | .after value (.array items :: inside), .closeBracket =>
    some (.after (.array (value :: items).reverse) inside)
  | .after value (.object members name :: inside), .comma =>
    some (.name ((name, value) :: members) inside)
  | .after value (.object members name :: inside), .closeBrace =>
    some (.after (.object ((name, value) :: members).reverse) inside)
  | _, _ => none

def result? : State → Option Json
  | .after value [] => some value
  | _ => none

end Reader

/-- The value of a JSON text. -/
def parse? (text : String) : Option Json := do
  let tokens ← Token.scan? text.toList
  let state ← tokens.foldlM Reader.step? (.value [])
  Reader.result? state

end AppendLog.Json
