import AppendLog.Json

/-!
# Records in JSON

A record with named fields is written as an object, or as an array of the values of its fields in
the order of their declaration. In an object, members of other names are ignored, and no field may
stand twice.
-/

namespace AppendLog.Json

/-- The values of a record by field. -/
abbrev Record := List (String × Json)

/-- The members of an object that are fields, if every name is a text and no field stands twice. -/
def fieldsOfMembers? (names : List String) (members : List (Option String × Json)) :
    Option Record := do
  let named ← members.mapM fun (name, value) => name.map fun name => (name, value)
  let fields := named.filter fun (name, _) => names.contains name
  if (fields.map Prod.fst).Nodup then some fields else none

/-- The values of a record whose fields have these names. As an array it must have a value for each
field. -/
def record? (names : List String) : Json → Option Record
  | object members => fieldsOfMembers? names members
  | array items => if items.length = names.length then some (names.zip items) else none
  | _ => none

/-- The values of a record of which any field may be missing; as an array, the last ones. -/
def partialRecord? (names : List String) : Json → Option Record
  | object members => fieldsOfMembers? names members
  | array items => if items.length ≤ names.length then some (names.zip items) else none
  | _ => none

namespace Record

variable {α : Type}

def required? (record : Record) (name : String) (read : Json → Option α) : Option α :=
  (record.lookup name).bind read

/-- A field in whose absence a value is given. -/
def withDefault? (record : Record) (name : String) (read : Json → Option α) (default : α) :
    Option α :=
  match record.lookup name with
  | none => some default
  | some value => read value

/-- A field that may be absent or null. -/
def nullable? (record : Record) (name : String) (read : Json → Option α) : Option (Option α) :=
  record.withDefault? name (Json.nullable? read) none

end Record

end AppendLog.Json
