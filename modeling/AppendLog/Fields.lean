import AppendLog.EntryId
import AppendLog.Fault

/-!
# Bodies of entries

The body of an entry is a list of named values. The names are all different, which the type keeps,
and the order in which they were added is kept too.
-/

namespace AppendLog

/-- Named values in the order they were added, no name twice. -/
structure Fields where
  pairs : List (String × ByteArray)
  distinct : (pairs.map Prod.fst).Nodup

instance : DecidableEq Fields := fun a b =>
  have : DecidableEq ByteArray := ByteArray.instDecidableEq
  decidable_of_iff (a.pairs = b.pairs) (by cases a; cases b; simp)

namespace Fields

def empty : Fields := ⟨[], List.nodup_nil⟩

instance : Inhabited Fields := ⟨empty⟩

def names (fields : Fields) : List String := fields.pairs.map Prod.fst

def size (fields : Fields) : Nat := fields.pairs.length

def isEmpty (fields : Fields) : Bool := fields.pairs.isEmpty

def get? (fields : Fields) (name : String) : Option ByteArray := fields.pairs.lookup name

def contains (fields : Fields) (name : String) : Bool := fields.names.contains name

theorem nodup_push {fields : Fields} {name : String} (h : name ∉ fields.names)
    (value : ByteArray) : ((fields.pairs ++ [(name, value)]).map Prod.fst).Nodup := by
  rw [List.map_append, List.nodup_append]
  refine ⟨fields.distinct, by simp, fun a ha b hb => ?_⟩
  simp only [List.map_cons, List.map_nil, List.mem_singleton] at hb
  rintro rfl
  exact h (hb ▸ ha)

/-- Add a field at the end. A name that is there already is refused. -/
def insert (fields : Fields) (name : String) (value : ByteArray) : Except Fault Fields :=
  if h : name ∈ fields.names then .error (.misuse .duplicateFieldName)
  else .ok ⟨fields.pairs ++ [(name, value)], nodup_push h value⟩

/-- Add fields one by one, up to the first that is refused. -/
def insertAll (fields : Fields) (pairs : List (String × ByteArray)) : Except Fault Fields :=
  pairs.foldlM (fun acc (name, value) => acc.insert name value) fields

/-- The fields of a list of pairs, refused when a name stands twice. -/
def ofPairs (pairs : List (String × ByteArray)) : Except Fault Fields := empty.insertAll pairs

end Fields

/-- One record of a stream. -/
structure Entry where
  id : EntryId
  fields : Fields
  deriving DecidableEq

/-- An entry with the stream it was read from. -/
structure Message where
  stream : String
  entry : Entry
  deriving DecidableEq

end AppendLog
