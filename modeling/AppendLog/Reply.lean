/-!
# Replies

What the server hands back for a request: a tree of texts, bytes and numbers, in which an error may
stand anywhere.
-/

namespace AppendLog

inductive Reply where
  | nil
  | integer (n : Int64)
  /-- A short status text. -/
  | status (text : String)
  | bulk (bytes : ByteArray)
  | array (items : List Reply)
  /-- An error of the server with its text. -/
  | error (text : String)

namespace Reply

instance : Inhabited Reply := ⟨nil⟩

/-- What a message calls this kind of reply. -/
def kind : Reply → String
  | nil => "nil"
  | integer _ => "integer"
  | status _ => "status"
  | bulk _ => "bulk string"
  | array _ => "array"
  | error _ => "error"

def isNil : Reply → Bool
  | nil => true
  | _ => false

/-- An error stands in the tree, at the top or below. -/
inductive HoldsError : Reply → Prop where
  | top (text : String) : HoldsError (error text)
  | inside {item : Reply} {items : List Reply} (mem : item ∈ items) (below : HoldsError item) :
      HoldsError (array items)

end Reply

end AppendLog
