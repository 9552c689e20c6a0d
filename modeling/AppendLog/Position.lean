import AppendLog.EntryId.Text

/-!
# Where a read starts, and how much it takes

A plain read starts at the beginning, after the latest entry, or after a given id. A group read
takes what was never delivered, or the consumer's own pending entries after an id. A limit caps the
number of items returned.
-/

namespace AppendLog

/-- Where a plain read or a group's cursor starts. -/
inductive Position where
  | beginning
  /-- Only entries appended after the request is served. -/
  | latest
  /-- Entries strictly after an id. -/
  | after (id : EntryId)
  deriving DecidableEq

namespace Position

/-- The text of a position: an id, or `$` for the latest. -/
def text : Position → String
  | beginning => EntryId.least.text
  | latest => "$"
  | after id => id.text

def isLatest (position : Position) : Bool := position = latest

def parse (given : String) : Except Fault Position :=
  if given = "$" then .ok latest else after <$> EntryId.parse given

end Position

inductive GroupPosition where
  /-- Entries never delivered to any consumer of the group. -/
  | undelivered
  /-- The consumer's own pending entries, strictly after an id. -/
  | pendingAfter (id : EntryId)
  deriving DecidableEq

namespace GroupPosition

/-- The text of a group position: an id, or `>` for what was never delivered. -/
def text : GroupPosition → String
  | undelivered => ">"
  | pendingAfter id => id.text

def parse (given : String) : Except Fault GroupPosition :=
  if given = ">" then .ok undelivered else pendingAfter <$> EntryId.parse given

end GroupPosition

/-- A cap on the number of items returned. -/
inductive Limit where
  | unlimited
  | atMost (count : UInt64)
  deriving DecidableEq

namespace Limit

def count? : Limit → Option UInt64
  | unlimited => none
  | atMost count => some count

/-- The limit that caps at `count`, or nowhere when it is absent. -/
def ofCount? : Option UInt64 → Limit
  | none => unlimited
  | some count => atMost count

def isUnlimited (limit : Limit) : Bool := limit = unlimited

end Limit

end AppendLog
