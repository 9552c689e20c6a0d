/-!
# Commands

The stream commands by name. A name of two words is sent as two tokens.
-/

namespace AppendLog

inductive Command where
  | acknowledge
  | append
  | claim
  | createGroup
  | removeConsumer
  | moveGroup
  | length
  | pending
  | range
  | reverseRange
  | read
  | readAsConsumer
  deriving DecidableEq

namespace Command

/-- Every command, in the order of their names. -/
def all : List Command :=
  [acknowledge, append, claim, createGroup, removeConsumer, moveGroup, length, pending, range,
    reverseRange, read, readAsConsumer]

/-- The words of a command's name, each sent as a token. -/
def words : Command → List String
  | acknowledge => ["XACK"]
  | append => ["XADD"]
  | claim => ["XCLAIM"]
  | createGroup => ["XGROUP", "CREATE"]
  | removeConsumer => ["XGROUP", "DELCONSUMER"]
  | moveGroup => ["XGROUP", "SETID"]
  | length => ["XLEN"]
  | pending => ["XPENDING"]
  | range => ["XRANGE"]
  | reverseRange => ["XREVRANGE"]
  | read => ["XREAD"]
  | readAsConsumer => ["XREADGROUP"]

/-- The name of a command: its words with a space between. -/
def name (command : Command) : String := " ".intercalate command.words

def ofName? (name : String) : Option Command := all.find? fun command => command.name = name

end Command

end AppendLog
