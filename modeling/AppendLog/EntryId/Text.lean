import AppendLog.EntryId
import AppendLog.Fault

/-!
# The text of an entry id

An id is written with both parts, `<timestamp>-<sequence>`. Reading also takes the timestamp alone,
for sequence zero, and leading zeros in either part.
-/

namespace AppendLog.EntryId

def text (id : EntryId) : String :=
  Decimal.write id.timestamp.toNat ++ "-" ++ Decimal.write id.sequence.toNat

/-- Read one part of an id: a numeral of 64 bits. -/
def readPart (cs : List Char) : Except IdDefect UInt64 :=
  if cs = [] then .error .missingPart
  else if Decimal.IsNumeral cs then
    if Decimal.value cs < UInt64.size then .ok (UInt64.ofNat (Decimal.value cs))
    else .error .partOutOfRange
  else .error .nonNumericPart

/-- Read an id: one part, or two parts around the first hyphen. The parts are read from the left, so
of two defects the left one is reported. -/
def read (cs : List Char) : Except IdDefect EntryId :=
  if cs = [] then .error .emptyText
  else do
    let timestamp ← readPart (cs.takeWhile (· != '-'))
    match cs.dropWhile (· != '-') with
    | [] => return ⟨timestamp, 0⟩
    | _ :: rest => return ⟨timestamp, ← readPart rest⟩

/-- Read an id from a caller's text; the fault carries the text as it was given. -/
def parse (text : String) : Except Fault EntryId :=
  (read text.toList).mapError (.malformedId text)

end AppendLog.EntryId
