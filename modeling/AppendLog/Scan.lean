import AppendLog.Operation

/-!
# Scans

A scan goes through the entries of one stream page by page. Nothing is held on the server between
pages: each page asks for what is left of the range beyond the last id seen. A live scan, having
caught up, goes on by reading what is appended.

`Scan.plan` says what the next page takes, `Scan.receive` what a page does to the scan, and
`Scan.fetchPage` does both over a link.
-/

namespace AppendLog

/-- The number of entries asked for at a time, one at least. -/
structure PageSize where
  size : UInt64
  positive : 0 < size
  deriving DecidableEq

namespace PageSize

/-- The given size, or one in place of zero. -/
def atLeastOne (size : UInt64) : PageSize :=
  if h : 0 < size then ⟨size, h⟩ else ⟨1, by decide⟩

end PageSize

/-- What holds for all calls of a client. -/
structure Client where
  /-- How much longer than the blocking time to wait for the answer to a read. -/
  grace : Duration := .ofMilliseconds 1000
  /-- The page size of scans that are given none. -/
  pageSize : PageSize := .atLeastOne 100
  deriving DecidableEq

structure Scan where
  key : String
  pageSize : PageSize
  range : Range := {}
  /-- From the upper end down. -/
  descending : Bool := false
  /-- Go on after catching up, blocking this long for each read. -/
  live : Option Duration := none
  /-- The last id seen. -/
  lastId : Option EntryId := none
  /-- The range was seen to its end once. -/
  caughtUp : Bool := false
  closed : Bool := false
  drained : Bool := false
  deriving DecidableEq

structure Page where
  /-- The entries in the order of the scan. -/
  entries : List Entry
  /-- The last id seen so far. -/
  lastId : Option EntryId
  /-- The page reached the end of what there is at present. -/
  upToDate : Bool
  deriving DecidableEq

namespace Scan

/-- A scan of a whole stream, with the page size of a client. -/
def ofKey (client : Client) (key : String) : Scan := { key, pageSize := client.pageSize }

def close (scan : Scan) : Scan := { scan with closed := true }

/-! ## What to ask for -/

/-- What is left of the range beyond the last id seen. -/
def rest (scan : Scan) : Range :=
  match scan.lastId with
  | none => scan.range
  | some last =>
    if scan.descending then { scan.range with upper := .excluded last }
    else { scan.range with lower := .excluded last }

/-- Where a live scan goes on: after the last id seen, or else below everything that the lower bound
admits. -/
def livePosition (scan : Scan) : Position :=
  match scan.lastId with
  | some last => .after last
  | none =>
    match scan.range.lower with
    | .unbounded => .beginning
    | .excluded id => .after id
    | .included id =>
      match id.predecessor? with
      | some before => .after before
      | none => .beginning

/-- What a scan gets for one request: entries of the range, or what was read live. -/
inductive Batch where
  | ranged (entries : List Entry)
  | read (outcome : ReadResult)
  deriving DecidableEq

def askRange (scan : Scan) : Operation Batch :=
  let limit : Limit := .atMost scan.pageSize.size
  if scan.descending then (Operation.reverseRange scan.key scan.rest limit).map .ranged
  else (Operation.range scan.key scan.rest limit).map .ranged

/-- The request for entries appended since. -/
def askLive (scan : Scan) (block : Duration) : Operation Batch :=
  let options : ReadOptions := { count := some scan.pageSize.size, block := some block }
  (Operation.readWith options [(scan.key, scan.livePosition)]).map .read

def isOver (scan : Scan) : Bool := scan.closed || scan.drained

/-- Whether a scan is live but cannot be: it would have to go down, or to end. -/
def isMisshapen (scan : Scan) : Bool :=
  scan.live.isSome && (scan.descending || scan.range.upper != .unbounded)

/-- What the next page takes; nothing when the scan is over. -/
def plan (scan : Scan) : Option (Operation Batch) :=
  if scan.isOver then none
  else if scan.isMisshapen then some (.refused (.misuse .liveScanShape))
  else
    match scan.caughtUp, scan.live with
    | true, some block => some (scan.askLive block)
    | _, _ => some scan.askRange

/-! ## What comes of it -/

/-- The last id of a list of entries, or the one seen before. -/
def lastIdAfter (scan : Scan) (entries : List Entry) : Option EntryId :=
  match entries.getLast? with
  | some entry => some entry.id
  | none => scan.lastId

/-- A page of the range. One with fewer entries than asked for is the end of the range, and of the
scan too unless it is live; if nothing is on it then, there is no page. -/
def receiveRange (scan : Scan) (entries : List Entry) : Scan × Option Page :=
  let lastId := scan.lastIdAfter entries
  let short : Bool := entries.length < scan.pageSize.size.toNat
  let next := { scan with
    lastId
    caughtUp := scan.caughtUp || short
    drained := scan.drained || (short && scan.live.isNone) }
  let page : Page := ⟨entries, lastId, short⟩
  (next, if short && scan.live.isNone && entries.isEmpty then none else some page)

/-- A page of what was appended. It is up to date when there was nothing. -/
def receiveLive (scan : Scan) (entries : List Entry) : Scan × Option Page :=
  let lastId := scan.lastIdAfter entries
  ({ scan with lastId }, some ⟨entries, lastId, entries.isEmpty⟩)

/-- What a batch does to a scan, and the page that it makes. -/
def receive (scan : Scan) : Batch → Scan × Option Page
  | .ranged entries => scan.receiveRange entries
  | .read outcome => scan.receiveLive (outcome.toMessages.map Message.entry)

/-- Fetch the next page; nothing when the scan is over. A fault leaves the scan as it was, so that
the same page can be asked for again. -/
def fetchPage (client : Client) (scan : Scan) (link : Link) :
    Ending (Option Page) × Scan × Link :=
  match scan.plan with
  | none => (.finished (.ok none), scan, link)
  | some operation =>
    match operation.run client.grace link with
    | (.abandoned, link) => (.abandoned, scan, link)
    | (.finished (.error fault), link) => (.finished (.error fault), scan, link)
    | (.finished (.ok batch), link) =>
      let (scan, page) := scan.receive batch
      (.finished (.ok page), scan, link)

end Scan

end AppendLog
