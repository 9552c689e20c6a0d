import AppendLog.Base64
import AppendLog.Call
import AppendLog.Command
import AppendLog.Consumer
import AppendLog.Decimal
import AppendLog.Duration
import AppendLog.EntryId
import AppendLog.EntryId.Text
import AppendLog.Exchange
import AppendLog.Fault
import AppendLog.Fields
import AppendLog.Json
import AppendLog.Json.Printer
import AppendLog.Json.Reader
import AppendLog.Json.Record
import AppendLog.Json.Token
import AppendLog.Json.Values
import AppendLog.Main
import AppendLog.Operation
import AppendLog.Position
import AppendLog.Range
import AppendLog.Renderer.Answer
import AppendLog.Renderer.Instruction
import AppendLog.Renderer.Run
import AppendLog.Reply
import AppendLog.Reply.Reading
import AppendLog.Request
import AppendLog.Request.Clause
import AppendLog.Request.Group
import AppendLog.Request.Stream
import AppendLog.Scan
import AppendLog.Scan.Feed
import AppendLog.Text.Blank
import AppendLog.Text.Quoted
import AppendLog.Text.Search
import AppendLog.Text.Unprintable
import AppendLog.Proofs.Json.Scan
import AppendLog.Proofs.Json.Print
import AppendLog.Proofs.EntryId.Order
import AppendLog.Proofs.EntryId.Neighbours
import AppendLog.Proofs.Wire.Text
import AppendLog.Proofs.EntryId.Grammar
import AppendLog.Proofs.Wire.Entry
import AppendLog.Proofs.Wire.Append
import AppendLog.Proofs.Wire.Draft
import AppendLog.Proofs.Wire.Clause
import AppendLog.Proofs.Wire.Read
import AppendLog.Proofs.Wire.Claim
import AppendLog.Proofs.Wire.MinIdle
import AppendLog.Proofs.Wire.Range
import AppendLog.Proofs.Exchange.Run
import AppendLog.Proofs.Reply.Blame
import AppendLog.Proofs.Reply.ServerErrors
import AppendLog.Proofs.Operation.Locality
import AppendLog.Proofs.Operation.Deadline
import AppendLog.Proofs.Operation.BlockTime
import AppendLog.Proofs.Operation.Unblocked
import AppendLog.Proofs.Server.Stream
import AppendLog.Proofs.Server.Answer
import AppendLog.Proofs.Scan.Fetch
import AppendLog.Proofs.Scan.Progress
import AppendLog.Proofs.Scan.Served
import AppendLog.Proofs.Scan.Journey
import AppendLog.Proofs.Scan.ExactlyOnce
import AppendLog.Proofs.Scan.LiveTail
import AppendLog.Proofs.Scan.Tombstones
import AppendLog.Proofs.Scan.Protocol
import AppendLog.Proofs.Renderer.Drafts
import AppendLog.Proofs.Wire.Names
import AppendLog.Proofs.Wire.Numerals
import AppendLog.Proofs.Renderer.Lines
import AppendLog.Proofs.Renderer.Run
import AppendLog.Proofs.Reply.Entries
import AppendLog.Proofs.Wire.Appending
import AppendLog.Proofs.Reply.Messages
import AppendLog.Proofs.Reply.Pending
import AppendLog.Proofs.Reply.Numbers
import AppendLog.Proofs.Reply.Surfaced
import AppendLog.Proofs.Operation.TypedFaults
import AppendLog.Proofs.Scan.Items
import AppendLog.Proofs.Fields
import AppendLog.Proofs.Base64
import AppendLog.Proofs.Renderer.Tokens
import AppendLog.Proofs.Renderer.Expressible
import AppendLog.Proofs.Json.Record
import AppendLog.Proofs.Json.Values
