/-!
# Durations

A span of time in whole nanoseconds, of at most `UInt64.size` seconds less one nanosecond. Commands
take whole milliseconds: rounded down, and where the command says so at most `UInt64.size - 1`.
Timers round the other way: one that is set to a span goes off at a tick, never before the span is
over.
-/

namespace AppendLog

structure Duration where
  nanoseconds : Nat
  representable : nanoseconds < UInt64.size * 1000000000
  deriving DecidableEq

namespace Duration

def longest : Duration := ⟨UInt64.size * 1000000000 - 1, by decide⟩

/-- The span of a number of nanoseconds, if it is not too long. -/
def ofNanoseconds? (n : Nat) : Option Duration :=
  if h : n < UInt64.size * 1000000000 then some ⟨n, h⟩ else none

def ofMilliseconds (n : UInt64) : Duration :=
  ⟨n.toNat * 1000000, by have := n.toNat_lt_size; omega⟩

instance : Inhabited Duration := ⟨ofMilliseconds 0⟩

/-- The sum of two spans, if it is not too long. -/
def add? (a b : Duration) : Option Duration := ofNanoseconds? (a.nanoseconds + b.nanoseconds)

def wholeSeconds (d : Duration) : Nat := d.nanoseconds / 1000000000

/-- Nanoseconds past the last whole second. -/
def subsecond (d : Duration) : Nat := d.nanoseconds % 1000000000

/-- Whole milliseconds of a span, rounded down. -/
def wholeMilliseconds (d : Duration) : Nat := d.nanoseconds / 1000000

/-- Whole milliseconds of a span, rounded down and capped at the largest 64-bit number. -/
def milliseconds (d : Duration) : UInt64 := UInt64.ofNat (min d.wholeMilliseconds (UInt64.size - 1))

/-- The milliseconds that a blocking read asks the server to wait. Zero means forever, so any other
span asks for one millisecond at least. -/
def blockMilliseconds (d : Duration) : UInt64 :=
  if d.nanoseconds = 0 then 0 else max d.milliseconds 1

theorem toNat_milliseconds (d : Duration) :
    d.milliseconds.toNat = min d.wholeMilliseconds (UInt64.size - 1) := by
  rw [milliseconds, UInt64.toNat_ofNat_of_lt']
  rw [UInt64.size]
  omega

@[simp] theorem wholeMilliseconds_ofMilliseconds (n : UInt64) :
    (ofMilliseconds n).wholeMilliseconds = n.toNat :=
  Nat.mul_div_cancel _ (by decide)

@[simp] theorem milliseconds_ofMilliseconds (n : UInt64) : (ofMilliseconds n).milliseconds = n := by
  have := n.toNat_lt
  rw [← UInt64.toNat_inj, toNat_milliseconds, wholeMilliseconds_ofMilliseconds, UInt64.size]
  omega

end Duration

/-! ## Timers -/

/-- A timer that goes off at its ticks only. They are counted from when it is set, since a clock
that only timers move stands at a tick then. -/
structure Timer where
  /-- Nanoseconds from one tick to the next. -/
  tick : Nat
  tick_pos : 0 < tick
  deriving DecidableEq

namespace Timer

/-- A timer that ticks at every nanosecond, and so goes off at the time that it is set to. -/
def exact : Timer := ⟨1, by decide⟩

def milliseconds : Timer := ⟨1000000, by decide⟩

/-- The nanoseconds after which a timer goes off that is set to so many: up to the first tick that
does not come before. -/
def roundUp (timer : Timer) (n : Nat) : Nat := (n + (timer.tick - 1)) / timer.tick * timer.tick

variable (timer : Timer) {n : Nat}

/-- What rounding cuts off is the remainder of the division. -/
theorem roundUp_add_mod (n : Nat) :
    timer.roundUp n + (n + (timer.tick - 1)) % timer.tick = n + (timer.tick - 1) :=
  Nat.div_add_mod' _ _

/-- No timer goes off early. -/
theorem le_roundUp (n : Nat) : n ≤ timer.roundUp n := by
  have hsum := timer.roundUp_add_mod n
  have hrest := Nat.mod_lt (n + (timer.tick - 1)) timer.tick_pos
  omega

/-- A timer goes off less than a tick late. -/
theorem roundUp_lt (n : Nat) : timer.roundUp n < n + timer.tick := by
  have hsum := timer.roundUp_add_mod n
  have hpos := timer.tick_pos
  omega

end Timer

end AppendLog
