/-!
# Durations

Spans of time in whole nanoseconds. The longest span is a nanosecond short of `2 ^ 64` seconds.
-/

namespace LogPipeline

abbrev Nanos := Nat

namespace Nanos

def ofMillis (n : Nat) : Nanos := n * 1000000

def ofSeconds (n : Nat) : Nanos := n * 1000000000

def millis (d : Nanos) : Nat := d / 1000000

def longest : Nanos := UInt64.size * 1000000000 - 1

def times (d : Nanos) (factor : Nat) : Nanos := min (d * factor) longest

/-- A clock has instants so far ahead, and a wait takes the span in full. -/
def Waitable (d : Nanos) : Prop := d < 9223372036854775808 * 1000000000

/-- Milliseconds of thirty years, which a wait takes that has no end. -/
def endlessMillis : Nat := 30 * 365 * 86400 * 1000

/-- The whole milliseconds that it takes to wait for a span. A span beyond all instants has no
end. -/
def waitMillis (d : Nanos) : Nat :=
  if 9223372036854775808 * 1000000000 ≤ d then endlessMillis else (d + 999999) / 1000000

end Nanos

end LogPipeline
