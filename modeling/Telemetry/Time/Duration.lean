import Telemetry.Basic

/-! Spans of wall-clock time and the timer ticks they cover: five ticks a microsecond, rounded down. -/
namespace Telemetry

/-- Counter ticks per second: an 80 MHz clock behind a prescaler of 16. -/
def tickRateHz : Nat := 5000000

def nanosPerSecond : Nat := 1000000000

/-- The longest span: a 64-bit number of seconds and all nanoseconds short of one more. -/
def Duration.limit : Nat := UInt64.size * nanosPerSecond - 1

/-- A span of time in nanoseconds. -/
structure Duration where
  nanos : Nat
  nanos_le : nanos ≤ Duration.limit
  deriving DecidableEq

namespace Duration

/-- A span of so many nanoseconds, or the longest one. -/
def ofNanos (nanos : Nat) : Duration :=
  ⟨min nanos limit, Nat.min_le_right ..⟩

def ofMillis (millis : UInt64) : Duration :=
  ofNanos (millis.toNat * 1000000)

def ofSeconds (seconds : Nat) : Duration :=
  ofNanos (seconds * nanosPerSecond)

/-- Whole seconds. -/
def seconds (span : Duration) : Nat :=
  span.nanos / nanosPerSecond

/-- Nanoseconds past the whole seconds. -/
def subsecond (span : Duration) : Nat :=
  span.nanos % nanosPerSecond

instance : Inhabited Duration := ⟨ofNanos 0⟩

end Duration

/-- Largest 64-bit number, where both conversions stop growing. -/
def wordMax : Nat := UInt64.size - 1

/-- Ticks that fit into a span. -/
def ticksIn (span : Duration) : UInt64 :=
  UInt64.ofNat (min (span.nanos * tickRateHz / nanosPerSecond) wordMax)

/-- Span that so many ticks take. -/
def durationOf (ticks : UInt64) : Duration :=
  Duration.ofNanos (min (ticks.toNat * nanosPerSecond / tickRateHz) wordMax)

end Telemetry
