import Telemetry.Basic

/-! Analog inputs: what a node reads once per tick. -/
namespace Telemetry

/-- A source of readings. Reading may change the source. -/
class AnalogInput (Input : Type) where
  /-- Converts one channel; a channel that does not exist reads zero. -/
  read : Input → Nat → UInt16 × Input
  /-- Converts every channel in order. -/
  readAll : Input → Reading × Input

end Telemetry
