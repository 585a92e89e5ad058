/-! Work that the interrupt handler leaves to others. -/
namespace Telemetry

inductive DeferredEvent where
  /-- Stop the timer and its interrupt. -/
  | disableTimer
  /-- Read the node id from the store again. -/
  | reloadNodeId
  /-- Report state and statistics. -/
  | debugDump
  deriving DecidableEq, Repr

def DeferredEvent.name : DeferredEvent → String
  | disableTimer => "DisableTimer"
  | reloadNodeId => "ReloadNodeId"
  | debugDump => "DebugDump"

end Telemetry
