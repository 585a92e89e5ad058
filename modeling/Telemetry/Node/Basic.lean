import Telemetry.Calibration.Basic
import Telemetry.Filter.Median
import Telemetry.Input.Analog
import Telemetry.Node.Link
import Telemetry.Node.Queue

/-! A node: shared state, timer, input, store and link, what its stages remember, and the queues between
them. Every stage is a function on nodes that leaves alone what is not its own. -/
namespace Telemetry

/-- What the calibration engine remembers between frames. -/
structure Engine where
  calibration : Calibration
  /-- A calibration is being collected. -/
  collecting : Bool := false
  /-- Epoch of the calibration collected last. -/
  seenEpoch : UInt32
  deriving DecidableEq, Repr

structure Node (Timer Input Store : Type) where
  state : NodeState
  timer : Timer
  input : Input
  store : Store
  link : Link
  schedule : AlarmSchedule
  filters : ChannelFilters := .zero
  /-- Counter of the next sample frame, wrapping. -/
  counter : UInt32 := 0
  /-- The timer has fired before. -/
  fired : Bool := false
  engine : Engine
  /-- Timeouts without traffic before a keep-alive; zero counts as one. -/
  keepaliveAfter : UInt32
  /-- Timeouts since the last send or keep-alive. -/
  idleCycles : UInt32 := 0
  samples : Queue SampleFrame
  events : Queue DeferredEvent
  packets : Queue Bytes
  running : Bool := true

namespace Engine

variable {Store : Type} [ConfigStore Store]

/-- An engine with the stored calibration. -/
def load (state : NodeState) (store : Store) : Traced (Engine × Store) := do
  let (calibration, store) ← Calibration.load store
  Traced.note (.calibrationLoaded calibration.thresholds)
  pure ({ calibration, seenEpoch := state.calibrationEpoch }, store)

end Engine

namespace Node

variable {Timer Input Store : Type}

/-- Counts one more on the shared statistics. -/
def count (node : Node Timer Input Store) (counter : Counter) : Node Timer Input Store :=
  { node with state := node.state.count counter }

def withFlags (node : Node Timer Input Store) (flags : Flags) : Node Timer Input Store :=
  { node with state := { node.state with flags } }

end Node

end Telemetry
