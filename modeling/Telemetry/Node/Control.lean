import Telemetry.Node.Tasks

/-! Control of a running node. Calls write the store and raise flags; the stages follow at their next
pass. Only a resumption touches the timer itself. -/
namespace Telemetry

inductive ControlError where
  | invalidPercent (percent : UInt8)
  | store (error : StoreError)
  | timer (error : TimerError)
  deriving DecidableEq, Repr

def ControlError.message : ControlError → String
  | invalidPercent percent => s!"Threshold percentage must be 0-100, got {percent}"
  | store error => error.message
  | timer error => error.message

namespace Node

variable {Timer Input Store : Type}

/-- Stores a node id; it comes into force when the store is read again. -/
def setNodeId [ConfigStore Store] (node : Node Timer Input Store) (nodeId : UInt8) :
    Traced (Except ControlError Unit × Node Timer Input Store) := do
  match ConfigStore.set node.store .nodeId nodeId.toUInt16 with
  | (.error error, store) => pure (.error (.store error), { node with store })
  | (.ok (), store) => do
    Traced.note (.nodeIdRequested nodeId)
    pure (.ok (), { node with store }.withFlags { node.state.flags with nodeIdChanged := true })

def startCalibration (node : Node Timer Input Store) : Traced (Node Timer Input Store) := do
  Traced.note .calibrationStartRequested
  pure { node with state := node.state.beginCalibration }

def stopCalibration (node : Node Timer Input Store) : Traced (Node Timer Input Store) := do
  Traced.note .calibrationStopRequested
  pure { node with state := node.state.endCalibration }

def setRawMode (node : Node Timer Input Store) (on : Bool) : Node Timer Input Store :=
  node.withFlags { node.state.flags with rawMode := on }

/-- Puts a percentage in force and says whether it is a new one. -/
def setThresholdPercent (node : Node Timer Input Store) (percent : UInt8) :
    Except ControlError Bool × Node Timer Input Store :=
  if 100 < percent then (.error (.invalidPercent percent), node)
  else (.ok (node.state.percentDiffers percent), { node with state := node.state.updatePercent percent })

/-- Asks the interrupt handler to stop sampling. -/
def pauseSampling (node : Node Timer Input Store) : Traced (Node Timer Input Store) := do
  Traced.note .pauseRequested
  pure (node.withFlags { node.state.flags with pauseSampling := true })

/-- Withdraws a pause request, arms the alarm and starts the timer again. What was done before a
failure stays done. -/
def resumeSampling [AlarmTimer Timer] (node : Node Timer Input Store) :
    Traced (Except ControlError Unit × Node Timer Input Store) := do
  let armed := { node with
    timer := node.schedule.arm node.timer (AlarmTimer.counter node.timer) }.withFlags
      { node.state.flags with pauseSampling := false }
  match AlarmTimer.enableInterrupt armed.timer with
  | .error error => pure (.error (.timer error), armed)
  | .ok enabled =>
    match AlarmTimer.start enabled with
    | .error error => pure (.error (.timer error), { armed with timer := enabled })
    | .ok timer => do
      Traced.note .samplingResumed
      pure (.ok (), { armed with timer })

def requestDump (node : Node Timer Input Store) : Node Timer Input Store :=
  node.withFlags { node.state.flags with debugDump := true }

def setNetworkEnabled (node : Node Timer Input Store) (enabled : Bool) :
    Traced (Node Timer Input Store) := do
  Traced.note (.networkChanged enabled)
  pure (node.withFlags { node.state.flags with networkEnabled := enabled })

/-- Tells the tasks to end and lets go of the interrupt handler, and with it of the ends of the queues
that it put items in. -/
def requestStop (node : Node Timer Input Store) : Node Timer Input Store :=
  { node with running := false, samples := node.samples.finish, events := node.events.finish }

/-- Stops the node and waits for every task to end. -/
def stop [AlarmTimer Timer] [ConfigStore Store] (node : Node Timer Input Store) :
    Traced (Node Timer Input Store) := do
  if !node.running then pure node
  else
    let node ← node.requestStop.deferredTurn
    let node ← node.engineTurn
    let node ← node.transmitTurn
    Traced.note .nodeStopped
    pure node

end Node

end Telemetry
