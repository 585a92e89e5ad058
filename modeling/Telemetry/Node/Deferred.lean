import Telemetry.Node.Basic

/-! The worker that does what the interrupt handler left to do. -/
namespace Telemetry.Node

variable {Timer Input Store : Type} [AlarmTimer Timer]

/-- Stops the timer and its interrupt. A failure is reported and the other half still done. -/
def disableTimer (node : Node Timer Input Store) : Traced (Node Timer Input Store) := do
  let node ← match AlarmTimer.pause node.timer with
    | .ok timer => do
      Traced.note .timerPaused
      pure { node with timer }
    | .error error => do
      Traced.note (.timerNotPaused error)
      pure node
  match AlarmTimer.disableInterrupt node.timer with
  | .ok timer => pure { node with timer }
  | .error error => do
    Traced.note (.interruptNotDisabled error)
    pure node

/-- Puts the stored node id in force and frees the reload slot. -/
def reloadNodeId [ConfigStore Store] (node : Node Timer Input Store) :
    Traced (Node Timer Input Store) := do
  let (nodeId, store) ← ConfigStore.loadNodeId node.store
  Traced.note (.nodeIdReloaded node.state.nodeId nodeId)
  pure { node with
    store
    state := { node.state with
      nodeId, reloadClaimed := false, flags := { node.state.flags with nodeIdChanged := false } } }

/-- Reports state and statistics. -/
def dump (node : Node Timer Input Store) : Traced Unit := do
  Traced.note (.stateDump node.state.nodeId node.state.flags node.state.thresholdPercent
    (AlarmTimer.counter node.timer))
  Traced.note (.statisticsDump node.state.stats)

/-- Carries out one event. -/
def handle [ConfigStore Store] (node : Node Timer Input Store) :
    DeferredEvent → Traced (Node Timer Input Store)
  | .disableTimer => node.disableTimer
  | .reloadNodeId => node.reloadNodeId
  | .debugDump => do
    node.dump
    pure node

end Telemetry.Node
