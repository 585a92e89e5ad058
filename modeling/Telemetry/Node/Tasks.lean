import Telemetry.Node.Deferred
import Telemetry.Node.Processing
import Telemetry.Node.Transmission

/-! The three tasks behind the interrupt handler. A turn is one pass of a task's loop; a task has ended
when nobody takes items from its queue any more. -/
namespace Telemetry.Node

variable {Timer Input Store : Type}

/-- Makes so many passes. -/
def turns (turn : Node Timer Input Store → Traced (Node Timer Input Store)) :
    Nat → Node Timer Input Store → Traced (Node Timer Input Store)
  | 0, node => pure node
  | n + 1, node => do
    let node ← turn node
    turns turn n node

/-! The engine task takes sample frames and puts in packets. -/

/-- The engine lets go of both its queues. -/
def endEngine (node : Node Timer Input Store) : Traced (Node Timer Input Store) := do
  Traced.note .engineStopped
  pure { node with samples := node.samples.close, packets := node.packets.finish }

/-- Frames an output for the wire and queues it. A full queue costs the packet, a closed one the
engine. -/
def forward (node : Node Timer Input Store) (frame : SampleFrame) (output : OutputFrame) :
    Traced (Node Timer Input Store) := do
  if !node.packets.receiving then node.endEngine
  else match node.packets.push? (Packet.ofOutput output) with
    | some packets => pure ({ node with packets }.count .packetsQueued)
    | none => do
      Traced.note (.packetDropped frame.counter)
      pure (node.count .packetsDropped)

/-- One pass of the engine. With nothing to take it waits, or ends once nothing more can come. -/
def engineTurn [ConfigStore Store] (node : Node Timer Input Store) :
    Traced (Node Timer Input Store) := do
  if !node.samples.receiving then pure node
  else if !node.running then node.endEngine
  else match node.samples.items with
    | [] => if node.samples.finished then node.endEngine else pure node
    | frame :: rest => do
      let taken := { node with samples := node.samples.withItems rest }.count .framesProcessed
      let (output, node) ← taken.process frame
      match output with
      | some output => node.forward frame output
      | none => pure node

/-- The engine from its start until its queue is empty. -/
def runEngine [ConfigStore Store] (node : Node Timer Input Store) :
    Traced (Node Timer Input Store) := do
  Traced.note .engineRunning
  turns engineTurn (node.samples.items.length + 1) node

/-! The transmit task takes packets. -/

def endTransmit (node : Node Timer Input Store) : Traced (Node Timer Input Store) := do
  Traced.note .transmitStopped
  pure { node with packets := node.packets.close }

/-- A send that took the task down leaves the packet queue without a taker. -/
def afterSend (outcome : TransmitOutcome) (node : Node Timer Input Store) :
    Traced (Node Timer Input Store) := do
  match outcome with
  | .crashed message => do
    Traced.note (.taskCrashed "udp-tx" message)
    pure { node with packets := node.packets.close }
  | _ => pure node

/-- One pass of the transmit task; waiting in vain counts towards a keep-alive. -/
def transmitTurn (node : Node Timer Input Store) : Traced (Node Timer Input Store) := do
  if !node.packets.receiving then pure node
  else if !node.running then node.endTransmit
  else match node.packets.items with
    | [] =>
      if node.packets.finished then node.endTransmit
      else do
        let (outcome, node) ← node.idle
        node.afterSend outcome
    | packet :: rest => do
      let (outcome, node) ← { node with packets := node.packets.withItems rest }.transmit packet
      node.afterSend outcome

/-- The transmit task from its start until its queue is empty. -/
def runTransmit (node : Node Timer Input Store) : Traced (Node Timer Input Store) := do
  Traced.note (.transmitRunning node.link.description)
  turns transmitTurn (node.packets.items.length + 1) node

/-! The deferred worker takes events. -/

def endDeferred (node : Node Timer Input Store) : Traced (Node Timer Input Store) := do
  Traced.note .deferredStopped
  pure { node with events := node.events.close }

/-- One pass of the deferred worker. -/
def deferredTurn [AlarmTimer Timer] [ConfigStore Store] (node : Node Timer Input Store) :
    Traced (Node Timer Input Store) := do
  if !node.events.receiving then pure node
  else if !node.running then node.endDeferred
  else match node.events.items with
    | [] => if node.events.finished then node.endDeferred else pure node
    | event :: rest => do
      Traced.note (.eventTaken event)
      { node with events := node.events.withItems rest }.handle event

/-- The deferred worker from its start until its queue is empty. -/
def runDeferred [AlarmTimer Timer] [ConfigStore Store] (node : Node Timer Input Store) :
    Traced (Node Timer Input Store) := do
  Traced.note .deferredRunning
  turns deferredTurn (node.events.items.length + 1) node

/-! Letting the tasks catch up with what is queued. -/

def drainDeferred [AlarmTimer Timer] [ConfigStore Store] (node : Node Timer Input Store) :
    Traced (Node Timer Input Store) :=
  turns deferredTurn node.events.items.length node

def drainEngine [ConfigStore Store] (node : Node Timer Input Store) :
    Traced (Node Timer Input Store) :=
  turns engineTurn node.samples.items.length node

def drainTransmit (node : Node Timer Input Store) : Traced (Node Timer Input Store) :=
  turns transmitTurn node.packets.items.length node

/-- Engine first, then the packets it made. -/
def drainPipeline [ConfigStore Store] (node : Node Timer Input Store) :
    Traced (Node Timer Input Store) := do
  let node ← node.drainEngine
  node.drainTransmit

end Telemetry.Node
