import Telemetry.Node.Control
import Telemetry.Node.Sampling
import Telemetry.Timer.Recording

/-! A node under test: a timer that fires on request, with every task catching up in between, and a
transmit task that is stopped at a certain send. -/
namespace Telemetry.Node

variable {Timer Input Store : Type} [AnalogInput Input] [ConfigStore Store]

/-- Delivers requested fires as long as the timer is live. Frames go through the pipeline at once;
events wait. -/
def deliverFires : Nat → Node RecordingTimer Input Store → Traced (Node RecordingTimer Input Store)
  | 0, node => pure node
  | n + 1, node =>
    if !node.running then pure node
    else match node.timer.deliver? with
      | none => pure node
      | some timer => do
        let (_, node) ← { node with timer }.onAlarm
        let node ← node.drainPipeline
        deliverFires n node

/-- Lets everything happen that can: fires first, then events. -/
def settle (node : Node RecordingTimer Input Store) : Traced (Node RecordingTimer Input Store) := do
  let node ← node.drainPipeline
  let node ← deliverFires node.timer.pending node
  let node ← node.drainDeferred
  node.drainPipeline

/-- Requests fires one after the other, with everything settled after each. -/
def fire : Nat → Node RecordingTimer Input Store → Traced (Node RecordingTimer Input Store)
  | 0, node => pure node
  | n + 1, node => do
    let node ← { node with timer := node.timer.request }.settle
    fire n node

/-- Turns of the transmit task, which is told to stop once so many sends have been tried. -/
def transmitUntil (attempts : Nat) :
    Nat → Node Timer Input Store → Traced (Node Timer Input Store)
  | 0, node => pure node
  | n + 1, node => do
    let node ← node.transmitTurn
    let running := node.running && node.link.attempts < attempts
    if node.packets.receiving then transmitUntil attempts n { node with running }
    else pure node

/-- The transmit task on a queue that stays open, from its start until so many sends have been tried.
A packet or a run of idle timeouts precedes every send, which bounds the turns. -/
def runTransmitUntil (attempts : Nat) (node : Node Timer Input Store) :
    Traced (Node Timer Input Store) := do
  Traced.note (.transmitRunning node.link.description)
  transmitUntil attempts
    (node.packets.items.length + attempts * node.keepaliveEvery.toNat + 1) node

end Telemetry.Node
