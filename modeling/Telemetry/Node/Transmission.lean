import Telemetry.Node.Basic
import Telemetry.Wire.Packet

/-! Sending: packets go to the link once, and keep-alives go out when there is nothing else to send. -/
namespace Telemetry

/-- What came of a packet or of a timeout. -/
inductive TransmitOutcome where
  | sent (length : Nat)
  /-- The network is disabled. -/
  | skipped
  | failed
  | keepAlive
  /-- No keep-alive is due, or none can be sent. -/
  | idle
  /-- The link took the sending task down with it. -/
  | crashed (message : String)
  deriving DecidableEq, Repr

namespace Node

variable {Timer Input Store : Type}

/-- The node after a send over its link. -/
def sendOver (node : Node Timer Input Store) (payload : Bytes) : Node Timer Input Store :=
  { node with link := node.link.send payload }

/-- Sends one packet; every attempt ends the count of idle timeouts. -/
def transmit (node : Node Timer Input Store) (packet : Bytes) :
    Traced (TransmitOutcome × Node Timer Input Store) := do
  if !node.state.flags.networkEnabled then
    Traced.note .packetSkipped
    pure (.skipped, node.count .packetsSkipped)
  else
    let tried := { node with idleCycles := 0 }.sendOver packet
    match node.link.fault with
    | none => pure (.sent packet.length, tried.count .packetsSent)
    | some (.refuse reason) => do
      Traced.note (.sendFailed reason node.link.description)
      pure (.failed, tried.count .sendFailures)
    | some (.crash message) => pure (.crashed message, tried)

/-- Number of idle timeouts that make a keep-alive due. -/
def keepaliveEvery (node : Node Timer Input Store) : UInt32 :=
  max node.keepaliveAfter 1

/-- Takes note of a timeout, and sends a keep-alive when one is due. -/
def idle (node : Node Timer Input Store) : Traced (TransmitOutcome × Node Timer Input Store) := do
  let idleCycles := node.idleCycles + 1
  if idleCycles < node.keepaliveEvery then pure (.idle, { node with idleCycles })
  else if !node.state.flags.networkEnabled then pure (.idle, { node with idleCycles := 0 })
  else
    Traced.note (.keepaliveDue node.link.description)
    let tried := { node with idleCycles := 0 }.sendOver keepalivePayload
    match node.link.fault with
    | none => pure (.keepAlive, tried.count .keepalivesSent)
    | some (.refuse reason) => do
      Traced.note (.keepaliveFailed reason)
      pure (.failed, tried.count .sendFailures)
    | some (.crash message) => pure (.crashed message, tried)

end Node

end Telemetry
