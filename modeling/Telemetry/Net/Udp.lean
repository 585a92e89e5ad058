import Telemetry.Net.Address
import Telemetry.Node.Link

/-! Datagrams over the network that a host is on. -/
namespace Telemetry

/-- The network as one host sees it. -/
structure Network where
  /-- Local ports that are taken. -/
  busyPorts : List UInt16 := []
  /-- Datagrams find their way. -/
  connected : Bool := true
  deriving DecidableEq, Repr

inductive NetworkError where
  | addressInUse | messageTooLong | unreachable
  deriving DecidableEq, Repr

def NetworkError.message : NetworkError → String
  | addressInUse => "Address already in use (os error 98)"
  | messageTooLong => "Message too long (os error 90)"
  | unreachable => "Network is unreachable (os error 101)"

/-- Most bytes that fit into a datagram. -/
def maxDatagram : Nat := 65507

namespace Network

/-- A link from a local port to a remote address. Port zero stands for any free port. -/
def bindLink (network : Network) (localPort : UInt16) (remote : SocketAddress) :
    Except NetworkError Link :=
  if localPort ≠ 0 && network.busyPorts.contains localPort then .error .addressInUse
  else .ok { description := "udp://" ++ remote.render }

/-- What arrives of a datagram. -/
def deliver (network : Network) (payload : Bytes) : Except NetworkError Bytes :=
  if maxDatagram < payload.length then .error .messageTooLong
  else if network.connected then .ok payload
  else .error .unreachable

end Network

end Telemetry
