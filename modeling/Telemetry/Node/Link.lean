import Telemetry.Basic

/-! Datagram links: one destination, no retries. -/
namespace Telemetry

/-- What is sent to keep an idle association open. -/
def keepalivePayload : Bytes := [0, 0, 0, 0]

/-- How a send goes wrong. -/
inductive LinkFault where
  /-- The link reports an error. -/
  | refuse (reason : String)
  /-- The sending task does not survive. -/
  | crash (message : String)
  deriving DecidableEq, Repr

/-- A link remembers what it delivered. -/
structure Link where
  /-- Where datagrams go. -/
  description : String
  /-- What happens to sends, unless they succeed. -/
  fault : Option LinkFault := none
  /-- Datagrams delivered, oldest first. -/
  sent : List Bytes := []
  /-- Sends, successful or not. -/
  attempts : Nat := 0
  deriving DecidableEq, Repr

/-- The link after one send. -/
def Link.send (link : Link) (payload : Bytes) : Link :=
  let tried := { link with attempts := link.attempts + 1 }
  match link.fault with
  | none => { tried with sent := link.sent ++ [payload] }
  | some _ => tried

end Telemetry
