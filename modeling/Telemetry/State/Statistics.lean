import Telemetry.Json.Writer
import Telemetry.Time.Timestamp

/-! Counters of what became of samples and packets. -/
namespace Telemetry

/-- Counters wrap at 64 bits. -/
structure Statistics where
  /-- Frames built by the interrupt handler. -/
  samplesCaptured : UInt64 := 0
  /-- Frames discarded at a full sample queue. -/
  samplesDropped : UInt64 := 0
  /-- Frames taken by the engine. -/
  framesProcessed : UInt64 := 0
  /-- Packets placed on the packet queue. -/
  packetsQueued : UInt64 := 0
  /-- Packets discarded at a full packet queue. -/
  packetsDropped : UInt64 := 0
  /-- Packets the link took. -/
  packetsSent : UInt64 := 0
  /-- Packets discarded while the network was disabled. -/
  packetsSkipped : UInt64 := 0
  /-- Sends that failed, keep-alives included. -/
  sendFailures : UInt64 := 0
  /-- Keep-alives the link took. -/
  keepalivesSent : UInt64 := 0
  deriving DecidableEq, Repr, Inhabited

/-- One of the counters. -/
inductive Counter where
  | samplesCaptured | samplesDropped | framesProcessed | packetsQueued | packetsDropped
  | packetsSent | packetsSkipped | sendFailures | keepalivesSent
  deriving DecidableEq, Repr

/-- Every counter, in the order of reporting. -/
def Counter.all : List Counter :=
  [.samplesCaptured, .samplesDropped, .framesProcessed, .packetsQueued, .packetsDropped,
    .packetsSent, .packetsSkipped, .sendFailures, .keepalivesSent]

namespace Statistics

/-- Counts one more. -/
def record (stats : Statistics) : Counter → Statistics
  | .samplesCaptured => { stats with samplesCaptured := stats.samplesCaptured + 1 }
  | .samplesDropped => { stats with samplesDropped := stats.samplesDropped + 1 }
  | .framesProcessed => { stats with framesProcessed := stats.framesProcessed + 1 }
  | .packetsQueued => { stats with packetsQueued := stats.packetsQueued + 1 }
  | .packetsDropped => { stats with packetsDropped := stats.packetsDropped + 1 }
  | .packetsSent => { stats with packetsSent := stats.packetsSent + 1 }
  | .packetsSkipped => { stats with packetsSkipped := stats.packetsSkipped + 1 }
  | .sendFailures => { stats with sendFailures := stats.sendFailures + 1 }
  | .keepalivesSent => { stats with keepalivesSent := stats.keepalivesSent + 1 }

/-- The counters with the names they are reported under, in reporting order. -/
def fields (stats : Statistics) : List (String × UInt64) :=
  [("samples_captured", stats.samplesCaptured),
    ("samples_dropped", stats.samplesDropped),
    ("frames_processed", stats.framesProcessed),
    ("packets_queued", stats.packetsQueued),
    ("packets_dropped", stats.packetsDropped),
    ("packets_sent", stats.packetsSent),
    ("packets_skipped", stats.packetsSkipped),
    ("send_failures", stats.sendFailures),
    ("keepalives_sent", stats.keepalivesSent)]

/-- Share of captured samples that were dropped; zero as long as there are none. -/
def dropPercent (stats : Statistics) : Float :=
  if stats.samplesCaptured = 0 then 0
  else stats.samplesDropped.toFloat * 100 / stats.samplesCaptured.toFloat

/-- A report: the time it was made and all counters. -/
def report (layout : Json.Layout) (takenAt : String) (stats : Statistics) : String :=
  Json.writeObject layout
    (("taken_at", .text takenAt) :: stats.fields.map fun (name, count) => (name, .number count.toNat))

end Statistics

end Telemetry
