import Mathlib.Data.List.Nodup
import Telemetry.Proofs.Pipeline.Run

/-! Counters held against what they count. -/
namespace Telemetry

namespace Statistics

def value (stats : Statistics) : Counter → UInt64
  | .samplesCaptured => stats.samplesCaptured
  | .samplesDropped => stats.samplesDropped
  | .framesProcessed => stats.framesProcessed
  | .packetsQueued => stats.packetsQueued
  | .packetsDropped => stats.packetsDropped
  | .packetsSent => stats.packetsSent
  | .packetsSkipped => stats.packetsSkipped
  | .sendFailures => stats.sendFailures
  | .keepalivesSent => stats.keepalivesSent

/-- The statistics once some counters were counted, one after the other. -/
def recordAll (stats : Statistics) (counted : List Counter) : Statistics :=
  counted.foldl record stats

/-- The counters that differ between two states of the statistics. -/
def moved (earlier later : Statistics) : List Counter :=
  Counter.all.filter fun counter => later.value counter ≠ earlier.value counter

theorem value_record (stats : Statistics) (counted counter : Counter) :
    (stats.record counted).value counter = stats.value counter + if counted = counter then 1 else 0 := by
  cases counted <;> cases counter <;> simp [record, value]

theorem value_recordAll (stats : Statistics) (counted : List Counter) (counter : Counter) :
    (stats.recordAll counted).value counter = stats.value counter + .ofNat (counted.count counter) := by
  induction counted generalizing stats with
  | nil => simp [recordAll]
  | cons first rest ih =>
    have hRest := ih (stats.record first)
    rw [recordAll, List.foldl_cons]
    rw [recordAll] at hRest
    rw [hRest, value_record, List.count_cons, UInt64.ofNat_add, UInt64.add_assoc]
    congr 1
    by_cases h : first = counter
    · simp [h, UInt64.add_comm]
    · simp [h]

/-- Counters that were counted once at most are the ones that differ. -/
theorem count_moved {earlier : Statistics} {counted : List Counter} (hOnce : counted.Nodup)
    (counter : Counter) : (earlier.moved (earlier.recordAll counted)).count counter = counted.count counter := by
  have hAll : Counter.all.Nodup := by decide
  have hMember : counter ∈ Counter.all := by cases counter <;> decide
  by_cases h : counter ∈ counted
  · rw [List.count_eq_one_of_mem hOnce h]
    apply List.count_eq_one_of_mem (hAll.filter _)
    simp [hMember, value_recordAll, List.count_eq_one_of_mem hOnce h]
  · rw [List.count_eq_zero_of_not_mem h]
    apply List.count_eq_zero_of_not_mem
    simp [moved, value_recordAll, List.count_eq_zero_of_not_mem h]

end Statistics

/-- What a pass of the transmit task tried, with the packet it took, if it took one. -/
structure Attempt where
  packet? : Option Bytes
  outcome : TransmitOutcome

def Attempt.packetFailed (attempt : Attempt) : Bool :=
  attempt.packet?.isSome && attempt.outcome == .failed

def Attempt.keepaliveFailed (attempt : Attempt) : Bool :=
  attempt.packet?.isNone && attempt.outcome == .failed

/-- The frame went into a calibration. -/
def Work.gathered (work : Work) : Bool :=
  work.mode == .calibrating

/-- What the counters are held against: the items that wait and the datagrams that were delivered. -/
structure Tally where
  stats : Statistics := {}
  frames : Nat := 0
  packets : Nat := 0
  datagrams : Nat := 0

def Node.tally {Timer Input Store : Type} (node : Node Timer Input Store) : Tally :=
  ⟨node.state.stats, node.samples.items.length, node.packets.items.length, node.link.sent.length⟩

/-- From one tally to a later one nothing was lost and nothing counted twice. -/
structure Booked (counted : List Counter) (works : List Work) (attempts : List Attempt)
    (earlier later : Tally) : Prop where
  stats : ∀ counter,
    later.stats.value counter = earlier.stats.value counter + .ofNat (counted.count counter)
  frames : earlier.frames + counted.count .samplesCaptured =
    counted.count .samplesDropped + counted.count .framesProcessed + later.frames
  processed : counted.count .framesProcessed =
    counted.count .packetsQueued + counted.count .packetsDropped + works.countP Work.gathered
  packets : earlier.packets + counted.count .packetsQueued =
    counted.count .packetsSent + counted.count .packetsSkipped + attempts.countP Attempt.packetFailed +
      later.packets
  failures : counted.count .sendFailures =
    attempts.countP Attempt.packetFailed + attempts.countP Attempt.keepaliveFailed
  datagrams : later.datagrams =
    earlier.datagrams + counted.count .packetsSent + counted.count .keepalivesSent

namespace Booked

variable {earlier middle later : Tally}

theorem refl (tally : Tally) : Booked [] [] [] tally tally := by
  constructor <;> simp

theorem trans {counted counted' : List Counter} {works works' : List Work}
    {attempts attempts' : List Attempt} (h : Booked counted works attempts earlier middle)
    (h' : Booked counted' works' attempts' middle later) :
    Booked (counted ++ counted') (works ++ works') (attempts ++ attempts') earlier later := by
  obtain ⟨hStats, hFrames, hProcessed, hPackets, hFailures, hDatagrams⟩ := h
  obtain ⟨hStats', hFrames', hProcessed', hPackets', hFailures', hDatagrams'⟩ := h'
  constructor
  · intro counter
    rw [hStats', hStats, List.count_append, UInt64.ofNat_add, UInt64.add_assoc]
  all_goals
    simp only [List.count_append, List.countP_append]
    omega

/-- A step that counts each counter once at most is booked by what it moves. -/
theorem of_recordAll (counted : List Counter) {works : List Work} {attempts : List Attempt}
    (hStats : later.stats = earlier.stats.recordAll counted) (hOnce : counted.Nodup)
    (hFrames : earlier.frames + counted.count .samplesCaptured =
      counted.count .samplesDropped + counted.count .framesProcessed + later.frames)
    (hProcessed : counted.count .framesProcessed =
      counted.count .packetsQueued + counted.count .packetsDropped + works.countP Work.gathered)
    (hPackets : earlier.packets + counted.count .packetsQueued =
      counted.count .packetsSent + counted.count .packetsSkipped +
        attempts.countP Attempt.packetFailed + later.packets)
    (hFailures : counted.count .sendFailures =
      attempts.countP Attempt.packetFailed + attempts.countP Attempt.keepaliveFailed)
    (hDatagrams : later.datagrams =
      earlier.datagrams + counted.count .packetsSent + counted.count .keepalivesSent) :
    Booked (earlier.stats.moved later.stats) works attempts earlier later := by
  have hCount (counter : Counter) :
      (earlier.stats.moved later.stats).count counter = counted.count counter := by
    rw [hStats, Statistics.count_moved hOnce]
  constructor <;> simp only [hCount]
  · intro counter
    rw [hStats, Statistics.value_recordAll]
  · exact hFrames
  · exact hProcessed
  · exact hPackets
  · exact hFailures
  · exact hDatagrams

theorem of_eq (h : later = earlier) : Booked (earlier.stats.moved later.stats) [] [] earlier later := by
  subst h
  exact .of_recordAll [] rfl List.nodup_nil (by simp) rfl (by simp) rfl rfl

end Booked

end Telemetry
