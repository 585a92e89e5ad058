import Mathlib.Data.List.Basic
import Telemetry.Node.Control
import Telemetry.Proofs.Filter.Channels
import Telemetry.Proofs.Node.Sampling
import Telemetry.Proofs.Node.Tasks

/-! Runs of the pipeline in any order of steps, and the record they leave: what was read at each
sampling tick, and how the engine treated each frame it took. -/
namespace Telemetry

/-- The reading taken at a sampling tick and the node id in force there. -/
structure Tick where
  reading : Reading
  nodeId : UInt8

/-- A frame the engine took, the mode it found and the calibration it was left with. -/
structure Work where
  frame : SampleFrame
  mode : EngineMode
  calibration : Calibration

/-- What is smoothed out of the readings up to the tick of this number. -/
def Tick.smoothedAt (ticks : List Tick) (number : Nat) : Reading :=
  ChannelFilters.smoothed ((ticks.take (number + 1)).map Tick.reading)

/-- The frames of successive ticks, whether or not they found room. -/
def Tick.frames (ticks : List Tick) : List SampleFrame :=
  ticks.mapIdx fun number tick => ⟨tick.nodeId, .ofNat number, smoothedAt ticks number⟩

/-- The packet that a frame was turned into, if it was turned into one. -/
def Work.packet? (work : Work) : Option Bytes :=
  (work.mode.output? work.calibration work.frame).map Packet.ofOutput

namespace Pipeline

/-- What may happen to a pipeline: an alarm, a pass of a task, a change of the shared state, of the link
or of the world outside, or the request to end. -/
inductive Action (Timer Input Store : Type) where
  | alarm
  | engineTurn
  | transmitTurn
  | deferredTurn
  | flags (flags : Flags)
  | nodeId (nodeId : UInt8)
  | percent (percent : UInt8)
  | beginCalibration
  | link (fault : Option LinkFault)
  | outside (timer : Timer) (input : Input) (store : Store)
  | requestStop

variable {Timer Input Store : Type} [AlarmTimer Timer] [AnalogInput Input] [ConfigStore Store]

def step (node : Node Timer Input Store) : Action Timer Input Store → Node Timer Input Store
  | .alarm => node.onAlarm.value.2
  | .engineTurn => node.engineTurn.value
  | .transmitTurn => node.transmitTurn.value
  | .deferredTurn => node.deferredTurn.value
  | .flags flags => node.withFlags flags
  | .nodeId nodeId => { node with state := { node.state with nodeId } }
  | .percent percent => { node with state := node.state.updatePercent percent }
  | .beginCalibration => { node with state := node.state.beginCalibration }
  | .link fault => { node with link := { node.link with fault } }
  | .outside timer input store => { node with timer, input, store }
  | .requestStop => node.requestStop

def run (node : Node Timer Input Store) (actions : List (Action Timer Input Store)) :
    Node Timer Input Store :=
  actions.foldl step node

/-- The tick that a step adds: an alarm that finds no pause request. -/
def tickOf (node : Node Timer Input Store) : Action Timer Input Store → List Tick
  | .alarm =>
    if node.state.flags.pauseSampling then []
    else [⟨(AnalogInput.readAll node.input).1, node.state.nodeId⟩]
  | _ => []

/-- The work that a step adds: a pass of the engine that takes a frame. -/
def workOf (node : Node Timer Input Store) : Action Timer Input Store → List Work
  | .engineTurn => (node.engineInput?.map fun frame =>
      ⟨frame, node.state.flags.engineMode, node.engineTurn.value.engine.calibration⟩).toList
  | _ => []

/-- What an observer of every step has seen at the end of a run. -/
def observed {Fact : Type} (observe : Node Timer Input Store → Action Timer Input Store → List Fact) :
    Node Timer Input Store → List (Action Timer Input Store) → List Fact
  | _, [] => []
  | node, action :: rest => observe node action ++ observed observe (step node action) rest

/-- The sampling ticks of a run, numbered from zero. -/
def ticks (node : Node Timer Input Store) (actions : List (Action Timer Input Store)) : List Tick :=
  observed tickOf node actions

/-- The frames taken by the engine during a run. -/
def works (node : Node Timer Input Store) (actions : List (Action Timer Input Store)) : List Work :=
  observed workOf node actions

end Pipeline

theorem Tick.frames_concat (ticks : List Tick) (tick : Tick) :
    frames (ticks ++ [tick]) = frames ticks ++ [⟨tick.nodeId, .ofNat ticks.length,
      ChannelFilters.smoothed ((ticks ++ [tick]).map Tick.reading)⟩] := by
  rw [frames, List.mapIdx_concat]
  congr 1
  · apply List.mapIdx_eq_mapIdx_iff.mpr
    intro number hNumber
    rw [smoothedAt, List.take_append_of_le_length hNumber]
    rfl
  · rw [smoothedAt, List.take_of_length_le (by simp)]

/-- Frames wait in the order of their ticks, packets in the order of their frames, and filters and
counter stand where the ticks have brought them. -/
structure Pipeline.Invariant {Timer Input Store : Type} (ticks : List Tick) (works : List Work)
    (node : Node Timer Input Store) : Prop where
  filters : node.filters = .after (ticks.map Tick.reading)
  counter : node.counter = .ofNat ticks.length
  frames : (works.map Work.frame ++ node.samples.items).Sublist (Tick.frames ticks)
  packets : (node.link.delivered ++ node.packets.items).Sublist (works.filterMap Work.packet?)

namespace Pipeline

variable {Timer Input Store : Type} {ticks : List Tick} {works : List Work}
  {node : Node Timer Input Store}

theorem Invariant.congr {other : Node Timer Input Store} (h : Invariant ticks works node)
    (hFilters : other.filters = node.filters) (hCounter : other.counter = node.counter)
    (hSamples : other.samples.items = node.samples.items)
    (hPackets : (other.link.delivered ++ other.packets.items).Sublist
      (node.link.delivered ++ node.packets.items)) : Invariant ticks works other where
  filters := hFilters.trans h.filters
  counter := hCounter.trans h.counter
  frames := hSamples ▸ h.frames
  packets := hPackets.trans h.packets

section Stages

variable [AnalogInput Input]

theorem Invariant.nextFrame (h : Invariant ticks works node) :
    node.nextFrame = ⟨node.state.nodeId, .ofNat ticks.length,
      ChannelFilters.smoothed (ticks.map Tick.reading ++ [(AnalogInput.readAll node.input).1])⟩ := by
  rw [Node.nextFrame, h.counter, h.filters, ChannelFilters.medians_after]

variable [AlarmTimer Timer]

theorem Invariant.paused (h : Invariant ticks works node)
    (hPause : node.state.flags.pauseSampling = true) : Invariant ticks works node.onAlarm.value.2 := by
  rw [Node.onAlarm_of_pause hPause]
  cases hAccepts : node.acknowledged.events.accepts
  · rw [Node.postPause_of_not_accepts hAccepts]
    exact h.congr rfl rfl rfl (.refl _)
  · rw [Node.postPause_of_accepts hAccepts]
    exact h.congr rfl rfl rfl (.refl _)

/-- A tick moves counter and filters on even where its frame finds no room. -/
theorem Invariant.sampled (h : Invariant ticks works node)
    (hPause : node.state.flags.pauseSampling = false) :
    Invariant (ticks ++ [⟨(AnalogInput.readAll node.input).1, node.state.nodeId⟩]) works
      node.onAlarm.value.2 := by
  obtain ⟨posted, claimed, dump, -, hv⟩ := Node.onAlarm_of_sample hPause
  rw [hv]
  refine ⟨?_, ?_, ?_, h.packets⟩
  · rw [List.map_append, List.map_singleton, ChannelFilters.after_concat, ← h.filters]
  · simp [h.counter]
  · -- The new frame is the last one numbered, and it stands behind all that wait or is dropped.
    rw [Tick.frames_concat, List.map_append, List.map_singleton, ← h.nextFrame]
    refine List.Sublist.trans ?_ (h.frames.append_right _)
    rw [List.append_assoc]
    exact (Queue.items_offer _ _).append_left _

end Stages

theorem Invariant.engineTurn [ConfigStore Store] (h : Invariant ticks works node) :
    Invariant ticks (works ++ (node.engineInput?.map fun frame =>
      ⟨frame, node.state.flags.engineMode, node.engineTurn.value.engine.calibration⟩).toList)
      node.engineTurn.value := by
  cases hi : node.engineInput? with
  | none =>
    obtain ⟨samples, packets, hs, hp, -, -, hv⟩ := Node.engineTurn_of_none hi
    rw [hv]
    simp only [Option.map_none, Option.toList_none, List.append_nil]
    refine h.congr rfl rfl hs ?_
    rw [hp]
  | some frame =>
    obtain ⟨engine, store, flags, stats, samples, packets, hs, hp, hv⟩ := Node.engineTurn_of_some hi
    rw [hv]
    refine ⟨h.filters, h.counter, ?_, ?_⟩
    · have hf := h.frames
      rw [hs] at hf
      simpa using hf
    · rw [List.filterMap_append]
      refine List.Sublist.trans ?_ (h.packets.append_right _)
      rw [List.append_assoc]
      refine List.Sublist.append_left (hp.trans ?_) _
      rw [List.filterMap_eq_flatMap_toList, Option.map_some, Option.toList_some, List.flatMap_singleton]
      exact .refl _

end Pipeline

end Telemetry
