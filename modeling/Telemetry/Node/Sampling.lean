import Telemetry.Node.Basic

/-! The interrupt handler: one alarm, one sample, and nothing that could wait. -/
namespace Telemetry

/-- What came of an alarm. -/
inductive TickOutcome where
  /-- A pause was asked for: no sample, and the alarm stays disarmed. -/
  | paused
  | queued
  /-- The sample found no room. -/
  | dropped
  deriving DecidableEq, Repr

namespace Node

variable {Timer Input Store : Type}

/-- Notes the first alarm. -/
def noteFirst (now : UInt64) (node : Node Timer Input Store) : Traced (Node Timer Input Store) :=
  if node.fired then pure node
  else do
    Traced.note (.firstInterrupt now)
    pure { node with fired := true }

/-- Turns a pause request into an event; the request stays up when the event finds no room. -/
def postPause (node : Node Timer Input Store) : Node Timer Input Store :=
  match node.events.push? .disableTimer with
  | some events => { node with events }.withFlags { node.state.flags with pauseSampling := false }
  | none => node

/-- Asks for the node id to be read again, at most once until that is done. -/
def postReload (node : Node Timer Input Store) : Node Timer Input Store :=
  if node.state.flags.nodeIdChanged && !node.state.reloadClaimed then
    match node.events.push? .reloadNodeId with
    | some events => { node with events, state := { node.state with reloadClaimed := true } }
    | none => node
  else node

/-- Turns a dump request into an event; the request stays up when the event finds no room. -/
def postDump (node : Node Timer Input Store) : Node Timer Input Store :=
  if node.state.flags.debugDump then
    match node.events.push? .debugDump with
    | some events => { node with events }.withFlags { node.state.flags with debugDump := false }
    | none => node
  else node

variable [AnalogInput Input]

/-- The frame that the present tick makes. -/
def nextFrame (node : Node Timer Input Store) : SampleFrame where
  nodeId := node.state.nodeId
  counter := node.counter
  data := node.filters.medians (AnalogInput.readAll node.input).1

/-- Filters and counter move on with every sample, kept or not. -/
def takeSample (node : Node Timer Input Store) : Node Timer Input Store :=
  let (raw, input) := AnalogInput.readAll node.input
  { node with input, filters := node.filters.push raw, counter := node.counter + 1 }.count
    .samplesCaptured

/-- Puts a frame on the sample queue, or drops it. -/
def queueFrame (frame : SampleFrame) (node : Node Timer Input Store) :
    Traced (TickOutcome × Node Timer Input Store) :=
  match node.samples.push? frame with
  | some samples => pure (.queued, { node with samples })
  | none => do
    Traced.note (.frameDropped frame.counter)
    pure (.dropped, node.count .samplesDropped)

variable [AlarmTimer Timer]

/-- One alarm. -/
def onAlarm (node : Node Timer Input Store) : Traced (TickOutcome × Node Timer Input Store) := do
  let timer := AlarmTimer.clearInterrupt node.timer
  let now := AlarmTimer.counter timer
  let node ← noteFirst now { node with timer }
  if node.state.flags.pauseSampling then pure (.paused, node.postPause)
  else
    let node := node.postReload.postDump
    let (outcome, node) ← node.takeSample.queueFrame node.nextFrame
    pure (outcome, { node with timer := node.schedule.arm node.timer now })

end Node

end Telemetry
