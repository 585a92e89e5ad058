import Mathlib.Data.List.DropRight
import Telemetry.Config.Memory
import Telemetry.Input.Scripted
import Telemetry.Node.Control
import Telemetry.Node.Start
import Telemetry.Proofs.Node.Processing
import Telemetry.Timer.Recording

/-! Runs of the calibration engine: calls of control and frames in any order, what the engine's side of a
node makes of each, and which frames a calibration has gathered. -/
namespace Telemetry.Session

/-- A call of control, or a frame for the engine. -/
inductive Action where
  | begin
  | finish
  | rawMode (on : Bool)
  | percent (percent : UInt8)
  | frame (frame : SampleFrame)
  | nodeId (nodeId : UInt8)
  | pause
  | resume
  | requestDump
  | network (enabled : Bool)
  deriving DecidableEq

/-- The engine's side of a node: all that its answers depend on. -/
structure View where
  engine : Engine
  calibrating : Bool
  rawMode : Bool
  thresholdChanged : Bool
  percent : UInt8
  epoch : UInt32

namespace View

def mode (view : View) : EngineMode :=
  Flags.engineMode { calibrating := view.calibrating, rawMode := view.rawMode }

def afterFrame (view : View) (data : Reading) : View :=
  match view.mode with
  | .rawPassthrough => view
  | .calibrating => { view with engine := view.engine.collected view.epoch data }
  | .thresholding =>
    if view.engine.collecting || view.thresholdChanged then
      { view with engine := view.engine.settled view.percent, thresholdChanged := false }
    else view

/-- What a step makes of the engine's side. -/
def next (view : View) : Action → View
  | .begin => { view with calibrating := true, epoch := view.epoch + 1 }
  | .finish => { view with calibrating := false }
  | .rawMode on => { view with rawMode := on }
  | .percent percent => { view with
      percent := clampPercent percent
      thresholdChanged := view.thresholdChanged || view.percent != clampPercent percent }
  | .frame frame => view.afterFrame frame.data
  | .nodeId _ | .pause | .resume | .requestDump | .network _ => view

end View

variable {Timer Input Store : Type}

def view (node : Node Timer Input Store) : View where
  engine := node.engine
  calibrating := node.state.flags.calibrating
  rawMode := node.state.flags.rawMode
  thresholdChanged := node.state.flags.thresholdChanged
  percent := node.state.thresholdPercent
  epoch := node.state.calibrationEpoch

theorem mode_view (node : Node Timer Input Store) : (view node).mode = node.state.flags.engineMode :=
  rfl

theorem engine_view (node : Node Timer Input Store) : (view node).engine = node.engine :=
  rfl

variable [ConfigStore Store]

theorem view_process (node : Node Timer Input Store) (frame : SampleFrame) :
    view (node.process frame).value.2 = (view node).afterFrame frame.data := by
  rw [View.afterFrame, mode_view]
  cases hMode : node.state.flags.engineMode with
  | rawPassthrough => rw [Node.process_of_raw hMode]
  | calibrating =>
    rw [Node.process_of_calibrating hMode]
    rfl
  | thresholding =>
    cases hDue : node.thresholdsDue with
    | false =>
      rw [Node.process_of_not_due hMode hDue]
      exact (if_neg (Bool.eq_false_iff.mp hDue)).symm
    | true =>
      rw [Node.process_of_due hMode hDue]
      exact (if_pos hDue).symm

/-- The engine has just been loaded from a store, on a state that asks for no calibration. -/
structure Fresh (start : Node Timer Input Store) : Prop where
  calibrating : start.state.flags.calibrating = false
  loaded : ∃ store, (Engine.load start.state store).value = (start.engine, start.store)

/-- A node on the same timer, input and link whose state and engine are built from a store. -/
def boot (node : Node Timer Input Store) (store : Store) : Node Timer Input Store :=
  let (nodeId, store) := (ConfigStore.loadNodeId store).value
  let (percent, store) := (ConfigStore.loadThresholdPercent store).value
  let state := NodeState.new nodeId percent
  let (engine, store) := (Engine.load state store).value
  { node with state, engine, store }

theorem fresh_boot (node : Node Timer Input Store) (store : Store) : Fresh (boot node store) :=
  ⟨rfl, _, rfl⟩

variable [AlarmTimer Timer]

def step (node : Node Timer Input Store) : Action → Node Timer Input Store
  | .begin => node.startCalibration.value
  | .finish => node.stopCalibration.value
  | .rawMode on => node.setRawMode on
  | .percent percent => { node with state := node.state.updatePercent percent }
  | .frame frame => (node.process frame).value.2
  | .nodeId nodeId => (node.setNodeId nodeId).value.2
  | .pause => node.pauseSampling.value
  | .resume => node.resumeSampling.value.2
  | .requestDump => node.requestDump
  | .network enabled => (node.setNetworkEnabled enabled).value

/-- Whether or not the timer can be started again, a resumption withdraws the pause request and changes
nothing but the timer besides. -/
theorem step_resume (node : Node Timer Input Store) : ∃ timer, step node .resume = { node with
    timer, state := { node.state with flags := { node.state.flags with pauseSampling := false } } } := by
  rw [step, Node.resumeSampling]
  simp only [Node.withFlags]
  split
  · exact ⟨_, rfl⟩
  · split
    · exact ⟨_, rfl⟩
    · exact ⟨_, rfl⟩

/-- Steps act on the engine's side by themselves, whatever timer and store do. -/
theorem view_step (node : Node Timer Input Store) (action : Action) :
    view (step node action) = (view node).next action := by
  cases action with
  | begin | finish | rawMode | percent | pause | requestDump | network => rfl
  | frame frame => exact view_process node frame
  | nodeId nodeId =>
    rw [step, Node.setNodeId]
    split <;> rfl
  | resume =>
    obtain ⟨timer, hv⟩ := step_resume node
    rw [hv]
    rfl

def run (node : Node Timer Input Store) (actions : List Action) : Node Timer Input Store :=
  actions.foldl step node

theorem run_append (node : Node Timer Input Store) (earlier later : List Action) :
    run node (earlier ++ later) = run (run node earlier) later :=
  List.foldl_append

theorem run_concat (node : Node Timer Input Store) (actions : List Action) (action : Action) :
    run node (actions ++ [action]) = step (run node actions) action :=
  run_append node actions [action]

/-- What an observer of every step has seen at the end of a run. -/
def observed {Fact : Type} (observe : Node Timer Input Store → Action → List Fact) :
    Node Timer Input Store → List Action → List Fact
  | _, [] => []
  | node, action :: rest => observe node action ++ observed observe (step node action) rest

theorem observed_append {Fact : Type} (observe : Node Timer Input Store → Action → List Fact)
    (node : Node Timer Input Store) (earlier later : List Action) :
    observed observe node (earlier ++ later) =
      observed observe node earlier ++ observed observe (run node earlier) later := by
  induction earlier generalizing node with
  | nil => rfl
  | cons action rest ih =>
    rw [List.cons_append, observed, observed, ih, List.append_assoc]
    rfl

theorem observed_concat {Fact : Type} (observe : Node Timer Input Store → Action → List Fact)
    (node : Node Timer Input Store) (actions : List Action) (action : Action) :
    observed observe node (actions ++ [action]) =
      observed observe node actions ++ observe (run node actions) action := by
  rw [observed_append, observed, observed, List.append_nil]

/-- What the engine gives out for a frame. -/
def output (node : Node Timer Input Store) : Action → List (Option OutputFrame)
  | .frame frame => [(node.process frame).value.1]
  | _ => []

/-- A frame that the engine does more with than pass it on raw. -/
def examines (node : Node Timer Input Store) : Action → List SampleFrame
  | .frame frame => if node.state.flags.engineMode = .rawPassthrough then [] else [frame]
  | _ => []

/-- A frame that is processed in calibrating mode. -/
def collects (node : Node Timer Input Store) : Action → List SampleFrame
  | .frame frame => if node.state.flags.engineMode = .calibrating then [frame] else []
  | _ => []

/-- The frames processed in calibrating mode since a calibration was last begun. -/
def gathered (node : Node Timer Input Store) (actions : List Action) : List SampleFrame :=
  observed collects (run node (actions.rdropWhile (· ≠ .begin))) (actions.rtakeWhile (· ≠ .begin))

/-- Fewer calibrations are begun than there are epochs between any two frames, as long as no frame that is
examined lies between the two. Frames passed on raw may lie there: they tell the engine no epoch. -/
def StartsBounded (node : Node Timer Input Store) (actions : List Action) : Prop :=
  ∀ before first between second after,
    actions = before ++ .frame first :: (between ++ .frame second :: after) →
    observed examines (run node (before ++ [.frame first])) between = [] →
    between.count .begin < UInt32.size

/-- A fresh node on an empty store. -/
def trial : Node RecordingTimer ScriptedInput MemoryStore :=
  boot (Node.assemble {} ⟨1000, 7⟩ {} { script := [] } { description := "" } (.new 5 50) {}
    { calibration := .reset, seenEpoch := 0 }) {}

/-- The same reading on every channel. -/
def level (value : UInt16) : SampleFrame :=
  ⟨5, 0, .replicate channelCount value⟩

end Telemetry.Session
