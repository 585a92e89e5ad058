import Telemetry.Node.Control
import Telemetry.Proofs.Node.Sampling
import Telemetry.Proofs.Node.Tasks
import Telemetry.Proofs.Timer.Dependable

/-! Runs of a node under control: calls of the control handle, alarms, and the worker that handles the
events they leave, in any order. -/
namespace Telemetry.Control

/-- A call of the control handle, a fire of the alarm, or one pass of the deferred worker. -/
inductive Action where
  | pause
  | resume
  | setNodeId (nodeId : UInt8)
  | requestDump
  | fire
  | handleNext
  deriving DecidableEq

variable {Timer Input Store : Type} [DependableTimer Timer]

/-- What is read off the timer to tell whether an alarm will come. -/
def registers (node : Node Timer Input Store) : Registers :=
  AlarmTimer.registers node.timer

/-- Stops of the timer that wait to be handled. -/
def stops (node : Node Timer Input Store) : Nat :=
  node.events.items.count .disableTimer

/-- A resumption succeeds, leaves the timer running towards an armed alarm, and touches no event. -/
theorem value_resumeSampling (node : Node Timer Input Store) :
    node.resumeSampling.value.1 = .ok () ∧
    registers node.resumeSampling.value.2 = ⟨true, true, true⟩ ∧
    node.resumeSampling.value.2.events = node.events ∧
    node.resumeSampling.value.2.state.flags.pauseSampling = false := by
  obtain ⟨enabled, hEnabled, hInterrupt⟩ := DependableTimer.enableInterrupt_ok
    (node.schedule.arm node.timer (AlarmTimer.counter node.timer))
  obtain ⟨started, hStarted, hCounting⟩ := DependableTimer.start_ok enabled
  rw [DependableTimer.registers_arm] at hInterrupt
  rw [hInterrupt] at hCounting
  have hv : node.resumeSampling.value = (.ok (), { node with
      timer := started }.withFlags { node.state.flags with pauseSampling := false }) := by
    unfold Node.resumeSampling
    simp only [Node.withFlags, hEnabled, hStarted, Traced.value_bind, Traced.value_pure]
  rw [hv]
  exact ⟨rfl, hCounting, rfl, rfl⟩

/-- The node when its handler is called. -/
def atFire (node : Node Timer Input Store) : Node Timer Input Store :=
  { node with timer := DependableTimer.fire node.timer }

variable [AnalogInput Input]

/-- An alarm runs the handler on the timer as the fire left it. -/
def fired (node : Node Timer Input Store) : Node Timer Input Store :=
  (atFire node).onAlarm.value.2

/-- An alarm that finds a pause request leaves the timer disarmed and offers the stop to the queue. -/
theorem fired_of_pause {node : Node Timer Input Store} (h : node.state.flags.pauseSampling = true) :
    registers (fired node) = { registers node with armed := false } ∧
    (fired node).events = node.events.offer .disableTimer := by
  have hv : fired node = (atFire node).acknowledged.postPause :=
    congrArg Prod.snd (Node.onAlarm_of_pause (show (atFire node).state.flags.pauseSampling = true from h))
  rw [hv, Node.events_postPause, registers, Node.timer_postPause]
  exact ⟨DependableTimer.registers_acknowledged node.timer, rfl⟩

/-- Without a pause request the alarm is armed again, and no stop of the timer is posted. -/
theorem fired_of_sample {node : Node Timer Input Store} (h : node.state.flags.pauseSampling = false) :
    registers (fired node) = { registers node with armed := true } ∧
    stops (fired node) = stops node ∧
    (fired node).state.flags.pauseSampling = false := by
  obtain ⟨posted, claimed, dump, hPosted, hv⟩ :=
    Node.onAlarm_of_sample (show (atFire node).state.flags.pauseSampling = false from h)
  rw [fired, hv]
  refine ⟨?_, ?_, h⟩
  · rw [registers, Node.rearmed, DependableTimer.registers_arm, atFire,
      DependableTimer.registers_acknowledged]
    rfl
  · rw [stops, Queue.withItems, List.count_append, List.count_eq_zero_of_not_mem hPosted.noStop]
    rfl

variable [ConfigStore Store]

/-- A timer that is not live does not fire. -/
def step (node : Node Timer Input Store) : Action → Node Timer Input Store
  | .pause => node.pauseSampling.value
  | .resume => node.resumeSampling.value.2
  | .setNodeId nodeId => (node.setNodeId nodeId).value.2
  | .requestDump => node.requestDump
  | .fire => if AlarmTimer.live node.timer then fired node else node
  | .handleNext => node.deferredTurn.value

def run (node : Node Timer Input Store) (actions : List Action) : Node Timer Input Store :=
  actions.foldl step node

theorem run_cons (node : Node Timer Input Store) (action : Action) (rest : List Action) :
    run node (action :: rest) = run (step node action) rest :=
  rfl

omit [DependableTimer Timer] [AnalogInput Input] in
/-- Asking for a new node id touches the store and its flag only. -/
theorem value_setNodeId (node : Node Timer Input Store) (nodeId : UInt8) :
    ∃ store requested, (node.setNodeId nodeId).value.2 = { node with
      store, state := { node.state with
        flags := { node.state.flags with nodeIdChanged := requested } } } := by
  unfold Node.setNodeId
  split
  · exact ⟨_, node.state.flags.nodeIdChanged, rfl⟩
  · exact ⟨_, true, rfl⟩

omit [AnalogInput Input] in
/-- A pass of the worker changes the registers only together with the number of stops that wait. -/
theorem deferredTurn_effect (node : Node Timer Input Store) :
    node.deferredTurn.value.state.flags.pauseSampling = node.state.flags.pauseSampling ∧
    (registers node.deferredTurn.value = registers node ∧
        stops node.deferredTurn.value = stops node ∨
      registers node.deferredTurn.value =
          { registers node with counting := false, interruptEnabled := false } ∧
        stops node.deferredTurn.value + 1 = stops node) := by
  obtain ⟨events, hItems, hv⟩ | ⟨event, rest, hItems, hv⟩ := node.deferredTurn_cases
  · rw [hv]
    refine ⟨rfl, .inl ⟨rfl, ?_⟩⟩
    rw [stops, hItems]
    rfl
  · rw [hv]
    by_cases hEvent : event = .disableTimer
    · subst hEvent
      rw [Node.handle, Node.value_disableTimer]
      refine ⟨rfl, .inr ⟨DependableTimer.registers_stopped node.timer, ?_⟩⟩
      rw [stops, stops, hItems, List.count_cons_self]
      rfl
    · obtain ⟨store, state, hHandle, hPause⟩ :=
        Node.value_handle_of_ne { node with events := node.events.withItems rest } hEvent
      rw [hHandle]
      refine ⟨hPause, .inl ⟨rfl, ?_⟩⟩
      rw [stops, stops, hItems, List.count_cons_of_ne (by simpa using hEvent)]
      rfl

end Telemetry.Control
