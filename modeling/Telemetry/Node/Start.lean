import Telemetry.Node.Basic

/-! Starting a node: configuration from the store, queues, the first alarm, and the timer. -/
namespace Telemetry

structure NodeConfig where
  sampleRateHz : UInt32 := defaultSampleRateHz
  sampleQueueCapacity : Nat := 10
  packetQueueCapacity : Nat := 10
  eventQueueCapacity : Nat := 10
  /-- How long each task waits for work at a time. -/
  engineTimeout : Duration := .ofSeconds 2
  transmitTimeout : Duration := .ofSeconds 5
  deferredTimeout : Duration := .ofSeconds 1
  /-- Transmit timeouts before a keep-alive. -/
  keepaliveAfter : UInt32 := 24
  /-- Whether packets may be sent from the start. -/
  networkEnabled : Bool := true
  deriving DecidableEq

/-- Why a node did not start. -/
inductive StartError where
  | invalidRate (error : TimerError)
  | interruptNotEnabled (error : TimerError)
  | timerNotStarted (error : TimerError)
  | notAttached (reason : String)
  deriving DecidableEq, Repr

namespace StartError

/-- What was being done. -/
def context : StartError → String
  | invalidRate _ => "Invalid sample rate"
  | interruptNotEnabled _ => "Failed to enable timer interrupt"
  | timerNotStarted _ => "Failed to start timer"
  | notAttached _ => "Failed to attach timer interrupt handler"

/-- What went wrong with it. -/
def cause : StartError → String
  | invalidRate error | interruptNotEnabled error | timerNotStarted error => error.message
  | notAttached reason => reason

end StartError

/-- A failed start with the timer and the store it leaves. -/
structure StartFailure (Timer Store : Type) where
  error : StartError
  timer : Timer
  store : Store

namespace AlarmTimer

variable {Timer : Type} [AlarmTimer Timer]

/-- Enables the interrupt, starts the counter and attaches the handler, in this order. -/
def bringUp (timer : Timer) : Except (StartError × Timer) Timer :=
  match enableInterrupt timer with
  | .error error => .error (.interruptNotEnabled error, timer)
  | .ok enabled =>
    match start enabled with
    | .error error => .error (.timerNotStarted error, enabled)
    | .ok started =>
      match attach started with
      | .error reason => .error (.notAttached reason, started)
      | .ok attached => .ok attached

end AlarmTimer

namespace Node

variable {Timer Input Store : Type}

/-- A node that is wired up but has no armed alarm yet. -/
def assemble (config : NodeConfig) (schedule : AlarmSchedule) (timer : Timer) (input : Input)
    (link : Link) (state : NodeState) (store : Store) (engine : Engine) :
    Node Timer Input Store where
  state
  timer
  input
  store
  link
  schedule
  engine
  keepaliveAfter := config.keepaliveAfter
  samples := { capacity := config.sampleQueueCapacity, attended := true }
  events := { capacity := config.eventQueueCapacity, attended := true }
  packets := { capacity := config.packetQueueCapacity, attended := true }

/-- State at the start: id and percentage from the store, and the network flags if they are wanted. -/
def initialState (config : NodeConfig) (nodeId percent : UInt8) : NodeState :=
  { NodeState.new nodeId percent with
    flags := { networkReady := config.networkEnabled, networkEnabled := config.networkEnabled } }

variable [AlarmTimer Timer] [ConfigStore Store]

/-- Starts a node with an alarm due one stride after the present count. -/
def start (config : NodeConfig) (timer : Timer) (input : Input) (link : Link) (store : Store) :
    Traced (Except (StartFailure Timer Store) (Node Timer Input Store)) := do
  match AlarmSchedule.ofRate config.sampleRateHz with
  | .error error => pure (.error ⟨.invalidRate error, timer, store⟩)
  | .ok schedule => do
    let (nodeId, store) ← ConfigStore.loadNodeId store
    let (percent, store) ← ConfigStore.loadThresholdPercent store
    let state := initialState config nodeId percent
    Traced.note (.nodeStarting nodeId percent config.sampleRateHz schedule.periodTicks
      link.description)
    let (engine, store) ← Engine.load state store
    let armed := schedule.arm timer (AlarmTimer.counter timer)
    match AlarmTimer.bringUp armed with
    | .error (error, timer) => pure (.error ⟨error, timer, store⟩)
    | .ok timer => do
      Traced.note .nodeStarted
      pure (.ok (assemble config schedule timer input link state store engine))

end Node

end Telemetry
