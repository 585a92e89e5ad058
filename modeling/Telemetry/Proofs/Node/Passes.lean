import Telemetry.Proofs.Node.Tasks

/-! What a pass of each task does while the flag is up, and once it has fallen. -/
namespace Telemetry

theorem Queue.close_of_closed {α : Type} {queue : Queue α} (h : queue.receiving = false) :
    queue.close = queue := by
  rw [close, ← h]

@[simp] theorem Queue.room_offer {α : Type} (queue : Queue α) (item : α) :
    (queue.offer item).room = queue.room := by
  cases h : queue.accepts
  · rw [Queue.offer_of_not_accepts h]
  · rw [Queue.offer_of_accepts h]
    rfl

theorem Queue.length_offer {α : Type} (queue : Queue α) (item : α) :
    (queue.offer item).items.length = queue.items.length + queue.accepts.toNat := by
  cases h : queue.accepts
  · rw [Queue.offer_of_not_accepts h]
    rfl
  · rw [Queue.offer_of_accepts h]
    exact List.length_append

@[simp] theorem Link.fault_send (link : Link) (payload : Bytes) : (link.send payload).fault = link.fault := by
  unfold send
  dsimp only
  split <;> rfl

namespace Node

variable {Timer Input Store : Type}

section Deferred

variable [AlarmTimer Timer] [ConfigStore Store] {node : Node Timer Input Store}

theorem engineMode_handle (node : Node Timer Input Store) (event : DeferredEvent) :
    (node.handle event).value.state.flags.engineMode = node.state.flags.engineMode := by
  cases event with
  | disableTimer => rw [handle, value_disableTimer]
  | reloadNodeId | debugDump => rfl

/-- Once it has looked at the flag, the deferred worker takes the oldest event. -/
theorem deferredTurn_of_running (hTaking : node.events.receiving = true) (hRunning : node.running = true) :
    ∃ (timer : Timer) (store : Store) (events : Queue DeferredEvent) (state : NodeState),
      events.items = node.events.items.tail ∧ state.flags.engineMode = node.state.flags.engineMode ∧
      node.deferredTurn.value = { node with timer, store, events, state } := by
  unfold deferredTurn
  rw [if_neg (by simp [hTaking]), if_neg (by simp [hRunning])]
  split
  · rename_i hItems
    rw [hItems]
    split
    · exact ⟨node.timer, node.store, node.events.close, node.state, hItems, rfl, rfl⟩
    · exact ⟨node.timer, node.store, node.events, node.state, hItems, rfl, rfl⟩
  · rename_i event rest hItems
    have hMode := engineMode_handle { node with events := node.events.withItems rest } event
    obtain ⟨timer, store, state, -, hHandled⟩ :=
      value_handle { node with events := node.events.withItems rest } event
    rw [hHandled] at hMode
    rw [hItems]
    exact ⟨timer, store, node.events.withItems rest, state, rfl, hMode, hHandled⟩

theorem deferredTurn_of_stopped (hRunning : node.running = false) :
    node.deferredTurn.value = { node with events := node.events.close } := by
  unfold deferredTurn
  split
  · rename_i hTaking
    rw [Queue.close_of_closed (by simpa using hTaking)]
    rfl
  · rw [if_pos (by simp [hRunning])]
    rfl

end Deferred

section Engine

/-- A frame waits that the engine makes a packet of, and the packet finds room. -/
def makesPacket (node : Node Timer Input Store) : Bool :=
  !node.samples.items.isEmpty && node.state.flags.engineMode != .calibrating && node.packets.accepts

/-- A packet that is forwarded is added if it finds room and a taker. -/
private theorem queues_forward (node : Node Timer Input Store) (frame : SampleFrame) (output : OutputFrame) :
    (node.forward frame output).value.samples.items = node.samples.items ∧
    (node.forward frame output).value.packets.receiving = node.packets.receiving ∧
    (node.forward frame output).value.packets.room = node.packets.room ∧
    (node.forward frame output).value.packets.items.length =
      node.packets.items.length + node.packets.accepts.toNat := by
  cases hReceiving : node.packets.receiving with
  | false =>
    rw [forward_of_closed hReceiving]
    refine ⟨rfl, hReceiving, rfl, ?_⟩
    simp [Queue.accepts, Queue.finish, hReceiving]
  | true =>
    rw [forward_of_receiving hReceiving]
    exact ⟨rfl, (Queue.receiving_offer _ _).trans hReceiving, Queue.room_offer _ _, Queue.length_offer _ _⟩

variable [ConfigStore Store] {node : Node Timer Input Store}

theorem value_engineTurn (node : Node Timer Input Store) :
    ∃ (engine : Engine) (store : Store) (state : NodeState) (samples : Queue SampleFrame)
      (packets : Queue Bytes),
      node.engineTurn.value = { node with engine, store, state, samples, packets } := by
  cases hInput : node.engineInput? with
  | none =>
    obtain ⟨samples, packets, -, -, -, -, hv⟩ := engineTurn_of_none hInput
    exact ⟨node.engine, node.store, node.state, samples, packets, hv⟩
  | some frame =>
    obtain ⟨engine, store, flags, stats, samples, packets, -, -, hv⟩ := engineTurn_of_some hInput
    exact ⟨engine, store, _, samples, packets, hv⟩

/-- Once it has looked at the flag, the engine takes the oldest frame, whether or not there is a taker for
its packet. -/
theorem engineTurn_of_running (hTaking : node.samples.receiving = true) (hRunning : node.running = true) :
    node.engineTurn.value.samples.items = node.samples.items.tail ∧
    node.engineTurn.value.packets.receiving = node.packets.receiving ∧
    node.engineTurn.value.packets.room = node.packets.room ∧
    node.engineTurn.value.packets.items.length = node.packets.items.length + node.makesPacket.toNat := by
  cases hInput : node.engineInput? with
  | none =>
    have hItems : node.samples.items = [] := by simpa [engineInput?, hTaking, hRunning] using hInput
    have hNone : node.makesPacket = false := by simp [makesPacket, hItems]
    unfold engineTurn
    rw [hNone, if_neg (by simp [hTaking]), if_neg (by simp [hRunning]), hItems]
    dsimp only
    split
    · exact ⟨hItems, rfl, rfl, rfl⟩
    · exact ⟨hItems, rfl, rfl, rfl⟩
  | some frame =>
    obtain ⟨rest, processed, hItems, hSamples, hPackets, -, -, hv⟩ := engineTurn_of_frame hInput
    rw [hv, makesPacket, hItems, ← hPackets]
    cases hOutput : node.state.flags.engineMode.output? processed.engine.calibration frame with
    | none =>
      have hMode := EngineMode.output?_eq_none_iff.mp hOutput
      exact ⟨by rw [hSamples]; rfl, rfl, rfl, by simp [hMode]⟩
    | some output =>
      have hMode : node.state.flags.engineMode ≠ .calibrating := by
        intro hMode
        rw [EngineMode.output?_eq_none_iff.mpr hMode] at hOutput
        cases hOutput
      obtain ⟨hSame, hReceiving, hRoom, hLength⟩ := queues_forward processed frame output
      rw [bne_iff_ne.mpr hMode]
      exact ⟨hSame.trans (congrArg Queue.items hSamples), hReceiving, hRoom, hLength⟩

theorem engineTurn_of_stopped (hRunning : node.running = false) :
    ∃ (samples : Queue SampleFrame) (packets : Queue Bytes),
      samples.items = node.samples.items ∧ samples.receiving = false ∧
      packets.items = node.packets.items ∧ packets.receiving = node.packets.receiving ∧
      packets.room = node.packets.room ∧ node.engineTurn.value = { node with samples, packets } := by
  unfold engineTurn
  split
  · rename_i hTaking
    exact ⟨node.samples, node.packets, rfl, by simpa using hTaking, rfl, rfl, rfl, rfl⟩
  · rw [if_pos (by simp [hRunning])]
    exact ⟨node.samples.close, node.packets.finish, rfl, rfl, rfl, rfl, rfl, rfl⟩

end Engine

section Transmit

variable {node : Node Timer Input Store}

private theorem transmit_survived (node : Node Timer Input Store)
    (hLink : ∀ message, node.link.fault ≠ some (.crash message)) (packet : Bytes) :
    ∃ (outcome : TransmitOutcome) (link : Link) (idleCycles : UInt32) (stats : Statistics),
      (∀ message, outcome ≠ .crashed message) ∧ link.fault = node.link.fault ∧
      (node.transmit packet).value =
        (outcome, { node with link, idleCycles, state := { node.state with stats } }) := by
  obtain hv | ⟨-, hv⟩ | ⟨reason, -, hv⟩ | ⟨message, hFault, -⟩ := node.transmit_cases packet
  · exact ⟨_, node.link, node.idleCycles, _, by simp, rfl, hv⟩
  · exact ⟨_, _, _, _, by simp, Link.fault_send _ _, hv⟩
  · exact ⟨_, _, _, _, by simp, Link.fault_send _ _, hv⟩
  · exact absurd hFault (hLink message)

private theorem idle_survived (hLink : ∀ message, node.link.fault ≠ some (.crash message)) :
    ∃ (outcome : TransmitOutcome) (link : Link) (idleCycles : UInt32) (stats : Statistics),
      (∀ message, outcome ≠ .crashed message) ∧ link.fault = node.link.fault ∧
      node.idle.value =
        (outcome, { node with link, idleCycles, state := { node.state with stats } }) := by
  obtain ⟨idleCycles, hv⟩ | ⟨-, hv⟩ | ⟨reason, -, hv⟩ | ⟨message, hFault, -⟩ := node.idle_cases
  · exact ⟨_, node.link, idleCycles, node.state.stats, by simp, rfl, hv⟩
  · exact ⟨_, _, _, _, by simp, Link.fault_send _ _, hv⟩
  · exact ⟨_, _, _, _, by simp, Link.fault_send _ _, hv⟩
  · exact absurd hFault (hLink message)

theorem afterSend_of_survived {outcome : TransmitOutcome} (h : ∀ message, outcome ≠ .crashed message)
    (node : Node Timer Input Store) : (node.afterSend outcome).value = node := by
  cases outcome with
  | crashed message => exact absurd rfl (h message)
  | sent | skipped | failed | keepAlive | idle => rfl

/-- Once it has looked at the flag, the transmit task takes the oldest packet, and it goes on unless nothing
can come any more. -/
theorem transmitTurn_of_running (hTaking : node.packets.receiving = true) (hRunning : node.running = true)
    (hLink : ∀ message, node.link.fault ≠ some (.crash message)) :
    ∃ (packets : Queue Bytes) (link : Link) (idleCycles : UInt32) (stats : Statistics),
      packets.items = node.packets.items.tail ∧ packets.room = node.packets.room ∧
      (node.packets.finished = false → packets.receiving = true) ∧ link.fault = node.link.fault ∧
      node.transmitTurn.value =
        { node with packets, link, idleCycles, state := { node.state with stats } } := by
  unfold transmitTurn
  rw [if_neg (by simp [hTaking]), if_neg (by simp [hRunning])]
  split
  · rename_i hItems
    rw [hItems]
    split
    · rename_i hFinished
      refine ⟨node.packets.close, node.link, node.idleCycles, node.state.stats, hItems, rfl, ?_, rfl, rfl⟩
      simp [hFinished]
    · obtain ⟨outcome, link, idleCycles, stats, hSurvived, hFault, hv⟩ := idle_survived hLink
      refine ⟨node.packets, link, idleCycles, stats, hItems, rfl, fun _ => hTaking, hFault, ?_⟩
      rw [Traced.value_bind, hv]
      exact afterSend_of_survived hSurvived _
  · rename_i packet rest hItems
    obtain ⟨outcome, link, idleCycles, stats, hSurvived, hFault, hv⟩ :=
      transmit_survived { node with packets := node.packets.withItems rest } hLink packet
    refine ⟨node.packets.withItems rest, link, idleCycles, stats, by rw [hItems]; rfl, rfl, fun _ => hTaking,
      hFault, ?_⟩
    rw [Traced.value_bind, hv]
    exact afterSend_of_survived hSurvived _

theorem transmitTurn_of_stopped (hRunning : node.running = false) :
    node.transmitTurn.value = { node with packets := node.packets.close } := by
  unfold transmitTurn
  split
  · rename_i hTaking
    rw [Queue.close_of_closed (by simpa using hTaking)]
    rfl
  · rw [if_pos (by simp [hRunning])]
    rfl

end Transmit

end Node

end Telemetry
