import Telemetry.Node.Tasks
import Telemetry.Proofs.Node.Deferred
import Telemetry.Proofs.Node.Processing

/-! What one pass of each task does to a node, and what it leaves alone. -/
namespace Telemetry

theorem Queue.items_offer {α : Type} (queue : Queue α) (item : α) :
    (queue.offer item).items.Sublist (queue.items ++ [item]) := by
  cases h : queue.accepts
  · rw [Queue.offer_of_not_accepts h]
    exact List.sublist_append_left _ _
  · rw [Queue.offer_of_accepts h]
    exact List.Sublist.refl _

@[simp] theorem Queue.receiving_offer {α : Type} (queue : Queue α) (item : α) :
    (queue.offer item).receiving = queue.receiving := by
  cases h : queue.accepts
  · rw [Queue.offer_of_not_accepts h]
  · rw [Queue.offer_of_accepts h]
    rfl

/-- The datagrams delivered other than keep-alives, oldest first. -/
def Link.delivered (link : Link) : List Bytes :=
  link.sent.filter (· ≠ keepalivePayload)

theorem Link.delivered_send (link : Link) (payload : Bytes) :
    (link.send payload).delivered.Sublist (link.delivered ++ [payload]) := by
  unfold Link.send
  dsimp only
  split
  · rw [delivered, List.filter_append]
    exact List.filter_sublist.append_left _
  · exact List.sublist_append_left _ _

theorem Link.delivered_keepalive (link : Link) :
    (link.send keepalivePayload).delivered = link.delivered := by
  unfold Link.send
  dsimp only
  split
  · rw [delivered, List.filter_append]
    exact List.append_nil _
  · rfl

namespace Node

variable {Timer Input Store : Type}

/-- The frame that the next pass of the engine takes. -/
def engineInput? (node : Node Timer Input Store) : Option SampleFrame :=
  if node.samples.receiving && node.running then node.samples.items.head? else none

theorem forward_of_closed {node : Node Timer Input Store} (h : node.packets.receiving = false)
    (frame : SampleFrame) (output : OutputFrame) : (node.forward frame output).value =
      { node with samples := node.samples.close, packets := node.packets.finish } := by
  rw [forward, h]
  rfl

/-- As long as the packet queue has a taker, an output is queued or dropped, and counted either way. -/
theorem forward_of_receiving {node : Node Timer Input Store} (h : node.packets.receiving = true)
    (frame : SampleFrame) (output : OutputFrame) : (node.forward frame output).value =
      { node with packets := node.packets.offer (Packet.ofOutput output) }.count
        (if node.packets.accepts then .packetsQueued else .packetsDropped) := by
  rw [forward, h]
  cases hAccepts : node.packets.accepts
  · rw [Queue.push?_of_not_accepts hAccepts, Queue.offer_of_not_accepts hAccepts]
    rfl
  · rw [Queue.push?_of_accepts hAccepts]
    rfl

private theorem value_forward (node : Node Timer Input Store) (frame : SampleFrame)
    (output : OutputFrame) :
    ∃ (samples : Queue SampleFrame) (packets : Queue Bytes) (stats : Statistics),
      samples.items = node.samples.items ∧
      packets.items.Sublist (node.packets.items ++ [Packet.ofOutput output]) ∧
      (node.forward frame output).value =
        { node with samples, packets, state := { node.state with stats } } := by
  cases h : node.packets.receiving with
  | false =>
    exact ⟨node.samples.close, node.packets.finish, node.state.stats, rfl, List.sublist_append_left _ _,
      forward_of_closed h frame output⟩
  | true =>
    exact ⟨node.samples, _, _, rfl, Queue.items_offer _ _, forward_of_receiving h frame output⟩

section Engine

variable [ConfigStore Store]

/-- Without a frame to take, a pass of the engine changes no queue's items and takes up no queue. -/
theorem engineTurn_of_none {node : Node Timer Input Store} (h : node.engineInput? = none) :
    ∃ (samples : Queue SampleFrame) (packets : Queue Bytes),
      samples.items = node.samples.items ∧ packets.items = node.packets.items ∧
      (samples.receiving = true → node.samples.receiving = true) ∧
      packets.receiving = node.packets.receiving ∧
      node.engineTurn.value = { node with samples, packets } := by
  have hStopped : node.samples.close.receiving = true → node.samples.receiving = true := by
    simp [Queue.close]
  unfold engineTurn
  split
  · exact ⟨node.samples, node.packets, rfl, rfl, id, rfl, rfl⟩
  · split
    · exact ⟨node.samples.close, node.packets.finish, rfl, rfl, hStopped, rfl, rfl⟩
    · split
      · split
        · exact ⟨node.samples.close, node.packets.finish, rfl, rfl, hStopped, rfl, rfl⟩
        · exact ⟨node.samples, node.packets, rfl, rfl, id, rfl, rfl⟩
      · simp_all [engineInput?]

private theorem engineTurn_eq {node : Node Timer Input Store} {frame : SampleFrame}
    (h : node.engineInput? = some frame) :
    ∃ rest, node.samples.items = frame :: rest ∧ node.engineTurn =
      (({ node with samples := node.samples.withItems rest }.count .framesProcessed).process frame >>=
        fun result => match result.1 with
          | some output => result.2.forward frame output
          | none => pure result.2) := by
  unfold engineInput? at h
  split at h
  · rename_i hActive
    obtain ⟨hr, hRun⟩ := Bool.and_eq_true_iff.mp hActive
    obtain ⟨rest, hi⟩ := List.head?_eq_some_iff.mp h
    refine ⟨rest, hi, ?_⟩
    unfold engineTurn
    rw [hr, hRun, hi]
    rfl
  · cases h

/-- A pass that takes a frame counts and processes it, and forwards what comes out. -/
theorem engineTurn_of_frame {node : Node Timer Input Store} {frame : SampleFrame}
    (h : node.engineInput? = some frame) :
    ∃ rest processed, node.samples.items = frame :: rest ∧
      processed.samples = node.samples.withItems rest ∧ processed.packets = node.packets ∧
      processed.link = node.link ∧ processed.state.stats = node.state.stats.record .framesProcessed ∧
      node.engineTurn.value =
        match node.state.flags.engineMode.output? processed.engine.calibration frame with
        | some output => (processed.forward frame output).value
        | none => processed := by
  obtain ⟨rest, hi, ht⟩ := engineTurn_eq h
  obtain ⟨engine, store, flags, hp⟩ :=
    value_process ({ node with samples := node.samples.withItems rest }.count .framesProcessed) frame
  change _ = (node.state.flags.engineMode.output? engine.calibration frame, _) at hp
  refine ⟨rest, { { node with samples := node.samples.withItems rest }.count .framesProcessed with
    engine, store, state := { (node.state.count .framesProcessed) with flags } }, hi, rfl, rfl, rfl, rfl, ?_⟩
  rw [ht, Traced.value_bind, hp]
  dsimp only
  cases node.state.flags.engineMode.output? engine.calibration frame with
  | none => rfl
  | some output => rfl

/-- A pass that takes a frame adds at most the packet that the mode in force makes of it. -/
theorem engineTurn_of_some {node : Node Timer Input Store} {frame : SampleFrame}
    (h : node.engineInput? = some frame) :
    ∃ engine store flags stats samples packets,
      node.samples.items = frame :: samples.items ∧
      packets.items.Sublist (node.packets.items ++
        ((node.state.flags.engineMode.output? engine.calibration frame).map Packet.ofOutput).toList) ∧
      node.engineTurn.value =
        { node with engine, store, samples, packets, state := { node.state with flags, stats } } := by
  obtain ⟨rest, hi, ht⟩ := engineTurn_eq h
  obtain ⟨engine, store, flags, hp⟩ :=
    value_process ({ node with samples := node.samples.withItems rest }.count .framesProcessed) frame
  change _ = (node.state.flags.engineMode.output? engine.calibration frame, _) at hp
  have hv := congrArg Traced.value ht
  cases ho : node.state.flags.engineMode.output? engine.calibration frame with
  | none =>
    rw [ho] at hp
    rw [Traced.value_bind, hp] at hv
    refine ⟨engine, store, flags, node.state.stats.record .framesProcessed,
      node.samples.withItems rest, node.packets, hi, ?_, hv⟩
    rw [ho]
    exact List.sublist_append_left _ _
  | some output =>
    rw [ho] at hp
    rw [Traced.value_bind, hp] at hv
    obtain ⟨samples, packets, stats, hs, hq, hf⟩ := value_forward _ frame output
    refine ⟨engine, store, flags, stats, samples, packets, ?_, ?_, hv.trans hf⟩
    · rw [hi, hs]
      rfl
    · rw [ho]
      exact hq

end Engine

private theorem value_afterSend (outcome : TransmitOutcome) (node : Node Timer Input Store) :
    ∃ packets : Queue Bytes, packets.items = node.packets.items ∧
      (node.afterSend outcome).value = { node with packets } := by
  unfold afterSend
  split
  · exact ⟨node.packets.close, rfl, rfl⟩
  · exact ⟨node.packets, rfl, rfl⟩

/-- A send over the link, with the count of idle timeouts ended. -/
def tried (node : Node Timer Input Store) (payload : Bytes) : Node Timer Input Store :=
  { node with idleCycles := 0 }.sendOver payload

/-- A packet is skipped, or sent once with an outcome that depends on the link alone. -/
theorem transmit_cases (node : Node Timer Input Store) (packet : Bytes) :
    (node.transmit packet).value = (.skipped, node.count .packetsSkipped) ∨
    node.link.fault = none ∧
      (node.transmit packet).value = (.sent packet.length, (node.tried packet).count .packetsSent) ∨
    (∃ reason, node.link.fault = some (.refuse reason) ∧
      (node.transmit packet).value = (.failed, (node.tried packet).count .sendFailures)) ∨
    ∃ message, node.link.fault = some (.crash message) ∧
      (node.transmit packet).value = (.crashed message, node.tried packet) := by
  unfold transmit
  split
  · exact .inl rfl
  · dsimp only
    split
    · rename_i hFault
      exact .inr (.inl ⟨hFault, rfl⟩)
    · rename_i reason hFault
      exact .inr (.inr (.inl ⟨reason, hFault, rfl⟩))
    · rename_i message hFault
      exact .inr (.inr (.inr ⟨message, hFault, rfl⟩))

/-- A timeout is counted, or leads to a keep-alive with an outcome that depends on the link alone. -/
theorem idle_cases (node : Node Timer Input Store) :
    (∃ idleCycles, node.idle.value = (.idle, { node with idleCycles })) ∨
    node.link.fault = none ∧
      node.idle.value = (.keepAlive, (node.tried keepalivePayload).count .keepalivesSent) ∨
    (∃ reason, node.link.fault = some (.refuse reason) ∧
      node.idle.value = (.failed, (node.tried keepalivePayload).count .sendFailures)) ∨
    ∃ message, node.link.fault = some (.crash message) ∧
      node.idle.value = (.crashed message, node.tried keepalivePayload) := by
  unfold idle
  dsimp only
  split
  · exact .inl ⟨_, rfl⟩
  · split
    · exact .inl ⟨_, rfl⟩
    · split
      · rename_i hFault
        exact .inr (.inl ⟨hFault, rfl⟩)
      · rename_i reason hFault
        exact .inr (.inr (.inl ⟨reason, hFault, rfl⟩))
      · rename_i message hFault
        exact .inr (.inr (.inr ⟨message, hFault, rfl⟩))

private theorem value_transmit (node : Node Timer Input Store) (packet : Bytes) :
    ∃ (outcome : TransmitOutcome) (link : Link) (idleCycles : UInt32) (stats : Statistics),
      (link = node.link ∨ link = node.link.send packet) ∧
      (node.transmit packet).value =
        (outcome, { node with link, idleCycles, state := { node.state with stats } }) := by
  obtain hv | ⟨-, hv⟩ | ⟨reason, -, hv⟩ | ⟨message, -, hv⟩ := node.transmit_cases packet
  · exact ⟨_, node.link, node.idleCycles, _, .inl rfl, hv⟩
  · exact ⟨_, _, _, _, .inr rfl, hv⟩
  · exact ⟨_, _, _, _, .inr rfl, hv⟩
  · exact ⟨_, _, _, node.state.stats, .inr rfl, hv⟩

private theorem value_idle (node : Node Timer Input Store) :
    ∃ (outcome : TransmitOutcome) (link : Link) (idleCycles : UInt32) (stats : Statistics),
      (link = node.link ∨ link = node.link.send keepalivePayload) ∧
      node.idle.value =
        (outcome, { node with link, idleCycles, state := { node.state with stats } }) := by
  obtain ⟨idleCycles, hv⟩ | ⟨-, hv⟩ | ⟨reason, -, hv⟩ | ⟨message, -, hv⟩ := node.idle_cases
  · exact ⟨_, node.link, idleCycles, node.state.stats, .inl rfl, hv⟩
  · exact ⟨_, _, _, _, .inr rfl, hv⟩
  · exact ⟨_, _, _, _, .inr rfl, hv⟩
  · exact ⟨_, _, _, node.state.stats, .inr rfl, hv⟩

/-- A pass of the transmit task moves at most the oldest packet to what the link delivered, and
nothing else but a keep-alive. -/
theorem value_transmitTurn (node : Node Timer Input Store) :
    ∃ (packets : Queue Bytes) (link : Link) (idleCycles : UInt32) (stats : Statistics),
      (link.delivered ++ packets.items).Sublist (node.link.delivered ++ node.packets.items) ∧
      node.transmitTurn.value =
        { node with packets, link, idleCycles, state := { node.state with stats } } := by
  unfold transmitTurn
  split
  · exact ⟨node.packets, node.link, node.idleCycles, node.state.stats, .refl _, rfl⟩
  · split
    · exact ⟨node.packets.close, node.link, node.idleCycles, node.state.stats, .refl _, rfl⟩
    · split
      · split
        · exact ⟨node.packets.close, node.link, node.idleCycles, node.state.stats, .refl _, rfl⟩
        · obtain ⟨outcome, link, idleCycles, stats, hl, hv⟩ := node.value_idle
          obtain ⟨packets, hp, ha⟩ := value_afterSend outcome
            { node with link, idleCycles, state := { node.state with stats } }
          refine ⟨packets, link, idleCycles, stats, ?_, ?_⟩
          · have hd : link.delivered = node.link.delivered := by
              rcases hl with rfl | rfl
              · rfl
              · exact Link.delivered_keepalive _
            rw [hd]
            exact List.Sublist.append_left (hp ▸ List.Sublist.refl _) _
          · rw [Traced.value_bind, hv]
            exact ha
      · rename_i packet rest hi
        obtain ⟨outcome, link, idleCycles, stats, hl, hv⟩ :=
          value_transmit { node with packets := node.packets.withItems rest } packet
        obtain ⟨packets, hp, ha⟩ := value_afterSend outcome
          { node with
            packets := node.packets.withItems rest, link, idleCycles
            state := { node.state with stats } }
        refine ⟨packets, link, idleCycles, stats, ?_, ?_⟩
        · have hd : link.delivered.Sublist (node.link.delivered ++ [packet]) := by
            rcases hl with rfl | rfl
            · exact List.sublist_append_left _ _
            · exact Link.delivered_send _ _
          rw [hi, hp, List.append_cons]
          exact hd.append_right _
        · rw [Traced.value_bind, hv]
          exact ha

variable [AlarmTimer Timer] [ConfigStore Store]

/-- A pass of the deferred worker leaves its queue's items and everything else alone, or takes the
oldest event and handles it. -/
theorem deferredTurn_cases (node : Node Timer Input Store) :
    (∃ events : Queue DeferredEvent, events.items = node.events.items ∧
      node.deferredTurn.value = { node with events }) ∨
    ∃ event rest, node.events.items = event :: rest ∧ node.deferredTurn.value =
      ({ node with events := node.events.withItems rest }.handle event).value := by
  unfold deferredTurn
  split
  · exact .inl ⟨node.events, rfl, rfl⟩
  · split
    · exact .inl ⟨node.events.close, rfl, rfl⟩
    · split
      · split
        · exact .inl ⟨node.events.close, rfl, rfl⟩
        · exact .inl ⟨node.events, rfl, rfl⟩
      · rename_i event rest hi
        exact .inr ⟨event, rest, hi, rfl⟩

/-- The deferred worker touches the timer, the store, its own queue and the shared state only, and counts
nothing. -/
theorem value_deferredTurn (node : Node Timer Input Store) :
    ∃ (timer : Timer) (store : Store) (events : Queue DeferredEvent) (state : NodeState),
      state.stats = node.state.stats ∧
      node.deferredTurn.value = { node with timer, store, events, state } := by
  obtain ⟨events, -, hv⟩ | ⟨event, rest, -, hv⟩ := node.deferredTurn_cases
  · exact ⟨node.timer, node.store, events, node.state, rfl, hv⟩
  · obtain ⟨timer, store, state, hStats, ht⟩ :=
      value_handle { node with events := node.events.withItems rest } event
    exact ⟨timer, store, node.events.withItems rest, state, hStats, hv.trans ht⟩

end Node

end Telemetry
