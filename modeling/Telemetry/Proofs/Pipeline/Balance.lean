import Telemetry.Proofs.Pipeline.Delivery
import Telemetry.Proofs.Pipeline.Tally

/-! Along every run each sample, frame, packet and send is counted once, or still waits in a queue. -/
namespace Telemetry

namespace Node

variable {Timer Input Store : Type}

/-- What the next pass of the transmit task tries: to send the oldest packet, or else to idle. -/
def attempt? (node : Node Timer Input Store) : Option Attempt :=
  if node.packets.receiving && node.running then
    match node.packets.items with
    | [] => if node.packets.finished then none else some ⟨none, node.idle.value.1⟩
    | packet :: rest => some ⟨some packet,
        ({ node with packets := node.packets.withItems rest }.transmit packet).value.1⟩
  else none

/-- Both queues of the pipeline still have a taker. -/
def Receiving (node : Node Timer Input Store) : Prop :=
  node.samples.receiving = true ∧ node.packets.receiving = true

theorem tally_of_start [AlarmTimer Timer] [ConfigStore Store] {config : NodeConfig} {timer : Timer}
    {input : Input} {link : Link} {store : Store} {node : Node Timer Input Store}
    (h : (start config timer input link store).value = .ok node) (hLink : link.sent = []) :
    node.tally = {} := by
  obtain ⟨schedule, started, nodeId, percent, stored, engine, -, rfl⟩ := eq_assemble_of_start h
  change ({ datagrams := link.sent.length } : Tally) = {}
  rw [hLink, List.length_nil]

theorem booked_onAlarm [AlarmTimer Timer] [AnalogInput Input] (node : Node Timer Input Store) :
    Booked (node.tally.stats.moved node.onAlarm.value.2.tally.stats) [] [] node.tally
      node.onAlarm.value.2.tally := by
  cases hPause : node.state.flags.pauseSampling with
  | true =>
    rw [onAlarm_of_pause hPause]
    apply Booked.of_eq
    cases hAccepts : node.acknowledged.events.accepts
    · rw [postPause_of_not_accepts hAccepts]
      rfl
    · rw [postPause_of_accepts hAccepts]
      rfl
  | false =>
    obtain ⟨posted, claimed, dump, -, hv⟩ := onAlarm_of_sample hPause
    cases hAccepts : node.samples.accepts with
    | false =>
      have hTally : node.onAlarm.value.2.tally = { node.tally with
          stats := node.state.stats.recordAll [.samplesCaptured, .samplesDropped] } := by
        rw [hv, Queue.offer_of_not_accepts hAccepts, sampledStats, hAccepts]
        rfl
      rw [hTally]
      exact .of_recordAll _ rfl (by decide) (Nat.add_comm _ _) rfl (by simp) rfl rfl
    | true =>
      have hTally : node.onAlarm.value.2.tally = { node.tally with
          stats := node.state.stats.recordAll [.samplesCaptured], frames := node.tally.frames + 1 } := by
        rw [hv, Queue.offer_of_accepts hAccepts, sampledStats, hAccepts]
        simp [tally, Queue.withItems, Statistics.recordAll]
      rw [hTally]
      exact .of_recordAll _ rfl (by decide) (by simp) rfl (by simp) rfl rfl

section Engine

variable [ConfigStore Store] {node : Node Timer Input Store}

/-- What a pass of the engine leaves, as long as the queues have takers: a frame that went into a calibration
leads to no packet, any other one to a packet that is queued or dropped. -/
theorem tally_engineTurn {frame : SampleFrame} (h : node.engineInput? = some frame)
    (hAlive : node.engineTurn.value.Receiving) :
    ∃ waiting, node.tally.frames = waiting + 1 ∧
      (node.state.flags.engineMode = .calibrating ∧ node.engineTurn.value.tally = { node.tally with
        stats := node.state.stats.recordAll [.framesProcessed], frames := waiting } ∨
      node.state.flags.engineMode ≠ .calibrating ∧
        (node.engineTurn.value.tally = { node.tally with
            stats := node.state.stats.recordAll [.framesProcessed, .packetsDropped], frames := waiting } ∨
          node.engineTurn.value.tally = { node.tally with
            stats := node.state.stats.recordAll [.framesProcessed, .packetsQueued], frames := waiting
            packets := node.tally.packets + 1 })) := by
  obtain ⟨rest, processed, hItems, hSamples, hPackets, hLink, hStats, hv⟩ := engineTurn_of_frame h
  refine ⟨rest.length, by rw [tally, hItems, List.length_cons], ?_⟩
  cases hOutput : node.state.flags.engineMode.output? processed.engine.calibration frame with
  | none =>
    rw [hOutput] at hv
    refine .inl ⟨EngineMode.output?_eq_none_iff.mp hOutput, ?_⟩
    rw [hv, tally, hStats, hSamples, hPackets, hLink]
    rfl
  | some output =>
    rw [hOutput] at hv
    dsimp only at hv
    have hMode : node.state.flags.engineMode ≠ .calibrating := by
      intro hMode
      rw [EngineMode.output?_eq_none_iff.mpr hMode] at hOutput
      cases hOutput
    refine .inr ⟨hMode, ?_⟩
    cases hReceiving : processed.packets.receiving with
    | false =>
      rw [hv, forward_of_closed hReceiving] at hAlive
      cases hAlive.1
    | true =>
      rw [hv, forward_of_receiving hReceiving]
      cases hAccepts : processed.packets.accepts with
      | false =>
        rw [Queue.offer_of_not_accepts hAccepts]
        refine .inl ?_
        simp [tally, count, NodeState.count, hStats, hSamples, hPackets, hLink, Statistics.recordAll,
          Queue.withItems]
      | true =>
        rw [Queue.offer_of_accepts hAccepts]
        refine .inr ?_
        simp [tally, count, NodeState.count, hStats, hSamples, hPackets, hLink, Statistics.recordAll,
          Queue.withItems]

theorem booked_engineTurn (hAlive : node.engineTurn.value.Receiving) :
    Booked (node.tally.stats.moved node.engineTurn.value.tally.stats)
      (node.engineInput?.map fun frame =>
        ⟨frame, node.state.flags.engineMode, node.engineTurn.value.engine.calibration⟩).toList []
      node.tally node.engineTurn.value.tally := by
  cases hInput : node.engineInput? with
  | none =>
    obtain ⟨samples, packets, hSamples, hPackets, -, -, hv⟩ := engineTurn_of_none hInput
    apply Booked.of_eq
    rw [hv, tally, tally, hSamples, hPackets]
  | some frame =>
    obtain ⟨waiting, hFrames, ⟨hMode, hv⟩ | ⟨hMode, hv | hv⟩⟩ := tally_engineTurn hInput hAlive
    · rw [hv]
      exact .of_recordAll _ rfl (by decide) (by simp [hFrames, Nat.add_comm]) (by simp [Work.gathered, hMode])
        (by simp) rfl rfl
    · rw [hv]
      exact .of_recordAll _ rfl (by decide) (by simp [hFrames, Nat.add_comm]) (by simp [Work.gathered, hMode])
        (by simp) rfl rfl
    · rw [hv]
      exact .of_recordAll _ rfl (by decide) (by simp [hFrames, Nat.add_comm]) (by simp [Work.gathered, hMode])
        (by simp) rfl rfl

end Engine

section Transmit

variable {node : Node Timer Input Store}

theorem sent_tried_of_ok (h : node.link.fault = none) (payload : Bytes) :
    (node.tried payload).link.sent.length = node.link.sent.length + 1 := by
  simp [tried, sendOver, Link.send, h]

theorem sent_tried_of_fault {fault : LinkFault} (h : node.link.fault = some fault) (payload : Bytes) :
    (node.tried payload).link.sent.length = node.link.sent.length := by
  simp [tried, sendOver, Link.send, h]

/-- A packet that was taken off its queue is skipped, sent, or lost to a send that failed. -/
theorem booked_transmit {packet : Bytes} {rest : List Bytes}
    (hItems : node.packets.items = packet :: rest) {attempted : TransmitOutcome × Node Timer Input Store}
    (hAttempted :
      ({ node with packets := node.packets.withItems rest }.transmit packet).value = attempted)
    (hSurvived : ∀ message, attempted.1 ≠ .crashed message) :
    Booked (node.tally.stats.moved attempted.2.tally.stats) [] [⟨some packet, attempted.1⟩] node.tally
      attempted.2.tally := by
  have hWaiting : node.tally.packets = rest.length + 1 := by
    rw [tally, hItems, List.length_cons]
  obtain hv | ⟨hFault, hv⟩ | ⟨reason, hFault, hv⟩ | ⟨message, -, hv⟩ :=
    transmit_cases { node with packets := node.packets.withItems rest } packet
  · obtain rfl := hAttempted.symm.trans hv
    exact .of_recordAll [.packetsSkipped] rfl (by decide) (Nat.add_comm _ _) rfl
      (hWaiting.trans (Nat.add_comm _ _)) rfl rfl
  · obtain rfl := hAttempted.symm.trans hv
    exact .of_recordAll [.packetsSent] rfl (by decide) (Nat.add_comm _ _) rfl
      (hWaiting.trans (Nat.add_comm _ _)) rfl (sent_tried_of_ok hFault packet)
  · obtain rfl := hAttempted.symm.trans hv
    exact .of_recordAll [.sendFailures] rfl (by decide) (Nat.add_comm _ _) rfl
      (hWaiting.trans (Nat.add_comm _ _)) rfl (sent_tried_of_fault hFault packet)
  · obtain rfl := hAttempted.symm.trans hv
    exact absurd rfl (hSurvived message)

theorem booked_idle {attempted : TransmitOutcome × Node Timer Input Store}
    (hAttempted : node.idle.value = attempted) (hSurvived : ∀ message, attempted.1 ≠ .crashed message) :
    Booked (node.tally.stats.moved attempted.2.tally.stats) [] [⟨none, attempted.1⟩] node.tally
      attempted.2.tally := by
  obtain ⟨idleCycles, hv⟩ | ⟨hFault, hv⟩ | ⟨reason, hFault, hv⟩ | ⟨message, -, hv⟩ := node.idle_cases
  · obtain rfl := hAttempted.symm.trans hv
    exact .of_recordAll [] rfl (by decide) (Nat.add_comm _ _) rfl (Nat.add_comm _ _) rfl rfl
  · obtain rfl := hAttempted.symm.trans hv
    exact .of_recordAll [.keepalivesSent] rfl (by decide) (Nat.add_comm _ _) rfl (Nat.add_comm _ _) rfl
      (sent_tried_of_ok hFault keepalivePayload)
  · obtain rfl := hAttempted.symm.trans hv
    exact .of_recordAll [.sendFailures] rfl (by decide) (Nat.add_comm _ _) rfl (Nat.add_comm _ _) rfl
      (sent_tried_of_fault hFault keepalivePayload)
  · obtain rfl := hAttempted.symm.trans hv
    exact absurd rfl (hSurvived message)

theorem afterSend_of_receiving {outcome : TransmitOutcome} {node : Node Timer Input Store}
    (h : (node.afterSend outcome).value.Receiving) :
    (∀ message, outcome ≠ .crashed message) ∧ (node.afterSend outcome).value = node := by
  cases outcome with
  | crashed message => cases h.2
  | sent | skipped | failed | keepAlive | idle => exact ⟨by simp, rfl⟩

/-- A pass that tries nothing leaves what waits and what was counted. -/
theorem tally_transmitTurn_of_none (h : node.attempt? = none) :
    node.transmitTurn.value.tally = node.tally := by
  rw [transmitTurn]
  split
  · rfl
  · split
    · rfl
    · split
      · split
        · rfl
        · simp_all [attempt?]
      · simp_all [attempt?]

theorem attempt?_eq_some {attempt : Attempt} (h : node.attempt? = some attempt) :
    node.packets.receiving = true ∧ node.running = true ∧
      (node.packets.items = [] ∧ node.packets.finished = false ∧ attempt = ⟨none, node.idle.value.1⟩ ∨
        ∃ packet rest, node.packets.items = packet :: rest ∧ attempt = ⟨some packet,
          ({ node with packets := node.packets.withItems rest }.transmit packet).value.1⟩) := by
  rw [attempt?] at h
  split at h
  · rename_i hActive
    obtain ⟨hReceiving, hRunning⟩ := Bool.and_eq_true_iff.mp hActive
    refine ⟨hReceiving, hRunning, ?_⟩
    split at h
    · rename_i hItems
      split at h
      · cases h
      · rename_i hOpen
        exact .inl ⟨hItems, Bool.eq_false_iff.mpr hOpen, (Option.some_inj.mp h).symm⟩
    · rename_i packet rest hItems
      exact .inr ⟨packet, rest, hItems, (Option.some_inj.mp h).symm⟩
  · cases h

theorem booked_transmitTurn (hAlive : node.transmitTurn.value.Receiving) :
    Booked (node.tally.stats.moved node.transmitTurn.value.tally.stats) [] node.attempt?.toList
      node.tally node.transmitTurn.value.tally := by
  cases hAttempt : node.attempt? with
  | none => exact .of_eq (tally_transmitTurn_of_none hAttempt)
  | some attempt =>
    obtain ⟨hReceiving, hRunning, ⟨hItems, hOpen, rfl⟩ | ⟨packet, rest, hItems, rfl⟩⟩ :=
      attempt?_eq_some hAttempt
    · have hTurn : node.transmitTurn.value = (node.idle.value.2.afterSend node.idle.value.1).value := by
        rw [transmitTurn, hReceiving, hRunning, hItems, hOpen]
        rfl
      rw [hTurn] at hAlive ⊢
      obtain ⟨hSurvived, hSame⟩ := afterSend_of_receiving hAlive
      rw [hSame]
      exact booked_idle rfl hSurvived
    · have hTurn : node.transmitTurn.value =
          (({ node with packets := node.packets.withItems rest }.transmit packet).value.2.afterSend
            ({ node with packets := node.packets.withItems rest }.transmit packet).value.1).value := by
        rw [transmitTurn, hReceiving, hRunning, hItems]
        rfl
      rw [hTurn] at hAlive ⊢
      obtain ⟨hSurvived, hSame⟩ := afterSend_of_receiving hAlive
      rw [hSame]
      exact booked_transmit hItems rfl hSurvived

end Transmit

/-! A queue that was let go of is never taken up again. -/

theorem Receiving.of_onAlarm [AlarmTimer Timer] [AnalogInput Input] {node : Node Timer Input Store}
    (h : node.onAlarm.value.2.Receiving) : node.Receiving := by
  cases hPause : node.state.flags.pauseSampling with
  | true =>
    rw [onAlarm_of_pause hPause] at h
    cases hAccepts : node.acknowledged.events.accepts
    · rw [postPause_of_not_accepts hAccepts] at h
      exact h
    · rw [postPause_of_accepts hAccepts] at h
      exact h
  | false =>
    obtain ⟨posted, claimed, dump, -, hv⟩ := onAlarm_of_sample hPause
    rw [hv] at h
    exact ⟨by simpa using h.1, h.2⟩

theorem Receiving.of_engineTurn [ConfigStore Store] {node : Node Timer Input Store}
    (h : node.engineTurn.value.Receiving) : node.Receiving := by
  cases hInput : node.engineInput? with
  | none =>
    obtain ⟨samples, packets, -, -, hSamples, hPackets, hv⟩ := engineTurn_of_none hInput
    rw [hv] at h
    exact ⟨hSamples h.1, hPackets ▸ h.2⟩
  | some frame =>
    obtain ⟨rest, processed, -, hSamples, hPackets, -, -, hv⟩ := engineTurn_of_frame hInput
    have hProcessed : processed.Receiving := by
      rw [hv] at h
      split at h
      · rename_i output _
        cases hTaker : processed.packets.receiving with
        | false =>
          rw [forward_of_closed hTaker] at h
          cases h.1
        | true =>
          rw [forward_of_receiving hTaker] at h
          exact ⟨h.1, hTaker⟩
      · exact h
    rw [Receiving, hSamples, hPackets] at hProcessed
    exact hProcessed

theorem Receiving.of_transmitTurn {node : Node Timer Input Store}
    (h : node.transmitTurn.value.Receiving) : node.Receiving := by
  cases hTaker : node.packets.receiving with
  | false =>
    have hTurn : node.transmitTurn.value = node := by
      rw [transmitTurn, hTaker]
      rfl
    rwa [hTurn] at h
  | true =>
    obtain ⟨packets, link, idleCycles, stats, -, hv⟩ := node.value_transmitTurn
    rw [hv] at h
    exact ⟨h.1, hTaker⟩

end Node

namespace Pipeline

variable {Timer Input Store : Type} [AlarmTimer Timer] [AnalogInput Input] [ConfigStore Store]

/-- What a step tries to send: a pass of the transmit task that finds its queue open. -/
def attemptOf (node : Node Timer Input Store) : Action Timer Input Store → List Attempt
  | .transmitTurn => node.attempt?.toList
  | _ => []

/-- The counters that a step moves. -/
def movedBy (node : Node Timer Input Store) (action : Action Timer Input Store) : List Counter :=
  node.state.stats.moved (step node action).state.stats

/-- What the transmit task tried during a run. -/
def attempts (node : Node Timer Input Store) (actions : List (Action Timer Input Store)) : List Attempt :=
  observed attemptOf node actions

/-- What was counted during a run, one entry for each time. -/
def counted (node : Node Timer Input Store) (actions : List (Action Timer Input Store)) : List Counter :=
  observed movedBy node actions

variable {node : Node Timer Input Store}

theorem receiving_of_step (action : Action Timer Input Store) (h : (step node action).Receiving) :
    node.Receiving := by
  cases action with
  | alarm => exact .of_onAlarm h
  | engineTurn => exact .of_engineTurn h
  | transmitTurn => exact .of_transmitTurn h
  | deferredTurn =>
    obtain ⟨timer, store, events, state, -, hv⟩ := node.value_deferredTurn
    rw [step, hv] at h
    exact h
  | flags | nodeId | percent | beginCalibration | link | outside | requestStop => exact h

theorem receiving_of_run (actions : List (Action Timer Input Store)) (h : (run node actions).Receiving) :
    node.Receiving := by
  induction actions generalizing node with
  | nil => exact h
  | cons action rest ih => exact receiving_of_step action (ih h)

private theorem booked_of_tally_eq {action : Action Timer Input Store} (hWork : workOf node action = [])
    (hAttempt : attemptOf node action = []) (hTally : (step node action).tally = node.tally) :
    Booked (movedBy node action) (workOf node action) (attemptOf node action) node.tally
      (step node action).tally := by
  have hQuiet := Booked.of_eq hTally
  rw [hWork, hAttempt]
  exact hQuiet

theorem booked_step (action : Action Timer Input Store) (h : (step node action).Receiving) :
    Booked (movedBy node action) (workOf node action) (attemptOf node action) node.tally
      (step node action).tally := by
  cases action with
  | alarm => exact node.booked_onAlarm
  | engineTurn => exact Node.booked_engineTurn h
  | transmitTurn => exact Node.booked_transmitTurn h
  | deferredTurn =>
    obtain ⟨timer, store, events, state, hStats, hv⟩ := node.value_deferredTurn
    refine booked_of_tally_eq rfl rfl ?_
    rw [step, hv, Node.tally, hStats]
    rfl
  | flags | nodeId | percent | beginCalibration | link | outside | requestStop =>
    exact booked_of_tally_eq rfl rfl rfl

theorem booked_run (actions : List (Action Timer Input Store)) (h : (run node actions).Receiving) :
    Booked (counted node actions) (works node actions) (attempts node actions) node.tally
      (run node actions).tally := by
  induction actions generalizing node with
  | nil => exact .refl _
  | cons action rest ih =>
    -- Takers that are there at the end were there after every step.
    have hStep : (step node action).Receiving := receiving_of_run rest h
    exact (booked_step action hStep).trans (ih h)

/-- A counter moves once a step at most. -/
theorem count_counted_le (actions : List (Action Timer Input Store)) (counter : Counter) :
    (counted node actions).count counter ≤ actions.length := by
  induction actions generalizing node with
  | nil => exact Nat.le_refl 0
  | cons action rest ih =>
    have hOnce : (movedBy node action).count counter ≤ 1 := by
      rw [movedBy, Statistics.moved]
      have hAll : Counter.all.Nodup := by decide
      exact List.nodup_iff_count_le_one.mp (hAll.filter _) counter
    rw [counted, observed, List.count_append, List.length_cons, Nat.add_comm]
    exact Nat.add_le_add ih hOnce

/-- Whatever the order of steps, the capacities and the failures: as long as both queues have their takers
and no counter wraps, the counters agree with each other, with what waits and with what was delivered. -/
theorem counters_balance (node : Node Timer Input Store) (hStart : node.tally = {})
    (actions : List (Action Timer Input Store)) (hReceiving : (run node actions).Receiving)
    (hCounts : ∀ counter, (counted node actions).count counter < UInt64.size) :
    let final := run node actions
    let stats := final.state.stats
    let tried := attempts node actions
    stats.samplesCaptured.toNat =
        stats.samplesDropped.toNat + stats.framesProcessed.toNat + final.samples.items.length ∧
      stats.framesProcessed.toNat = stats.packetsQueued.toNat + stats.packetsDropped.toNat +
        (works node actions).countP Work.gathered ∧
      stats.packetsQueued.toNat = stats.packetsSent.toNat + stats.packetsSkipped.toNat +
        tried.countP Attempt.packetFailed + final.packets.items.length ∧
      stats.sendFailures.toNat =
        tried.countP Attempt.packetFailed + tried.countP Attempt.keepaliveFailed ∧
      final.link.sent.length = stats.packetsSent.toNat + stats.keepalivesSent.toNat := by
  intro final stats tried
  have hBooked := booked_run actions hReceiving
  rw [hStart] at hBooked
  have hValue (counter : Counter) : (stats.value counter).toNat = (counted node actions).count counter := by
    have hZero : ({} : Statistics).value counter = 0 := by cases counter <;> rfl
    have hStats : stats.value counter = .ofNat ((counted node actions).count counter) := by
      rw [← UInt64.zero_add (.ofNat _), ← hZero]
      exact hBooked.stats counter
    rw [hStats, UInt64.toNat_ofNat_of_lt' (hCounts counter)]
  have hFrames := hBooked.frames
  have hProcessed := hBooked.processed
  have hPackets := hBooked.packets
  have hFailures := hBooked.failures
  have hDatagrams := hBooked.datagrams
  simp only [← hValue, Nat.zero_add] at hFrames hProcessed hPackets hFailures hDatagrams
  exact ⟨hFrames, hProcessed, hPackets, hFailures, hDatagrams⟩

/-- A node with room for one sample and a keep-alive after every timeout. -/
def cramped : Node RecordingTimer ScriptedInput MemoryStore :=
  { trial with
    samples := { capacity := 1 }
    keepaliveAfter := 1
    state := { trial.state with flags := { networkEnabled := true } } }

/-- A sample without room, a packet and a keep-alive that the link refuses, a keep-alive that it takes, a
frame that goes into a calibration, a packet skipped, and a sample left waiting. -/
def mishaps : List (Action RecordingTimer ScriptedInput MemoryStore) :=
  [.alarm, .alarm, .engineTurn, .link (some (.refuse "down")), .transmitTurn, .transmitTurn,
    .link none, .transmitTurn, .alarm, .flags { networkEnabled := true, calibrating := true }, .engineTurn,
    .alarm, .flags {}, .engineTurn, .transmitTurn, .alarm]

/-- Every way in which a sample or a packet is lost, in one run. -/
theorem counters_balance_of_mishaps :
    cramped.tally = {} ∧ (run cramped mishaps).Receiving ∧
      (∀ counter, (counted cramped mishaps).count counter < UInt64.size) ∧
      let stats := (run cramped mishaps).state.stats
      stats.samplesCaptured.toNat = stats.samplesDropped.toNat + stats.framesProcessed.toNat + 1 ∧
        stats.framesProcessed.toNat = stats.packetsQueued.toNat + stats.packetsDropped.toNat + 1 ∧
        stats.packetsQueued.toNat = stats.packetsSent.toNat + stats.packetsSkipped.toNat + 1 ∧
        stats.sendFailures.toNat = 2 ∧
        (run cramped mishaps).link.sent.length = stats.packetsSent.toNat + stats.keepalivesSent.toNat := by
  have hReceiving : (run cramped mishaps).Receiving := ⟨rfl, rfl⟩
  have hCounts (counter : Counter) : (counted cramped mishaps).count counter < UInt64.size :=
    Nat.lt_of_le_of_lt (count_counted_le mishaps counter) (by decide)
  have hBalance := counters_balance cramped rfl mishaps hReceiving hCounts
  have hWaiting : (run cramped mishaps).samples.items.length = 1 := rfl
  have hQueued : (run cramped mishaps).packets.items.length = 0 := rfl
  have hGathered : (works cramped mishaps).countP Work.gathered = 1 := rfl
  have hPackets : (attempts cramped mishaps).countP Attempt.packetFailed = 1 := rfl
  have hKeepalives : (attempts cramped mishaps).countP Attempt.keepaliveFailed = 1 := rfl
  dsimp only at hBalance
  rw [hWaiting, hQueued, hGathered, hPackets, hKeepalives] at hBalance
  exact ⟨rfl, hReceiving, hCounts, hBalance⟩

end Pipeline

end Telemetry
