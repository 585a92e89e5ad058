import Telemetry.Input.Scripted
import Telemetry.Node.Start
import Telemetry.Proofs.Node.Sampling
import Telemetry.Timer.Recording

/-! Requests under an alarm: the handler can post without waiting only, so a request that finds no room has to outlive
the alarm, and one that finds room has to be posted once. -/
namespace Telemetry

/-- A record of the alarms written to a timer. -/
structure AlarmJournal (Timer : Type) [AlarmTimer Timer] where
  /-- Oldest first. -/
  written : Timer → List UInt64
  written_clearInterrupt (timer : Timer) : written (AlarmTimer.clearInterrupt timer) = written timer
  written_setAlarm (ticks : UInt64) (timer : Timer) :
    written (AlarmTimer.setAlarm ticks timer) = written timer ++ [ticks]
  written_enableAlarm (timer : Timer) : written (AlarmTimer.enableAlarm timer) = written timer
  isArmed_enableAlarm (timer : Timer) : AlarmTimer.isArmed (AlarmTimer.enableAlarm timer) = true

def RecordingTimer.journal : AlarmJournal RecordingTimer where
  written := alarms
  written_clearInterrupt _ := rfl
  written_setAlarm _ _ := rfl
  written_enableAlarm _ := rfl
  isArmed_enableAlarm _ := rfl

theorem Flags.has_of_pauseSampling (flags : Flags) (pauseSampling : Bool) {flag : Flag} (h : flag ≠ .pauseSampling) :
    { flags with pauseSampling }.has flag = flags.has flag := by
  cases flag with
  | pauseSampling => exact absurd rfl h
  | _ => rfl

theorem Flags.has_of_debugDump (flags : Flags) (debugDump : Bool) {flag : Flag} (h : flag ≠ .debugDump) :
    { flags with debugDump }.has flag = flags.has flag := by
  cases flag with
  | debugDump => exact absurd rfl h
  | _ => rfl

theorem AlarmSchedule.nextAlarm_eq (schedule : AlarmSchedule) (current : UInt64) :
    schedule.nextAlarm current = current + schedule.periodTicks - schedule.fineAdjustTicks := by
  rw [nextAlarm, stride, UInt64.sub_eq_add_neg, UInt64.sub_eq_add_neg, UInt64.add_assoc]

namespace Alarm

variable {Timer Input Store : Type}

/-- An alarm that posts these events: each of them takes back the request it stands for, no other request is lost, and
both queues only grow at their ends. -/
structure Kept (node after : Node Timer Input Store) (posted : List DeferredEvent) : Prop where
  events : after.events = node.events.withItems (node.events.items ++ posted)
  samples : node.samples.items <+: after.samples.items
  pauses : posted.count .disableTimer + after.state.flags.pauseSampling.toNat =
    node.state.flags.pauseSampling.toNat
  dumps : posted.count .debugDump + after.state.flags.debugDump.toNat = node.state.flags.debugDump.toNat
  /-- A reload is not taken back but claims its slot. -/
  reloads : posted.count .reloadNodeId + node.state.reloadClaimed.toNat = after.state.reloadClaimed.toNat
  reloadAsked : .reloadNodeId ∈ posted → node.state.flags.nodeIdChanged = true
  flags : ∀ flag, flag ≠ .pauseSampling → flag ≠ .debugDump →
    after.state.flags.has flag = node.state.flags.has flag

variable [AlarmTimer Timer]

/-- An alarm that stops at the pause request: of the node it touches that request, the event queue and the interrupt,
and it takes note of having fired. -/
structure Paused (journal : AlarmJournal Timer) (node after : Node Timer Input Store)
    (posted : List DeferredEvent) : Prop where
  posts : after.state.flags.pauseSampling = true ∧ posted = [] ∨
    after.state.flags.pauseSampling = false ∧ posted = [.disableTimer]
  /-- The request is kept for want of room only. -/
  served : after.events.accepts = true → after.state.flags.pauseSampling = false
  frame : after = { node with
    timer := AlarmTimer.clearInterrupt node.timer
    fired := true
    events := after.events
    state := { node.state with
      flags := { node.state.flags with pauseSampling := after.state.flags.pauseSampling } } }
  written : journal.written after.timer = journal.written node.timer

/-- An alarm that goes on to a sample, and to the alarm after it. -/
structure Sampled (journal : AlarmJournal Timer) (node after : Node Timer Input Store) : Prop where
  /-- Requests are held back for want of room only. -/
  served : after.events.accepts = true → after.state.flags.debugDump = false ∧
    (node.state.flags.nodeIdChanged = true → after.state.reloadClaimed = true)
  /-- One period after the count that the handler saw, less the latency. -/
  written : journal.written after.timer = journal.written node.timer ++
    [AlarmTimer.counter node.acknowledged.timer + node.schedule.periodTicks - node.schedule.fineAdjustTicks]
  armed : AlarmTimer.isArmed after.timer = true

variable {node : Node Timer Input Store}

theorem paused_of_accepts (journal : AlarmJournal Timer) (h : node.state.flags.pauseSampling = true)
    (hAccepts : node.events.accepts = true) :
    Kept node node.acknowledged.postPause [.disableTimer] ∧
    Paused journal node node.acknowledged.postPause [.disableTimer] := by
  have hRoom : node.acknowledged.events.accepts = true := hAccepts
  rw [Node.postPause_of_accepts hRoom]
  constructor
  · refine ⟨rfl, List.prefix_rfl, ?_, ?_, ?_, ?_, ?_⟩
    · rw [h]
      rfl
    · exact Nat.zero_add _
    · exact Nat.zero_add _
    · simp
    · exact fun flag hPause _ => Flags.has_of_pauseSampling _ _ hPause
  · exact ⟨.inr ⟨rfl, rfl⟩, fun _ => rfl, rfl, journal.written_clearInterrupt node.timer⟩

theorem paused_of_not_accepts (journal : AlarmJournal Timer) (h : node.state.flags.pauseSampling = true)
    (hAccepts : node.events.accepts = false) :
    Kept node node.acknowledged.postPause [] ∧ Paused journal node node.acknowledged.postPause [] := by
  have hFull : node.acknowledged.events.accepts = false := hAccepts
  rw [Node.postPause_of_not_accepts hFull]
  constructor
  · refine ⟨?_, List.prefix_rfl, Nat.zero_add _, Nat.zero_add _, Nat.zero_add _, ?_, ?_⟩
    · rw [List.append_nil]
      rfl
    · simp
    · exact fun _ _ _ => rfl
  · exact ⟨.inl ⟨h, rfl⟩, fun hRoom => absurd (hRoom.symm.trans hAccepts) (by simp), rfl,
      journal.written_clearInterrupt node.timer⟩

theorem written_rearmed (journal : AlarmJournal Timer) (node : Node Timer Input Store) :
    journal.written node.rearmed = journal.written node.timer ++
      [AlarmTimer.counter node.acknowledged.timer + node.schedule.periodTicks - node.schedule.fineAdjustTicks] := by
  rw [Node.rearmed, AlarmSchedule.arm, journal.written_enableAlarm, journal.written_setAlarm,
    journal.written_clearInterrupt, AlarmSchedule.nextAlarm_eq]
  rfl

variable [AnalogInput Input]

theorem sampled_of_unasked (journal : AlarmJournal Timer) (h : node.state.flags.pauseSampling = false) :
    ∃ outcome after posted, node.onAlarm.value = (outcome, after) ∧ outcome ≠ .paused ∧
      Kept node after posted ∧ Sampled journal node after := by
  obtain ⟨posted, claimed, dump, hPosted, hValue⟩ := Node.onAlarm_of_sample h
  refine ⟨_, _, posted, hValue, ?_, ⟨rfl, ?_, ?_, hPosted.dumps, hPosted.reloads, hPosted.asked, ?_⟩,
    hPosted.served, written_rearmed journal node, journal.isArmed_enableAlarm _⟩
  · split <;> simp
  · cases hAccepts : node.samples.accepts with
    | false => exact (Queue.offer_of_not_accepts hAccepts).symm ▸ List.prefix_rfl
    | true => exact (Queue.offer_of_accepts hAccepts).symm ▸ List.prefix_append _ _
  · rw [List.count_eq_zero_of_not_mem hPosted.noStop]
    exact Nat.zero_add _
  · exact fun flag _ hDump => Flags.has_of_debugDump _ _ hDump

/-- No alarm loses a request, whatever the queues have room for: it pauses exactly when it is asked to, and then takes
no sample and writes no alarm; or it takes its sample, queued or dropped, and writes one alarm. -/
theorem requests_kept (journal : AlarmJournal Timer) (node : Node Timer Input Store) :
    ∃ outcome after posted, node.onAlarm.value = (outcome, after) ∧ Kept node after posted ∧
      (outcome = .paused ↔ node.state.flags.pauseSampling = true) ∧
      (outcome = .paused → Paused journal node after posted) ∧
      (outcome ≠ .paused → Sampled journal node after) := by
  cases hPause : node.state.flags.pauseSampling with
  | true =>
    rw [Node.onAlarm_of_pause hPause]
    cases hAccepts : node.events.accepts with
    | false =>
      obtain ⟨hKept, hPaused⟩ := paused_of_not_accepts journal hPause hAccepts
      exact ⟨_, _, _, rfl, hKept, by simp, fun _ => hPaused, fun hSampled => absurd rfl hSampled⟩
    | true =>
      obtain ⟨hKept, hPaused⟩ := paused_of_accepts journal hPause hAccepts
      exact ⟨_, _, _, rfl, hKept, by simp, fun _ => hPaused, fun hSampled => absurd rfl hSampled⟩
  | false =>
    obtain ⟨outcome, after, posted, hValue, hOutcome, hKept, hSampled⟩ := sampled_of_unasked journal hPause
    exact ⟨outcome, after, posted, hValue, hKept, iff_of_false hOutcome Bool.false_ne_true,
      fun hPaused => absurd hPaused hOutcome, fun _ => hSampled⟩

/-- A node with room for one event and none for a sample, asked for a reload and a dump at once. -/
def pressed : Node RecordingTimer ScriptedInput Unit :=
  { Node.assemble { eventQueueCapacity := 1 } ⟨1000, 7⟩ {} { script := [] } { description := "" }
      { Node.initialState {} 5 50 with flags := { nodeIdChanged := true, debugDump := true } } ()
      { calibration := .reset, seenEpoch := 0 } with
    samples := { capacity := 0 } }

/-- The reload takes the room; the dump has to wait, the sample is dropped, and the next alarm comes all the same. -/
theorem requests_kept_pressed :
    ∃ after, pressed.onAlarm.value = (.dropped, after) ∧ after.events.items = [.reloadNodeId] ∧
      after.state.flags.debugDump = true ∧ after.timer.alarms = [993] ∧ after.timer.armed = true := by
  obtain ⟨outcome, after, posted, hValue, hKept, -, -, hSampled⟩ := requests_kept RecordingTimer.journal pressed
  have hOutcome : outcome = .dropped := congrArg Prod.fst hValue.symm
  have hAfter : Sampled RecordingTimer.journal pressed after := hSampled (by simp [hOutcome])
  have hEvents : after.events.items = [.reloadNodeId] :=
    (congrArg (·.2.events.items) hValue).symm
  have hPosted : posted = [.reloadNodeId] := by
    rw [hKept.events] at hEvents
    exact hEvents
  have hDumps := hKept.dumps
  rw [hPosted] at hDumps
  refine ⟨after, hOutcome ▸ hValue, hEvents, ?_, hAfter.written, hAfter.armed⟩
  exact Bool.toNat_eq_one.mp ((Nat.zero_add _).symm.trans hDumps)

end Alarm

end Telemetry
