import Telemetry.Config.Memory
import Telemetry.Input.Scripted
import Telemetry.Proofs.Control.Run
import Telemetry.Proofs.Node.Start

/-! How far pausing and resuming can be relied on: when a resumption holds, and when a node is left
running towards no alarm. -/
namespace Telemetry.Control

variable {Timer Input Store : Type} [DependableTimer Timer]

theorem live_iff (node : Node Timer Input Store) :
    AlarmTimer.live node.timer = true ↔ registers node = ⟨true, true, true⟩ := by
  simp [AlarmTimer.live, registers, AlarmTimer.registers, and_assoc]

variable [AnalogInput Input] [ConfigStore Store]

/-- With no pause request, steps other than a pause or a resumption change the registers only by taking
a stop that waits. -/
theorem step_of_unpaused {node : Node Timer Input Store} {action : Action}
    (hPause : node.state.flags.pauseSampling = false) (hAction : action ≠ .pause ∧ action ≠ .resume) :
    (step node action).state.flags.pauseSampling = false ∧
    (registers (step node action) = registers node ∧ stops (step node action) = stops node ∨
      registers (step node action) =
          { registers node with counting := false, interruptEnabled := false } ∧
        stops (step node action) + 1 = stops node) := by
  cases action with
  | pause => exact absurd rfl hAction.1
  | resume => exact absurd rfl hAction.2
  | setNodeId nodeId =>
    obtain ⟨store, requested, hv⟩ := value_setNodeId node nodeId
    rw [step, hv]
    exact ⟨hPause, .inl ⟨rfl, rfl⟩⟩
  | requestDump => exact ⟨hPause, .inl ⟨rfl, rfl⟩⟩
  | fire =>
    rw [step]
    split
    · rename_i hLive
      obtain ⟨hRegisters, hStops, hFlag⟩ := fired_of_sample hPause
      refine ⟨hFlag, .inl ⟨?_, hStops⟩⟩
      rw [hRegisters, (live_iff node).mp hLive]
    · exact ⟨hPause, .inl ⟨rfl, rfl⟩⟩
  | handleNext =>
    obtain ⟨hFlag, hEffect⟩ := deferredTurn_effect node
    exact ⟨hFlag.trans hPause, hEffect⟩

/-- Stops taken during a run without pauses and resumptions are what ends a live timer. -/
theorem run_of_unpaused {node : Node Timer Input Store} {actions : List Action}
    (hPause : node.state.flags.pauseSampling = false)
    (hActions : ∀ action ∈ actions, action ≠ .pause ∧ action ≠ .resume) :
    stops (run node actions) ≤ stops node ∧
    (registers (run node actions) = ⟨true, true, true⟩ ↔
      registers node = ⟨true, true, true⟩ ∧ stops (run node actions) = stops node) := by
  induction actions generalizing node with
  | nil => exact ⟨Nat.le_refl _, by simp [run]⟩
  | cons action rest ih =>
    obtain ⟨hFlag, hEffect⟩ := step_of_unpaused hPause (hActions action List.mem_cons_self)
    obtain ⟨hLe, hIff⟩ := ih hFlag fun other hOther => hActions other (List.mem_cons_of_mem _ hOther)
    rw [run_cons]
    obtain ⟨hRegisters, hStops⟩ | ⟨hRegisters, hStops⟩ := hEffect
    · rw [hIff, hRegisters, hStops]
      exact ⟨hStops ▸ hLe, .rfl⟩
    · rw [hIff, hRegisters]
      -- A stop once taken does not come back, so the numbers of stops cannot agree again.
      refine ⟨by omega, ?_⟩
      constructor
      · intro h
        exact absurd (congrArg Registers.counting h.1) (by simp)
      · intro h
        omega

/-- Whatever ran before, a resumption succeeds, and until the next pause or resumption the timer counts
towards an armed alarm exactly as long as every stop that waited at the resumption waits still. -/
theorem resumed_iff_stops_wait (node : Node Timer Input Store) (actions : List Action)
    (hActions : ∀ action ∈ actions, action ≠ .pause ∧ action ≠ .resume) :
    node.resumeSampling.value.1 = .ok () ∧
    (AlarmTimer.live (run node (.resume :: actions)).timer = true ↔
      stops (run node (.resume :: actions)) = stops node) := by
  obtain ⟨hOk, hRegisters, hEvents, hPause⟩ := value_resumeSampling node
  refine ⟨hOk, ?_⟩
  obtain ⟨-, hRun⟩ := run_of_unpaused hPause hActions
  have hStops : stops node.resumeSampling.value.2 = stops node := by
    rw [stops, hEvents]
    rfl
  rw [hStops] at hRun
  rw [live_iff]
  exact hRun.trans (and_iff_right hRegisters)

/-- A start on a simulated timer with room for so many events. -/
def trialStart (room : Nat) : Except (StartFailure SimulatedTimer MemoryStore)
    (Node SimulatedTimer ScriptedInput MemoryStore) :=
  (Node.start { eventQueueCapacity := room } {} { script := [] } { description := "" } {}).value

/-- With the stop of an earlier pause still waiting, the resumption holds through a fire. -/
theorem resumed_while_stop_waits : ∃ node, trialStart 10 = .ok node ∧
    stops (run node [.pause, .fire]) = 1 ∧
    AlarmTimer.live (run (run node [.pause, .fire]) [.resume, .fire]).timer = true := by
  refine ⟨_, rfl, rfl, ?_⟩
  exact (resumed_iff_stops_wait _ [.fire] (by decide)).2.mpr rfl

/-- A resumption after a pause whose stop was queued and not yet handled: once the worker handles the
stop, the timer neither counts nor interrupts, though nobody asked for another pause. -/
theorem resumption_undone : ∃ node, trialStart 10 = .ok node ∧
    (run node [.pause, .fire]).resumeSampling.value.1 = .ok () ∧
    registers (run node [.pause, .fire, .resume, .handleNext]) = ⟨false, false, true⟩ :=
  ⟨_, rfl, rfl, rfl⟩

/-- The timer runs towards no alarm, and no stop of it waits. -/
def Wedged (node : Node Timer Input Store) : Prop :=
  registers node = ⟨true, true, false⟩ ∧ stops node = 0

/-- A pause request meets a queue that takes no more events and holds no stop. -/
def Blocked (node : Node Timer Input Store) : Prop :=
  AlarmTimer.live node.timer = true ∧ node.state.flags.pauseSampling = true ∧
    node.events.accepts = false ∧ stops node = 0

omit [ConfigStore Store] in
private theorem wedged_fired_iff {node : Node Timer Input Store}
    (hLive : AlarmTimer.live node.timer = true) : Wedged (fired node) ↔ Blocked node := by
  have hRegisters := (live_iff node).mp hLive
  cases hPause : node.state.flags.pauseSampling with
  | false =>
    obtain ⟨hArmed, -, -⟩ := fired_of_sample hPause
    simp [Wedged, Blocked, hArmed, hRegisters, hPause]
  | true =>
    obtain ⟨hDisarmed, hEvents⟩ := fired_of_pause hPause
    cases hAccepts : node.events.accepts with
    | false =>
      rw [Queue.offer_of_not_accepts hAccepts] at hEvents
      simp [Wedged, Blocked, stops, hDisarmed, hEvents, hRegisters, hLive, hPause, hAccepts]
    | true =>
      rw [Queue.offer_of_accepts hAccepts] at hEvents
      simp [Wedged, Blocked, stops, Queue.withItems, hEvents, hAccepts]

omit [AnalogInput Input] in
private theorem wedged_deferredTurn_iff (node : Node Timer Input Store) :
    Wedged node.deferredTurn.value ↔ Wedged node := by
  obtain ⟨-, ⟨hRegisters, hStops⟩ | ⟨hRegisters, hStops⟩⟩ := deferredTurn_effect node
  · rw [Wedged, Wedged, hRegisters, hStops]
  · rw [Wedged, Wedged, hRegisters, ← hStops]
    simp

/-- Only a fire that finds the pause request blocked wedges a node, and only a resumption helps it. -/
theorem wedged_step_iff (node : Node Timer Input Store) (action : Action) :
    Wedged (step node action) ↔ Wedged node ∧ action ≠ .resume ∨ action = .fire ∧ Blocked node := by
  cases action with
  | pause | requestDump =>
    simp only [ne_eq, reduceCtorEq, not_false_eq_true, and_true, false_and, or_false]
    exact .rfl
  | setNodeId nodeId =>
    obtain ⟨store, requested, hv⟩ := value_setNodeId node nodeId
    simp only [ne_eq, reduceCtorEq, not_false_eq_true, and_true, false_and, or_false, step, hv]
    exact .rfl
  | resume =>
    obtain ⟨-, hRegisters, -, -⟩ := value_resumeSampling node
    simp [step, Wedged, hRegisters]
  | fire =>
    rw [step]
    split
    · rename_i hLive
      have hArmed : ¬Wedged node := by
        intro h
        cases ((live_iff node).mp hLive).symm.trans h.1
      simp [wedged_fired_iff hLive, hArmed]
    · rename_i hLive
      simp [Blocked, hLive]
  | handleNext => simp [step, wedged_deferredTurn_iff]

/-- A wedge goes back to the last blocked fire, with no resumption since. -/
theorem wedged_run_iff (node : Node Timer Input Store) (actions : List Action) :
    Wedged (run node actions) ↔ Wedged node ∧ .resume ∉ actions ∨
      ∃ before after, actions = before ++ .fire :: after ∧ Blocked (run node before) ∧
        .resume ∉ after := by
  induction actions generalizing node with
  | nil => simp [run]
  | cons action rest ih =>
    rw [run_cons, ih, wedged_step_iff]
    -- The first step either leaves an old wedge, is the blocked fire itself, or comes before it.
    constructor
    · rintro (⟨⟨hWedged, hAction⟩ | ⟨rfl, hBlocked⟩, hRest⟩ | ⟨before, after, rfl, hBlocked, hAfter⟩)
      · exact .inl ⟨hWedged, by simp [hAction.symm, hRest]⟩
      · exact .inr ⟨[], rest, rfl, hBlocked, hRest⟩
      · exact .inr ⟨action :: before, after, rfl, hBlocked, hAfter⟩
    · rintro (⟨hWedged, hNone⟩ | ⟨before, after, hActions, hBlocked, hAfter⟩)
      · obtain ⟨hAction, hRest⟩ := not_or.mp (mt List.mem_cons.mpr hNone)
        exact .inl ⟨.inl ⟨hWedged, Ne.symm hAction⟩, hRest⟩
      · cases before with
        | nil =>
          obtain ⟨rfl, rfl⟩ := List.cons.inj hActions
          exact .inl ⟨.inr ⟨rfl, hBlocked⟩, hAfter⟩
        | cons first before =>
          obtain ⟨rfl, rfl⟩ := List.cons.inj hActions
          exact .inr ⟨before, after, rfl, hBlocked, hAfter⟩

/-- A started node is never wedged, except from a fire that found the pause request up and the event
queue full without a stop in it, until it is resumed. -/
theorem started_wedged_iff {config : NodeConfig} {timer : Timer} {input : Input} {link : Link}
    {store : Store} {node : Node Timer Input Store}
    (h : (Node.start config timer input link store).value = .ok node) (actions : List Action) :
    Wedged (run node actions) ↔
      ∃ before after, actions = before ++ .fire :: after ∧ Blocked (run node before) ∧
        .resume ∉ after := by
  obtain ⟨schedule, started, nodeId, percent, stored, engine, hStarted, rfl⟩ :=
    Node.eq_assemble_of_start h
  rw [wedged_run_iff]
  apply or_iff_right
  rintro ⟨⟨hRegisters, -⟩, -⟩
  have hArmed := DependableTimer.registers_of_bringUp hStarted
  rw [DependableTimer.registers_arm] at hArmed
  cases hArmed.symm.trans hRegisters

/-- With room for one event, which a dump request has taken, the next pause request is blocked. -/
theorem blocked_by_dump : ∃ node, trialStart 1 = .ok node ∧
    ∃ before after, [.requestDump, .fire, .pause, .fire] = before ++ Action.fire :: after ∧
      Blocked (run node before) ∧ .resume ∉ after := by
  obtain ⟨node, hNode, hWedged⟩ : ∃ node, trialStart 1 = .ok node ∧
      Wedged (run node [.requestDump, .fire, .pause, .fire]) := ⟨_, rfl, rfl, rfl⟩
  exact ⟨node, hNode, (started_wedged_iff hNode _).mp hWedged⟩

/-- That request wedges the node: the timer runs on, with no alarm to come and no stop to handle. -/
theorem wedged_by_dump : ∃ node, trialStart 1 = .ok node ∧
    Wedged (run node [.requestDump, .fire, .pause, .fire]) :=
  ⟨_, rfl, rfl, rfl⟩

end Telemetry.Control
