import Telemetry.Node.Deferred

/-! What handling one event does to a node. -/
namespace Telemetry

/-- The timer once its counter and its interrupt were told to stop, each left alone if that fails. -/
def AlarmTimer.stopped {Timer : Type} [AlarmTimer Timer] (timer : Timer) : Timer :=
  let paused := (AlarmTimer.pause timer).toOption.getD timer
  (AlarmTimer.disableInterrupt paused).toOption.getD paused

namespace Node

variable {Timer Input Store : Type} [AlarmTimer Timer]

theorem value_disableTimer (node : Node Timer Input Store) :
    node.disableTimer.value = { node with timer := AlarmTimer.stopped node.timer } := by
  unfold disableTimer AlarmTimer.stopped
  cases AlarmTimer.pause node.timer with
  | error error =>
    simp only [Traced.value_bind, Except.toOption, Option.getD_none]
    cases AlarmTimer.disableInterrupt node.timer with
    | error error => rfl
    | ok timer => rfl
  | ok paused =>
    simp only [Traced.value_bind, Traced.value_pure, Except.toOption, Option.getD_some]
    cases AlarmTimer.disableInterrupt paused with
    | error error => rfl
    | ok timer => rfl

variable [ConfigStore Store]

/-- Events other than the stop leave the timer and the pause request alone. -/
theorem value_handle_of_ne (node : Node Timer Input Store) {event : DeferredEvent}
    (h : event ≠ .disableTimer) :
    ∃ store state,
      (node.handle event).value = { node with store, state } ∧
      state.flags.pauseSampling = node.state.flags.pauseSampling := by
  cases event with
  | disableTimer => exact absurd rfl h
  | reloadNodeId => exact ⟨_, _, rfl, rfl⟩
  | debugDump => exact ⟨_, _, rfl, rfl⟩

/-- Handling an event touches the timer, the store and the shared state only, and counts nothing. -/
theorem value_handle (node : Node Timer Input Store) (event : DeferredEvent) :
    ∃ timer store state, state.stats = node.state.stats ∧
      (node.handle event).value = { node with timer, store, state } := by
  cases event with
  | disableTimer => exact ⟨_, node.store, node.state, rfl, node.value_disableTimer⟩
  | reloadNodeId => exact ⟨node.timer, _, (node.handle .reloadNodeId).value.state, rfl, rfl⟩
  | debugDump => exact ⟨node.timer, node.store, node.state, rfl, rfl⟩

end Node

end Telemetry
