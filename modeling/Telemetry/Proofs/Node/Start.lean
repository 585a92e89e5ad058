import Telemetry.Node.Start

/-! What a started node is made of. -/
namespace Telemetry.Node

variable {Timer Input Store : Type} [AlarmTimer Timer] [ConfigStore Store]

/-- A node that started is wired up around a timer that was armed and brought up, with node id, percentage and
calibration loaded one after the other. -/
theorem eq_loaded_of_start {config : NodeConfig} {timer : Timer} {input : Input} {link : Link}
    {store : Store} {node : Node Timer Input Store}
    (h : (start config timer input link store).value = .ok node) :
    let identity := (ConfigStore.loadNodeId store).value
    let percent := (ConfigStore.loadThresholdPercent identity.2).value
    let state := initialState config identity.1 percent.1
    let loaded := (Engine.load state percent.2).value
    ∃ schedule started,
      AlarmTimer.bringUp (AlarmSchedule.arm schedule timer (AlarmTimer.counter timer)) = .ok started ∧
      node = assemble config schedule started input link state loaded.2 loaded.1 := by
  unfold start at h
  split at h
  · cases h
  · rename_i schedule hRate
    simp only [Traced.value_bind] at h
    split at h
    · cases h
    · rename_i started hStarted
      simp only [Traced.value_bind, Traced.value_pure, Except.ok.injEq] at h
      exact ⟨schedule, started, hStarted, h.symm⟩

/-- Whatever was loaded, the flags are for the network only and nothing is in the queues. -/
theorem eq_assemble_of_start {config : NodeConfig} {timer : Timer} {input : Input} {link : Link}
    {store : Store} {node : Node Timer Input Store}
    (h : (start config timer input link store).value = .ok node) :
    ∃ schedule started nodeId percent stored engine,
      AlarmTimer.bringUp (AlarmSchedule.arm schedule timer (AlarmTimer.counter timer)) = .ok started ∧
      node = assemble config schedule started input link (initialState config nodeId percent) stored
        engine := by
  obtain ⟨schedule, started, hStarted, hNode⟩ := eq_loaded_of_start h
  exact ⟨schedule, started, _, _, _, _, hStarted, hNode⟩

end Telemetry.Node
