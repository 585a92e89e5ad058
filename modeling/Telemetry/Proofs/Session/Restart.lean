import Mathlib.Data.List.Induction
import Telemetry.Proofs.Config.Saved
import Telemetry.Proofs.Session.Run

/-! Restarts: whenever no thresholds are due, the store has all that a node needs to answer later frames as
the running one does. -/
namespace Telemetry.Session

open ConfigStore (Writable)

variable {Timer Input Store : Type} [ConfigStore Store]

/-- The store takes writes, and has percentage and calibration unless thresholds are due. -/
structure Keeping (node : Node Timer Input Store) : Prop where
  writable : Writable node.store
  saved : node.thresholdsDue = false →
    Saved node.state.thresholdPercent node.engine.calibration node.store

theorem Keeping.updatePercent {node : Node Timer Input Store} (h : Keeping node) (percent : UInt8) :
    Keeping { node with state := node.state.updatePercent percent } := by
  refine ⟨h.writable, ?_⟩
  intro hDue
  obtain ⟨hIdle, hFlag⟩ := (Node.thresholdsDue_eq_false_iff _).mp hDue
  obtain ⟨hChanged, hDiffers⟩ := Bool.or_eq_false_iff.mp hFlag
  have hSame : node.state.thresholdPercent = clampPercent percent := by
    simpa [NodeState.percentDiffers] using hDiffers
  have hSaved := h.saved (node.thresholdsDue_eq_false_iff.mpr ⟨hIdle, hChanged⟩)
  rw [hSame] at hSaved
  exact hSaved

section Lawful

variable [LawfulStore Store]

theorem keeping_boot (node : Node Timer Input Store) {store : Store} (h : Writable store) :
    Keeping (boot node store) := by
  obtain ⟨hFirst, -⟩ := h.loadNodeId
  obtain ⟨hSecond, raw, hRaw, hPercent⟩ := hFirst.loadThresholdPercent
  obtain ⟨hThird, hKept, hStored⟩ := Calibration.storedIn_load hSecond
  refine ⟨hThird, fun _ => ⟨hStored, raw, hKept _ _ (by simp) hRaw, ?_⟩⟩
  -- The state clamps the percentage once more, which changes nothing after the store's clamp.
  have hLe := ConfigStore.percentOf_le raw
  rw [hPercent] at hLe ⊢
  exact (clampPercent_of_le hLe).symm

/-- A node that starts on what a store has saved is the one that saved it. -/
theorem boot_of_saved (node : Node Timer Input Store) {store : Store} {percent : UInt8}
    {calibration : Calibration} (hWritable : Writable store) (hSaved : Saved percent calibration store)
    (hPercent : percent ≤ 100) :
    (boot node store).engine = { calibration, seenEpoch := 0 } ∧
    (boot node store).state.thresholdPercent = percent := by
  have hLater := hSaved.kept hWritable.loadNodeId.2
  unfold boot
  simp only [hLater.loadThresholdPercent, Engine.load, Traced.value_bind, Traced.value_pure,
    Calibration.load_of_storedIn hLater.calibration]
  exact ⟨rfl, clampPercent_of_le hPercent⟩

namespace Keeping

variable {node : Node Timer Input Store}

theorem process (h : Keeping node) (frame : SampleFrame) : Keeping (node.process frame).value.2 := by
  cases hMode : node.state.flags.engineMode with
  | rawPassthrough =>
    rw [Node.process_of_raw hMode]
    exact h
  | calibrating =>
    rw [Node.process_of_calibrating hMode]
    refine ⟨h.writable, ?_⟩
    intro hDue
    simp [Node.thresholdsDue, Engine.collecting_collected] at hDue
  | thresholding =>
    cases hDue : node.thresholdsDue with
    | false =>
      rw [Node.process_of_not_due hMode hDue]
      exact h
    | true =>
      rw [Node.process_of_due hMode hDue]
      obtain ⟨hWritable, hSaved⟩ := Saved.saveAll h.writable node.state.thresholdPercent_le
        (node.engine.calibration.computeThresholds node.state.thresholdPercent)
      exact ⟨hWritable, fun _ => hSaved⟩

theorem setNodeId (h : Keeping node) (nodeId : UInt8) : Keeping (node.setNodeId nodeId).value.2 := by
  obtain ⟨written, hSet, hWritable, hKept⟩ := h.writable.setNodeId nodeId
  rw [Node.setNodeId, hSet]
  exact ⟨hWritable, fun hDue => (h.saved hDue).kept hKept⟩

variable [AlarmTimer Timer]

theorem step (h : Keeping node) (action : Action) : Keeping (step node action) := by
  cases action with
  | frame frame => exact h.process frame
  | percent percent => exact h.updatePercent percent
  | nodeId nodeId => exact h.setNodeId nodeId
  | resume =>
    obtain ⟨timer, hv⟩ := step_resume node
    rw [hv]
    exact ⟨h.writable, h.saved⟩
  | _ => exact ⟨h.writable, h.saved⟩

theorem run (h : Keeping node) (actions : List Action) : Keeping (run node actions) := by
  induction actions using List.reverseRecOn with
  | nil => exact h
  | append_singleton actions action ih =>
    rw [run_concat]
    exact ih.step action

end Keeping

end Lawful

namespace View

/-- The same engine's side with its epochs counted from elsewhere. -/
def shifted (view : View) (shift seenEpoch : UInt32) : View :=
  { view with engine := { view.engine with seenEpoch }, epoch := view.epoch + shift }

/-- Two engine's sides that differ in their epochs only: by a constant, except that the epoch of a
calibration that is over may be any. -/
def Alike (left right : View) : Prop :=
  ∃ shift seenEpoch, right = left.shifted shift seenEpoch ∧
    (left.engine.collecting = true → seenEpoch = left.engine.seenEpoch + shift)

namespace Alike

variable {left right : View}

theorem mode_eq (h : left.Alike right) : right.mode = left.mode := by
  obtain ⟨shift, seenEpoch, rfl, -⟩ := h
  rfl

theorem calibration_eq (h : left.Alike right) :
    right.engine.calibration = left.engine.calibration := by
  obtain ⟨shift, seenEpoch, rfl, -⟩ := h
  rfl

theorem due_eq (h : left.Alike right) : (right.engine.collecting || right.thresholdChanged) =
    (left.engine.collecting || left.thresholdChanged) := by
  obtain ⟨shift, seenEpoch, rfl, -⟩ := h
  rfl

theorem settled (h : left.Alike right) :
    Alike { left with engine := left.engine.settled left.percent, thresholdChanged := false }
      { right with engine := right.engine.settled right.percent, thresholdChanged := false } := by
  obtain ⟨shift, seenEpoch, rfl, -⟩ := h
  refine ⟨shift, seenEpoch, rfl, ?_⟩
  intro hOver
  cases hOver

theorem collected (h : left.Alike right) (data : Reading) :
    Alike { left with engine := left.engine.collected left.epoch data }
      { right with engine := right.engine.collected right.epoch data } := by
  obtain ⟨shift, seenEpoch, rfl, hSeen⟩ := h
  -- Only a calibration that goes on keeps its epoch; one that starts takes the present epoch on both sides.
  cases hCollecting : left.engine.collecting with
  | false =>
    refine ⟨shift, left.epoch + shift, ?_, ?_⟩
    · simp [shifted, Engine.collected, hCollecting]
    · simp [Engine.collected, hCollecting]
  | true =>
    by_cases hEpoch : left.epoch = left.engine.seenEpoch
    · refine ⟨shift, seenEpoch, ?_, ?_⟩
      · simp [shifted, Engine.collected, hCollecting, hEpoch, hSeen hCollecting]
      · simp [Engine.collected, hCollecting, hEpoch, hSeen hCollecting]
    · refine ⟨shift, left.epoch + shift, ?_, ?_⟩
      · simp [shifted, Engine.collected, hCollecting, hEpoch, hSeen hCollecting]
      · simp [Engine.collected, hCollecting, hEpoch]

theorem afterFrame (h : left.Alike right) (data : Reading) :
    (left.afterFrame data).Alike (right.afterFrame data) := by
  unfold View.afterFrame
  rw [h.mode_eq]
  cases left.mode with
  | rawPassthrough => exact h
  | calibrating => exact h.collected data
  | thresholding =>
    dsimp only
    rw [h.due_eq]
    split
    · exact h.settled
    · exact h

theorem next (h : left.Alike right) (action : Action) : (left.next action).Alike (right.next action) := by
  cases action with
  | frame frame => exact h.afterFrame frame.data
  | begin =>
    obtain ⟨shift, seenEpoch, rfl, hSeen⟩ := h
    refine ⟨shift, seenEpoch, ?_, hSeen⟩
    simp only [View.next, shifted, UInt32.add_assoc, UInt32.add_comm shift 1]
  | _ =>
    obtain ⟨shift, seenEpoch, rfl, hSeen⟩ := h
    exact ⟨shift, seenEpoch, rfl, hSeen⟩

end Alike

end View

theorem output_of_alike {left right : Node Timer Input Store} (h : (view left).Alike (view right))
    (action : Action) : output right action = output left action := by
  cases action with
  | frame frame =>
    have hMode : right.state.flags.engineMode = left.state.flags.engineMode := h.mode_eq
    have hCalibration := (h.afterFrame frame.data).calibration_eq
    rw [← view_process, ← view_process] at hCalibration
    rw [output, output, Node.output_process, Node.output_process, hMode]
    exact congrArg (fun c => [left.state.flags.engineMode.output? c frame]) hCalibration
  | _ => rfl

variable [AlarmTimer Timer]

/-- Engine's sides that are alike give out the same, whatever follows. -/
theorem observed_output_of_alike {left right : Node Timer Input Store}
    (h : (view left).Alike (view right)) (later : List Action) :
    observed output right later = observed output left later := by
  induction later generalizing left right with
  | nil => rfl
  | cons action rest ih =>
    have hNext : (view (step left action)).Alike (view (step right action)) := by
      rw [view_step, view_step]
      exact h.next action
    rw [observed, observed, output_of_alike h action, ih hNext]

/-- A node that starts on the store of another and is put in the same modes. -/
def rebuilt (blank node : Node Timer Input Store) : Node Timer Input Store :=
  (boot blank node.store).withFlags
    { calibrating := node.state.flags.calibrating, rawMode := node.state.flags.rawMode }

omit [AlarmTimer Timer] in
theorem alike_rebuilt [LawfulStore Store] (blank : Node Timer Input Store) {node : Node Timer Input Store}
    (h : Keeping node) (hDue : node.thresholdsDue = false) :
    (view node).Alike (view (rebuilt blank node)) := by
  obtain ⟨hIdle, hChanged⟩ := node.thresholdsDue_eq_false_iff.mp hDue
  obtain ⟨hEngine, hPercent⟩ :=
    boot_of_saved blank h.writable (h.saved hDue) node.state.thresholdPercent_le
  refine ⟨-node.state.calibrationEpoch, 0, ?_, ?_⟩
  · have hView : view (rebuilt blank node) = ⟨(boot blank node.store).engine,
        node.state.flags.calibrating, node.state.flags.rawMode, false,
        (boot blank node.store).state.thresholdPercent, 0⟩ := rfl
    have hEpoch : node.state.calibrationEpoch + -node.state.calibrationEpoch = 0 :=
      UInt32.add_right_neg _
    rw [hView, hEngine, hPercent]
    simp only [View.shifted, view, hIdle, hChanged, hEpoch]
  · intro hCollecting
    cases hIdle.symm.trans hCollecting

/-- On a store that takes every write that fits, whatever it has at first, percentage and calibration are in
the store whenever no calibration is collected and no change of the percentage is owed. A node rebuilt from
it then answers every later run as the running node does. -/
theorem rebuilt_equivalent [LawfulStore Store] (start blank : Node Timer Input Store) {store : Store}
    (hWritable : Writable store) (actions : List Action)
    (hIdle : (run (boot start store) actions).engine.collecting = false)
    (hChanged : (run (boot start store) actions).state.flags.thresholdChanged = false) :
    let node := run (boot start store) actions
    node.engine.calibration.StoredIn node.store ∧
    (ConfigStore.loadThresholdPercent node.store).value.1 = node.state.thresholdPercent ∧
    ∀ later, observed output (rebuilt blank node) later = observed output node later := by
  intro node
  have hKeeping : Keeping node := (keeping_boot start hWritable).run actions
  have hDue : node.thresholdsDue = false := node.thresholdsDue_eq_false_iff.mpr ⟨hIdle, hChanged⟩
  have hSaved := hKeeping.saved hDue
  refine ⟨hSaved.calibration, ?_, ?_⟩
  · rw [hSaved.loadThresholdPercent]
  · exact observed_output_of_alike (alike_rebuilt blank hKeeping hDue)

/-- A store with values missing and out of range, and a restart between a start and its first frame. -/
theorem rebuilt_equivalent_trial :
    let store := MemoryStore.ofEntries [(.thresholdPercent, 150), (.nodeId, 300), (.calibrationMax 0, 7)]
    let actions : List Action := [.frame (level 50), .begin, .frame (level 3000), .frame (level 100),
      .percent 30, .finish, .frame (level 0), .nodeId 9, .begin]
    let node := run (boot trial store) actions
    Writable store ∧ node.engine.collecting = false ∧ node.state.flags.thresholdChanged = false ∧
    node.engine.calibration.StoredIn node.store ∧
    (ConfigStore.loadThresholdPercent node.store).value.1 = 30 ∧
    ∀ later, observed output (rebuilt trial node) later = observed output node later := by
  intro store actions node
  have hWritable : Writable store := MemoryStore.writable_of_not_readOnly rfl
  have hIdle : node.engine.collecting = false := by decide +kernel
  have hChanged : node.state.flags.thresholdChanged = false := by decide +kernel
  have hThirty : node.state.thresholdPercent = 30 := by decide +kernel
  have hNode : run (boot trial store) actions = node := rfl
  obtain ⟨hStored, hPercent, hLater⟩ :=
    rebuilt_equivalent trial trial hWritable actions hIdle hChanged
  rw [hNode] at hStored hPercent hLater
  exact ⟨hWritable, hIdle, hChanged, hStored, hPercent.trans hThirty, hLater⟩

end Telemetry.Session
