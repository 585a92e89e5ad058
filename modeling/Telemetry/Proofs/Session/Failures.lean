import Mathlib.Data.List.Induction
import Telemetry.Proofs.Config.Loaded
import Telemetry.Proofs.Session.Run

/-! Two engines whose stores had the same content at first give the same answers, whatever writes fail on either
side: the engine reads a store only while it is loaded, and then no value that it wrote itself. -/
namespace Telemetry

/-- A store that refuses some writes: those of the numbers that are marked, counted from zero. -/
structure FaultyStore (Store : Type) where
  inner : Store
  refuses : Nat → Bool
  /-- Writes tried so far. -/
  tried : Nat := 0

namespace FaultyStore

variable {Store : Type} [ConfigStore Store]

instance : ConfigStore (FaultyStore Store) where
  get store key := ConfigStore.get store.inner key
  set store key value :=
    let next := { store with tried := store.tried + 1 }
    if store.refuses store.tried then (.error (.io "injected failure"), next)
    else
      match ConfigStore.set store.inner key value with
      | (result, inner) => (result, { next with inner })

instance [LawfulStore Store] : LawfulStore (FaultyStore Store) where
  get_written {store written key value} other h := by
    dsimp only [ConfigStore.set] at h
    split at h
    · cases h
    · obtain ⟨hResult, rfl⟩ := Prod.mk.inj h
      have hInner : ConfigStore.set store.inner key value =
          (.ok (), (ConfigStore.set store.inner key value).2) := Prod.ext hResult rfl
      have hRead := LawfulStore.get_written other hInner
      exact hRead
  get_refused {store left key value error} other h := by
    dsimp only [ConfigStore.set] at h
    split at h
    · cases h
      rfl
    · obtain ⟨hResult, rfl⟩ := Prod.mk.inj h
      have hInner : ConfigStore.set store.inner key value =
          (.error error, (ConfigStore.set store.inner key value).2) := Prod.ext hResult rfl
      have hRead := LawfulStore.get_refused other hInner
      exact hRead

end FaultyStore

namespace Session

variable {Timer Input Blank Store Other : Type} [ConfigStore Store] [ConfigStore Other]

/-- A node in the state of another, with a store of its own and an engine loaded from it. -/
def equipped (node : Node Timer Input Blank) (store : Store) : Node Timer Input Store :=
  let (engine, store) := (Engine.load node.state store).value
  { node with engine, store }

/-- Same state and same engine, whatever the stores. -/
structure Agree (left : Node Timer Input Store) (right : Node Timer Input Other) : Prop where
  state : right.state = left.state
  engine : right.engine = left.engine

theorem agree_equipped [LawfulStore Store] [LawfulStore Other] (node : Node Timer Input Blank) {store : Store}
    {other : Other} (h : ∀ key, ConfigStore.get other key = ConfigStore.get store key) :
    Agree (equipped node store) (equipped node other) := by
  have hContent : ConfigStore.get other = ConfigStore.get store := funext h
  refine ⟨rfl, ?_⟩
  change Engine.mk (Calibration.load other).value.1 _ _ = Engine.mk (Calibration.load store).value.1 _ _
  rw [Calibration.fst_load, Calibration.fst_load, hContent]

namespace Agree

variable {left : Node Timer Input Store} {right : Node Timer Input Other}

theorem process (h : Agree left right) (frame : SampleFrame) :
    Agree (left.process frame).value.2 (right.process frame).value.2 := by
  have hDue : right.thresholdsDue = left.thresholdsDue := by
    rw [Node.thresholdsDue, Node.thresholdsDue, h.engine, h.state]
  cases hMode : left.state.flags.engineMode with
  | rawPassthrough =>
    rw [Node.process_of_raw hMode, Node.process_of_raw (h.state ▸ hMode)]
    exact h
  | calibrating =>
    rw [Node.process_of_calibrating hMode, Node.process_of_calibrating (h.state ▸ hMode)]
    refine ⟨h.state, ?_⟩
    simp only [h.engine, h.state]
  | thresholding =>
    cases hLeft : left.thresholdsDue with
    | false =>
      rw [Node.process_of_not_due hMode hLeft, Node.process_of_not_due (h.state ▸ hMode) (hDue.trans hLeft)]
      exact h
    | true =>
      rw [Node.process_of_due hMode hLeft, Node.process_of_due (h.state ▸ hMode) (hDue.trans hLeft)]
      constructor
      · simp only [h.state]
      · simp only [h.engine, h.state]

theorem output (h : Agree left right) (action : Action) : output right action = output left action := by
  cases action with
  | frame frame =>
    rw [Session.output, Session.output, Node.output_process, Node.output_process, h.state,
      (h.process frame).engine]
  | _ => rfl

end Agree

variable [AlarmTimer Timer]

namespace Agree

variable {left : Node Timer Input Store} {right : Node Timer Input Other}

theorem step (h : Agree left right) {action : Action} (hAction : ∀ nodeId, action ≠ .nodeId nodeId) :
    Agree (step left action) (step right action) := by
  cases action with
  | frame frame => exact h.process frame
  | nodeId nodeId => exact absurd rfl (hAction nodeId)
  | begin => exact ⟨congrArg NodeState.beginCalibration h.state, h.engine⟩
  | finish => exact ⟨congrArg NodeState.endCalibration h.state, h.engine⟩
  | percent percent => exact ⟨congrArg (NodeState.updatePercent · percent) h.state, h.engine⟩
  | resume =>
    obtain ⟨leftTimer, hLeft⟩ := step_resume left
    obtain ⟨rightTimer, hRight⟩ := step_resume right
    rw [hLeft, hRight]
    refine ⟨?_, h.engine⟩
    simp only [h.state]
  | rawMode | pause | requestDump | network =>
    refine ⟨?_, h.engine⟩
    simp only [Session.step, Node.setRawMode, Node.pauseSampling, Node.requestDump, Node.setNetworkEnabled,
      Node.withFlags, Traced.value_bind, Traced.value_pure, h.state]

theorem run (h : Agree left right) {actions : List Action}
    (hActions : ∀ nodeId, .nodeId nodeId ∉ actions) :
    Agree (run left actions) (run right actions) ∧
    observed Session.output right actions = observed Session.output left actions := by
  induction actions using List.reverseRecOn with
  | nil => exact ⟨h, rfl⟩
  | append_singleton actions action ih =>
    obtain ⟨hRun, hObserved⟩ := ih fun nodeId hMember => hActions nodeId (List.mem_append_left _ hMember)
    rw [run_concat, run_concat, observed_concat, observed_concat, hObserved, hRun.output]
    refine ⟨hRun.step ?_, rfl⟩
    rintro nodeId rfl
    exact hActions nodeId (by simp)

end Agree

/-- Whatever writes fail on either side, two stores with the same content serve an engine alike: with the engine
loaded from each and the same calls and frames, whose outputs are compared one by one, engine and shared state
come out the same. One store may be a `FaultyStore` that refuses any chosen writes of the other. Only storing a
node id, which reports its failure to the caller, is left out. -/
theorem unmoved_by_failures [LawfulStore Store] [LawfulStore Other] (node : Node Timer Input Blank)
    {store : Store} {other : Other} (hSame : ∀ key, ConfigStore.get other key = ConfigStore.get store key)
    {actions : List Action} (hActions : ∀ nodeId, .nodeId nodeId ∉ actions) :
    observed output (equipped node other) actions = observed output (equipped node store) actions ∧
    (run (equipped node other) actions).engine = (run (equipped node store) actions).engine ∧
    (run (equipped node other) actions).state = (run (equipped node store) actions).state := by
  obtain ⟨hRun, hObserved⟩ := (agree_equipped node hSame).run hActions
  exact ⟨hObserved, hRun.engine, hRun.state⟩

/-- Every second write is refused, from the defaults on: the stores part, the engines do not. -/
theorem unmoved_by_failures_every_second :
    let store := MemoryStore.ofEntries [(.thresholdPercent, 40), (.calibrationMax 0, 7)]
    let faulty : FaultyStore MemoryStore := { inner := store, refuses := fun number => number % 2 = 1 }
    let actions : List Action := [.frame (level 50), .begin, .frame (level 3000), .frame (level 100), .percent 30,
      .finish, .frame (level 900), .rawMode true, .frame (level 1)]
    (∀ key, ConfigStore.get faulty key = ConfigStore.get store key) ∧
    (∀ nodeId, .nodeId nodeId ∉ actions) ∧
    (run (equipped trial faulty) actions).engine = (run (equipped trial store) actions).engine ∧
    ConfigStore.get (run (equipped trial faulty) actions).store .thresholdPercent = some 40 ∧
    ConfigStore.get (run (equipped trial store) actions).store .thresholdPercent = some 30 := by
  intro store faulty actions
  have hSame : ∀ key, ConfigStore.get faulty key = ConfigStore.get store key := fun _ => rfl
  have hActions : ∀ nodeId, .nodeId nodeId ∉ actions := by simp [actions]
  obtain ⟨-, hEngine, -⟩ := unmoved_by_failures trial hSame hActions
  refine ⟨hSame, hActions, hEngine, ?_, ?_⟩
  · decide +kernel
  · decide +kernel

end Session

end Telemetry
