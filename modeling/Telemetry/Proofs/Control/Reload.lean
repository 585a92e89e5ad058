import Telemetry.Input.Scripted
import Telemetry.Proofs.Config.Loaded
import Telemetry.Proofs.Control.Run
import Telemetry.Proofs.Node.Start
import Telemetry.Timer.Recording

/-! Changes of the node id: asked for through the store, noticed by an alarm, put in force by the worker. -/
namespace Telemetry

/-- A change of a store that no reader notices, such as making it read-only. -/
structure ConfigStore.Refit (Store : Type) [ConfigStore Store] where
  apply : Store → Store
  get_apply (store : Store) (key : ConfigKey) : ConfigStore.get (apply store) key = ConfigStore.get store key

def MemoryStore.refit (readOnly : Bool) : ConfigStore.Refit MemoryStore :=
  ⟨fun store => { store with readOnly }, fun _ _ => rfl⟩

namespace Reload

/-- What bears on the node id, and what else may happen meanwhile. -/
inductive Action (Store : Type) [ConfigStore Store] where
  | setNodeId (nodeId : UInt8)
  | alarm
  | handleNext
  | refit (change : ConfigStore.Refit Store)
  /-- All flags but that of a changed node id are set or cleared. -/
  | flags (flags : Flags)
  /-- The worker starts or ends waiting at an empty queue. -/
  | attend (ready : Bool)

variable {Timer Input Store : Type} [AlarmTimer Timer] [AnalogInput Input] [ConfigStore Store]

def step (node : Node Timer Input Store) : Action Store → Node Timer Input Store
  | .setNodeId nodeId => (node.setNodeId nodeId).value.2
  | .alarm => node.onAlarm.value.2
  | .handleNext => node.deferredTurn.value
  | .refit change => { node with store := change.apply node.store }
  | .flags flags => node.withFlags { flags with nodeIdChanged := node.state.flags.nodeIdChanged }
  | .attend attended => { node with events := { node.events with attended } }

def run (node : Node Timer Input Store) (actions : List (Action Store)) : Node Timer Input Store :=
  actions.foldl step node

/-- The node id that a step stores: a request that is not refused. -/
def acceptedBy (node : Node Timer Input Store) : Action Store → List UInt8
  | .setNodeId nodeId => if (node.setNodeId nodeId).value.1.isOk then [nodeId] else []
  | _ => []

/-- The node ids that were stored during a run, oldest first. -/
def accepted (node : Node Timer Input Store) : List (Action Store) → List UInt8
  | [] => []
  | action :: rest => acceptedBy node action ++ accepted (step node action) rest

/-- Reloads that wait to be handled. -/
def reloads (node : Node Timer Input Store) : Nat :=
  node.events.items.count .reloadNodeId

end Reload

/-- The node id in force was loaded, what was loaded is stored, and no reload is under way. -/
structure Node.Booted {Timer Input Store : Type} [ConfigStore Store] (node : Node Timer Input Store) : Prop where
  loaded : ∃ store : Store, node.state.nodeId = (ConfigStore.loadNodeId store).value.1 ∧
    ConfigStore.get node.store .nodeId = ConfigStore.get (ConfigStore.loadNodeId store).value.2 .nodeId
  idle : .reloadNodeId ∉ node.events.items
  free : node.state.reloadClaimed = false

theorem Node.booted_of_start {Timer Input Store : Type} [AlarmTimer Timer] [ConfigStore Store]
    [LawfulStore Store] {config : NodeConfig} {timer : Timer} {input : Input} {link : Link} {store : Store}
    {node : Node Timer Input Store} (h : (Node.start config timer input link store).value = .ok node) :
    node.Booted := by
  obtain ⟨schedule, started, -, rfl⟩ := Node.eq_loaded_of_start h
  refine ⟨⟨store, rfl, ?_⟩, List.not_mem_nil, rfl⟩
  exact (ConfigStore.get_nodeId_load _).trans (ConfigStore.get_nodeId_loadThresholdPercent _)

namespace Reload

variable {Timer Input Store : Type} [ConfigStore Store] {done : List UInt8} {node : Node Timer Input Store}

/-- The reload slot is taken as long as a reload waits, and the node id in force falls behind the store only
while a change is flagged. -/
structure Invariant (done : List UInt8) (node : Node Timer Input Store) : Prop where
  slot : reloads node = node.state.reloadClaimed.toNat
  inForce : node.state.flags.nodeIdChanged = false →
    node.state.nodeId = (ConfigStore.loadNodeId node.store).value.1
  stored : ∀ nodeId, done.getLast? = some nodeId →
    ConfigStore.get node.store .nodeId = some nodeId.toUInt16

theorem Invariant.of_booted [LawfulStore Store] (h : node.Booted) : Invariant [] node where
  slot := by
    rw [reloads, List.count_eq_zero_of_not_mem h.idle, h.free]
    rfl
  inForce := by
    intro _
    obtain ⟨store, hNodeId, hStored⟩ := h.loaded
    rw [hNodeId, ← ConfigStore.fst_loadNodeId_again, ConfigStore.fst_loadNodeId, ConfigStore.fst_loadNodeId,
      hStored]
  stored := by simp

/-- A change that keeps events, slot, node id and what the store has for it, and clears no flagged change. -/
theorem Invariant.congr {other : Node Timer Input Store} (h : Invariant done node)
    (hReloads : reloads other = reloads node)
    (hClaimed : other.state.reloadClaimed = node.state.reloadClaimed)
    (hFlag : other.state.flags.nodeIdChanged = node.state.flags.nodeIdChanged)
    (hNodeId : other.state.nodeId = node.state.nodeId)
    (hStored : ConfigStore.get other.store .nodeId = ConfigStore.get node.store .nodeId) :
    Invariant done other where
  slot := by rw [hReloads, hClaimed, h.slot]
  inForce := by
    rw [hFlag, hNodeId, ConfigStore.fst_loadNodeId, hStored, ← ConfigStore.fst_loadNodeId]
    exact h.inForce
  stored := by
    rw [hStored]
    exact h.stored

section Steps

variable [LawfulStore Store] [AlarmTimer Timer]

omit [AlarmTimer Timer] in
/-- A request is refused and changes no value of the store, or writes the id and raises the flag. -/
theorem setNodeId_cases (node : Node Timer Input Store) (nodeId : UInt8) :
    (∃ error store, (node.setNodeId nodeId).value = (.error error, { node with store }) ∧
      ∀ key, ConfigStore.get store key = ConfigStore.get node.store key) ∨
    ∃ store, (node.setNodeId nodeId).value = (.ok (),
        { node with store }.withFlags { node.state.flags with nodeIdChanged := true }) ∧
      ConfigStore.get store .nodeId = some nodeId.toUInt16 := by
  rw [Node.setNodeId]
  split
  · rename_i error store hSet
    exact .inl ⟨_, store, rfl, fun key => LawfulStore.get_refused key hSet⟩
  · rename_i store hSet
    refine .inr ⟨store, rfl, ?_⟩
    rw [LawfulStore.get_written .nodeId hSet, if_pos rfl]

omit [AlarmTimer Timer] in
theorem Invariant.setNodeId (h : Invariant done node) (nodeId : UInt8) :
    Invariant (done ++ if (node.setNodeId nodeId).value.1.isOk then [nodeId] else [])
      (node.setNodeId nodeId).value.2 := by
  obtain ⟨error, store, hv, hKept⟩ | ⟨store, hv, hStored⟩ := setNodeId_cases node nodeId
  · rw [hv, if_neg (by simp [Except.isOk, Except.toBool]), List.append_nil]
    exact h.congr rfl rfl rfl rfl (hKept .nodeId)
  · rw [hv, if_pos (by simp [Except.isOk, Except.toBool])]
    refine ⟨h.slot, ?_, ?_⟩
    · intro hClear
      cases hClear
    · intro last hLast
      rw [List.getLast?_concat, Option.some_inj] at hLast
      rw [← hLast]
      exact hStored

/-- A reload puts in force what the store has, and frees the slot along with the event that held it. -/
theorem Invariant.handle {event : DeferredEvent} {rest : List DeferredEvent} (h : Invariant done node)
    (hItems : node.events.items = event :: rest) :
    Invariant done ({ node with events := node.events.withItems rest }.handle event).value := by
  have hWaiting := h.slot
  rw [reloads, hItems] at hWaiting
  cases event with
  | disableTimer =>
    rw [Node.handle, Node.value_disableTimer]
    refine h.congr ?_ rfl rfl rfl rfl
    rw [reloads, reloads, hItems]
    rfl
  | debugDump =>
    refine h.congr ?_ rfl rfl rfl rfl
    rw [reloads, reloads, hItems]
    rfl
  | reloadNodeId =>
    rw [List.count_cons_self] at hWaiting
    refine ⟨?_, ?_, ?_⟩
    · -- The slot was taken for the event in hand, so no other one waits.
      have hLe := Bool.toNat_le node.state.reloadClaimed
      change rest.count .reloadNodeId = 0
      omega
    · intro _
      exact (ConfigStore.fst_loadNodeId_again node.store).symm
    · -- What was stored last is there, so loading writes no default over it.
      intro nodeId hLast
      change ConfigStore.get (ConfigStore.loadNodeId node.store).value.2 .nodeId = _
      rw [ConfigStore.loadNodeId_of_some (h.stored nodeId hLast)]
      exact h.stored nodeId hLast

theorem Invariant.handleNext (h : Invariant done node) : Invariant done node.deferredTurn.value := by
  obtain ⟨events, hItems, hv⟩ | ⟨event, rest, hItems, hv⟩ := node.deferredTurn_cases
  · rw [hv]
    refine h.congr ?_ rfl rfl rfl rfl
    rw [reloads, hItems]
    rfl
  · rw [hv]
    exact h.handle hItems

end Steps

/-- An alarm posts a reload exactly when it takes the slot. -/
theorem Invariant.alarm [AlarmTimer Timer] [AnalogInput Input] (h : Invariant done node) :
    Invariant done node.onAlarm.value.2 := by
  have hWaiting := h.slot
  rw [reloads] at hWaiting
  cases hPause : node.state.flags.pauseSampling with
  | true =>
    rw [Node.onAlarm_of_pause hPause]
    cases hAccepts : node.acknowledged.events.accepts with
    | false =>
      rw [Node.postPause_of_not_accepts hAccepts]
      exact h.congr rfl rfl rfl rfl rfl
    | true =>
      rw [Node.postPause_of_accepts hAccepts]
      refine h.congr ?_ rfl rfl rfl rfl
      rw [reloads, reloads]
      change (node.events.items ++ [DeferredEvent.disableTimer]).count .reloadNodeId = _
      simp
  | false =>
    obtain ⟨posted, claimed, dump, hPosted, hv⟩ := Node.onAlarm_of_sample hPause
    rw [hv]
    refine ⟨?_, h.inForce, h.stored⟩
    change (node.events.items ++ posted).count .reloadNodeId = claimed.toNat
    have hReloads := hPosted.reloads
    rw [List.count_append]
    omega

variable [AlarmTimer Timer] [AnalogInput Input] [LawfulStore Store]

theorem Invariant.step (h : Invariant done node) (action : Action Store) :
    Invariant (done ++ acceptedBy node action) (step node action) := by
  cases action with
  | setNodeId nodeId => exact h.setNodeId nodeId
  | alarm =>
    rw [acceptedBy, List.append_nil]
    · exact h.alarm
    · simp
  | handleNext =>
    rw [acceptedBy, List.append_nil]
    · exact h.handleNext
    · simp
  | refit change =>
    rw [acceptedBy, List.append_nil]
    · exact h.congr rfl rfl rfl rfl (change.get_apply _ _)
    · simp
  | flags | attend =>
    rw [acceptedBy, List.append_nil]
    · exact h.congr rfl rfl rfl rfl rfl
    · simp

theorem Invariant.run (h : Invariant done node) (actions : List (Action Store)) :
    Invariant (done ++ accepted node actions) (run node actions) := by
  induction actions generalizing done node with
  | nil =>
    rw [accepted, List.append_nil]
    exact h
  | cons action rest ih =>
    have hNext := ih (h.step action)
    rw [List.append_assoc] at hNext
    exact hNext

/-- Whatever the order of requests, alarms and passes of the worker, whatever the queue's capacity and whenever
the store refuses: at most one reload waits, and only as long as the slot is taken; once no change is flagged,
the node id in force is the one that the store gives, and so the last one stored; and a request that is refused
changes nothing. -/
theorem node_id_converges (node : Node Timer Input Store) (hBooted : node.Booted)
    (actions : List (Action Store)) :
    let final := run node actions
    (reloads final ≤ 1 ∧ (reloads final = 1 ↔ final.state.reloadClaimed = true)) ∧
      (final.state.flags.nodeIdChanged = false →
        final.state.nodeId = (ConfigStore.loadNodeId final.store).value.1 ∧
          ∀ nodeId, (accepted node actions).getLast? = some nodeId → final.state.nodeId = nodeId) ∧
      ∀ nodeId error, (final.setNodeId nodeId).value.1 = .error error →
        ∃ store, (final.setNodeId nodeId).value.2 = { final with store } ∧
          ∀ key, ConfigStore.get store key = ConfigStore.get final.store key := by
  intro final
  have h : Invariant (accepted node actions) final := (Invariant.of_booted hBooted).run actions
  refine ⟨⟨?_, ?_⟩, ?_, ?_⟩
  · rw [h.slot]
    exact Bool.toNat_le _
  · rw [h.slot]
    exact Bool.toNat_eq_one
  · intro hClear
    refine ⟨h.inForce hClear, ?_⟩
    intro nodeId hLast
    rw [h.inForce hClear, ConfigStore.loadNodeId_of_some (h.stored nodeId hLast)]
  · intro nodeId error hError
    obtain ⟨_, store, hv, hKept⟩ | ⟨store, hv, -⟩ := setNodeId_cases final nodeId
    · rw [hv]
      exact ⟨store, rfl, hKept⟩
    · rw [hv] at hError
      cases hError

/-- A node that was started with room for one event on a store with the node id 5. -/
def trial : Node RecordingTimer ScriptedInput MemoryStore :=
  Node.assemble { eventQueueCapacity := 1 } ⟨1000, 7⟩ {} ⟨[], .replicate channelCount 0⟩ { description := "" }
    (Node.initialState {} 5 50) (.ofEntries [(.nodeId, 5)]) { calibration := .reset, seenEpoch := 0 }

/-- A second request while the reload for the first waits, an alarm meanwhile, and a third request that a
read-only store refuses. -/
def requests : List (Action MemoryStore) :=
  [.setNodeId 7, .alarm, .setNodeId 9, .alarm, .refit (MemoryStore.refit true), .setNodeId 11, .handleNext]

/-- One reload puts the second request in force, and the store still refuses the third. -/
theorem node_id_converges_on_second : trial.Booted ∧
    let final := run trial requests
    reloads (run trial (requests.take 4)) = 1 ∧ reloads final = 0 ∧
      (accepted trial requests).getLast? = some 9 ∧ final.state.flags.nodeIdChanged = false ∧
      final.state.nodeId = 9 ∧
      (final.setNodeId 11).value.1 = .error (.store .readOnly) ∧
      ∃ store, (final.setNodeId 11).value.2 = { final with store } ∧
        ConfigStore.get store .nodeId = ConfigStore.get final.store .nodeId := by
  have hBooted : trial.Booted := ⟨⟨.ofEntries [(.nodeId, 5)], rfl, rfl⟩, List.not_mem_nil, rfl⟩
  have hLast : (accepted trial requests).getLast? = some 9 := rfl
  have hClear : (run trial requests).state.flags.nodeIdChanged = false := rfl
  have hError : ((run trial requests).setNodeId 11).value.1 = .error (.store .readOnly) := rfl
  obtain ⟨-, hInForce, hRefused⟩ := node_id_converges trial hBooted requests
  obtain ⟨store, hNode, hKept⟩ := hRefused 11 _ hError
  exact ⟨hBooted, rfl, rfl, hLast, hClear, (hInForce hClear).2 9 hLast, hError, store, hNode, hKept .nodeId⟩

end Reload

end Telemetry
