import Mathlib.Logic.Function.Basic
import Telemetry.Proofs.Node.Passes
import Telemetry.Proofs.Node.Start
import Telemetry.Proofs.Session.Run

/-! What a stop leaves behind: a task sees the flag before it sees that its queue was let go of. -/
namespace Telemetry.Shutdown

inductive Task where
  | deferred
  | engine
  | transmit
  deriving DecidableEq

section Nodes

variable {Timer Input Store : Type}

/-- Number of items in the queue of a task. -/
def waiting (node : Node Timer Input Store) : Task → Nat
  | .deferred => node.events.items.length
  | .engine => node.samples.items.length
  | .transmit => node.packets.items.length

/-- A task takes items until it ends. -/
def taking (node : Node Timer Input Store) : Task → Bool
  | .deferred => node.events.receiving
  | .engine => node.samples.receiving
  | .transmit => node.packets.receiving

variable [AlarmTimer Timer] [ConfigStore Store]

/-- The node while the flag is up. -/
def flagUp (node : Node Timer Input Store) : Node Timer Input Store :=
  { node with running := true }

/-- One pass of a task. -/
def turn (node : Node Timer Input Store) : Task → Node Timer Input Store
  | .deferred => node.deferredTurn.value
  | .engine => node.engineTurn.value
  | .transmit => node.transmitTurn.value

/-- A pass that looked at the flag when it was still up. -/
def lateTurn (node : Node Timer Input Store) (task : Task) : Node Timer Input Store :=
  { turn (flagUp node) task with running := node.running }

end Nodes

/-- A node that was told to end. -/
structure Ending (Timer Input Store : Type) where
  node : Node Timer Input Store
  /-- Tasks in the middle of a pass that looked at the flag before it fell. An item that such a pass has
  taken counts as waiting. -/
  late : Task → Bool

namespace Ending

variable {Timer Input Store : Type}

/-- The moment at which a node is told to end. -/
def start (node : Node Timer Input Store) (late : Task → Bool) : Ending Timer Input Store :=
  ⟨node.requestStop, late⟩

/-- Every task has ended. -/
def Over (ending : Ending Timer Input Store) : Prop :=
  ∀ task, taking ending.node task = false

/-- All that was queued was taken, which is to say handled, processed or sent. -/
def Drained (ending : Ending Timer Input Store) : Prop :=
  ∀ task, waiting ending.node task = 0

/-- Packets that a pass of a task puts in the packet queue. -/
def made (ending : Ending Timer Input Store) (task : Task) : Nat :=
  if task = .engine ∧ ending.late .engine = true then ending.node.makesPacket.toNat else 0

/-- The flag is down, tasks in the middle of a pass have not ended, and the link takes no task down. -/
structure Sound (ending : Ending Timer Input Store) : Prop where
  stopped : ending.node.running = false
  present : ∀ task, ending.late task = true → taking ending.node task = true
  link : ∀ message, ending.node.link.fault ≠ some (.crash message)

/-- What a pass does: it takes one item if it is late and ends its task otherwise, and of the other queues
only that of packets gains by it. -/
structure Passed (earlier later : Ending Timer Input Store) (task : Task) : Prop where
  late : later.late = Function.update earlier.late task false
  own : waiting later.node task = waiting earlier.node task - (earlier.late task).toNat
  ended : earlier.late task = false → taking later.node task = false
  others : ∀ other, other ≠ task →
    waiting later.node other =
      waiting earlier.node other + (if other = .transmit then earlier.made task else 0) ∧
    taking later.node other = taking earlier.node other
  mode : task ≠ .engine → later.node.state.flags.engineMode = earlier.node.state.flags.engineMode
  room : later.node.packets.room = earlier.node.packets.room
  running : later.node.running = earlier.node.running
  fault : later.node.link.fault = earlier.node.link.fault

variable [AlarmTimer Timer] [ConfigStore Store]

def pass (ending : Ending Timer Input Store) (task : Task) : Ending Timer Input Store where
  node := if ending.late task then lateTurn ending.node task else turn ending.node task
  late := Function.update ending.late task false

/-- The tasks make their passes in some order. -/
def run (ending : Ending Timer Input Store) (order : List Task) : Ending Timer Input Store :=
  order.foldl pass ending

variable {ending : Ending Timer Input Store}

private theorem pass_deferred (h : ending.Sound) :
    ∃ (timer : Timer) (store : Store) (events : Queue DeferredEvent) (state : NodeState),
      events.items.length = ending.node.events.items.length - (ending.late .deferred).toNat ∧
      (ending.late .deferred = false → events.receiving = false) ∧
      state.flags.engineMode = ending.node.state.flags.engineMode ∧
      (ending.pass .deferred).node = { ending.node with timer, store, events, state } := by
  rw [pass]
  cases hLate : ending.late .deferred with
  | false =>
    refine ⟨ending.node.timer, ending.node.store, ending.node.events.close, ending.node.state, rfl,
      fun _ => rfl, rfl, ?_⟩
    exact Node.deferredTurn_of_stopped h.stopped
  | true =>
    have hTaking : (flagUp ending.node).events.receiving = true := h.present _ hLate
    obtain ⟨timer, store, events, state, hItems, hMode, hv⟩ := Node.deferredTurn_of_running hTaking rfl
    refine ⟨timer, store, events, state, ?_, by simp, hMode, ?_⟩
    · rw [hItems]
      exact List.length_tail
    · exact congrArg (fun node => { node with running := ending.node.running }) hv

private theorem pass_engine (h : ending.Sound) :
    ∃ (engine : Engine) (store : Store) (state : NodeState) (samples : Queue SampleFrame)
      (packets : Queue Bytes),
      samples.items.length = ending.node.samples.items.length - (ending.late .engine).toNat ∧
      (ending.late .engine = false → samples.receiving = false) ∧
      packets.items.length = ending.node.packets.items.length + ending.made .engine ∧
      packets.receiving = ending.node.packets.receiving ∧ packets.room = ending.node.packets.room ∧
      (ending.pass .engine).node = { ending.node with engine, store, state, samples, packets } := by
  rw [pass, made]
  cases hLate : ending.late .engine with
  | false =>
    obtain ⟨samples, packets, hSamples, hClosed, hPackets, hReceiving, hRoom, hv⟩ :=
      Node.engineTurn_of_stopped h.stopped
    exact ⟨ending.node.engine, ending.node.store, ending.node.state, samples, packets,
      congrArg List.length hSamples, fun _ => hClosed, congrArg List.length hPackets, hReceiving, hRoom, hv⟩
  | true =>
    have hTaking : (flagUp ending.node).samples.receiving = true := h.present _ hLate
    obtain ⟨hSamples, hReceiving, hRoom, hPackets⟩ := Node.engineTurn_of_running hTaking rfl
    obtain ⟨engine, store, state, samples, packets, hv⟩ := (flagUp ending.node).value_engineTurn
    rw [hv] at hSamples hReceiving hRoom hPackets
    refine ⟨engine, store, state, samples, packets, ?_, by simp, ?_, hReceiving, hRoom, ?_⟩
    · exact (congrArg List.length hSamples).trans List.length_tail
    · rw [if_pos ⟨rfl, rfl⟩]
      exact hPackets
    · exact congrArg (fun node => { node with running := ending.node.running }) hv

private theorem pass_transmit (h : ending.Sound) :
    ∃ (packets : Queue Bytes) (link : Link) (idleCycles : UInt32) (stats : Statistics),
      packets.items.length = ending.node.packets.items.length - (ending.late .transmit).toNat ∧
      (ending.late .transmit = false → packets.receiving = false) ∧
      (ending.late .transmit = true → ending.node.packets.finished = false → packets.receiving = true) ∧
      packets.room = ending.node.packets.room ∧ link.fault = ending.node.link.fault ∧
      (ending.pass .transmit).node =
        { ending.node with packets, link, idleCycles, state := { ending.node.state with stats } } := by
  rw [pass]
  cases hLate : ending.late .transmit with
  | false =>
    refine ⟨ending.node.packets.close, ending.node.link, ending.node.idleCycles, ending.node.state.stats, rfl,
      fun _ => rfl, by simp, rfl, rfl, ?_⟩
    exact Node.transmitTurn_of_stopped h.stopped
  | true =>
    have hTaking : (flagUp ending.node).packets.receiving = true := h.present _ hLate
    obtain ⟨packets, link, idleCycles, stats, hItems, hRoom, hOpen, hFault, hv⟩ :=
      Node.transmitTurn_of_running hTaking rfl h.link
    refine ⟨packets, link, idleCycles, stats, ?_, by simp, fun _ => hOpen, hRoom, hFault, ?_⟩
    · exact (congrArg List.length hItems).trans List.length_tail
    · exact congrArg (fun node => { node with running := ending.node.running }) hv

theorem passed (h : ending.Sound) (task : Task) : Passed ending (ending.pass task) task := by
  cases task with
  | deferred =>
    obtain ⟨timer, store, events, state, hOwn, hEnded, hMode, hv⟩ := pass_deferred h
    constructor
    case late => rfl
    all_goals rw [hv]
    · exact hOwn
    · exact hEnded
    · intro other hOther
      cases other with
      | deferred => exact absurd rfl hOther
      | engine | transmit => exact ⟨rfl, rfl⟩
    · exact fun _ => hMode
  | engine =>
    obtain ⟨engine, store, state, samples, packets, hOwn, hEnded, hMade, hReceiving, hRoom, hv⟩ := pass_engine h
    constructor
    case late => rfl
    all_goals rw [hv]
    · exact hOwn
    · exact hEnded
    · intro other hOther
      cases other with
      | engine => exact absurd rfl hOther
      | deferred => exact ⟨rfl, rfl⟩
      | transmit => exact ⟨hMade, hReceiving⟩
    · exact fun h => absurd rfl h
    · exact hRoom
  | transmit =>
    obtain ⟨packets, link, idleCycles, stats, hOwn, hEnded, -, hRoom, hFault, hv⟩ := pass_transmit h
    constructor
    case late => rfl
    all_goals rw [hv]
    · exact hOwn
    · exact hEnded
    · intro other hOther
      cases other with
      | transmit => exact absurd rfl hOther
      | deferred | engine => exact ⟨rfl, rfl⟩
    · exact fun _ => rfl
    · exact hRoom
    · exact hFault

/-- A transmit task in the middle of a pass goes on as long as a packet may still come. -/
theorem taking_pass_transmit (h : ending.Sound) (hLate : ending.late .transmit = true)
    (hOpen : ending.node.packets.finished = false) :
    taking (ending.pass .transmit).node .transmit = true := by
  obtain ⟨packets, link, idleCycles, stats, -, -, hStays, -, -, hv⟩ := pass_transmit h
  rw [hv]
  exact hStays hLate hOpen

theorem Sound.pass (h : ending.Sound) (task : Task) : (ending.pass task).Sound := by
  have hPassed := passed h task
  refine ⟨hPassed.running.trans h.stopped, ?_, ?_⟩
  · intro other hLate
    rw [hPassed.late] at hLate
    have hOther : other ≠ task := by
      rintro rfl
      rw [Function.update_self] at hLate
      cases hLate
    rw [Function.update_of_ne hOther] at hLate
    exact (hPassed.others other hOther).2.trans (h.present other hLate)
  · rw [hPassed.fault]
    exact h.link

theorem run_append (ending : Ending Timer Input Store) (earlier later : List Task) :
    ending.run (earlier ++ later) = (ending.run earlier).run later :=
  List.foldl_append

theorem Sound.run (h : ending.Sound) (order : List Task) : (ending.run order).Sound := by
  induction order generalizing ending with
  | nil => exact h
  | cons task rest ih => exact ih (h.pass task)

/-- A task takes one item more at most. -/
theorem waiting_le_run (h : ending.Sound) (order : List Task) (task : Task) :
    waiting ending.node task ≤ waiting (ending.run order).node task + (ending.late task).toNat := by
  induction order generalizing ending with
  | nil => exact Nat.le_add_right _ _
  | cons first rest ih =>
    have hPassed := passed h first
    have hRest := ih (h.pass first)
    rw [hPassed.late] at hRest
    by_cases hTask : task = first
    · rw [hTask, Function.update_self, hPassed.own, Bool.toNat_false] at hRest
      rw [hTask]
      exact Nat.le_add_of_sub_le hRest
    · rw [Function.update_of_ne hTask, (hPassed.others task hTask).1] at hRest
      exact Nat.le_trans (Nat.le_add_right _ _) hRest

/-- A task ends at the first pass that looks at the flag after it fell. -/
theorem taking_run (h : ending.Sound) {order : List Task} {task : Task}
    (hOrder : taking ending.node task = false ∨ (ending.late task).toNat < order.count task) :
    taking (ending.run order).node task = false := by
  induction order generalizing ending with
  | nil => exact hOrder.resolve_right (Nat.not_lt_zero _)
  | cons first rest ih =>
    have hPassed := passed h first
    refine ih (h.pass first) ?_
    rw [hPassed.late]
    by_cases hTask : task = first
    · subst hTask
      rw [Function.update_self]
      cases hLate : ending.late task with
      | false => exact .inl (hPassed.ended hLate)
      | true =>
        have hCount := hOrder.resolve_left (by simp [h.present task hLate])
        rw [hLate, List.count_cons_self] at hCount
        exact .inr (Nat.lt_of_succ_lt_succ hCount)
    · rw [Function.update_of_ne hTask, (hPassed.others task hTask).2]
      rwa [List.count_cons_of_ne (Ne.symm hTask)] at hOrder

/-- Every task can take all that waits for it in the pass it is in, and no packet comes of that. -/
structure Settled (ending : Ending Timer Input Store) : Prop where
  sound : ending.Sound
  enough : ∀ task, waiting ending.node task ≤ (ending.late task).toNat
  quiet : ending.node.samples.items = [] ∨ ending.node.state.flags.engineMode = .calibrating ∨
    ending.node.packets.room = 0

omit [AlarmTimer Timer] [ConfigStore Store] in
theorem Settled.made (h : ending.Settled) (task : Task) : ending.made task = 0 := by
  have hMakes : ending.node.makesPacket = false := by
    obtain hItems | hMode | hRoom := h.quiet
    · simp [Node.makesPacket, hItems]
    · simp [Node.makesPacket, hMode]
    · simp [Node.makesPacket, Queue.accepts, hRoom]
  simp [Ending.made, hMakes]

theorem Settled.pass (h : ending.Settled) (task : Task) : (ending.pass task).Settled := by
  have hPassed := passed h.sound task
  have hEnough (other : Task) :
      waiting (ending.pass task).node other ≤ ((ending.pass task).late other).toNat := by
    rw [hPassed.late]
    by_cases hOther : other = task
    · rw [hOther, hPassed.own]
      exact Nat.le_trans (Nat.sub_le_of_le_add (by simpa using h.enough task)) (Nat.zero_le _)
    · rw [Function.update_of_ne hOther, (hPassed.others other hOther).1, h.made, ite_self]
      exact h.enough other
  refine ⟨h.sound.pass task, hEnough, ?_⟩
  rw [hPassed.room]
  by_cases hTask : task = .engine
  · subst hTask
    have hNone := hEnough .engine
    rw [hPassed.late, Function.update_self] at hNone
    exact .inl (List.eq_nil_of_length_eq_zero (Nat.le_zero.mp hNone))
  · rw [hPassed.mode hTask]
    refine h.quiet.imp_left fun hItems => List.eq_nil_of_length_eq_zero ?_
    have hSame := (hPassed.others .engine (Ne.symm hTask)).1
    simpa [waiting, hItems] using hSame

theorem Settled.run (h : ending.Settled) (order : List Task) : (ending.run order).Settled := by
  induction order generalizing ending with
  | nil => exact h
  | cons task rest ih => exact ih (h.pass task)

omit [AlarmTimer Timer] [ConfigStore Store] in
theorem Settled.drained (h : ending.Settled) (hOver : ending.Over) : ending.Drained := by
  intro task
  have hLate : ending.late task = false := by
    refine Bool.eq_false_iff.mpr fun hLate => ?_
    exact absurd (h.sound.present task hLate) (by simp [hOver task])
  have hEnough := h.enough task
  rw [hLate] at hEnough
  exact Nat.le_zero.mp hEnough

/-- Two passes of every task, whichever of them are late. -/
def closing : List Task :=
  [.deferred, .deferred, .engine, .engine, .transmit, .transmit]

theorem over_run (h : ending.Sound) {order : List Task} (hOrder : ∀ task, 2 ≤ order.count task) :
    (ending.run order).Over := by
  intro task
  exact taking_run h (.inr (Nat.lt_of_le_of_lt (Bool.toNat_le _) (hOrder task)))

omit [AlarmTimer Timer] [ConfigStore Store] in
theorem two_le_count_closing (task : Task) : 2 ≤ closing.count task := by
  cases task <;> decide

/-- A packet that the engine makes once the transmit task has made its last pass is left. -/
theorem not_drained_of_made (h : ending.Sound) (hLate : ending.late .transmit = false)
    (hMade : ending.made .engine ≠ 0) (order : List Task) :
    ¬(ending.run (.engine :: order)).Drained := by
  intro hDrained
  have hPassed := passed h .engine
  have hLe := waiting_le_run (h.pass .engine) order .transmit
  have hMore := (hPassed.others .transmit (by decide)).1
  have hNone : waiting ((ending.pass .engine).run order).node .transmit = 0 := hDrained .transmit
  have hLater : (ending.pass .engine).late .transmit = false := by
    rw [hPassed.late, Function.update_of_ne (by decide), hLate]
  rw [hMore, hNone, hLater, if_pos rfl] at hLe
  exact hMade (Nat.le_zero.mp (Nat.le_trans (Nat.le_add_left _ _) hLe))

omit [AlarmTimer Timer] [ConfigStore Store] in
/-- With room to spare and a taker, a frame that the engine makes a packet of adds to the packet queue. -/
theorem made_ne_zero (hLate : ending.late .engine = true) (hFrames : 0 < waiting ending.node .engine)
    (hMode : ending.node.state.flags.engineMode ≠ .calibrating)
    (hTaking : taking ending.node .transmit = true) (hNone : waiting ending.node .transmit = 0)
    (hRoom : ending.node.packets.room ≠ 0) : ending.made .engine ≠ 0 := by
  have hAccepts : ending.node.packets.accepts = true := by
    refine Bool.and_eq_true_iff.mpr ⟨hTaking, decide_eq_true ?_⟩
    rw [show ending.node.packets.items.length = 0 from hNone]
    exact Nat.pos_of_ne_zero hRoom
  have hItems : ending.node.samples.items ≠ [] := List.ne_nil_of_length_pos hFrames
  have hMakes : ending.node.makesPacket = true := by simp [Node.makesPacket, hItems, hMode, hAccepts]
  simp [made, hLate, hMakes]

end Ending

/-- All three tasks are at work, and the link takes none of them down. -/
structure AtWork {Timer Input Store : Type} (node : Node Timer Input Store) : Prop where
  takers : ∀ task, taking node task = true
  unfinished : node.packets.finished = false
  link : ∀ message, node.link.fault ≠ some (.crash message)

/-- A started node is at work. -/
theorem atWork_of_start {Timer Input Store : Type} [AlarmTimer Timer] [ConfigStore Store] {config : NodeConfig}
    {timer : Timer} {input : Input} {link : Link} {store : Store} {node : Node Timer Input Store}
    (h : (Node.start config timer input link store).value = .ok node)
    (hLink : ∀ message, link.fault ≠ some (.crash message)) : AtWork node := by
  obtain ⟨schedule, started, nodeId, percent, stored, engine, -, rfl⟩ := Node.eq_assemble_of_start h
  refine ⟨?_, rfl, hLink⟩
  intro task
  cases task <;> rfl

namespace Ending

variable {Timer Input Store : Type} {node : Node Timer Input Store} {late : Task → Bool}

theorem sound_start (h : AtWork node) : (start node late).Sound where
  stopped := rfl
  present task _ := by
    rw [← h.takers task]
    cases task <;> rfl
  link := h.link

@[simp] theorem waiting_start (task : Task) : waiting (start node late).node task = waiting node task := by
  cases task <;> rfl

variable [AlarmTimer Timer] [ConfigStore Store]

/-- Tasks that leave nothing behind in any order have no more than one item each to take, and then only in
a pass that had begun. -/
private theorem enough_of_drained (h : AtWork node)
    (hDrained : ∀ order, ((start node late).run order).Over → ((start node late).run order).Drained)
    (task : Task) : waiting node task ≤ (late task).toNat := by
  have hSound : (start node late).Sound := sound_start h
  have hLe := waiting_le_run hSound closing task
  rw [hDrained closing (over_run hSound two_le_count_closing) task, Nat.zero_add, waiting_start] at hLe
  exact hLe

/-- A transmit task with no more to do than the pass that it had begun can be done before the engine goes on. -/
private theorem exists_run_of_enough (h : AtWork node)
    (hEnough : waiting node .transmit ≤ (late .transmit).toNat) :
    ∃ order, ((start node late).run order).late .transmit = false ∧
      ((start node late).run order).late .engine = late .engine ∧
      taking ((start node late).run order).node .transmit = true ∧
      waiting ((start node late).run order).node .transmit = 0 ∧
      waiting ((start node late).run order).node .engine = waiting node .engine ∧
      ((start node late).run order).node.state.flags.engineMode = node.state.flags.engineMode ∧
      ((start node late).run order).node.packets.room = node.packets.room := by
  have hSound : (start node late).Sound := sound_start h
  cases hLate : late .transmit with
  | false =>
    rw [hLate] at hEnough
    exact ⟨[], hLate, rfl, h.takers .transmit, Nat.le_zero.mp hEnough, rfl, rfl, rfl⟩
  | true =>
    have hPassed := passed hSound .transmit
    refine ⟨[.transmit], ?_, ?_, taking_pass_transmit hSound hLate h.unfinished, ?_, ?_, ?_, hPassed.room⟩
    · exact (congrFun hPassed.late _).trans (Function.update_self _ _ _)
    · exact (congrFun hPassed.late _).trans (Function.update_of_ne (by decide) _ _)
    · exact hPassed.own.trans (Nat.sub_eq_zero_of_le hEnough)
    · exact (hPassed.others .engine (by decide)).1
    · exact hPassed.mode (by decide)

private theorem quiet_of_drained (h : AtWork node)
    (hDrained : ∀ order, ((start node late).run order).Over → ((start node late).run order).Drained) :
    node.samples.items = [] ∨ node.state.flags.engineMode = .calibrating ∨ node.packets.room = 0 := by
  have hEnough := enough_of_drained h hDrained
  refine or_iff_not_imp_left.mpr fun hItems => or_iff_not_imp_left.mpr fun hMode => ?_
  refine Decidable.not_not.mp fun hRoom => ?_
  have hFrames : 0 < waiting node .engine := List.length_pos_of_ne_nil hItems
  have hEngine : late .engine = true :=
    Bool.toNat_eq_one.mp (Nat.le_antisymm (Bool.toNat_le _) (Nat.le_trans hFrames (hEnough .engine)))
  obtain ⟨order, hLate, hEngineLate, hTaking, hNone, hSamples, hSame, hSpace⟩ :=
    exists_run_of_enough h (hEnough .transmit)
  have hSound := (sound_start h : (start node late).Sound).run order
  have hMade : ((start node late).run order).made .engine ≠ 0 :=
    made_ne_zero (hEngineLate.trans hEngine) (hSamples ▸ hFrames) (hSame ▸ hMode) hTaking hNone (hSpace ▸ hRoom)
  refine not_drained_of_made hSound hLate hMade closing ?_
  have hOver : (((start node late).run order).run (.engine :: closing)).Over :=
    over_run hSound fun task => by cases task <;> decide
  rw [← run_append] at hOver ⊢
  exact hDrained _ hOver

/-- However the tasks stand when the node is told to end, and whoever goes next, each of them ends with its
second pass. They leave nothing behind in every order exactly if no more waits for each than the one item
that it can take in a pass that had begun, and no packet comes of that. -/
theorem drained_iff (h : AtWork node) (late : Task → Bool) :
    (∀ order, (∀ task, 2 ≤ order.count task) → ((start node late).run order).Over) ∧
    ((∀ order, ((start node late).run order).Over → ((start node late).run order).Drained) ↔
      (∀ task, waiting node task ≤ (late task).toNat) ∧
      (node.samples.items = [] ∨ node.state.flags.engineMode = .calibrating ∨
        node.packets.room = 0)) := by
  refine ⟨fun order => over_run (sound_start h), ?_, ?_⟩
  · intro hDrained
    exact ⟨enough_of_drained h hDrained, quiet_of_drained h hDrained⟩
  · intro ⟨hEnough, hQuiet⟩ order hOver
    have hSettled : (start node late).Settled :=
      ⟨sound_start h, fun task => by rw [waiting_start]; exact hEnough task, hQuiet⟩
    exact (hSettled.run order).drained hOver

/-- A stop that meets no task in the middle of a pass has them make one pass each. -/
theorem value_stop (h : node.running = true) :
    node.stop.value = ((start node fun _ => false).run [.deferred, .engine, .transmit]).node := by
  rw [Node.stop, h]
  rfl

/-- Such a stop takes nothing off any queue. -/
theorem waiting_stop (node : Node Timer Input Store) (task : Task) :
    waiting node.stop.value task = waiting node task := by
  rw [Node.stop]
  split
  · rfl
  · simp only [Traced.value_bind, Traced.value_pure]
    rw [Node.deferredTurn_of_stopped rfl]
    obtain ⟨samples, packets, hSamples, -, hPackets, -, -, hv⟩ := Node.engineTurn_of_stopped
      (show { node.requestStop with events := node.requestStop.events.close }.running = false from rfl)
    rw [hv, Node.transmitTurn_of_stopped rfl]
    cases task with
    | deferred => rfl
    | engine => exact congrArg List.length hSamples
    | transmit => exact congrArg List.length hPackets

/-- A node with an event, two frames and a packet in its queues. -/
def loaded : Node RecordingTimer ScriptedInput MemoryStore :=
  { Session.trial with
    events := { capacity := 10, items := [.debugDump] }
    samples := { capacity := 10, items := [Session.level 1000, Session.level 2000] }
    packets := { capacity := 10, items := [keepalivePayload] } }

/-- An event and a packet are taken if their tasks have begun to, and there is no frame. -/
theorem drained_of_late :
    AtWork { loaded with samples := { capacity := 10 } } ∧
      ∀ order, ((start { loaded with samples := { capacity := 10 } } fun _ => true).run order).Over →
        ((start { loaded with samples := { capacity := 10 } } fun _ => true).run order).Drained := by
  have hWork : AtWork { loaded with samples := { capacity := 10 } } :=
    ⟨fun task => by cases task <;> rfl, rfl, fun _ => nofun⟩
  refine ⟨hWork, (drained_iff hWork fun _ => true).2.mpr ⟨?_, .inl rfl⟩⟩
  intro task
  cases task <;> decide

/-- With no task in the middle of a pass, all of them end and every item is left where it was. -/
theorem left_waiting :
    ((start loaded fun _ => false).run [.deferred, .engine, .transmit]).Over ∧
      waiting ((start loaded fun _ => false).run [.deferred, .engine, .transmit]).node .deferred = 1 ∧
      waiting ((start loaded fun _ => false).run [.deferred, .engine, .transmit]).node .engine = 2 ∧
      waiting ((start loaded fun _ => false).run [.deferred, .engine, .transmit]).node .transmit = 1 :=
  ⟨fun task => by cases task <;> rfl, rfl, rfl, rfl⟩

end Ending

end Telemetry.Shutdown
