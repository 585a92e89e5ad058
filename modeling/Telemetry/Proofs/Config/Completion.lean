import Telemetry.Proofs.Config.Interchange

/-! A node's loads complete its store. What they return are the stored values with defaults for the missing ones,
whether or not the store takes writes; one that does has every key afterwards, and further loads change nothing. -/
namespace Telemetry

/-- What a node uses for a key that its store has no value for. -/
def ConfigKey.default : ConfigKey → UInt16
  | nodeId => defaultNodeId.toUInt16
  | thresholdPercent => defaultThresholdPercent.toUInt16
  | calibrationMax _ => 0
  | calibrationMin _ => 0xFFFF
  | threshold _ => thresholdUnset

theorem ConfigKey.default_fits (key : ConfigKey) : key.default ≤ key.maximum := by
  cases key with
  | nodeId => decide
  | thresholdPercent => decide
  | calibrationMax | calibrationMin | threshold => exact Calibration.fits_channel _

namespace ConfigStore

variable {Store : Type} [ConfigStore Store]

/-- The stored value, or the default. -/
def valueOf (store : Store) (key : ConfigKey) : UInt16 :=
  (get store key).getD key.default

/-- The store once some keys were looked up, each with its default. -/
def fill (store : Store) (keys : List ConfigKey) : Store :=
  keys.foldl (fun store key => (loadOrDefault store key key.default).value.2) store

theorem fill_cons (store : Store) (key : ConfigKey) (rest : List ConfigKey) :
    fill store (key :: rest) = fill (loadOrDefault store key key.default).value.2 rest :=
  rfl

/-- Nothing is written for keys that have a value. -/
theorem fill_eq_self {store : Store} {keys : List ConfigKey} (h : ∀ key ∈ keys, (get store key).isSome) :
    fill store keys = store := by
  induction keys with
  | nil => rfl
  | cons key rest ih =>
    obtain ⟨hFirst, hRest⟩ := List.forall_mem_cons.mp h
    obtain ⟨value, hValue⟩ := Option.isSome_iff_exists.mp hFirst
    rw [fill_cons, loadOrDefault_of_some hValue]
    exact ih hRest

variable [LawfulStore Store]

/-- Whether or not a default is written, the value in use stays. -/
theorem valueOf_loadOrDefault (store : Store) (key : ConfigKey) :
    valueOf (loadOrDefault store key key.default).value.2 = valueOf store := by
  funext other
  obtain hSame | ⟨rfl, hMissing, hDefault⟩ := get_loadOrDefault store key key.default other
  · rw [valueOf, valueOf, hSame]
  · rw [valueOf, valueOf, hMissing, hDefault]
    rfl

theorem valueOf_fill (store : Store) (keys : List ConfigKey) : valueOf (fill store keys) = valueOf store := by
  induction keys generalizing store with
  | nil => rfl
  | cons key rest ih => rw [fill_cons, ih, valueOf_loadOrDefault]

theorem Writable.get_fill {store : Store} (h : Writable store) (keys : List ConfigKey) :
    Writable (fill store keys) ∧
      ∀ key, get (fill store keys) key = (get store key).or (if key ∈ keys then some key.default else none) := by
  induction keys generalizing store with
  | nil =>
    refine ⟨h, fun key => ?_⟩
    rw [if_neg List.not_mem_nil, Option.or_none]
    rfl
  | cons first rest ih =>
    obtain ⟨hWritable, -, hFirst⟩ := h.loadOrDefault first first.default first.default_fits
    obtain ⟨hLast, hGet⟩ := ih hWritable
    refine ⟨hLast, fun key => ?_⟩
    rw [fill_cons, hGet]
    by_cases hKey : key = first
    · subst hKey
      rw [hFirst, fst_loadOrDefault]
      cases hValue : get store key <;> simp
    · rw [get_loadOrDefault_of_ne store hKey]
      simp [hKey]

theorem Unwritable.get_fill {store : Store} (h : Unwritable store) (keys : List ConfigKey) :
    Unwritable (fill store keys) ∧ ∀ key, get (fill store keys) key = get store key := by
  induction keys generalizing store with
  | nil => exact ⟨h, fun _ => rfl⟩
  | cons first rest ih =>
    rw [fill_cons]
    cases hValue : get store first with
    | some value =>
      rw [loadOrDefault_of_some hValue]
      exact ih h
    | none =>
      obtain ⟨error, left, hSet, hLeft⟩ := h.set_error first.default_fits
      rw [snd_loadOrDefault_of_none hValue, hSet]
      obtain ⟨hLast, hGet⟩ := ih hLeft
      exact ⟨hLast, fun key => (hGet key).trans (LawfulStore.get_refused key hSet)⟩

end ConfigStore

open ConfigStore (Writable Unwritable valueOf fill)

/-- What a node loads from its store. -/
inductive Load where
  | calibration
  | nodeId
  | thresholdPercent
  deriving DecidableEq

namespace Load

def call : Load → StoreCall
  | calibration => .loadCalibration
  | nodeId => .loadNodeId
  | thresholdPercent => .loadThresholdPercent

/-- The keys that are looked up, in this order. -/
def keys : Load → List ConfigKey
  | calibration => (List.range channelCount).flatMap fun channel =>
    [.calibrationMax channel, .calibrationMin channel, .threshold channel]
  | nodeId => [.nodeId]
  | thresholdPercent => [.thresholdPercent]

/-- What some values, one for each key, are loaded as. -/
def answerOf (values : ConfigKey → UInt16) : Load → StoreAnswer
  | calibration => .calibration (.ofContent fun key => some (values key))
  | nodeId => .byte (ConfigStore.nodeIdOf (values .nodeId))
  | thresholdPercent => .byte (ConfigStore.percentOf (values .thresholdPercent))

/-- The keys of all loads together are those of a node. -/
theorem mem_ofNode_iff {key : ConfigKey} : key ∈ ConfigKey.ofNode ↔ ∃ load : Load, key ∈ load.keys := by
  constructor
  · intro h
    rcases List.mem_append.mp h with hOwn | hChannel
    · rcases List.mem_cons.mp hOwn with rfl | hPercent
      · exact ⟨nodeId, List.mem_singleton_self _⟩
      · exact ⟨thresholdPercent, hPercent⟩
    · exact ⟨calibration, hChannel⟩
  · rintro ⟨load, h⟩
    apply List.mem_append.mpr
    cases load with
    | calibration => exact .inr h
    | nodeId => exact .inl (List.mem_cons.mpr (.inl (List.mem_singleton.mp h)))
    | thresholdPercent => exact .inl (List.mem_cons_of_mem _ h)

variable {Store : Type} [ConfigStore Store]

/-- The answers to some loads, one after the other, and the store they leave. -/
def run (store : Store) : List Load → List StoreAnswer × Store
  | [] => ([], store)
  | load :: rest =>
    let (answer, next) := load.call.answer store
    let (answers, last) := run next rest
    (answer :: answers, last)

theorem snd_answer (store : Store) (load : Load) : (load.call.answer store).2 = fill store load.keys := by
  cases load with
  | calibration => rfl
  | nodeId =>
    rw [call, StoreCall.answer, ConfigStore.value_loadNodeId]
    rfl
  | thresholdPercent =>
    rw [call, StoreCall.answer, ConfigStore.value_loadThresholdPercent]
    rfl

theorem snd_run (store : Store) (loads : List Load) : (run store loads).2 = fill store (loads.flatMap keys) := by
  induction loads generalizing store with
  | nil => rfl
  | cons load rest ih =>
    have hNext : (run store (load :: rest)).2 = (run (load.call.answer store).2 rest).2 := rfl
    rw [hNext, ih, snd_answer, List.flatMap_cons, fill, fill, fill, List.foldl_append]

variable [LawfulStore Store]

theorem fst_answer (store : Store) (load : Load) :
    (load.call.answer store).1 = load.answerOf (valueOf store) := by
  cases load with
  | calibration => exact congrArg StoreAnswer.calibration (Calibration.fst_load store)
  | nodeId => exact congrArg StoreAnswer.byte (ConfigStore.fst_loadNodeId store)
  | thresholdPercent => exact congrArg StoreAnswer.byte (ConfigStore.fst_loadThresholdPercent store)

theorem fst_run (store : Store) (loads : List Load) :
    (run store loads).1 = loads.map (·.answerOf (valueOf store)) := by
  induction loads generalizing store with
  | nil => rfl
  | cons load rest ih =>
    have hNext : (run store (load :: rest)).1 = (load.call.answer store).1 :: (run (load.call.answer store).2 rest).1 :=
      rfl
    rw [hNext, fst_answer, ih, snd_answer, ConfigStore.valueOf_fill, List.map_cons]

/-- The loads of a node return what its stored values and the defaults give, whatever store has these values and
whether or not it takes writes. After all of them, in any order, a writable store has a value for every key of a
node, the old one if there was one and else the default, and no other key has changed; further loads return the
same and leave the store as it is. A store that refuses writes keeps its content. -/
theorem loading_completes (store : Store) (loads : List Load) :
    (run store loads).1 = loads.map (·.answerOf (valueOf store)) ∧
    (∀ {Other : Type} [ConfigStore Other] [LawfulStore Other] (other : Other),
      (∀ key, ConfigStore.get other key = ConfigStore.get store key) →
        (run other loads).1 = (run store loads).1) ∧
    (Writable store → (∀ load, load ∈ loads) →
      let completed := (run store loads).2
      (∀ key, ConfigStore.get completed key =
        (ConfigStore.get store key).or (if key ∈ ConfigKey.ofNode then some key.default else none)) ∧
      ∀ again, run completed again = (again.map (·.answerOf (valueOf store)), completed)) ∧
    (Unwritable store → ∀ key, ConfigStore.get (run store loads).2 key = ConfigStore.get store key) := by
  refine ⟨fst_run store loads, ?_, ?_, ?_⟩
  · intro Other _ _ other hContent
    have hValues : valueOf other = valueOf store := by
      funext key
      rw [valueOf, valueOf, hContent]
    rw [fst_run, fst_run, hValues]
  · intro hWritable hAll completed
    have hKeys (key : ConfigKey) : key ∈ loads.flatMap keys ↔ key ∈ ConfigKey.ofNode := by
      simp [mem_ofNode_iff, hAll]
    have hGet (key : ConfigKey) : ConfigStore.get completed key =
        (ConfigStore.get store key).or (if key ∈ ConfigKey.ofNode then some key.default else none) := by
      rw [← if_congr (hKeys key) rfl rfl, ← (hWritable.get_fill _).2, ← snd_run]
    refine ⟨hGet, fun again => Prod.ext ?_ ?_⟩
    · rw [fst_run, ← ConfigStore.valueOf_fill store, ← snd_run]
    · rw [snd_run]
      apply ConfigStore.fill_eq_self
      intro key hKey
      obtain ⟨load, -, hLoad⟩ := List.mem_flatMap.mp hKey
      rw [hGet, if_pos (mem_ofNode_iff.mpr ⟨load, hLoad⟩)]
      cases ConfigStore.get store key <;> rfl
  · intro hUnwritable key
    rw [snd_run]
    exact (hUnwritable.get_fill _).2 key

/-- Values out of range, one of a channel, and one that no node uses. -/
def partialEntries : List (ConfigKey × UInt16) :=
  [(.nodeId, 300), (.thresholdPercent, 101), (.calibrationMax 1, 7), (.calibrationMin 9, 3)]

/-- The same values in a store that takes writes and in one that does not. -/
theorem loading_completes_trial :
    let store : MemoryStore := { entries := partialEntries }
    let locked : MemoryStore := { entries := partialEntries, readOnly := true }
    let loads := [nodeId, calibration, thresholdPercent]
    Writable store ∧ Unwritable locked ∧ (∀ load, load ∈ loads) ∧
      (run locked loads).1 = (run store loads).1 ∧
      (run store loads).2.get .nodeId = some 300 ∧ (run store loads).2.get (.calibrationMin 1) = some 65535 ∧
      run (run store loads).2 [thresholdPercent] = ([.byte 100], (run store loads).2) ∧
      (run locked loads).2.get (.calibrationMin 1) = none := by
  intro store locked loads
  have hWritable : Writable store := MemoryStore.writable_of_not_readOnly rfl
  have hUnwritable : Unwritable locked := MemoryStore.unwritable_of_readOnly rfl
  have hAll : ∀ load, load ∈ loads := by
    intro load
    cases load <;> decide
  obtain ⟨-, hSame, hCompletes, -⟩ := loading_completes store loads
  obtain ⟨-, -, -, hKeeps⟩ := loading_completes locked loads
  obtain ⟨hGet, hAgain⟩ := hCompletes hWritable hAll
  exact ⟨hWritable, hUnwritable, hAll, hSame locked fun _ => rfl, hGet .nodeId, hGet (.calibrationMin 1),
    hAgain [thresholdPercent], hKeeps hUnwritable (.calibrationMin 1)⟩

end Load

end Telemetry
