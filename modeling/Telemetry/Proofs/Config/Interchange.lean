import Telemetry.Proofs.Config.Loaded
import Telemetry.Proofs.Config.Reopened
import Telemetry.Proofs.Config.Writing

/-! A memory store and a store in a file do each other's work: as long as writes work on both or on neither, no
calls tell one from the other. -/
namespace Telemetry

/-- How a write ended, whichever store it went to. -/
inductive WriteOutcome where
  | done
  | outOfRange (label : String) (value maximum : UInt16)
  /-- The store could not be written. -/
  | failed
  deriving DecidableEq, Repr

def WriteOutcome.of : Except StoreError Unit → WriteOutcome
  | .ok () => .done
  | .error (.outOfRange label value maximum) => .outOfRange label value maximum
  | .error _ => .failed

theorem WriteOutcome.of_error {error : StoreError}
    (h : ∀ label value maximum, error ≠ .outOfRange label value maximum) : of (.error error) = .failed := by
  cases error with
  | outOfRange label value maximum => exact absurd rfl (h label value maximum)
  | io | notJson | readOnly => rfl

theorem WriteOutcome.of_eq_done_iff (result : Except StoreError Unit) : of result = .done ↔ result.isOk = true := by
  cases result with
  | ok => exact ⟨fun _ => rfl, fun _ => rfl⟩
  | error error => cases error <;> exact ⟨nofun, nofun⟩

theorem Calibration.saveAll_cons {Store : Type} [ConfigStore Store] (store : Store) (write : ConfigKey × UInt16)
    (rest : List (ConfigKey × UInt16)) :
    (saveAll store (write :: rest)).value =
      let first := ConfigStore.set store write.1 write.2
      let later := (saveAll first.2 rest).value
      (later.1 + if first.1.isOk then 0 else 1, later.2) := by
  rw [saveAll]
  split
  · rename_i hSet
    rw [hSet]
    rfl
  · rename_i hSet
    rw [hSet]
    rfl

theorem MemoryStore.get_ofEntries {entries : List (ConfigKey × UInt16)} (hKeys : (entries.map Prod.fst).Nodup)
    (key : ConfigKey) : (ofEntries entries).get key = entries.lookup key :=
  Entries.read_foldl_of_nodup get (fun store entry other => get_insert store entry.1 other entry.2)
    (fun _ => rfl) hKeys key

namespace FileStore

/-- A file's text that is an object with some entries by label, in any order and however it is laid out. -/
def Holds (text : String) (entries : List (ConfigKey × UInt16)) : Prop :=
  ∃ members listed, Json.parse text = some (.object members) ∧ members.mapM readMember = some listed ∧
    listed.Perm (entries.map fun entry => (entry.1.label, entry.2))

theorem holds_render {listed : List (String × UInt16)} {entries : List (ConfigKey × UInt16)}
    (h : listed.Perm (entries.map fun entry => (entry.1.label, entry.2))) : Holds (render listed) entries :=
  ⟨_, listed, parse_object_render listed, mapM_readMember listed, h⟩

theorem lookup_insertAll {listed : List (String × UInt16)} (hLabels : (listed.map Prod.fst).Nodup)
    (label : String) : (insertAll [] listed).lookup label = listed.lookup label :=
  Entries.read_foldl_of_nodup (fun values label => values.lookup label)
    (fun values entry other => lookup_insertLabel entry.1 other entry.2 values) (fun _ => rfl) hLabels label

/-- A file with some entries, each key once, is opened as a store of these entries. -/
theorem get_of_holds {entries : List (ConfigKey × UInt16)} (hKeys : (entries.map Prod.fst).Nodup)
    {path text : String} {disk : Disk} (hText : disk.readText path = .ok text) (hHolds : Holds text entries) :
    ∃ file, load path disk = .ok file ∧ ∀ key, file.get key = entries.lookup key := by
  obtain ⟨members, listed, hObject, hMembers, hListed⟩ := hHolds
  have hParse : parse text = some (insertAll [] listed) := by
    rw [parse_of_object hObject, hMembers]
    rfl
  have hLabels : ((entries.map fun entry => (entry.1.label, entry.2)).map Prod.fst).Nodup := by
    have hMapped := hKeys.map ConfigKey.label_injective
    rw [List.map_map] at hMapped ⊢
    exact hMapped
  refine ⟨⟨path, insertAll [] listed, disk⟩, load_eq_ok_iff.mpr ⟨rfl, rfl, .inr ⟨text, hText, hParse⟩⟩, ?_⟩
  intro key
  rw [get, lookup_insertAll ((hListed.map Prod.fst).nodup_iff.mpr hLabels),
    ← Entries.lookup_of_perm hListed.symm hLabels,
    Entries.lookup_map_of_injective fun _ _ => @ConfigKey.label_injective _ _]

end FileStore

namespace ConfigStore

variable {Store Other : Type} [ConfigStore Store] [ConfigStore Other]

/-- Two stores with the same content, and writes that work on both or on neither. -/
structure Paired (left : Store) (right : Other) : Prop where
  content : ∀ key, get right key = get left key
  writes : Writable left ∧ Writable right ∨ Unwritable left ∧ Unwritable right

namespace Paired

variable [LawfulStore Store] [LawfulStore Other] [RangeFirst Store] [RangeFirst Other] {left : Store} {right : Other}

/-- A write ends alike on both stores, and leaves them a pair. -/
theorem set (h : Paired left right) (key : ConfigKey) (value : UInt16) :
    WriteOutcome.of (ConfigStore.set right key value).1 = WriteOutcome.of (ConfigStore.set left key value).1 ∧
      Paired (ConfigStore.set left key value).2 (ConfigStore.set right key value).2 := by
  by_cases hFits : value ≤ key.maximum
  · obtain ⟨hLeft, hRight⟩ | ⟨hLeft, hRight⟩ := h.writes
    · obtain ⟨leftWritten, hSetLeft, hLeftWritable⟩ := hLeft.set_ok hFits
      obtain ⟨rightWritten, hSetRight, hRightWritable⟩ := hRight.set_ok hFits
      rw [hSetLeft, hSetRight]
      refine ⟨rfl, fun other => ?_, .inl ⟨hLeftWritable, hRightWritable⟩⟩
      rw [LawfulStore.get_written other hSetLeft, LawfulStore.get_written other hSetRight, h.content]
    · obtain ⟨leftError, leftStays, hSetLeft, hLeftUnwritable⟩ := hLeft.set_error hFits
      obtain ⟨rightError, rightStays, hSetRight, hRightUnwritable⟩ := hRight.set_error hFits
      rw [hSetLeft, hSetRight, WriteOutcome.of_error (RangeFirst.error_of_fit hFits hSetLeft),
        WriteOutcome.of_error (RangeFirst.error_of_fit hFits hSetRight)]
      refine ⟨rfl, fun other => ?_, .inr ⟨hLeftUnwritable, hRightUnwritable⟩⟩
      rw [LawfulStore.get_refused other hSetLeft, LawfulStore.get_refused other hSetRight, h.content]
  · have hUnfit : key.check value = .error (.outOfRange key.label value key.maximum) := if_neg hFits
    rw [RangeFirst.set_of_unfit hUnfit, RangeFirst.set_of_unfit hUnfit]
    exact ⟨rfl, h⟩

theorem loadOrDefault (h : Paired left right) (key : ConfigKey) (default : UInt16) :
    Paired (loadOrDefault left key default).value.2 (loadOrDefault right key default).value.2 := by
  cases hValue : get left key with
  | some value =>
    rw [loadOrDefault_of_some hValue, loadOrDefault_of_some ((h.content key).trans hValue)]
    exact h
  | none =>
    rw [snd_loadOrDefault_of_none hValue, snd_loadOrDefault_of_none ((h.content key).trans hValue)]
    exact (h.set key default).2

theorem loadNodeId (h : Paired left right) :
    Paired (loadNodeId left).value.2 (loadNodeId right).value.2 := by
  rw [value_loadNodeId, value_loadNodeId]
  exact h.loadOrDefault _ _

theorem loadThresholdPercent (h : Paired left right) :
    Paired (loadThresholdPercent left).value.2 (loadThresholdPercent right).value.2 := by
  rw [value_loadThresholdPercent, value_loadThresholdPercent]
  exact h.loadOrDefault _ _

theorem loadChannel (h : Paired left right) (channel : Nat) :
    Paired (Calibration.loadChannel left channel).value.2 (Calibration.loadChannel right channel).value.2 :=
  ((h.loadOrDefault _ _).loadOrDefault _ _).loadOrDefault _ _

theorem loadCalibration (h : Paired left right) :
    Paired (Calibration.load left).value.2 (Calibration.load right).value.2 :=
  (((h.loadChannel 0).loadChannel 1).loadChannel 2).loadChannel 3

/-- A run of writes fails as often on both stores. -/
theorem saveAll (h : Paired left right) (writes : List (ConfigKey × UInt16)) :
    (Calibration.saveAll right writes).value.1 = (Calibration.saveAll left writes).value.1 ∧
      Paired (Calibration.saveAll left writes).value.2 (Calibration.saveAll right writes).value.2 := by
  induction writes generalizing left right with
  | nil => exact ⟨rfl, h⟩
  | cons write rest ih =>
    obtain ⟨hOutcome, hNext⟩ := h.set write.1 write.2
    obtain ⟨hFailures, hLast⟩ := ih hNext
    have hOk : (ConfigStore.set right write.1 write.2).1.isOk = (ConfigStore.set left write.1 write.2).1.isOk := by
      rw [Bool.eq_iff_iff, ← WriteOutcome.of_eq_done_iff, ← WriteOutcome.of_eq_done_iff, hOutcome]
    rw [Calibration.saveAll_cons, Calibration.saveAll_cons]
    dsimp only
    rw [hFailures, hOk]
    exact ⟨rfl, hLast⟩

end Paired

end ConfigStore

/-- What may be asked of a store. -/
inductive StoreCall where
  | get (key : ConfigKey)
  | set (key : ConfigKey) (value : UInt16)
  | loadOrDefault (key : ConfigKey) (default : UInt16)
  | loadNodeId
  | loadThresholdPercent
  | loadCalibration
  | persist (calibration : Calibration)

inductive StoreAnswer where
  | stored (value : Option UInt16)
  | written (outcome : WriteOutcome)
  | value (value : UInt16)
  | byte (value : UInt8)
  | calibration (calibration : Calibration)
  /-- Number of writes that failed. -/
  | failures (count : Nat)
  deriving DecidableEq

namespace StoreCall

variable {Store Other : Type} [ConfigStore Store] [ConfigStore Other]

/-- The answer to a call, and the store it leaves. -/
def answer (store : Store) : StoreCall → StoreAnswer × Store
  | .get key => (.stored (ConfigStore.get store key), store)
  | .set key value =>
    let (result, left) := ConfigStore.set store key value
    (.written (.of result), left)
  | .loadOrDefault key default =>
    let (value, left) := (ConfigStore.loadOrDefault store key default).value
    (.value value, left)
  | .loadNodeId =>
    let (nodeId, left) := (ConfigStore.loadNodeId store).value
    (.byte nodeId, left)
  | .loadThresholdPercent =>
    let (percent, left) := (ConfigStore.loadThresholdPercent store).value
    (.byte percent, left)
  | .loadCalibration =>
    let (calibration, left) := (Calibration.load store).value
    (.calibration calibration, left)
  | .persist calibration =>
    let (failures, left) := (calibration.persist store).value
    (.failures failures, left)

variable [LawfulStore Store] [LawfulStore Other] [RangeFirst Store] [RangeFirst Other]

/-- A pair of stores gives the same answer to a call, and stays a pair. -/
theorem answer_of_paired {left : Store} {right : Other} (h : ConfigStore.Paired left right) (call : StoreCall) :
    (call.answer right).1 = (call.answer left).1 ∧
      ConfigStore.Paired (call.answer left).2 (call.answer right).2 := by
  have hContent : ConfigStore.get right = ConfigStore.get left := funext h.content
  cases call with
  | get key => exact ⟨congrArg StoreAnswer.stored (h.content key), h⟩
  | set key value =>
    obtain ⟨hOutcome, hNext⟩ := h.set key value
    exact ⟨congrArg StoreAnswer.written hOutcome, hNext⟩
  | loadOrDefault key default =>
    have hValue : (ConfigStore.loadOrDefault right key default).value.1 =
        (ConfigStore.loadOrDefault left key default).value.1 := by
      rw [ConfigStore.fst_loadOrDefault, ConfigStore.fst_loadOrDefault, hContent]
    exact ⟨congrArg StoreAnswer.value hValue, h.loadOrDefault key default⟩
  | loadNodeId =>
    have hNodeId : (ConfigStore.loadNodeId right).value.1 = (ConfigStore.loadNodeId left).value.1 := by
      rw [ConfigStore.fst_loadNodeId, ConfigStore.fst_loadNodeId, hContent]
    exact ⟨congrArg StoreAnswer.byte hNodeId, h.loadNodeId⟩
  | loadThresholdPercent =>
    have hPercent : (ConfigStore.loadThresholdPercent right).value.1 =
        (ConfigStore.loadThresholdPercent left).value.1 := by
      rw [ConfigStore.fst_loadThresholdPercent, ConfigStore.fst_loadThresholdPercent, hContent]
    exact ⟨congrArg StoreAnswer.byte hPercent, h.loadThresholdPercent⟩
  | loadCalibration =>
    have hCalibration : (Calibration.load right).value.1 = (Calibration.load left).value.1 := by
      rw [Calibration.fst_load, Calibration.fst_load, hContent]
    exact ⟨congrArg StoreAnswer.calibration hCalibration, h.loadCalibration⟩
  | persist calibration =>
    obtain ⟨hFailures, hNext⟩ := h.saveAll calibration.entries
    exact ⟨congrArg StoreAnswer.failures hFailures, hNext⟩

end StoreCall

/-! What every write keeps, every call keeps. -/

section Keeping

variable {Store : Type} [ConfigStore Store] {P : Store → Prop}
  (hSet : ∀ store key value, P store → P (ConfigStore.set store key value).2) {store : Store} (h : P store)
include hSet h

theorem ConfigStore.loadOrDefault_keeps (key : ConfigKey) (default : UInt16) :
    P (loadOrDefault store key default).value.2 := by
  cases hValue : get store key with
  | some value =>
    rw [loadOrDefault_of_some hValue]
    exact h
  | none =>
    rw [snd_loadOrDefault_of_none hValue]
    exact hSet store key default h

theorem Calibration.loadChannel_keeps (channel : Nat) : P (loadChannel store channel).value.2 := by
  have hMax := ConfigStore.loadOrDefault_keeps hSet h (.calibrationMax channel) 0
  have hMin := ConfigStore.loadOrDefault_keeps hSet hMax (.calibrationMin channel) 0xFFFF
  exact ConfigStore.loadOrDefault_keeps hSet hMin (.threshold channel) thresholdUnset

theorem Calibration.load_keeps : P (load store).value.2 := by
  have hFirst := loadChannel_keeps hSet h 0
  have hSecond := loadChannel_keeps hSet hFirst 1
  have hThird := loadChannel_keeps hSet hSecond 2
  exact loadChannel_keeps hSet hThird 3

theorem Calibration.saveAll_keeps (writes : List (ConfigKey × UInt16)) : P (saveAll store writes).value.2 := by
  induction writes generalizing store with
  | nil => exact h
  | cons write rest ih =>
    rw [saveAll_cons]
    exact ih (hSet store write.1 write.2 h)

theorem StoreCall.answer_keeps (call : StoreCall) : P (call.answer store).2 := by
  cases call with
  | get key => exact h
  | set key value => exact hSet store key value h
  | loadOrDefault key default => exact ConfigStore.loadOrDefault_keeps hSet h key default
  | loadNodeId =>
    rw [answer, ConfigStore.value_loadNodeId]
    exact ConfigStore.loadOrDefault_keeps hSet h _ _
  | loadThresholdPercent =>
    rw [answer, ConfigStore.value_loadThresholdPercent]
    exact ConfigStore.loadOrDefault_keeps hSet h _ _
  | loadCalibration => exact Calibration.load_keeps hSet h
  | persist calibration => exact Calibration.saveAll_keeps hSet h calibration.entries

end Keeping

/-- The same store with its file on another disk. -/
def FileStore.onDisk (store : FileStore) (disk : Disk) : FileStore :=
  { store with disk }

namespace Interchange

/-- A call, and what it meets: whether the memory store is read-only, and the disk that the file is on. -/
structure Step where
  readOnly : Bool
  disk : Disk
  call : StoreCall

def Step.onMemory (memory : MemoryStore) (step : Step) : StoreAnswer × MemoryStore :=
  step.call.answer { memory with readOnly := step.readOnly }

def Step.onFile (file : FileStore) (step : Step) : StoreAnswer × FileStore :=
  step.call.answer (file.onDisk step.disk)

/-- All answers, and the store in the end. -/
def run {Store : Type} (act : Store → Step → StoreAnswer × Store) :
    Store → List Step → List StoreAnswer × Store
  | store, [] => ([], store)
  | store, step :: rest =>
    let (answer, next) := act store step
    let (answers, last) := run act next rest
    (answer :: answers, last)

/-- At every step writes work on both stores, or fail on both: the memory store is read-only exactly where the
file cannot be written. -/
def Matched : FileStore → List Step → Prop
  | _, [] => True
  | file, step :: rest =>
    (if step.readOnly then ConfigStore.Unwritable (file.onDisk step.disk)
      else ConfigStore.Writable (file.onDisk step.disk)) ∧
    Matched (step.onFile file).2 rest

variable {memory : MemoryStore} {file : FileStore}

theorem step_agrees (hSame : ∀ key, file.get key = memory.get key) {step : Step}
    (hStep : if step.readOnly then ConfigStore.Unwritable (file.onDisk step.disk)
      else ConfigStore.Writable (file.onDisk step.disk)) :
    (step.onFile file).1 = (step.onMemory memory).1 ∧
      ∀ key, (step.onFile file).2.get key = (step.onMemory memory).2.get key := by
  have hPaired : ConfigStore.Paired { memory with readOnly := step.readOnly } (file.onDisk step.disk) := by
    refine ⟨hSame, ?_⟩
    split at hStep
    · rename_i hReadOnly
      exact .inr ⟨MemoryStore.unwritable_of_readOnly hReadOnly, hStep⟩
    · rename_i hOpen
      exact .inl ⟨MemoryStore.writable_of_not_readOnly (by simpa using hOpen), hStep⟩
  obtain ⟨hAnswer, hNext⟩ := step.call.answer_of_paired hPaired
  exact ⟨hAnswer, hNext.content⟩

theorem run_agrees (hSame : ∀ key, file.get key = memory.get key) {steps : List Step}
    (hSteps : Matched file steps) :
    (run Step.onFile file steps).1 = (run Step.onMemory memory steps).1 ∧
      ∀ key, (run Step.onFile file steps).2.get key = (run Step.onMemory memory steps).2.get key := by
  induction steps generalizing memory file with
  | nil => exact ⟨rfl, hSame⟩
  | cons step rest ih =>
    obtain ⟨hAnswer, hNext⟩ := step_agrees hSame hSteps.1
    obtain ⟨hAnswers, hLast⟩ := ih hNext hSteps.2
    exact ⟨congrArg₂ List.cons hAnswer hAnswers, hLast⟩

/-- Writes are matched if the disk is write-protected wherever the memory store is read-only, and the file can be
saved everywhere else. -/
theorem matched_of_disks {steps : List Step}
    (h : ∀ step ∈ steps, if step.readOnly then step.disk.writeProtected = true else step.disk.Saves file.path) :
    Matched file steps := by
  induction steps generalizing file with
  | nil => trivial
  | cons step rest ih =>
    obtain ⟨hStep, hRest⟩ := List.forall_mem_cons.mp h
    have hPath : (step.onFile file).2.path = file.path := by
      have hMoved : (file.onDisk step.disk).path = file.path := rfl
      exact StoreCall.answer_keeps (P := fun store : FileStore => store.path = file.path)
        (fun store key value hKept => (store.path_set key value).trans hKept) hMoved step.call
    refine ⟨?_, ih (hPath ▸ hRest)⟩
    split
    · rename_i hReadOnly
      rw [if_pos hReadOnly] at hStep
      exact FileStore.unwritable_of_writeProtected hStep
    · rename_i hOpen
      rw [if_neg hOpen] at hStep
      exact FileStore.writable_of_saves hStep

/-- Entries that each have a key of their own, put in a memory store and by label in a file: no calls tell the
two stores apart as long as writes work on both or on neither. -/
theorem stores_interchangeable {entries : List (ConfigKey × UInt16)} (hKeys : (entries.map Prod.fst).Nodup)
    {path text : String} {disk : Disk} (hText : disk.readText path = .ok text)
    (hHolds : FileStore.Holds text entries) :
    ∃ file, FileStore.load path disk = .ok file ∧
      ∀ steps, Matched file steps →
        (run Step.onFile file steps).1 = (run Step.onMemory (.ofEntries entries) steps).1 ∧
        ∀ key, (run Step.onFile file steps).2.get key =
          (run Step.onMemory (.ofEntries entries) steps).2.get key := by
  obtain ⟨file, hLoad, hContent⟩ := FileStore.get_of_holds hKeys hText hHolds
  refine ⟨file, hLoad, fun steps => run_agrees fun key => ?_⟩
  rw [hContent, MemoryStore.get_ofEntries hKeys]

/-- A node id that is no byte, a threshold of a channel that no node has, and the percentage. -/
def trialEntries : List (ConfigKey × UInt16) :=
  [(.nodeId, 300), (.threshold 70, 5), (.thresholdPercent, 40)]

/-- The same by label, in another order. -/
def trialText : String :=
  FileStore.render [("threshold", 40), ("thresh70", 5), ("nodeid", 300)]

/-- Writes that work, one out of range, and some while nothing can be written. -/
def trialSteps : List Step :=
  [⟨false, FileStore.shelf "" false, .loadNodeId⟩,
    ⟨false, FileStore.shelf "" false, .set .nodeId 9⟩,
    ⟨false, FileStore.shelf "" false, .set .thresholdPercent 101⟩,
    ⟨true, FileStore.shelf "" true, .set (.threshold 70) 6⟩,
    ⟨true, FileStore.shelf "" true, .persist .reset⟩,
    ⟨false, FileStore.shelf "" false, .loadCalibration⟩,
    ⟨true, FileStore.shelf "" true, .get (.calibrationMin 3)⟩,
    ⟨true, FileStore.shelf "" true, .loadNodeId⟩]

/-- Both stores answer alike, from the file's text on. -/
theorem stores_interchangeable_trial :
    (trialEntries.map Prod.fst).Nodup ∧ FileStore.Holds trialText trialEntries ∧
      ∃ file, FileStore.load "n" (FileStore.shelf trialText false) = .ok file ∧ Matched file trialSteps ∧
        (run Step.onFile file trialSteps).1 = [.byte defaultNodeId, .written .done,
          .written (.outOfRange "threshold" 101 100), .written .failed, .failures 12, .calibration .reset,
          .stored (some 65535), .byte 9] := by
  have hKeys : (trialEntries.map Prod.fst).Nodup := by decide
  have hHolds : FileStore.Holds trialText trialEntries := FileStore.holds_render (by decide +kernel)
  obtain ⟨file, hLoad, hAgrees⟩ := stores_interchangeable hKeys (FileStore.readText_shelf trialText false) hHolds
  have hPath : file.path = "n" := (FileStore.load_eq_ok_iff.mp hLoad).1
  have hSaves : (FileStore.shelf "" false).Saves "n" :=
    (Disk.saves_of_save (FileStore.save_shelf "" false "")).1
  have hMatched : Matched file trialSteps := by
    apply matched_of_disks
    rw [hPath]
    simpa [trialSteps, FileStore.shelf] using hSaves
  refine ⟨hKeys, hHolds, file, hLoad, hMatched, (hAgrees trialSteps hMatched).1.trans ?_⟩
  decide +kernel

end Interchange

end Telemetry
