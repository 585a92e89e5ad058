import Telemetry.Proofs.Config.Rendered
import Telemetry.Proofs.Files.Disk

/-! A file store and its file stay in step: whatever is set, whether or not writing the file fails, opening the
file again gives the store as it stands. -/
namespace Telemetry.FileStore

/-- What reading the store's file gives. -/
def file (store : FileStore) : Except DiskError String :=
  store.disk.readText store.path

/-- Opening the file again gives this very store. -/
def InStep (store : FileStore) : Prop :=
  load store.path store.disk = .ok store

/-- A call, or a change of the disk around the file that may make later writes fail. -/
inductive Action where
  | set (key : ConfigKey) (value : UInt16)
  | elsewhere (disk : Disk)

def step (store : FileStore) : Action → FileStore
  | .set key value => (store.set key value).2
  | .elsewhere disk => { store with disk }

def run (store : FileStore) (actions : List Action) : FileStore :=
  actions.foldl step store

/-- Nobody else touches the file, and no write that fails puts anything where there is no file. -/
def Action.Leaves (store : FileStore) : Action → Prop
  | .set key value => file store = .error .notFound → (store.set key value).1.isOk = false →
      file (store.set key value).2 = .error .notFound
  | .elsewhere disk => disk.readText store.path = file store

/-- Every step of the run leaves the file to the store. -/
def Undisturbed : FileStore → List Action → Prop
  | _, [] => True
  | store, action :: rest => action.Leaves store ∧ Undisturbed (step store action) rest

variable {store : FileStore}

theorem load_eq_ok_iff {path : String} {disk : Disk} : load path disk = .ok store ↔
    store.path = path ∧ store.disk = disk ∧
      (disk.readText path = .error .notFound ∧ store.values = [] ∨
        ∃ text, disk.readText path = .ok text ∧ parse text = some store.values) := by
  obtain ⟨held, values, around⟩ := store
  rw [load]
  cases hRead : disk.readText path with
  | error error =>
    by_cases hMissing : error = .notFound
    · subst hMissing
      simp [eq_comm, and_comm]
    · simp [hMissing]
  | ok text =>
    cases hParse : parse text with
    | none => simp [hParse]
    | some found => simp [hParse, eq_comm, and_comm]

theorem InStep.of_load {path : String} {disk : Disk} (h : load path disk = .ok store) : InStep store := by
  obtain ⟨rfl, rfl, -⟩ := load_eq_ok_iff.mp h
  exact h

theorem inStep_iff : InStep store ↔ file store = .error .notFound ∧ store.values = [] ∨
    ∃ text, file store = .ok text ∧ parse text = some store.values := by
  rw [InStep, load_eq_ok_iff, file]
  simp only [true_and]

theorem InStep.ascending (h : InStep store) : Ascending store.values := by
  obtain ⟨-, hEmpty⟩ | ⟨text, -, hText⟩ := inStep_iff.mp h
  · rw [hEmpty]
    exact List.Pairwise.nil
  · exact .of_parse hText

theorem InStep.congr {other : FileStore} (h : InStep store) (hFile : file other = file store)
    (hValues : other.values = store.values) : InStep other := by
  rw [inStep_iff, hFile, hValues]
  exact inStep_iff.mp h

/-- A call is refused out of hand, or the new values are saved, or saving them fails and the old one is put back. -/
theorem set_cases (store : FileStore) (key : ConfigKey) (value : UInt16) :
    (∃ error, store.set key value = (.error error, store)) ∨
    (∃ disk, store.disk.save store.path (.text (render (insertLabel key.label value store.values))) = (.ok (), disk) ∧
      store.set key value =
        (.ok (), { store with values := insertLabel key.label value store.values, disk })) ∨
    ∃ error disk,
      store.disk.save store.path (.text (render (insertLabel key.label value store.values))) = (.error error, disk) ∧
      store.set key value = (.error (.io error.message), { store with
        values := putBack key.label (store.values.lookup key.label) (insertLabel key.label value store.values)
        disk }) := by
  rw [set]
  split
  · exact .inl ⟨_, rfl⟩
  · dsimp only
    split
    · rename_i disk hSave
      exact .inr (.inl ⟨disk, hSave, rfl⟩)
    · rename_i error disk hSave
      exact .inr (.inr ⟨error, disk, hSave, rfl⟩)

/-- A call that succeeds puts into the file what the store then holds. -/
theorem file_of_set_ok {key : ConfigKey} {value : UInt16} (h : (store.set key value).1 = .ok ()) :
    (store.set key value).2.values = insertLabel key.label value store.values ∧
      file (store.set key value).2 = .ok (render (insertLabel key.label value store.values)) := by
  obtain ⟨error, hv⟩ | ⟨disk, hSave, hv⟩ | ⟨error, disk, hSave, hv⟩ := store.set_cases key value
  · rw [hv] at h
    cases h
  · rw [hv]
    exact ⟨rfl, Disk.readText_of_save hSave⟩
  · rw [hv] at h
    cases h

/-- A call that fails leaves every value as it was. -/
theorem values_of_set_error (hAscending : Ascending store.values) {key : ConfigKey} {value : UInt16}
    {error : StoreError} (h : (store.set key value).1 = .error error) :
    (store.set key value).2.values = store.values := by
  obtain ⟨error, hv⟩ | ⟨disk, -, hv⟩ | ⟨error, disk, -, hv⟩ := store.set_cases key value
  · rw [hv]
  · rw [hv] at h
    cases h
  · rw [hv]
    exact hAscending.putBack_insertLabel key.label value

/-- A call that fails changes no file that is there. -/
theorem file_of_set_error {key : ConfigKey} {value : UInt16} {error : StoreError} {text : String}
    (hText : file store = .ok text) (h : (store.set key value).1 = .error error) :
    file (store.set key value).2 = .ok text := by
  obtain ⟨error, hv⟩ | ⟨disk, -, hv⟩ | ⟨error, disk, hSave, hv⟩ := store.set_cases key value
  · rw [hv]
    exact hText
  · rw [hv] at h
    cases h
  · rw [hv]
    exact Disk.readText_of_save_error hText hSave

/-- A call that fails leaves the file as it was, there or not. -/
theorem InStep.file_of_error (h : InStep store) {key : ConfigKey} {value : UInt16} {error : StoreError}
    (hError : (store.set key value).1 = .error error) (hLeaves : (Action.set key value).Leaves store) :
    file (store.set key value).2 = file store := by
  obtain ⟨hMissing, -⟩ | ⟨text, hText, -⟩ := inStep_iff.mp h
  · rw [hMissing]
    exact hLeaves hMissing (by rw [hError]; rfl)
  · rw [hText]
    exact file_of_set_error hText hError

/-- For a file in the working directory, no failing write puts anything where there is no file. -/
theorem leaves_of_no_directories (hDirectories : Path.directories store.path = []) (key : ConfigKey)
    (value : UInt16) : (Action.set key value).Leaves store := by
  intro hMissing hRefused
  obtain ⟨error, hv⟩ | ⟨disk, -, hv⟩ | ⟨error, disk, hSave, hv⟩ := store.set_cases key value
  · rw [hv]
    exact hMissing
  · rw [hv] at hRefused
    cases hRefused
  · rw [hv, Disk.eq_of_save_error hDirectories hSave]
    exact hMissing

theorem InStep.step (h : InStep store) {action : Action} (hLeaves : action.Leaves store) :
    InStep (step store action) := by
  cases action with
  | elsewhere disk => exact h.congr hLeaves rfl
  | set key value =>
    cases hResult : (store.set key value).1 with
    | ok =>
      obtain ⟨hValues, hFile⟩ := file_of_set_ok hResult
      refine inStep_iff.mpr (.inr ⟨_, hFile, ?_⟩)
      rw [FileStore.step, hValues]
      exact parse_render (h.ascending.insertLabel key.label value)
    | error error =>
      exact h.congr (h.file_of_error hResult hLeaves) (values_of_set_error h.ascending hResult)

theorem InStep.run (h : InStep store) {actions : List Action} (hUndisturbed : Undisturbed store actions) :
    InStep (run store actions) := by
  induction actions generalizing store with
  | nil => exact h
  | cons action rest ih => exact ih (h.step hUndisturbed.1) hUndisturbed.2

theorem Undisturbed.of_append {before after : List Action} (h : Undisturbed store (before ++ after)) :
    Undisturbed store before ∧ Undisturbed (run store before) after := by
  induction before generalizing store with
  | nil => exact ⟨trivial, h⟩
  | cons action rest ih =>
    obtain ⟨hBefore, hAfter⟩ := ih h.2
    exact ⟨⟨h.1, hBefore⟩, hAfter⟩

theorem path_set (store : FileStore) (key : ConfigKey) (value : UInt16) :
    (store.set key value).2.path = store.path := by
  obtain ⟨error, hv⟩ | ⟨disk, -, hv⟩ | ⟨error, disk, -, hv⟩ := store.set_cases key value
  · rw [hv]
  · rw [hv]
  · rw [hv]

theorem path_step (store : FileStore) (action : Action) : (step store action).path = store.path := by
  cases action with
  | elsewhere disk => rfl
  | set key value => exact path_set store key value

theorem path_run (store : FileStore) (actions : List Action) : (run store actions).path = store.path := by
  induction actions generalizing store with
  | nil => rfl
  | cons action rest ih => exact (ih (FileStore.step store action)).trans (path_step store action)

/-- Whatever the file at the start, the calls and the failures: at every point the file is opened as the store
that stands there; a call that succeeds leaves in the file what was stored before with this one label changed;
a call that fails leaves every answer and the file as they were. -/
theorem file_in_step {path : String} {disk : Disk} (hOpen : load path disk = .ok store)
    (actions : List Action) (hUndisturbed : Undisturbed store actions) :
    load path (run store actions).disk = .ok (run store actions) ∧
      ∀ before key value after, actions = before ++ .set key value :: after →
        let earlier := run store before
        let result := earlier.set key value
        (result.1 = .ok () →
          ∃ text, file result.2 = .ok text ∧ parse text = some result.2.values ∧
            ∀ label, result.2.values.lookup label =
              if label = key.label then some value else earlier.values.lookup label) ∧
          ∀ error, result.1 = .error error →
            (∀ other, result.2.get other = earlier.get other) ∧ file result.2 = file earlier := by
  have hStart : InStep store := .of_load hOpen
  have hPath : store.path = path := (load_eq_ok_iff.mp hOpen).1
  refine ⟨?_, ?_⟩
  · rw [← hPath, ← path_run store actions]
    exact hStart.run hUndisturbed
  · rintro before key value after rfl earlier result
    obtain ⟨hBefore, hLeaves, -⟩ := hUndisturbed.of_append
    have hEarlier : InStep earlier := hStart.run hBefore
    refine ⟨?_, ?_⟩
    · intro hOk
      obtain ⟨hValues, hFile⟩ := file_of_set_ok hOk
      refine ⟨_, hFile, ?_, ?_⟩
      · rw [hValues]
        exact parse_render (hEarlier.ascending.insertLabel key.label value)
      · intro label
        rw [hValues]
        exact lookup_insertLabel key.label label value earlier.values
    · intro error hError
      refine ⟨?_, hEarlier.file_of_error hError hLeaves⟩
      intro other
      rw [get, values_of_set_error hEarlier.ascending hError]
      rfl

/-- A disk with one file. -/
def shelf (text : String) (writeProtected : Bool) : Disk :=
  { entries := [(["n"], .file (.text text))], writeProtected }

private theorem splitOn_bare : "n".splitOn "/" = ["n"] := by
  rw [String.splitOn, if_neg (by decide), String.splitOnAux, if_neg (by decide), if_neg (by decide),
    String.splitOnAux, if_pos (by decide)]
  decide

private theorem names_bare : Path.names "n" = ["n"] := by
  rw [Path.names, splitOn_bare]
  rfl

private theorem directories_bare : Path.directories "n" = [] := by
  rw [Path.directories, Path.stages, splitOn_bare]
  rfl

theorem readText_shelf (text : String) (writeProtected : Bool) :
    (shelf text writeProtected).readText "n" = .ok text := by
  rw [Disk.readText, Disk.read, Disk.resolve, Disk.approach, names_bare]
  rfl

theorem save_shelf (text : String) (writeProtected : Bool) (content : String) :
    (shelf text writeProtected).save "n" (.text content) =
      if writeProtected then (.error .writeProtected, shelf text true) else (.ok (), shelf content false) := by
  rw [Disk.save, directories_bare, Disk.ensureStages]
  dsimp only
  rw [Disk.write, Disk.approach, names_bare]
  cases writeProtected
  · rfl
  · rfl

theorem set_shelf {key : ConfigKey} {value : UInt16} (hFits : key.check value = .ok ())
    {values : List (String × UInt16)} (hAscending : Ascending values) (text : String) (writeProtected : Bool) :
    set ⟨"n", values, shelf text writeProtected⟩ key value =
      if writeProtected then
        (.error (.io DiskError.writeProtected.message), ⟨"n", values, shelf text true⟩)
      else
        (.ok (), ⟨"n", insertLabel key.label value values,
          shelf (render (insertLabel key.label value values)) false⟩) := by
  rw [set, hFits]
  dsimp only
  rw [save_shelf]
  cases writeProtected with
  | false => rfl
  | true =>
    rw [if_pos rfl, if_pos rfl]
    dsimp only
    rw [hAscending.putBack_insertLabel]

/-- A store in a file that also has a label for no key. -/
def trial : FileStore :=
  ⟨"n", [("colour", 7), ("nodeid", 5)], shelf "\x7b\"colour\": 7, \"nodeid\": 5\x7d" false⟩

/-- The store once the node id was changed. -/
def changed (writeProtected : Bool) : FileStore :=
  ⟨"n", [("colour", 7), ("nodeid", 9)], shelf (render [("colour", 7), ("nodeid", 9)]) writeProtected⟩

private theorem ascending_pair (colour nodeId : UInt16) : Ascending [("colour", colour), ("nodeid", nodeId)] := by
  have hOrder : "colour" < "nodeid" := by decide +kernel
  simpa [Ascending] using hOrder

/-- A call that succeeds, one out of range, and two that find the disk write-protected: for a label that is new
and for one that has a value. -/
def calls : List Action :=
  [.set .nodeId 9, .set .nodeId 300, .elsewhere (changed true).disk, .set .thresholdPercent 40, .set .nodeId 7]

/-- The first call is the only one that shows, in the store and in the file. -/
theorem file_in_step_of_calls : load "n" trial.disk = .ok trial ∧ Undisturbed trial calls ∧
    run trial calls = changed true ∧ load "n" (changed true).disk = .ok (changed true) := by
  have hOpen : load "n" trial.disk = .ok trial := by
    refine load_eq_ok_iff.mpr ⟨rfl, rfl, .inr ⟨_, readText_shelf _ _, ?_⟩⟩
    decide +kernel
  have hChanged : step trial (.set .nodeId 9) = changed false := by
    rw [step, trial, set_shelf rfl (ascending_pair 7 5)]
    rfl
  have hProtected (key : ConfigKey) (value : UInt16) (hFits : key.check value = .ok ()) :
      step (changed true) (.set key value) = changed true := by
    rw [step, changed, set_shelf hFits (ascending_pair 7 9)]
    rfl
  have hSame : (Action.elsewhere (changed true).disk).Leaves (changed false) :=
    (readText_shelf _ true).trans (readText_shelf _ false).symm
  have hUndisturbed : Undisturbed trial calls := by
    refine ⟨leaves_of_no_directories directories_bare _ _, ?_⟩
    rw [hChanged]
    refine ⟨leaves_of_no_directories directories_bare _ _, hSame,
      leaves_of_no_directories directories_bare _ _, leaves_of_no_directories ?_ _ _, trivial⟩
    rw [path_step, path_step, path_step]
    exact directories_bare
  have hRun : run trial calls = changed true := by
    rw [run, calls, List.foldl_cons, hChanged]
    change step (step (changed true) (.set .thresholdPercent 40)) (.set .nodeId 7) = changed true
    rw [hProtected _ _ rfl, hProtected _ _ rfl]
  have hReopened := (file_in_step hOpen calls hUndisturbed).1
  rw [hRun] at hReopened
  exact ⟨hOpen, hUndisturbed, hRun, hReopened⟩

end Telemetry.FileStore
