import Telemetry.Config.File
import Telemetry.Proofs.Config.Lawful
import Telemetry.Proofs.Files.Saving

/-! When writes to a store work: the range of a value is checked first, and after that either the store takes
every value or, read-only or on a disk that refuses, none. -/
namespace Telemetry

/-- A store that refuses a value out of range at once and as it is, and any other for another reason. -/
class RangeFirst (Store : Type) [ConfigStore Store] : Prop where
  set_of_unfit {store : Store} {key : ConfigKey} {value : UInt16} {error : StoreError} :
    key.check value = .error error → ConfigStore.set store key value = (.error error, store)
  error_of_fit {store left : Store} {key : ConfigKey} {value : UInt16} {error : StoreError} :
    value ≤ key.maximum → ConfigStore.set store key value = (.error error, left) →
    ∀ label held maximum, error ≠ .outOfRange label held maximum

instance : RangeFirst MemoryStore where
  set_of_unfit {store key value error} h := by
    change store.set key value = _
    rw [MemoryStore.set, h]
  error_of_fit {store left key value error} hFits h := by
    change store.set key value = _ at h
    rw [MemoryStore.set, ConfigKey.check_of_fit hFits] at h
    dsimp only at h
    split at h
    · cases h
      simp
    · cases h

instance : RangeFirst FileStore where
  set_of_unfit {store key value error} h := by
    change store.set key value = _
    rw [FileStore.set, h]
  error_of_fit {store left key value error} hFits h := by
    change store.set key value = _ at h
    rw [FileStore.set, ConfigKey.check_of_fit hFits] at h
    dsimp only at h
    split at h
    · cases h
    · cases h
      simp

namespace ConfigStore

variable {Store : Type} [ConfigStore Store]

/-- No write of a value that fits its key succeeds, after whatever writes. -/
def Unwritable (store : Store) : Prop :=
  ∀ writes : List (ConfigKey × UInt16), (∀ write ∈ writes, write.2 ≤ write.1.maximum) →
    (Calibration.saveAll store writes).value.1 = writes.length

theorem Unwritable.set_error {store : Store} (h : Unwritable store) {key : ConfigKey} {value : UInt16}
    (hFits : value ≤ key.maximum) :
    ∃ error left, set store key value = (.error error, left) ∧ Unwritable left := by
  have hOnce := h [(key, value)] (by simpa using hFits)
  rw [Calibration.saveAll] at hOnce
  split at hOnce
  · cases hOnce
  · rename_i error left hSet
    refine ⟨error, left, hSet, ?_⟩
    intro writes hWrites
    have hAll := h ((key, value) :: writes) (List.forall_mem_cons.mpr ⟨hFits, hWrites⟩)
    rw [Calibration.saveAll, hSet] at hAll
    exact Nat.succ_inj.mp hAll

/-- A store is unwritable if it has a property that makes it refuse a value and that it keeps then. -/
theorem unwritable_of_invariant (Refuses : Store → Prop)
    (hRefuses : ∀ store key value, Refuses store → value ≤ key.maximum →
      ∃ error left, set store key value = (.error error, left) ∧ Refuses left)
    {store : Store} (h : Refuses store) : Unwritable store := by
  intro writes hFit
  induction writes generalizing store with
  | nil => rfl
  | cons write rest ih =>
    obtain ⟨hFirst, hRest⟩ := List.forall_mem_cons.mp hFit
    obtain ⟨error, left, hSet, hLeft⟩ := hRefuses store write.1 write.2 h hFirst
    rw [Calibration.saveAll, hSet]
    exact congrArg (· + 1) (ih hLeft hRest)

end ConfigStore

open ConfigStore (Writable Unwritable)

theorem MemoryStore.unwritable_of_readOnly {store : MemoryStore} (h : store.readOnly = true) :
    Unwritable store := by
  refine ConfigStore.unwritable_of_invariant (fun store => store.readOnly = true) ?_ h
  intro store key value hReadOnly hFits
  refine ⟨.readOnly, store, ?_, hReadOnly⟩
  change store.set key value = _
  rw [set, ConfigKey.check_of_fit hFits]
  simp [hReadOnly]

namespace FileStore

/-- A store whose file can be saved takes every value. -/
theorem writable_of_saves {store : FileStore} (h : store.disk.Saves store.path) : Writable store := by
  refine ConfigStore.writable_of_invariant (fun store => store.disk.Saves store.path) ?_ h
  intro store key value hSaves hFits
  let values := insertLabel key.label value store.values
  have hSave : store.disk.save store.path (.text (render values)) =
      (.ok (), (store.disk.save store.path (.text (render values))).2) := Prod.ext (hSaves _) rfl
  refine ⟨⟨store.path, values, (store.disk.save store.path (.text (render values))).2⟩, ?_, hSaves.save _⟩
  change store.set key value = _
  rw [set, ConfigKey.check_of_fit hFits]
  dsimp only
  rw [hSave]

/-- A store on a disk that is write-protected takes none. -/
theorem unwritable_of_writeProtected {store : FileStore} (h : store.disk.writeProtected = true) :
    Unwritable store := by
  refine ConfigStore.unwritable_of_invariant (fun store => store.disk.writeProtected = true) ?_ h
  intro store key value hProtected hFits
  obtain ⟨error, hSave⟩ := Disk.save_of_writeProtected hProtected store.path
    (.text (render (insertLabel key.label value store.values)))
  let values := putBack key.label (store.values.lookup key.label) (insertLabel key.label value store.values)
  refine ⟨.io error.message, { store with values }, ?_, hProtected⟩
  change store.set key value = _
  rw [set, ConfigKey.check_of_fit hFits]
  dsimp only
  rw [hSave]

end FileStore

end Telemetry
