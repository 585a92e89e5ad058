import Mathlib.Data.List.Nodup
import Telemetry.Calibration.Basic
import Telemetry.Config.Memory
import Telemetry.Proofs.Entries

/-! What every configuration store can be relied on for, and what a run of writes leaves in one. -/
namespace Telemetry

/-- A write that succeeds is read back and changes no other key; one that is refused changes none. -/
class LawfulStore (Store : Type) [ConfigStore Store] : Prop where
  get_written {store written : Store} {key : ConfigKey} {value : UInt16} (other : ConfigKey) :
    ConfigStore.set store key value = (.ok (), written) →
    ConfigStore.get written other = if other = key then some value else ConfigStore.get store other
  get_refused {store left : Store} {key : ConfigKey} {value : UInt16} {error : StoreError}
    (other : ConfigKey) : ConfigStore.set store key value = (.error error, left) →
    ConfigStore.get left other = ConfigStore.get store other

namespace MemoryStore

theorem get_insert (store : MemoryStore) (key other : ConfigKey) (value : UInt16) :
    (store.insert key value).get other = if other = key then some value else store.get other := by
  rw [get, insert, Entries.lookup_cons]
  split
  · rfl
  · rename_i h
    exact Entries.lookup_filter_ne h store.entries

instance : LawfulStore MemoryStore where
  get_written {store written key value} other h := by
    change store.set key value = _ at h
    rw [set] at h
    split at h
    · cases h
    · split at h
      · cases h
      · cases h
        exact get_insert store key other value
  get_refused {store left key value error} other h := by
    change store.set key value = _ at h
    rw [set] at h
    split at h
    · cases h
      rfl
    · split at h
      · cases h
        rfl
      · cases h

end MemoryStore

namespace ConfigStore

variable {Store : Type} [ConfigStore Store]

/-- Every write of a value that fits its key succeeds, after whatever writes. -/
def Writable (store : Store) : Prop :=
  ∀ writes : List (ConfigKey × UInt16), (∀ write ∈ writes, write.2 ≤ write.1.maximum) →
    (Calibration.saveAll store writes).value.1 = 0

theorem Writable.set_ok {store : Store} (h : Writable store) {key : ConfigKey} {value : UInt16}
    (hFits : value ≤ key.maximum) :
    ∃ written, set store key value = (.ok (), written) ∧ Writable written := by
  have hOnce := h [(key, value)] (by simpa using hFits)
  rw [Calibration.saveAll] at hOnce
  split at hOnce
  · rename_i written hSet
    refine ⟨written, hSet, ?_⟩
    intro writes hWrites
    have hAll := h ((key, value) :: writes) (List.forall_mem_cons.mpr ⟨hFits, hWrites⟩)
    rw [Calibration.saveAll, hSet] at hAll
    exact hAll
  · cases hOnce

theorem Writable.saveAll {store : Store} (h : Writable store) {writes : List (ConfigKey × UInt16)}
    (hFit : ∀ write ∈ writes, write.2 ≤ write.1.maximum) :
    Writable (Calibration.saveAll store writes).value.2 := by
  induction writes generalizing store with
  | nil => exact h
  | cons write rest ih =>
    obtain ⟨hFirst, hRest⟩ := List.forall_mem_cons.mp hFit
    obtain ⟨written, hSet, hWritten⟩ := h.set_ok hFirst
    rw [Calibration.saveAll, hSet]
    exact ih hWritten hRest

/-- A store is writable if it has a property that makes it take a value and that it keeps then. -/
theorem writable_of_invariant (Takes : Store → Prop)
    (hTakes : ∀ store key value, Takes store → value ≤ key.maximum →
      ∃ written, set store key value = (.ok (), written) ∧ Takes written)
    {store : Store} (h : Takes store) : Writable store := by
  intro writes hFit
  induction writes generalizing store with
  | nil => rfl
  | cons write rest ih =>
    obtain ⟨hFirst, hRest⟩ := List.forall_mem_cons.mp hFit
    obtain ⟨written, hSet, hWritten⟩ := hTakes store write.1 write.2 h hFirst
    rw [Calibration.saveAll, hSet]
    exact ih hWritten hRest

variable [LawfulStore Store]

/-- A run of writes leaves every key alone that it does not write. -/
theorem get_saveAll_of_not_mem {store : Store} {writes : List (ConfigKey × UInt16)} {key : ConfigKey}
    (h : key ∉ writes.map Prod.fst) :
    get (Calibration.saveAll store writes).value.2 key = get store key := by
  induction writes generalizing store with
  | nil => rfl
  | cons write rest ih =>
    obtain ⟨hFirst, hRest⟩ := not_or.mp (mt List.mem_cons.mpr h)
    rw [Calibration.saveAll]
    split
    · rename_i written hSet
      rw [ih hRest, LawfulStore.get_written key hSet, if_neg hFirst]
    · rename_i error left hSet
      exact (ih hRest).trans (LawfulStore.get_refused key hSet)

/-- A run of writes that all succeed, to different keys, leaves in each what was written there. -/
theorem get_saveAll_of_mem {store : Store} {writes : List (ConfigKey × UInt16)}
    (hAll : (Calibration.saveAll store writes).value.1 = 0) (hKeys : (writes.map Prod.fst).Nodup)
    {key : ConfigKey} {value : UInt16} (h : (key, value) ∈ writes) :
    get (Calibration.saveAll store writes).value.2 key = some value := by
  induction writes generalizing store with
  | nil => cases h
  | cons write rest ih =>
    obtain ⟨hFirst, hRest⟩ := List.nodup_cons.mp hKeys
    rw [Calibration.saveAll] at hAll ⊢
    split at hAll
    · rename_i written hSet
      rcases List.mem_cons.mp h with rfl | hLater
      · rw [get_saveAll_of_not_mem hFirst, LawfulStore.get_written key hSet, if_pos rfl]
      · exact ih hAll hRest hLater
    · cases hAll

end ConfigStore

theorem ConfigKey.check_of_fit {key : ConfigKey} {value : UInt16} (h : value ≤ key.maximum) :
    key.check value = .ok () :=
  if_pos h

/-- A memory store refuses nothing that fits unless it is read-only. -/
theorem MemoryStore.writable_of_not_readOnly {store : MemoryStore} (h : store.readOnly = false) :
    ConfigStore.Writable store := by
  refine ConfigStore.writable_of_invariant (fun store => store.readOnly = false) ?_ h
  intro store key value hOpen hFits
  refine ⟨store.insert key value, ?_, hOpen⟩
  change store.set key value = _
  rw [set, ConfigKey.check_of_fit hFits]
  simp [hOpen]

end Telemetry
