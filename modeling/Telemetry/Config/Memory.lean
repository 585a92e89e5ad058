import Telemetry.Config.Store

/-! A configuration store without a file. -/
namespace Telemetry

/-- Each key at most once. -/
structure MemoryStore where
  entries : List (ConfigKey × UInt16) := []
  /-- Writes are refused. -/
  readOnly : Bool := false
  deriving DecidableEq, Repr

namespace MemoryStore

def get (store : MemoryStore) (key : ConfigKey) : Option UInt16 :=
  store.entries.lookup key

/-- Puts a value in place without asking whether it fits. -/
def insert (store : MemoryStore) (key : ConfigKey) (value : UInt16) : MemoryStore :=
  { store with entries := (key, value) :: store.entries.filter (·.1 ≠ key) }

/-- A later entry for a key replaces an earlier one. -/
def ofEntries (entries : List (ConfigKey × UInt16)) : MemoryStore :=
  entries.foldl (fun store (key, value) => store.insert key value) {}

/-- The range is checked before the store is asked whether it takes writes. -/
def set (store : MemoryStore) (key : ConfigKey) (value : UInt16) :
    Except StoreError Unit × MemoryStore :=
  match key.check value with
  | .error error => (.error error, store)
  | .ok () => if store.readOnly then (.error .readOnly, store) else (.ok (), store.insert key value)

instance : ConfigStore MemoryStore := ⟨get, set⟩

/-- Number of keys written. -/
def size (store : MemoryStore) : Nat :=
  store.entries.length

end MemoryStore

end Telemetry
