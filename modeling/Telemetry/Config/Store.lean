import Telemetry.Log.Traced

/-! What a node needs of a configuration store. Missing values are never an error: the default is
used and written back. -/
namespace Telemetry

class ConfigStore (Store : Type) where
  /-- Stored value, if the key was ever written. -/
  get : Store → ConfigKey → Option UInt16
  /-- Writes a value; the store it leaves may differ even after a failure. -/
  set : Store → ConfigKey → UInt16 → Except StoreError Unit × Store

namespace ConfigStore

variable {Store : Type} [ConfigStore Store]

/-- What the store has for a node, by label. -/
def contents (store : Store) : List (String × UInt16) :=
  ConfigKey.ofNode.filterMap fun key => (get store key).map (key.label, ·)

/-- Stored value, or the default after an attempt to store it. -/
def loadOrDefault (store : Store) (key : ConfigKey) (default : UInt16) : Traced (UInt16 × Store) :=
  match get store key with
  | some value => pure (value, store)
  | none => do
    Traced.note (.keyMissing key default)
    match set store key default with
    | (.ok (), written) => pure (default, written)
    | (.error error, left) =>
      Traced.note (.defaultNotWritten key error)
      pure (default, left)

/-- A stored node id that is no byte counts as the default. -/
def loadNodeId (store : Store) : Traced (UInt8 × Store) := do
  let (raw, store) ← loadOrDefault store .nodeId defaultNodeId.toUInt16
  if raw ≤ 255 then pure (raw.toUInt8, store)
  else
    Traced.note (.nodeIdOutOfRange raw)
    pure (defaultNodeId, store)

/-- A stored percentage above a hundred counts as a hundred. -/
def loadThresholdPercent (store : Store) : Traced (UInt8 × Store) := do
  let (raw, store) ← loadOrDefault store .thresholdPercent defaultThresholdPercent.toUInt16
  if raw ≤ 100 then pure (raw.toUInt8, store)
  else
    Traced.note (.percentOutOfRange raw)
    pure (100, store)

end ConfigStore

end Telemetry
