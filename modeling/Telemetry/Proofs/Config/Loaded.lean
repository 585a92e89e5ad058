import Telemetry.Proofs.Config.Saved

/-! What is loaded depends on the stored values alone, whether or not the store takes writes; loading changes no
value that is there, and loading again gives the same. -/
namespace Telemetry

namespace ConfigStore

variable {Store : Type} [ConfigStore Store]

theorem fst_loadOrDefault (store : Store) (key : ConfigKey) (default : UInt16) :
    (loadOrDefault store key default).value.1 = (get store key).getD default := by
  cases hValue : get store key with
  | some value =>
    rw [loadOrDefault_of_some hValue]
    rfl
  | none =>
    rw [loadOrDefault, hValue]
    simp only [Traced.value_bind]
    split
    · rfl
    · rfl

theorem snd_loadOrDefault_of_none {store : Store} {key : ConfigKey} (h : get store key = none)
    (default : UInt16) : (loadOrDefault store key default).value.2 = (set store key default).2 := by
  rw [loadOrDefault, h]
  simp only [Traced.value_bind]
  split
  · rename_i hSet
    rw [hSet]
    rfl
  · rename_i hSet
    rw [hSet]
    rfl

/-- The node id that a stored value stands for. -/
def nodeIdOf (raw : UInt16) : UInt8 :=
  if raw ≤ 255 then raw.toUInt8 else defaultNodeId

theorem nodeIdOf_toUInt16 (nodeId : UInt8) : nodeIdOf nodeId.toUInt16 = nodeId := by
  have hFits : nodeId.toUInt16 ≤ 255 := by
    rw [UInt16.le_iff_toNat_le]
    exact Nat.le_of_lt_succ nodeId.toNat_lt
  rw [nodeIdOf, if_pos hFits]
  simp

theorem value_loadNodeId (store : Store) : (loadNodeId store).value =
    let loaded := (loadOrDefault store .nodeId defaultNodeId.toUInt16).value
    (nodeIdOf loaded.1, loaded.2) := by
  rw [loadNodeId]
  simp only [Traced.value_bind, nodeIdOf]
  split
  · rfl
  · rfl

theorem fst_loadNodeId (store : Store) : (loadNodeId store).value.1 =
    nodeIdOf ((get store .nodeId).getD defaultNodeId.toUInt16) := by
  rw [value_loadNodeId, ← fst_loadOrDefault]

theorem fst_loadThresholdPercent (store : Store) : (loadThresholdPercent store).value.1 =
    percentOf ((get store .thresholdPercent).getD defaultThresholdPercent.toUInt16) := by
  rw [value_loadThresholdPercent, ← fst_loadOrDefault]

theorem loadNodeId_of_some {store : Store} {nodeId : UInt8}
    (h : get store .nodeId = some nodeId.toUInt16) : (loadNodeId store).value = (nodeId, store) := by
  rw [value_loadNodeId, loadOrDefault_of_some h]
  exact congrArg (·, store) (nodeIdOf_toUInt16 nodeId)

variable [LawfulStore Store]

/-- Loading leaves every value as it is, but that it may write a default where there was none. -/
theorem get_loadOrDefault (store : Store) (key : ConfigKey) (default : UInt16) (other : ConfigKey) :
    get (loadOrDefault store key default).value.2 other = get store other ∨
      other = key ∧ get store key = none ∧
        get (loadOrDefault store key default).value.2 key = some default := by
  cases hValue : get store key with
  | some value =>
    rw [loadOrDefault_of_some hValue]
    exact .inl rfl
  | none =>
    rw [loadOrDefault, hValue]
    simp only [Traced.value_bind]
    split
    · rename_i written hSet
      rw [Traced.value_pure, LawfulStore.get_written other hSet, LawfulStore.get_written key hSet, if_pos rfl]
      by_cases hOther : other = key
      · exact .inr ⟨hOther, trivial, rfl⟩
      · exact .inl (if_neg hOther)
    · rename_i error left hSet
      exact .inl (LawfulStore.get_refused other hSet)

theorem get_loadOrDefault_of_ne (store : Store) {key other : ConfigKey} (h : other ≠ key)
    (default : UInt16) : get (loadOrDefault store key default).value.2 other = get store other := by
  obtain hSame | ⟨rfl, -, -⟩ := get_loadOrDefault store key default other
  · exact hSame
  · exact absurd rfl h

theorem fst_loadNodeId_again (store : Store) :
    (loadNodeId (loadNodeId store).value.2).value.1 = (loadNodeId store).value.1 := by
  rw [fst_loadNodeId, fst_loadNodeId, value_loadNodeId]
  obtain hSame | ⟨-, hMissing, hDefault⟩ :=
    get_loadOrDefault store .nodeId defaultNodeId.toUInt16 .nodeId
  · rw [hSame]
  · rw [hDefault, hMissing]
    rfl

/-- Loading what else a node keeps leaves the stored node id alone. -/
theorem get_nodeId_loadThresholdPercent (store : Store) :
    get (loadThresholdPercent store).value.2 .nodeId = get store .nodeId := by
  rw [value_loadThresholdPercent]
  exact get_loadOrDefault_of_ne store (by simp) _

end ConfigStore

namespace Calibration

variable {Store : Type} [ConfigStore Store]

/-- What some stored values make of a channel, with defaults for what is missing. -/
def channelOf (content : ConfigKey → Option UInt16) (channel : Nat) : ChannelCalibration where
  max := (content (.calibrationMax channel)).getD 0
  min := (content (.calibrationMin channel)).getD 0xFFFF
  threshold := (content (.threshold channel)).getD thresholdUnset

/-- The calibration that is loaded from some stored values. -/
def ofContent (content : ConfigKey → Option UInt16) : Calibration :=
  ⟨#v[channelOf content 0, channelOf content 1, channelOf content 2, channelOf content 3]⟩

variable [LawfulStore Store]

theorem fst_loadChannel (store : Store) (channel : Nat) :
    (loadChannel store channel).value.1 = channelOf (ConfigStore.get store) channel := by
  rw [loadChannel]
  simp only [Traced.value_bind, Traced.value_pure, ConfigStore.fst_loadOrDefault]
  rw [ConfigStore.get_loadOrDefault_of_ne _ (by simp), ConfigStore.get_loadOrDefault_of_ne _ (by simp),
    ConfigStore.get_loadOrDefault_of_ne _ (by simp)]
  rfl

/-- Loading a channel touches the keys of this channel only. -/
theorem get_loadChannel (store : Store) {channel : Nat} {key : ConfigKey}
    (h : key ≠ .calibrationMax channel ∧ key ≠ .calibrationMin channel ∧ key ≠ .threshold channel) :
    ConfigStore.get (loadChannel store channel).value.2 key = ConfigStore.get store key := by
  rw [loadChannel]
  simp only [Traced.value_bind, Traced.value_pure]
  rw [ConfigStore.get_loadOrDefault_of_ne _ h.2.2, ConfigStore.get_loadOrDefault_of_ne _ h.2.1,
    ConfigStore.get_loadOrDefault_of_ne _ h.1]

theorem channelOf_loadChannel (store : Store) {channel other : Nat} (h : other ≠ channel) :
    channelOf (ConfigStore.get (loadChannel store channel).value.2) other =
      channelOf (ConfigStore.get store) other := by
  rw [channelOf, get_loadChannel _ (by simp [h]), get_loadChannel _ (by simp [h]),
    get_loadChannel _ (by simp [h])]
  rfl

/-- What is loaded follows from the values the store has, whether or not it takes the defaults. -/
theorem fst_load (store : Store) : (load store).value.1 = ofContent (ConfigStore.get store) := by
  rw [value_load]
  simp only [fst_loadChannel, channelOf_loadChannel _ (by decide : 1 ≠ 0),
    channelOf_loadChannel _ (by decide : 2 ≠ 1), channelOf_loadChannel _ (by decide : 2 ≠ 0),
    channelOf_loadChannel _ (by decide : 3 ≠ 2), channelOf_loadChannel _ (by decide : 3 ≠ 1),
    channelOf_loadChannel _ (by decide : 3 ≠ 0)]
  rfl

end Calibration

theorem ConfigStore.get_nodeId_load {Store : Type} [ConfigStore Store] [LawfulStore Store] (store : Store) :
    get (Calibration.load store).value.2 .nodeId = get store .nodeId := by
  rw [Calibration.value_load]
  simp only
  rw [Calibration.get_loadChannel _ (by simp), Calibration.get_loadChannel _ (by simp),
    Calibration.get_loadChannel _ (by simp), Calibration.get_loadChannel _ (by simp)]

end Telemetry
