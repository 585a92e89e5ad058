import Telemetry.Node.Basic
import Telemetry.Proofs.Config.Lawful

/-! What loading makes of a store that takes writes: it completes the store with the values it returns. What
a store then holds of a percentage and a calibration is loaded again as it is. -/
namespace Telemetry

namespace ConfigStore

variable {Store : Type} [ConfigStore Store]

theorem loadOrDefault_of_some {store : Store} {key : ConfigKey} {value : UInt16}
    (h : get store key = some value) (default : UInt16) :
    (loadOrDefault store key default).value = (value, store) := by
  rw [loadOrDefault, h]
  rfl

/-- The percentage that a stored value stands for. -/
def percentOf (raw : UInt16) : UInt8 :=
  if raw ≤ 100 then raw.toUInt8 else 100

theorem percentOf_le (raw : UInt16) : percentOf raw ≤ 100 := by
  unfold percentOf
  split
  · rename_i h
    rw [UInt16.le_iff_toNat_le] at h
    rw [UInt8.le_iff_toNat_le, UInt16.toNat_toUInt8]
    exact Nat.le_trans (Nat.mod_le _ _) h
  · decide

theorem percentOf_toUInt16 {percent : UInt8} (h : percent ≤ 100) : percentOf percent.toUInt16 = percent := by
  have hFits : percent.toUInt16 ≤ 100 := by
    rw [UInt16.le_iff_toNat_le]
    exact UInt8.le_iff_toNat_le.mp h
  rw [percentOf, if_pos hFits]
  simp

theorem value_loadThresholdPercent (store : Store) : (loadThresholdPercent store).value =
    let loaded := (loadOrDefault store .thresholdPercent defaultThresholdPercent.toUInt16).value
    (percentOf loaded.1, loaded.2) := by
  rw [loadThresholdPercent]
  simp only [Traced.value_bind, percentOf]
  split
  · rfl
  · rfl

/-- Every value of the first store is still in the second, but that the node id may have been replaced. -/
def KeptIn (store later : Store) : Prop :=
  ∀ key value, key ≠ .nodeId → get store key = some value → get later key = some value

theorem KeptIn.trans {first second third : Store} (h : KeptIn first second) (h' : KeptIn second third) :
    KeptIn first third :=
  fun key value hKey hValue => h' key value hKey (h key value hKey hValue)

/-- A writable store has afterwards what was loaded from it, beside all it had before. -/
theorem Writable.loadOrDefault [LawfulStore Store] {store : Store} (h : Writable store) (key : ConfigKey)
    (default : UInt16) (hFits : default ≤ key.maximum) :
    let loaded := (loadOrDefault store key default).value
    Writable loaded.2 ∧ KeptIn store loaded.2 ∧ get loaded.2 key = some loaded.1 := by
  cases hValue : get store key with
  | some value =>
    rw [loadOrDefault_of_some hValue]
    exact ⟨h, fun _ _ _ hKept => hKept, hValue⟩
  | none =>
    obtain ⟨written, hSet, hWritten⟩ := h.set_ok hFits
    rw [ConfigStore.loadOrDefault, hValue]
    simp only [Traced.value_bind, hSet]
    refine ⟨hWritten, ?_, ?_⟩
    · intro other value _ hOther
      have hNe : other ≠ key := by
        rintro rfl
        rw [hValue] at hOther
        cases hOther
      refine (LawfulStore.get_written other hSet).trans ?_
      rw [if_neg hNe, hOther]
    · refine (LawfulStore.get_written key hSet).trans ?_
      rw [if_pos rfl]
      rfl

theorem Writable.setNodeId [LawfulStore Store] {store : Store} (h : Writable store) (nodeId : UInt8) :
    ∃ written, set store .nodeId nodeId.toUInt16 = (.ok (), written) ∧ Writable written ∧
      KeptIn store written := by
  have hFits : nodeId.toUInt16 ≤ ConfigKey.nodeId.maximum := by
    rw [UInt16.le_iff_toNat_le]
    exact Nat.le_of_lt_succ nodeId.toNat_lt
  obtain ⟨written, hSet, hWritable⟩ := h.set_ok hFits
  refine ⟨written, hSet, hWritable, ?_⟩
  intro key value hKey hValue
  rw [LawfulStore.get_written key hSet, if_neg hKey, hValue]

theorem Writable.loadNodeId [LawfulStore Store] {store : Store} (h : Writable store) :
    let loaded := (loadNodeId store).value
    Writable loaded.2 ∧ KeptIn store loaded.2 := by
  obtain ⟨hWritable, hKept, -⟩ := h.loadOrDefault .nodeId defaultNodeId.toUInt16 (by decide)
  rw [ConfigStore.loadNodeId]
  simp only [Traced.value_bind]
  split
  · exact ⟨hWritable, hKept⟩
  · exact ⟨hWritable, hKept⟩

theorem Writable.loadThresholdPercent [LawfulStore Store] {store : Store} (h : Writable store) :
    let loaded := (loadThresholdPercent store).value
    Writable loaded.2 ∧ ∃ raw, get loaded.2 .thresholdPercent = some raw ∧ percentOf raw = loaded.1 := by
  obtain ⟨hWritable, -, hRaw⟩ :=
    h.loadOrDefault .thresholdPercent defaultThresholdPercent.toUInt16 (by decide)
  rw [value_loadThresholdPercent]
  exact ⟨hWritable, _, hRaw, rfl⟩

end ConfigStore

open ConfigStore (Writable KeptIn)

variable {Store : Type} [ConfigStore Store]

/-- The store has these values of a channel. -/
structure ChannelCalibration.StoredAt (values : ChannelCalibration) (channel : Nat) (store : Store) :
    Prop where
  max : ConfigStore.get store (.calibrationMax channel) = some values.max
  min : ConfigStore.get store (.calibrationMin channel) = some values.min
  threshold : ConfigStore.get store (.threshold channel) = some values.threshold

theorem ChannelCalibration.StoredAt.kept {values : ChannelCalibration} {channel : Nat} {store later : Store}
    (h : values.StoredAt channel store) (hKept : KeptIn store later) : values.StoredAt channel later :=
  ⟨hKept _ _ (by simp) h.max, hKept _ _ (by simp) h.min, hKept _ _ (by simp) h.threshold⟩

namespace Calibration

/-- The store has this calibration. -/
def StoredIn (calibration : Calibration) (store : Store) : Prop :=
  ∀ channel : Fin channelCount, (calibration.channels.get channel).StoredAt channel store

theorem StoredIn.kept {calibration : Calibration} {store later : Store} (h : calibration.StoredIn store)
    (hKept : KeptIn store later) : calibration.StoredIn later :=
  fun channel => (h channel).kept hKept

theorem loadChannel_of_storedAt {values : ChannelCalibration} {channel : Nat} {store : Store}
    (h : values.StoredAt channel store) : (loadChannel store channel).value = (values, store) := by
  rw [loadChannel]
  simp only [Traced.value_bind, ConfigStore.loadOrDefault_of_some h.max,
    ConfigStore.loadOrDefault_of_some h.min, ConfigStore.loadOrDefault_of_some h.threshold]
  rfl

theorem value_load (store : Store) : (load store).value =
    let first := (loadChannel store 0).value
    let second := (loadChannel first.2 1).value
    let third := (loadChannel second.2 2).value
    let fourth := (loadChannel third.2 3).value
    (⟨#v[first.1, second.1, third.1, fourth.1]⟩, fourth.2) :=
  rfl

theorem load_of_storedIn {calibration : Calibration} {store : Store} (h : calibration.StoredIn store) :
    (load store).value = (calibration, store) := by
  obtain ⟨channels⟩ := calibration
  have h0 : (loadChannel store 0).value = (channels[0], store) := loadChannel_of_storedAt (h 0)
  have h1 : (loadChannel store 1).value = (channels[1], store) := loadChannel_of_storedAt (h 1)
  have h2 : (loadChannel store 2).value = (channels[2], store) := loadChannel_of_storedAt (h 2)
  have h3 : (loadChannel store 3).value = (channels[3], store) := loadChannel_of_storedAt (h 3)
  rw [value_load]
  simp only [h0, h1, h2, h3, Prod.mk.injEq, Calibration.mk.injEq, and_true]
  apply Vector.ext
  intro channel hChannel
  match channel, hChannel with
  | 0, _ | 1, _ | 2, _ | 3, _ => rfl

theorem mem_entries (calibration : Calibration) (channel : Fin channelCount) :
    (.calibrationMax channel, (calibration.channels.get channel).max) ∈ calibration.entries ∧
    (.calibrationMin channel, (calibration.channels.get channel).min) ∈ calibration.entries ∧
    (.threshold channel, (calibration.channels.get channel).threshold) ∈ calibration.entries := by
  have hMember : (calibration.channels.get channel, channel.val) ∈ calibration.channels.toList.zipIdx := by
    rw [List.mk_mem_zipIdx_iff_getElem?]
    simp [Vector.get]
  simp only [entries, List.mem_flatMap]
  exact ⟨⟨_, hMember, by simp⟩, ⟨_, hMember, by simp⟩, ⟨_, hMember, by simp⟩⟩

theorem keys_entries (calibration : Calibration) :
    .nodeId :: .thresholdPercent :: calibration.entries.map Prod.fst = ConfigKey.ofNode := by
  have hIndices : calibration.channels.toList.zipIdx.map Prod.snd = List.range channelCount := by
    rw [List.zipIdx_map_snd, Vector.length_toList, List.range_eq_range']
  rw [ConfigKey.ofNode, ← hIndices, List.flatMap_map, entries, List.map_flatMap]
  rfl

/-- The keys of a channel take every value. -/
theorem fits_channel (value : UInt16) : value ≤ 65535 := by
  rw [UInt16.le_iff_toNat_le]
  exact Nat.le_of_lt_succ value.toNat_lt

theorem entries_fit (calibration : Calibration) :
    ∀ write ∈ calibration.entries, write.2 ≤ write.1.maximum := by
  intro write h
  obtain ⟨values, -, hWrite⟩ := List.mem_flatMap.mp h
  have hMaximum : write.1.maximum = 65535 := by
    simp only [List.mem_cons, List.not_mem_nil, or_false] at hWrite
    rcases hWrite with rfl | rfl | rfl <;> rfl
  rw [hMaximum]
  exact fits_channel write.2

variable [LawfulStore Store]

theorem storedAt_loadChannel {store : Store} (h : Writable store) (channel : Nat) :
    let loaded := (loadChannel store channel).value
    Writable loaded.2 ∧ KeptIn store loaded.2 ∧ loaded.1.StoredAt channel loaded.2 := by
  obtain ⟨hFirst, hKept, hMax⟩ := h.loadOrDefault (.calibrationMax channel) 0 (fits_channel 0)
  obtain ⟨hSecond, hKept', hMin⟩ := hFirst.loadOrDefault (.calibrationMin channel) 65535 (fits_channel 65535)
  obtain ⟨hThird, hKept'', hThreshold⟩ := hSecond.loadOrDefault (.threshold channel) thresholdUnset (fits_channel thresholdUnset)
  refine ⟨hThird, (hKept.trans hKept').trans hKept'', ?_, ?_, hThreshold⟩
  · exact (hKept'.trans hKept'') _ _ (by simp) hMax
  · exact hKept'' _ _ (by simp) hMin

theorem storedIn_load {store : Store} (h : Writable store) :
    let loaded := (load store).value
    Writable loaded.2 ∧ KeptIn store loaded.2 ∧ loaded.1.StoredIn loaded.2 := by
  obtain ⟨hFirst, hKept1, hStored1⟩ := storedAt_loadChannel h 0
  obtain ⟨hSecond, hKept2, hStored2⟩ := storedAt_loadChannel hFirst 1
  obtain ⟨hThird, hKept3, hStored3⟩ := storedAt_loadChannel hSecond 2
  obtain ⟨hFourth, hKept4, hStored4⟩ := storedAt_loadChannel hThird 3
  rw [value_load]
  refine ⟨hFourth, hKept1.trans (hKept2.trans (hKept3.trans hKept4)), ?_⟩
  intro channel
  match channel with
  | 0 => exact hStored1.kept (hKept2.trans (hKept3.trans hKept4))
  | 1 => exact hStored2.kept (hKept3.trans hKept4)
  | 2 => exact hStored3.kept hKept4
  | 3 => exact hStored4

end Calibration

/-- A percentage and a calibration that a store gives back when it is loaded. -/
structure Saved (percent : UInt8) (calibration : Calibration) (store : Store) : Prop where
  calibration : calibration.StoredIn store
  percent : ∃ raw, ConfigStore.get store .thresholdPercent = some raw ∧
    ConfigStore.percentOf raw = percent

namespace Saved

variable {percent : UInt8} {calibration : Calibration} {store : Store}

theorem kept {later : Store} (h : Saved percent calibration store) (hKept : KeptIn store later) :
    Saved percent calibration later := by
  obtain ⟨raw, hRaw, hPercent⟩ := h.percent
  exact ⟨h.calibration.kept hKept, raw, hKept _ _ (by simp) hRaw, hPercent⟩

theorem loadThresholdPercent (h : Saved percent calibration store) :
    (ConfigStore.loadThresholdPercent store).value = (percent, store) := by
  obtain ⟨raw, hRaw, hPercent⟩ := h.percent
  rw [ConfigStore.value_loadThresholdPercent, ConfigStore.loadOrDefault_of_some hRaw, ← hPercent]

variable [LawfulStore Store]

/-- Percentage and calibration written one after the other, as when thresholds are derived. -/
theorem saveAll (hWritable : Writable store) (hPercent : percent ≤ 100) (calibration : Calibration) :
    let written := (Calibration.saveAll store
      ((.thresholdPercent, percent.toUInt16) :: calibration.entries)).value.2
    Writable written ∧ Saved percent calibration written := by
  intro written
  have hFit : ∀ write ∈ (ConfigKey.thresholdPercent, percent.toUInt16) :: calibration.entries,
      write.2 ≤ write.1.maximum := by
    refine List.forall_mem_cons.mpr ⟨?_, calibration.entries_fit⟩
    rw [UInt16.le_iff_toNat_le]
    exact UInt8.le_iff_toNat_le.mp hPercent
  have hKeys : (ConfigKey.nodeId :: .thresholdPercent :: calibration.entries.map Prod.fst).Nodup := by
    rw [calibration.keys_entries]
    decide
  have hStored : ∀ write ∈ (ConfigKey.thresholdPercent, percent.toUInt16) :: calibration.entries,
      ConfigStore.get written write.1 = some write.2 :=
    fun _ => ConfigStore.get_saveAll_of_mem (hWritable _ hFit) (List.nodup_cons.mp hKeys).2
  obtain ⟨hFirst, hRest⟩ := List.forall_mem_cons.mp hStored
  refine ⟨hWritable.saveAll hFit, ?_, percent.toUInt16, hFirst, ConfigStore.percentOf_toUInt16 hPercent⟩
  intro channel
  obtain ⟨hMax, hMin, hThreshold⟩ := calibration.mem_entries channel
  exact ⟨hRest _ hMax, hRest _ hMin, hRest _ hThreshold⟩

end Saved

end Telemetry
