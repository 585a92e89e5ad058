import Telemetry.Proofs.Checked
import Telemetry.Timer.Simulated

/-! Ticks against time: the two conversions are adjoint up to the last tick whose span is not cut off, each stops at a
limit of its own, and no word overflows on the way. A driver that sleeps until its alarm finds the counter there. -/
namespace Telemetry

/-- Nanoseconds that one tick takes. -/
def tickNanos : Nat := 200

/-- The most ticks whose span is not cut off. -/
def spanLimit : UInt64 := 92233720368547758

/-- Spans are compared by their length. -/
instance : LE Duration := ⟨fun shorter longer => shorter.nanos ≤ longer.nanos⟩

theorem Duration.le_iff {shorter longer : Duration} : shorter ≤ longer ↔ shorter.nanos ≤ longer.nanos :=
  Iff.rfl

namespace Duration

theorem seconds_mul_add (span : Duration) : span.seconds * nanosPerSecond + span.subsecond = span.nanos :=
  Nat.div_add_mod' span.nanos nanosPerSecond

theorem seconds_lt (span : Duration) : span.seconds < UInt64.size := by
  apply Nat.div_lt_of_lt_mul
  rw [Nat.mul_comm]
  exact Nat.lt_of_le_of_lt span.nanos_le (by decide)

theorem subsecond_lt (span : Duration) : span.subsecond < nanosPerSecond :=
  Nat.mod_lt _ (by decide)

end Duration

theorem toNat_ticksIn (span : Duration) : (ticksIn span).toNat = min (span.nanos / tickNanos) wordMax := by
  have hScale : span.nanos * tickRateHz / nanosPerSecond = span.nanos / tickNanos :=
    Nat.mul_div_mul_right span.nanos tickNanos (by decide : 0 < tickRateHz)
  rw [ticksIn, hScale]
  apply UInt64.toNat_ofNat_of_lt'
  exact Nat.lt_of_le_of_lt (Nat.min_le_right ..) (by decide)

theorem nanos_durationOf (ticks : UInt64) :
    (durationOf ticks).nanos = min (ticks.toNat * tickNanos) wordMax := by
  have hScale : ticks.toNat * nanosPerSecond / tickRateHz = ticks.toNat * tickNanos := by
    rw [show nanosPerSecond = tickNanos * tickRateHz from rfl, ← Nat.mul_assoc]
    exact Nat.mul_div_cancel _ (by decide)
  rw [durationOf, hScale]
  apply Nat.min_eq_left
  exact Nat.le_trans (Nat.min_le_right ..) (by decide)

/-- So many ticks fit into a span exactly if the time they take does. -/
theorem le_ticksIn_iff {ticks : UInt64} (h : ticks ≤ spanLimit) (span : Duration) :
    ticks ≤ ticksIn span ↔ durationOf ticks ≤ span := by
  have hLimit : ticks.toNat ≤ 92233720368547758 := UInt64.le_iff_toNat_le.mp h
  rw [UInt64.le_iff_toNat_le, Duration.le_iff, toNat_ticksIn, nanos_durationOf]
  simp only [tickNanos, wordMax, UInt64.size]
  omega

private theorem toNat_min (a b : UInt64) : (min a b).toNat = min a.toNat b.toNat := by
  change (if a ≤ b then a else b).toNat = _
  split
  · rename_i h
    exact (Nat.min_eq_left (UInt64.le_iff_toNat_le.mp h)).symm
  · rename_i h
    exact (Nat.min_eq_right (UInt64.le_iff_toNat_le.mp (UInt64.le_of_lt (UInt64.not_le.mp h)))).symm

/-- There and back, the ticks are cut off where their span was. -/
theorem ticksIn_durationOf (ticks : UInt64) : ticksIn (durationOf ticks) = min ticks spanLimit := by
  apply UInt64.toNat_inj.mp
  have hTicks := ticks.toNat_lt
  have hLimit : spanLimit.toNat = 92233720368547758 := rfl
  rw [toNat_ticksIn, nanos_durationOf, toNat_min, hLimit]
  simp only [tickNanos, wordMax, UInt64.size]
  omega

theorem ticksIn_mono {shorter longer : Duration} (h : shorter ≤ longer) : ticksIn shorter ≤ ticksIn longer := by
  rw [UInt64.le_iff_toNat_le, toNat_ticksIn, toNat_ticksIn]
  have hTicks : shorter.nanos / tickNanos ≤ longer.nanos / tickNanos := Nat.div_le_div_right h
  exact Nat.le_min.mpr ⟨Nat.le_trans (Nat.min_le_left ..) hTicks, Nat.min_le_right ..⟩

theorem durationOf_mono {fewer more : UInt64} (h : fewer ≤ more) : durationOf fewer ≤ durationOf more := by
  rw [Duration.le_iff, nanos_durationOf, nanos_durationOf]
  have hNanos : fewer.toNat * tickNanos ≤ more.toNat * tickNanos :=
    Nat.mul_le_mul_right _ (UInt64.le_iff_toNat_le.mp h)
  exact Nat.le_min.mpr ⟨Nat.le_trans (Nat.min_le_left ..) hNanos, Nat.min_le_right ..⟩

section Words

/-- A word cut off at the largest one of 64 bits. -/
def cutOff (word : BitVec 128) : UInt64 :=
  .ofBitVec ((Checked.narrow 64 word).getD (BitVec.allOnes 64))

/-- The ticks in a span worked out in words of 128 bits from its seconds and the nanoseconds past them, every step
of it checked. -/
def checkedTicksIn (span : Duration) : Option UInt64 := do
  let whole ← Checked.mul ((BitVec.ofNat 64 span.seconds).setWidth 128) (.ofNat 128 nanosPerSecond)
  let nanos ← Checked.add whole ((BitVec.ofNat 32 span.subsecond).setWidth 128)
  let scaled ← Checked.mul nanos (.ofNat 128 tickRateHz)
  some (cutOff (scaled / .ofNat 128 nanosPerSecond))

/-- The span of so many ticks worked out in words of 128 bits, every step of it checked. -/
def checkedDurationOf (ticks : UInt64) : Option Duration := do
  let scaled ← Checked.mul (ticks.toBitVec.setWidth 128) (.ofNat 128 nanosPerSecond)
  some (.ofNanos (cutOff (scaled / .ofNat 128 tickRateHz)).toNat)

theorem toNat_cutOff (word : BitVec 128) : (cutOff word).toNat = min word.toNat wordMax := by
  by_cases hFits : word.toNat ≤ wordMax
  · have hSame : (word.setWidth 64).toNat = word.toNat := by
      rw [BitVec.toNat_setWidth]
      exact Nat.mod_eq_of_lt (Nat.lt_of_le_of_lt hFits (by decide))
    obtain ⟨fitted, hNarrow, hFitted⟩ := Checked.exists_narrow 64 hSame
    rw [cutOff, hNarrow, Nat.min_eq_left hFits]
    exact hFitted
  · have hLost : (word.setWidth 64).toNat ≠ word.toNat := fun hSame =>
      hFits (hSame ▸ Nat.le_of_lt_succ (word.setWidth 64).isLt)
    rw [cutOff, Checked.narrow, if_neg hLost, Nat.min_eq_right (Nat.le_of_not_le hFits)]
    rfl

private theorem toNat_nanosPerSecond : (BitVec.ofNat 128 nanosPerSecond).toNat = nanosPerSecond := by
  decide

private theorem toNat_tickRateHz : (BitVec.ofNat 128 tickRateHz).toNat = tickRateHz := by
  decide

/-- No step from the seconds to the ticks overflows, whatever the span. -/
theorem checkedTicksIn_eq (span : Duration) : checkedTicksIn span = some (ticksIn span) := by
  have hLt : span.seconds < 18446744073709551616 := span.seconds_lt
  have hSeconds : ((BitVec.ofNat 64 span.seconds).setWidth 128).toNat = span.seconds := by
    rw [BitVec.toNat_setWidth_of_le (by decide), BitVec.toNat_ofNat]
    exact Nat.mod_eq_of_lt hLt
  have hRestLt : span.subsecond < 1000000000 := span.subsecond_lt
  have hRest : ((BitVec.ofNat 32 span.subsecond).setWidth 128).toNat = span.subsecond := by
    rw [BitVec.toNat_setWidth_of_le (by decide), BitVec.toNat_ofNat]
    exact Nat.mod_eq_of_lt (by omega)
  obtain ⟨whole, hMul, hWhole⟩ := Checked.exists_mul (a := (BitVec.ofNat 64 span.seconds).setWidth 128)
    (b := .ofNat 128 nanosPerSecond)
    (by rw [BitVec.umulOverflow, hSeconds, toNat_nanosPerSecond, decide_eq_true_eq, nanosPerSecond]; omega)
  obtain ⟨nanos, hAdd, hSum⟩ := Checked.exists_add (a := whole) (b := (BitVec.ofNat 32 span.subsecond).setWidth 128)
    (by
      rw [BitVec.uaddOverflow, hWhole, hSeconds, toNat_nanosPerSecond, hRest, decide_eq_true_eq, nanosPerSecond]
      omega)
  have hNanos : nanos.toNat = span.nanos := by
    rw [hSum, hWhole, hSeconds, toNat_nanosPerSecond, hRest]
    exact span.seconds_mul_add
  have hNanosLt : span.nanos < 18446744073709551616000000000 :=
    Nat.lt_of_le_of_lt span.nanos_le (by decide)
  obtain ⟨scaled, hScale, hScaled⟩ := Checked.exists_mul (a := nanos) (b := .ofNat 128 tickRateHz)
    (by rw [BitVec.umulOverflow, hNanos, toNat_tickRateHz, decide_eq_true_eq, tickRateHz]; omega)
  have hTicks : (scaled / BitVec.ofNat 128 nanosPerSecond).toNat = span.nanos * tickRateHz / nanosPerSecond := by
    rw [BitVec.toNat_udiv, hScaled, hNanos, toNat_nanosPerSecond, toNat_tickRateHz]
  rw [checkedTicksIn, hMul, Option.bind_eq_bind, Option.bind_some, hAdd, Option.bind_some, hScale, Option.bind_some]
  apply congrArg some
  apply UInt64.toNat_inj.mp
  rw [toNat_cutOff, hTicks, ticksIn]
  exact (UInt64.toNat_ofNat_of_lt' (Nat.lt_of_le_of_lt (Nat.min_le_right ..) (by decide))).symm

/-- No step from the ticks to the nanoseconds overflows, however many ticks. -/
theorem checkedDurationOf_eq (ticks : UInt64) : checkedDurationOf ticks = some (durationOf ticks) := by
  have hLt : ticks.toNat < 18446744073709551616 := ticks.toNat_lt
  have hTicks : (ticks.toBitVec.setWidth 128).toNat = ticks.toNat := BitVec.toNat_setWidth_of_le (by decide)
  obtain ⟨scaled, hScale, hScaled⟩ := Checked.exists_mul (a := ticks.toBitVec.setWidth 128)
    (b := .ofNat 128 nanosPerSecond)
    (by rw [BitVec.umulOverflow, hTicks, toNat_nanosPerSecond, decide_eq_true_eq, nanosPerSecond]; omega)
  rw [checkedDurationOf, hScale, Option.bind_eq_bind, Option.bind_some]
  apply congrArg some
  rw [toNat_cutOff, BitVec.toNat_udiv, hScaled, hTicks, toNat_nanosPerSecond, toNat_tickRateHz, durationOf]

end Words

/-- Whoever waits out a timer finds its counter at the alarm, or further on by all the ticks that a span can hold. -/
theorem SimulatedTimer.countAfter_of_waited {timer : SimulatedTimer} {elapsed later : Duration}
    (h : elapsed.nanos + (timer.waiting elapsed).nanos ≤ later.nanos) :
    min timer.alarm.toNat (countAfter timer.counter elapsed + spanLimit.toNat) ≤ countAfter timer.counter later := by
  have hCount := timer.counter.toNat_lt
  have hAlarm := timer.alarm.toNat_lt
  have hAhead : (UInt64.ofNat (timer.alarm.toNat - countAfter timer.counter elapsed)).toNat =
      timer.alarm.toNat - countAfter timer.counter elapsed :=
    UInt64.toNat_ofNat_of_lt' (Nat.lt_of_le_of_lt (Nat.sub_le ..) hAlarm)
  have hLimit : spanLimit.toNat = 92233720368547758 := rfl
  rw [waiting, nanos_durationOf, hAhead] at h
  simp only [countAfter, toNat_ticksIn, hLimit, tickNanos, wordMax, UInt64.size] at *
  omega

/-- The conversions are adjoint as long as a span is not cut off, there and back they lose only what is cut off, both
are monotone, and no word overflows in them. So whoever waits out a timer does not find its alarm ahead by rounding:
only a wait for more ticks than a span can hold ends before the alarm. -/
theorem conversions_adjoint :
    (∀ ticks ≤ spanLimit, ∀ span, ticks ≤ ticksIn span ↔ durationOf ticks ≤ span) ∧
    (∀ ticks, ticksIn (durationOf ticks) = min ticks spanLimit) ∧
    (∀ shorter longer : Duration, shorter ≤ longer → ticksIn shorter ≤ ticksIn longer) ∧
    (∀ fewer more, fewer ≤ more → durationOf fewer ≤ durationOf more) ∧
    (∀ span, checkedTicksIn span = some (ticksIn span)) ∧
    (∀ ticks, checkedDurationOf ticks = some (durationOf ticks)) ∧
    ∀ (timer : SimulatedTimer) (elapsed later : Duration),
      elapsed.nanos + (timer.waiting elapsed).nanos ≤ later.nanos →
      timer.alarm.toNat ≤ countAfter timer.counter elapsed + spanLimit.toNat →
      timer.alarm.toNat ≤ countAfter timer.counter later ∧ (timer.waiting later).nanos = 0 := by
  refine ⟨fun ticks h span => le_ticksIn_iff h span, ticksIn_durationOf, fun _ _ => ticksIn_mono,
    fun _ _ => durationOf_mono, checkedTicksIn_eq, checkedDurationOf_eq, ?_⟩
  intro timer elapsed later hLater hNear
  have hReached : timer.alarm.toNat ≤ countAfter timer.counter later := by
    have hWaited := SimulatedTimer.countAfter_of_waited hLater
    rwa [Nat.min_eq_left hNear] at hWaited
  refine ⟨hReached, ?_⟩
  rw [SimulatedTimer.waiting, Nat.sub_eq_zero_of_le hReached]
  decide

/-- The alarm of a rate of 60 a second, one nanosecond short of it and waited out from a tick and a half. -/
theorem conversions_adjoint_trial :
    let timer : SimulatedTimer := { counter := 1000, alarm := 84326 }
    (83326 ≤ spanLimit ∧ ¬ 83326 ≤ ticksIn (.ofNanos 16665199) ∧ ¬ durationOf 83326 ≤ .ofNanos 16665199) ∧
    (timer.waiting (.ofNanos 300)).nanos = 16665000 ∧ (timer.waiting (.ofNanos 16665300)).nanos = 0 := by
  intro timer
  obtain ⟨hAdjoint, -, -, -, -, -, hWaited⟩ := conversions_adjoint
  have hShort : ¬ (83326 : UInt64) ≤ ticksIn (.ofNanos 16665199) := by decide
  refine ⟨⟨by decide, hShort, ?_⟩, by decide, ?_⟩
  · exact fun hLe => hShort ((hAdjoint 83326 (by decide) _).mpr hLe)
  · exact (hWaited timer (.ofNanos 300) (.ofNanos 16665300) (by decide) (by decide)).2

end Telemetry
