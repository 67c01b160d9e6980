import Mathlib.Algebra.Group.Nat.Defs
import ProcessIntegrity.Probe.Timing
/-!
# The precision of the timing comparison

Elapsed time and threshold are both cut down to whole microseconds before they are compared. What is
compared are therefore not the two times, and the difference can only be on one side: a sample that
triggers is longer than the exact threshold, and a sample that is longer by at least a microsecond
triggers (`comparison_exact`). The reason is that comparing cut quotients is comparing products
(`exceeds_iff`). All steps on the way fit words of 128 bits, whatever the sample and the threshold
are.
-/

namespace ProcessIntegrity

/-! ## Words of 128 bits -/

namespace Wide

def mul? (a b : BitVec 128) : Option (BitVec 128) :=
  if a.umulOverflow b then none else some (a * b)

def add? (a b : BitVec 128) : Option (BitVec 128) :=
  if a.uaddOverflow b then none else some (a + b)

def div? (a b : BitVec 128) : Option (BitVec 128) :=
  if b = 0 then none else some (a / b)

theorem mul?_of_lt {a b : BitVec 128} (h : a.toNat * b.toNat < 2 ^ 128) :
    ∃ c, mul? a b = some c ∧ c.toNat = a.toNat * b.toNat := by
  have hfits : ¬ a.umulOverflow b = true := by simpa [BitVec.umulOverflow] using h
  exact ⟨a * b, if_neg hfits, BitVec.toNat_mul_of_not_umulOverflow hfits⟩

theorem add?_of_lt {a b : BitVec 128} (h : a.toNat + b.toNat < 2 ^ 128) :
    ∃ c, add? a b = some c ∧ c.toNat = a.toNat + b.toNat := by
  have hfits : ¬ a.uaddOverflow b = true := by simpa [BitVec.uaddOverflow] using h
  exact ⟨a + b, if_neg hfits, BitVec.toNat_add_of_not_uaddOverflow hfits⟩

theorem div?_of_pos (a : BitVec 128) {b : BitVec 128} (h : 0 < b.toNat) :
    ∃ c, div? a b = some c ∧ c.toNat = a.toNat / b.toNat := by
  have hne : b ≠ 0 := by
    rintro rfl
    exact absurd h (by decide)
  exact ⟨a / b, if_neg hne, BitVec.toNat_udiv⟩

def ofWord (n : UInt64) : BitVec 128 :=
  n.toBitVec.setWidth 128

theorem toNat_ofWord (n : UInt64) : (ofWord n).toNat = n.toNat :=
  BitVec.toNat_setWidth_of_le (by decide)

end Wide

/-! ## The elapsed time in words -/

namespace Timing.Sample

def ticksWord (m : Sample) : UInt64 :=
  if m.start ≤ m.stop then m.stop - m.start else 0

/-- The elapsed whole microseconds, computed in words. A step that overflows, or that divides by
zero, has no result. -/
def elapsedWord? (m : Sample) : Option (BitVec 128) := do
  let scaled ← Wide.mul? (Wide.ofWord m.ticksWord) 1000000
  Wide.div? scaled (Wide.ofWord (max m.frequency 1))

theorem toNat_ticksWord (m : Sample) : m.ticksWord.toNat = m.ticks := by
  unfold ticksWord ticks
  by_cases hforward : m.start ≤ m.stop
  · rw [if_pos hforward, UInt64.toNat_sub_of_le _ _ hforward]
  · have hback : ¬ m.start.toNat ≤ m.stop.toNat := fun h => hforward (UInt64.le_iff_toNat_le.2 h)
    have hzero : (0 : UInt64).toNat = 0 := rfl
    rw [if_neg hforward]
    omega

theorem ticks_lt (m : Sample) : m.ticks < 2 ^ 64 := by
  have hstop : m.stop.toNat < 2 ^ 64 := m.stop.toNat_lt
  unfold ticks
  omega

theorem toNat_max_one (f : UInt64) : (max f 1).toNat = max f.toNat 1 := by
  have hmax : max f 1 = if f ≤ 1 then 1 else f := rfl
  have hone : (1 : UInt64).toNat = 1 := rfl
  rw [hmax]
  by_cases hle : f ≤ 1
  · have hsmall := UInt64.le_iff_toNat_le.1 hle
    rw [if_pos hle]
    omega
  · have hlarge : ¬ f.toNat ≤ (1 : UInt64).toNat := fun h => hle (UInt64.le_iff_toNat_le.2 h)
    rw [if_neg hle]
    omega

/-- No step overflows, and the result is the number of elapsed microseconds. -/
theorem elapsedWord?_eq (m : Sample) :
    ∃ w, m.elapsedWord? = some w ∧ w.toNat = m.elapsedMicros := by
  have hticks : (Wide.ofWord m.ticksWord).toNat = m.ticks := by
    rw [Wide.toNat_ofWord, toNat_ticksWord]
  have hmillion : (1000000 : BitVec 128).toNat = 1000000 := rfl
  have hfrequency : (Wide.ofWord (max m.frequency 1)).toNat = max m.frequency.toNat 1 := by
    rw [Wide.toNat_ofWord, toNat_max_one]
  have hfits : (Wide.ofWord m.ticksWord).toNat * (1000000 : BitVec 128).toNat < 2 ^ 128 := by
    have hlt := m.ticks_lt
    rw [hticks, hmillion]
    omega
  have hpositive : 0 < (Wide.ofWord (max m.frequency 1)).toNat := by omega
  obtain ⟨scaled, hmul, hscaled⟩ := Wide.mul?_of_lt hfits
  obtain ⟨w, hdiv, hw⟩ := Wide.div?_of_pos scaled hpositive
  refine ⟨w, ?_, ?_⟩
  · rw [elapsedWord?, hmul, Option.bind_eq_bind, Option.bind_some, hdiv]
  · rw [hw, hscaled, hticks, hmillion, hfrequency]
    rfl

end Timing.Sample

namespace Duration

def microsWord? (d : Duration) : Option (BitVec 128) := do
  let whole ← Wide.mul? (BitVec.ofNat 128 d.secs) 1000000
  Wide.add? whole (BitVec.ofNat 128 (d.nanos / 1000))

theorem microsWord?_eq (d : Duration) : ∃ w, d.microsWord? = some w ∧ w.toNat = d.wholeMicros := by
  have hsecs : d.secs < 2 ^ 64 := d.secs_lt
  have hnanos := d.nanos_lt
  have hmillion : (1000000 : BitVec 128).toNat = 1000000 := rfl
  have hwhole : (BitVec.ofNat 128 d.secs).toNat = d.secs := by
    rw [BitVec.toNat_ofNat]
    omega
  have hpart : (BitVec.ofNat 128 (d.nanos / 1000)).toNat = d.nanos / 1000 := by
    rw [BitVec.toNat_ofNat]
    omega
  have hfits : (BitVec.ofNat 128 d.secs).toNat * (1000000 : BitVec 128).toNat < 2 ^ 128 := by
    rw [hwhole, hmillion]
    omega
  obtain ⟨whole, hmul, hproduct⟩ := Wide.mul?_of_lt hfits
  rw [hwhole, hmillion] at hproduct
  have hfits' : whole.toNat + (BitVec.ofNat 128 (d.nanos / 1000)).toNat < 2 ^ 128 := by omega
  obtain ⟨w, hadd, hsum⟩ := Wide.add?_of_lt hfits'
  refine ⟨w, ?_, ?_⟩
  · rw [microsWord?, hmul, Option.bind_eq_bind, Option.bind_some, hadd]
  · rw [hsum, hproduct, hpart]
    rfl

end Duration

/-! ## What is compared -/

namespace Timing.Sample

/-- More than so many whole microseconds have passed exactly if the ticks are worth one more. -/
theorem exceeds_iff (m : Sample) (micros : Nat) :
    m.exceeds micros = true ↔ (micros + 1) * max m.frequency.toNat 1 ≤ m.ticks * 1000000 := by
  have hpositive : 0 < max m.frequency.toNat 1 := by omega
  unfold exceeds elapsedMicros
  rw [decide_eq_true_iff, ← Nat.succ_le_iff]
  exact Nat.le_div_iff_mul_le hpositive

theorem exceeds_iff_of_pos {m : Sample} (h : 0 < m.frequency.toNat) (micros : Nat) :
    m.exceeds micros = true ↔ (micros + 1) * m.frequency.toNat ≤ m.ticks * 1000000 := by
  have hmax : max m.frequency.toNat 1 = m.frequency.toNat := by omega
  rw [exceeds_iff, hmax]

theorem elapsedMicros_eq (m : Sample) :
    (m.elapsedMicros : Int) =
      max ((m.stop.toNat : Int) - m.start.toNat) 0 * 1000000 / max m.frequency.toNat 1 := by
  have hticks : max ((m.stop.toNat : Int) - m.start.toNat) 0 = m.ticks := by
    unfold ticks
    omega
  rw [hticks]
  rfl

/-- A sample that triggers is longer than the threshold: cutting the threshold off loses less than
the microsecond by which the cut times have to differ. -/
theorem threshold_lt_of_exceeds {m : Sample} {d : Duration} (hpositive : 0 < m.frequency.toNat)
    (h : m.exceeds d.wholeMicros = true) :
    d.toNanos * m.frequency.toNat < m.ticks * 1000000000 := by
  have hcut : d.toNanos < (d.wholeMicros + 1) * 1000 := by
    rw [Duration.wholeMicros_eq]
    omega
  calc d.toNanos * m.frequency.toNat
      < (d.wholeMicros + 1) * 1000 * m.frequency.toNat := Nat.mul_lt_mul_of_pos_right hcut hpositive
    _ = 1000 * ((d.wholeMicros + 1) * m.frequency.toNat) := by
      rw [Nat.mul_comm (d.wholeMicros + 1) 1000, Nat.mul_assoc]
    _ ≤ 1000 * (m.ticks * 1000000) :=
      Nat.mul_le_mul_left 1000 ((exceeds_iff_of_pos hpositive _).1 h)
    _ = m.ticks * 1000000000 := by omega

/-- A sample that is longer than the threshold by at least a microsecond triggers. -/
theorem exceeds_of_micro_above {m : Sample} {d : Duration} (hpositive : 0 < m.frequency.toNat)
    (h : (d.toNanos + 1000) * m.frequency.toNat ≤ m.ticks * 1000000000) :
    m.exceeds d.wholeMicros = true := by
  have hcut : 1000 * (d.wholeMicros + 1) ≤ d.toNanos + 1000 := by
    rw [Duration.wholeMicros_eq]
    omega
  have hscaled : 1000 * ((d.wholeMicros + 1) * m.frequency.toNat) ≤ 1000 * (m.ticks * 1000000) :=
    calc 1000 * ((d.wholeMicros + 1) * m.frequency.toNat)
        = 1000 * (d.wholeMicros + 1) * m.frequency.toNat := (Nat.mul_assoc ..).symm
      _ ≤ (d.toNanos + 1000) * m.frequency.toNat := Nat.mul_le_mul_right _ hcut
      _ ≤ m.ticks * 1000000000 := h
      _ = 1000 * (m.ticks * 1000000) := by omega
  rw [exceeds_iff_of_pos hpositive]
  exact Nat.le_of_mul_le_mul_left hscaled (by decide)

/-- A counter that did not advance shows no time, and no threshold is below that. -/
theorem exceeds_of_stop_le {m : Sample} (h : m.stop ≤ m.start) (micros : Nat) :
    m.exceeds micros = false := by
  have hticks : m.ticks = 0 := Nat.sub_eq_zero_of_le (UInt64.le_iff_toNat_le.1 h)
  have hpositive : 0 < (micros + 1) * max m.frequency.toNat 1 :=
    Nat.mul_pos (Nat.succ_pos micros) (by omega)
  rw [← Bool.not_eq_true, exceeds_iff, hticks]
  omega

end Timing.Sample

/-- No step of the comparison overflows 128 bits or divides by zero, whatever the readings, the
frequency and the threshold are, and the elapsed time is the exact one cut down to whole
microseconds. With a counter that advances in time, a sample that triggers is strictly longer than
the exact threshold, and one that is longer by a microsecond triggers. -/
theorem comparison_exact (m : Timing.Sample) (threshold : Duration) :
    (∃ w, m.elapsedWord? = some w ∧ w.toNat = m.elapsedMicros) ∧
    (∃ w, threshold.microsWord? = some w ∧ w.toNat = threshold.wholeMicros) ∧
    (m.elapsedMicros : Int) =
      max ((m.stop.toNat : Int) - m.start.toNat) 0 * 1000000 / max m.frequency.toNat 1 ∧
    (∀ micros, m.exceeds micros = true ↔
      (micros + 1) * max m.frequency.toNat 1 ≤ m.ticks * 1000000) ∧
    (0 < m.frequency.toNat →
      (m.exceeds threshold.wholeMicros = true →
        threshold.toNanos * m.frequency.toNat < m.ticks * 1000000000) ∧
      ((threshold.toNanos + 1000) * m.frequency.toNat ≤ m.ticks * 1000000000 →
        m.exceeds threshold.wholeMicros = true) ∧
      ∀ micros, m.exceeds micros = true ↔
        (micros + 1) * m.frequency.toNat ≤ m.ticks * 1000000) ∧
    (m.stop ≤ m.start → ∀ micros, m.exceeds micros = false) := by
  refine ⟨m.elapsedWord?_eq, threshold.microsWord?_eq, m.elapsedMicros_eq, m.exceeds_iff,
    fun hpositive => ⟨?_, ?_, ?_⟩, Timing.Sample.exceeds_of_stop_le⟩
  · exact Timing.Sample.threshold_lt_of_exceeds hpositive
  · exact Timing.Sample.exceeds_of_micro_above hpositive
  · exact Timing.Sample.exceeds_iff_of_pos hpositive

/-- 1797 ticks of a counter that no microsecond is a whole number of ticks of, just over 502 µs, and
a threshold that is just under 501 µs. -/
theorem comparison_exact_uneven :
    let m : Timing.Sample := ⟨18446744073709549818, 18446744073709551615, 3579545⟩
    let back : Timing.Sample := ⟨18446744073709551615, 18446744073709549818, 3579545⟩
    let threshold : Duration := ⟨0, 500999, by decide, by decide⟩
    0 < m.frequency.toNat ∧ m.ticks = 1797 ∧ m.elapsedMicros = 502 ∧ threshold.wholeMicros = 500 ∧
      (threshold.toNanos + 1000) * m.frequency.toNat ≤ m.ticks * 1000000000 ∧
      m.exceeds threshold.wholeMicros = true ∧
      threshold.toNanos * m.frequency.toNat < m.ticks * 1000000000 ∧
      back.stop ≤ back.start ∧ back.exceeds 0 = false := by
  intro m back threshold
  have hpositive : 0 < m.frequency.toNat := by decide
  have habove : (threshold.toNanos + 1000) * m.frequency.toNat ≤ m.ticks * 1000000000 := by decide
  have hback : back.stop ≤ back.start := by decide
  obtain ⟨-, -, -, -, hcompared, -⟩ := comparison_exact m threshold
  obtain ⟨hbelow, htriggers, -⟩ := hcompared hpositive
  obtain ⟨-, -, -, -, -, hnever⟩ := comparison_exact back threshold
  have hexceeds := htriggers habove
  exact ⟨hpositive, by decide, by decide, by decide, habove, hexceeds, hbelow hexceeds, hback,
    hnever hback 0⟩

end ProcessIntegrity
