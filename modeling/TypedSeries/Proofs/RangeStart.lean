import TypedSeries.Proofs.BatchTimes

/-!
# Where a range starts

The start of a range is found in three steps, each of which has an end to what it can hold. For
amounts that are not negative the three together are one clamp.

1. A unit makes a length of an amount. The lengths of the two smallest units all fit; those of the
   others are checked, and the longest length stands for one that does not
   (`Range.length_eq_getD`).
2. A length is brought into 64 bits, and the largest integer stands for one that does not fit
   (`Range.reach_eq_getD`, `Range.reach_eq_min`).
3. What is left of the present is clamped from below (`Range.toInt_start`).

**Main.** `Range.start_clamps`.
-/

namespace TypedSeries

namespace Range

variable {r r' : Range} {now : Int64}

/-! ## Lengths -/

/-- The nanoseconds of a range, however many they are. -/
def exactLength (r : Range) : Int := r.amount.toInt * r.unit.nanoseconds

/-- The length that the unit of a range makes of its amount. Nanoseconds and microseconds make one
of every amount, the other units only up to the longest length. -/
def length? (r : Range) : Option Int :=
  if r.unit.nanoseconds ≤ 1000 ∨ r.exactLength.natAbs ≤ longest.natAbs then some r.exactLength
  else none

theorem longest_eq : longest = 9223372036854775807000000 := rfl

theorem one_le_nanoseconds (u : TimeUnit) : 1 ≤ u.nanoseconds := by
  cases u <;> decide

theorem length_eq (r : Range) :
    r.length = if r.exactLength.natAbs ≤ longest.natAbs then r.exactLength else longest := rfl

/-- The lengths of the two smallest units need no check. -/
theorem exactLength_le_longest (h : r.unit.nanoseconds ≤ 1000) :
    r.exactLength.natAbs ≤ longest.natAbs := by
  have hamount : r.amount.toInt.natAbs ≤ 2 ^ 63 := by
    have hlo := r.amount.le_toInt
    have hhi := r.amount.toInt_lt
    omega
  calc r.exactLength.natAbs
      = r.amount.toInt.natAbs * r.unit.nanoseconds := by rw [exactLength, Int.natAbs_mul]; rfl
    _ ≤ 2 ^ 63 * 1000 := Nat.mul_le_mul hamount h
    _ ≤ longest.natAbs := by decide

theorem length_eq_getD (r : Range) : r.length = r.length?.getD longest := by
  simp only [length_eq, length?, or_iff_right_of_imp exactLength_le_longest]
  split <;> rfl

theorem natAbs_length_le (r : Range) : r.length.natAbs ≤ longest.natAbs := by
  rw [length_eq]
  split
  next h => exact h
  next => exact Nat.le_refl _

theorem exactLength_nonneg (h : 0 ≤ r.amount) : 0 ≤ r.exactLength :=
  Int.mul_nonneg (Int64.le_iff_toInt_le.1 h) (Int.natCast_nonneg _)

theorem length_eq_min (h : 0 ≤ r.amount) : r.length = min r.exactLength longest := by
  have hnonneg := exactLength_nonneg h
  rw [length_eq, longest_eq]
  split <;> omega

/-! ## Lengths in 64 bits -/

theorem reach_eq_getD (r : Range) :
    r.reach = ((int64? r.length).getD Int64.maxValue).toInt := by
  have hbound : int64Bound = 2 ^ 63 := rfl
  unfold reach int64?
  split
  next h =>
    unfold FitsInt64 at h
    rw [Option.getD_some, Int64.toInt_ofInt_of_le (by omega) (by omega)]
  next => rfl

theorem reach_eq_min (h : 0 ≤ r.amount) :
    r.reach = min r.exactLength Int64.maxValue.toInt := by
  have hbound : int64Bound = 2 ^ 63 := rfl
  have hmax : Int64.maxValue.toInt = 2 ^ 63 - 1 := rfl
  have hnonneg := exactLength_nonneg h
  -- a length past the longest is past 64 bits already, so the two clamps are one
  rw [reach, length_eq_min h, longest_eq]
  split
  next hfits => unfold FitsInt64 at hfits; omega
  next hfits => unfold FitsInt64 at hfits; omega

/-- What the steps from a range to its start pass on is within what holds it: a length is whole
seconds of 64 bits and less than a second of nanoseconds, and 64 bits hold the reach. -/
structure Fits (r : Range) : Prop where
  length : r.length.natAbs ≤ longest.natAbs
  wholeSeconds : FitsInt64 r.wholeSeconds
  subsecond : r.subsecond.natAbs < 1000000000
  sum : r.wholeSeconds * 1000000000 + r.subsecond = r.length
  reach : FitsInt64 r.reach

theorem fits (r : Range) : r.Fits where
  length := r.natAbs_length_le
  wholeSeconds := by
    have hlength := r.natAbs_length_le
    have hbound : int64Bound = 2 ^ 63 := rfl
    rw [longest_eq] at hlength
    have hseconds : r.wholeSeconds.natAbs ≤ r.length.natAbs := Int.natAbs_tdiv_le_natAbs _ _
    have hdiv : r.wholeSeconds.natAbs = r.length.natAbs / 1000000000 := Int.natAbs_tdiv _ _
    unfold FitsInt64
    omega
  subsecond := by
    rw [subsecond, Int.natAbs_tmod]
    exact Nat.mod_lt _ (by decide)
  sum := Int.tdiv_mul_add_tmod _ _
  reach := by
    have hbound : int64Bound = 2 ^ 63 := rfl
    unfold reach
    split
    next h => exact h
    next => unfold FitsInt64; omega

/-! ## Starts -/

/-- The start, step by step. -/
theorem start_eq (r : Range) (now : Int64) : r.start now = Int64.ofIntClamp
    (now.toInt - ((int64? (r.length?.getD longest)).getD Int64.maxValue).toInt) := by
  rw [start, reach_eq_getD, length_eq_getD]

theorem toInt_start (h : 0 ≤ r.amount) : (r.start now).toInt =
    max Int64.minValue.toInt (now.toInt - min r.exactLength Int64.maxValue.toInt) := by
  have hmin : Int64.minValue.toInt = -2 ^ 63 := rfl
  have hmax : Int64.maxValue.toInt = 2 ^ 63 - 1 := rfl
  have hnonneg := exactLength_nonneg h
  have hnow := now.toInt_lt
  rw [start, toInt_ofIntClamp_eq, reach_eq_min h]
  omega

theorem start_le (h : 0 ≤ r.amount) : r.start now ≤ now := by
  have hnonneg := exactLength_nonneg h
  have hmax : Int64.maxValue.toInt = 2 ^ 63 - 1 := rfl
  have hnow := now.minValue_le_toInt
  rw [Int64.le_iff_toInt_le, toInt_start h]
  omega

theorem amount_nonneg_of_exactLength (h : 0 ≤ r.exactLength) : 0 ≤ r.amount := by
  have hunit : 0 < (r.unit.nanoseconds : Int) := Int.natCast_pos.2 (one_le_nanoseconds r.unit)
  exact Int64.le_iff_toInt_le.2 (Int.nonneg_of_mul_nonneg_left h hunit)

/-- A range that is longer, in whatever unit, starts no later. -/
theorem start_anti (h : 0 ≤ r.amount) (hle : r.exactLength ≤ r'.exactLength) :
    r'.start now ≤ r.start now := by
  have h' : 0 ≤ r'.amount :=
    amount_nonneg_of_exactLength (Int.le_trans (exactLength_nonneg h) hle)
  rw [Int64.le_iff_toInt_le, toInt_start h, toInt_start h']
  omega

theorem exactLength_mono {unit : TimeUnit} {amount amount' : Int64} (h : amount ≤ amount') :
    exactLength ⟨amount, unit⟩ ≤ exactLength ⟨amount', unit⟩ :=
  Int.mul_le_mul_of_nonneg_right (Int64.le_iff_toInt_le.1 h) (Int.natCast_nonneg _)

theorem amount_of_parse {s : String} (h : parse s = .ok r) : 0 ≤ r.amount := by
  unfold parse at h
  split at h
  next hread =>
    obtain rfl := Except.ok.inj h
    exact Int64.le_iff_toInt_le.2 (amount_of_read hread)
  next => cases h

/-- **Where ranges start.** A range that is written, and the one of queries that have none, has an
amount that is not negative. The start is found in three steps, and all that is passed on from
step to step is within what holds it. For an amount that is not negative, of any unit and at any
time, it is the present less the exact length, the length clamped from above and the start from
below to 64 bits. So no start is later than the present, and a larger amount of the unit, or a
range of a larger exact length in any unit, starts no later. -/
theorem start_clamps :
    (∀ s r, parse s = .ok r → 0 ≤ r.amount) ∧ 0 ≤ standard.amount ∧
    (∀ (r : Range) (now : Int64), r.Fits ∧ r.start now = Int64.ofIntClamp
      (now.toInt - ((int64? (r.length?.getD longest)).getD Int64.maxValue).toInt)) ∧
    ∀ (r : Range) (now : Int64), 0 ≤ r.amount →
      (r.start now).toInt = max Int64.minValue.toInt
        (now.toInt - min (r.amount.toInt * r.unit.nanoseconds) Int64.maxValue.toInt) ∧
      r.start now ≤ now ∧
      (∀ amount, r.amount ≤ amount → start ⟨amount, r.unit⟩ now ≤ r.start now) ∧
      ∀ r' : Range, r.amount.toInt * r.unit.nanoseconds ≤ r'.amount.toInt * r'.unit.nanoseconds →
        r'.start now ≤ r.start now := by
  refine ⟨fun s r => amount_of_parse, by decide, fun r now => ⟨r.fits, r.start_eq now⟩,
    fun r now h => ?_⟩
  exact ⟨toInt_start h, start_le h, fun amount hle => start_anti h (exactLength_mono hle),
    fun r' hle => start_anti h hle⟩

/-- More weeks than there are: their length is past the longest, and the start is clamped twice. -/
def allWeeks : Range := ⟨Int64.maxValue, .week⟩

theorem start_clamps_allWeeks :
    (allWeeks.start 0).toInt = -(2 ^ 63 - 1) ∧ (allWeeks.start (-2)).toInt = -2 ^ 63 ∧
      allWeeks.length? = none ∧ allWeeks.Fits ∧
      allWeeks.start (-2) ≤ start ⟨Int64.maxValue, .nanosecond⟩ (-2) := by
  obtain ⟨-, -, hsteps, hstart⟩ := start_clamps
  have hamount : 0 ≤ allWeeks.amount := by decide
  refine ⟨?_, ?_, by decide, (hsteps allWeeks 0).1, ?_⟩
  · rw [(hstart allWeeks 0 hamount).1]
    decide
  · rw [(hstart allWeeks (-2) hamount).1]
    decide
  · exact (hstart ⟨Int64.maxValue, .nanosecond⟩ (-2) (by decide)).2.2.2 allWeeks
      (by decide)

end Range

end TypedSeries
