import Mathlib.Algebra.Order.Field.Rat
import Mathlib.Algebra.Order.Ring.Abs
import Mathlib.Tactic.Linarith
import TypedSeries.Proofs.NativeOrder
import TypedSeries.Proofs.WholeNumbers

/-!
# Coercion between integers and doubles

1. No representable count lies between the two multiples of the grid that are next to a count
   (`le_or_le_of_representable`), so rounding gives the nearest one (`natAbs_roundUnits_sub_le`).
2. Doubles have real values (`Binary64.real?`). The double nearest to an integer is nearer to it
   than any other (`Binary64.ofInt_nearest`), and a double narrows to an integer exactly if that is
   its value (`Binary64.toInt?_eq_some_iff`).
3. An integer is a double's value exactly if it is less than 53 bits with zeros behind them
   (`roundUnits_eq_self_iff`).

**Main.** `Value.coerce_between_numbers`: narrowing loses nothing, and widening loses nothing of the
integers that are a double's value and changes all others.
-/

namespace TypedSeries

/-! ## Rounding to the nearest -/

/-- The distance of the multiples of the grid on which a count is rounded. -/
def gridStep (n : Nat) : Nat := Nat.pow 2 (n.log2 - 52)

theorem gridStep_pos (n : Nat) : 0 < gridStep n := Nat.pow_pos (by decide)

/-- A representable count is not between the two multiples of the grid next to a count. -/
theorem le_or_le_of_representable {m : Nat} (hm : Representable m) (n : Nat) :
    m ≤ n / gridStep n * gridStep n ∨ (n / gridStep n + 1) * gridStep n ≤ m := by
  by_cases hlog : n.log2 ≤ m.log2
  · -- the count is on the grid itself
    have hgrid : gridStep n ∣ Nat.pow 2 (m.log2 - 52) := Nat.pow_dvd_pow 2 (by omega)
    obtain ⟨j, rfl⟩ := hgrid.trans hm.2
    rw [Nat.mul_comm (gridStep n) j]
    rcases Nat.lt_or_ge (n / gridStep n) j with hj | hj
    · exact .inr (Nat.mul_le_mul_right _ hj)
    · exact .inl (Nat.mul_le_mul_right _ hj)
  · -- the count is below a power of two that is on the grid and not above the other
    left
    have hn : n ≠ 0 := by
      rintro rfl
      simp at hlog
    have hpow : 2 ^ n.log2 ≤ n := Nat.log2_self_le hn
    have hgrid : gridStep n ∣ 2 ^ n.log2 := Nat.pow_dvd_pow 2 (by omega)
    obtain ⟨j, hj⟩ := hgrid
    have hle : j ≤ n / gridStep n := by
      rw [Nat.le_div_iff_mul_le (gridStep_pos n), Nat.mul_comm, ← hj]
      exact hpow
    calc m ≤ 2 ^ (m.log2 + 1) := Nat.le_of_lt Nat.lt_log2_self
      _ ≤ 2 ^ n.log2 := Nat.pow_le_pow_right (by decide) (by omega)
      _ = j * gridStep n := by rw [hj, Nat.mul_comm]
      _ ≤ n / gridStep n * gridStep n := Nat.mul_le_mul_right _ hle

/-- A rounded count is one of the two multiples of the grid, and the other is no nearer. -/
theorem natAbs_roundUnits_le (n : Nat) :
    ((roundUnits n 1 : Int) - n).natAbs ≤ n % gridStep n ∧
      ((roundUnits n 1 : Int) - n).natAbs ≤ gridStep n - n % gridStep n := by
  have hsplit := Nat.div_add_mod n (gridStep n)
  have hlt := Nat.mod_lt n (gridStep_pos n)
  have hround : roundUnits n 1 = if 2 * (n % gridStep n) < gridStep n ∨
      2 * (n % gridStep n) = gridStep n ∧ n / gridStep n % 2 = 0 then n / gridStep n * gridStep n
      else (n / gridStep n + 1) * gridStep n := by
    unfold roundUnits gridStep
    simp only [Nat.div_one, Nat.one_mul]
  rw [hround, Nat.add_mul, Nat.one_mul, Nat.mul_comm (n / gridStep n)]
  generalize gridStep n * (n / gridStep n) = below at hsplit ⊢
  split <;> omega

theorem gridStep_dvd_roundUnits (n : Nat) : gridStep n ∣ roundUnits n 1 := by
  unfold roundUnits gridStep
  simp only [Nat.div_one, Nat.one_mul]
  split <;> exact Nat.dvd_mul_left _ _

/-- **Rounding to the nearest.** No representable count is nearer than the rounded one. -/
theorem natAbs_roundUnits_sub_le {m : Nat} (hm : Representable m) (n : Nat) :
    ((roundUnits n 1 : Int) - n).natAbs ≤ ((m : Int) - n).natAbs := by
  obtain ⟨hdown, hup⟩ := natAbs_roundUnits_le n
  have hsplit := Nat.div_add_mod n (gridStep n)
  have hgap := le_or_le_of_representable hm n
  rw [Nat.add_mul, Nat.one_mul, Nat.mul_comm (n / gridStep n)] at hgap
  generalize gridStep n * (n / gridStep n) = below at hsplit hgap
  omega

/-! ## Integers that are rounded to themselves -/

theorem log2_mul_unitsPerOne {n : Nat} (hn : n ≠ 0) :
    (n * unitsPerOne).log2 = n.log2 + 1074 := by
  have hpos := unitsPerOne_pos
  have hne : n * unitsPerOne ≠ 0 := Nat.mul_ne_zero hn (by omega)
  rw [Nat.log2_eq_iff hne, show n.log2 + 1074 + 1 = n.log2 + 1 + 1074 by omega,
    ← pow_mul_unitsPerOne, ← pow_mul_unitsPerOne]
  exact ⟨Nat.mul_le_mul_right _ (Nat.log2_self_le hn),
    Nat.mul_lt_mul_of_pos_right Nat.lt_log2_self hpos⟩

/-- Up to `2 ^ 63` the doubles do not overflow. -/
theorem lt_overflowUnits_of_le {u : Nat} (h : u ≤ 2 ^ 63 * unitsPerOne) : u < overflowUnits := by
  rw [pow_mul_unitsPerOne] at h
  generalize he : 63 + 1074 = e at h
  have hlt : u < Nat.pow 2 (e + 1) := Nat.lt_of_le_of_lt h (Nat.pow_lt_pow_succ (by decide))
  exact lt_overflowUnits hlt (by omega)

/-- An integer of at most 64 bits is rounded to itself exactly if it is less than 53 bits with zeros
behind them. -/
theorem roundUnits_eq_self_iff {n : Nat} (h : n ≤ 2 ^ 63) :
    roundUnits (n * unitsPerOne) 1 = n * unitsPerOne ↔ ∃ m k, m < 2 ^ 53 ∧ n = m * 2 ^ k := by
  constructor
  · intro hround
    by_cases hsmall : n.log2 < 53
    · exact ⟨n, 0, Nat.lt_of_lt_of_le Nat.lt_log2_self (Nat.pow_le_pow_right (by decide) hsmall),
        by simp⟩
    · -- the grid of the count is that of the integer, in units
      have hn : n ≠ 0 := by
        rintro rfl
        simp at hsmall
      have hstep := gridStep_dvd_roundUnits (n * unitsPerOne)
      rw [hround, gridStep, log2_mul_unitsPerOne hn, show n.log2 + 1074 - 52 = n.log2 - 52 + 1074
        by omega, Nat.pow_eq, ← pow_mul_unitsPerOne] at hstep
      obtain ⟨m, hm⟩ := Nat.dvd_of_mul_dvd_mul_right unitsPerOne_pos hstep
      refine ⟨m, n.log2 - 52, ?_, by rw [Nat.mul_comm, ← hm]⟩
      have hlt : 2 ^ (n.log2 - 52) * m < 2 ^ (n.log2 - 52) * 2 ^ 53 := by
        rw [← hm, ← Nat.pow_add, show n.log2 - 52 + 53 = n.log2 + 1 by omega]
        exact Nat.lt_log2_self
      exact Nat.lt_of_mul_lt_mul_left hlt
  · rintro ⟨m, k, hm, rfl⟩
    have hrep : Representable (m * 2 ^ k * unitsPerOne) := by
      refine ⟨lt_overflowUnits_of_le (Nat.mul_le_mul_right _ h), ?_⟩
      rw [Nat.mul_assoc, pow_mul_unitsPerOne]
      exact dvd_of_significand_le (Nat.le_of_lt hm)
    have hself := Decimal.roundUnits_mul hrep (k := 1) (by decide)
    rwa [Nat.mul_one] at hself

/-! ## Counts with a sign -/

theorem mul_eq_signed (s : Bool) (a : Nat) : (if s then -1 else 1) * (a : Int) = signed s a := by
  cases s <;> simp

theorem signed_mul (s : Bool) (a b : Nat) : signed s (a * b) = signed s a * b := by
  cases s <;> simp

@[simp] theorem natAbs_signed (s : Bool) (a : Nat) : (signed s a).natAbs = a := by
  cases s <;> simp

theorem signed_natAbs (i : Int) : signed (i < 0) i.natAbs = i := by
  by_cases h : i < 0
  · simp only [h, decide_true, signed_true]
    omega
  · simp only [h, decide_false, signed_false]
    omega

/-- A count is so many of a size, and the number of them has the count's sign. -/
theorem mul_eq_signed_iff {size : Nat} (hsize : 0 < size) {n : Int} {s : Bool} {units : Nat} :
    n * size = signed s units ↔ units % size = 0 ∧ n = signed s (units / size) := by
  constructor
  · intro h
    obtain rfl : n.natAbs * size = units := by
      simpa [Int.natAbs_mul] using congrArg Int.natAbs h
    rw [Nat.mul_mod_left, Nat.mul_div_cancel _ hsize]
    rw [signed_mul] at h
    exact ⟨rfl, Int.eq_of_mul_eq_mul_right (by omega) h⟩
  · rintro ⟨hdvd, rfl⟩
    rw [← signed_mul, Nat.div_mul_cancel (Nat.dvd_of_mod_eq_zero hdvd)]

/-- What is nearer to a count without signs is nearer with signs, if its sign is the count's. -/
theorem natAbs_signed_sub_le {n near far : Nat} (s t : Bool)
    (h : ((near : Int) - n).natAbs ≤ ((far : Int) - n).natAbs) :
    (signed s near - signed s n).natAbs ≤ (signed t far - signed s n).natAbs := by
  cases s <;> cases t <;> simp <;> omega

theorem abs_sub_le_of_scaled {u q v w : ℚ} {a b c : Int} (hu : 0 < u) (hq : q * u = a)
    (hv : v * u = b) (hw : w * u = c) (h : (a - c).natAbs ≤ (b - c).natAbs) :
    |q - w| ≤ |v - w| := by
  have habs : |a - c| ≤ |b - c| := by
    rw [Int.abs_eq_natAbs, Int.abs_eq_natAbs]
    exact_mod_cast h
  refine le_of_mul_le_mul_right ?_ hu
  rw [← abs_of_pos hu, ← abs_mul, ← abs_mul, sub_mul, sub_mul, hq, hv, hw]
  exact_mod_cast habs

/-! ## Real values -/

namespace Binary64

/-- The real number that a double is. -/
def real? : Binary64 → Option ℚ
  | finite negative units _ => some (signed negative units / unitsPerOne)
  | _ => none

theorem unitsPerOne_pos_rat : (0 : ℚ) < unitsPerOne := by exact_mod_cast unitsPerOne_pos

/-- The value of a finite double is its count of units. -/
theorem real?_finite_iff {negative : Bool} {units : Nat} {h : Representable units} {q : ℚ} :
    (finite negative units h).real? = some q ↔ q * unitsPerOne = (signed negative units : Int) := by
  rw [real?, Option.some.injEq, div_eq_iff unitsPerOne_pos_rat.ne', eq_comm]

theorem real?_finite_int_iff {negative : Bool} {units : Nat} {h : Representable units} {n : Int} :
    (finite negative units h).real? = some (n : ℚ) ↔ n * unitsPerOne = signed negative units := by
  rw [real?_finite_iff]
  exact_mod_cast Iff.rfl

/-- A double narrows to an integer exactly if the integer is its value and has 64 bits. -/
theorem toInt?_eq_some_iff {x : Binary64} {n : Int} :
    x.toInt? = some n ↔ x.real? = some (n : ℚ) ∧ FitsInt64 n := by
  cases x with
  | nan => simp [toInt?, real?]
  | infinite => simp [toInt?, real?]
  | finite negative units h =>
    rw [real?_finite_int_iff, mul_eq_signed_iff unitsPerOne_pos]
    unfold toInt?
    simp only [mul_eq_signed]
    split
    next hdvd =>
      split
      next hfits =>
        rw [Option.some.injEq]
        exact ⟨fun hn => ⟨⟨hdvd, hn.symm⟩, hn ▸ hfits⟩, fun hn => hn.1.2.symm⟩
      next hfits =>
        refine iff_of_false (fun hn => nomatch hn) ?_
        rintro ⟨⟨-, rfl⟩, hn⟩
        exact hfits hn
    next hdvd => simp [hdvd]

/-! ## The double nearest to an integer -/

/-- An integer of at most 64 bits is rounded to a finite double. -/
theorem ofInt_eq {i : Int} (h : i.natAbs ≤ 2 ^ 63) : ∃ hr,
    ofInt i = finite (i < 0) (roundUnits (i.natAbs * unitsPerOne) 1) hr := by
  have hlt := lt_overflowUnits_of_le (roundUnits_le_pow h)
  refine ⟨representable_roundUnits hlt, ?_⟩
  unfold ofInt nearest
  rw [dif_pos hlt]

/-- The count of units, with its sign, that an integer is rounded to. -/
def roundedUnits (i : Int) : Int := signed (i < 0) (roundUnits (i.natAbs * unitsPerOne) 1)

theorem mul_unitsPerOne (i : Int) : i * unitsPerOne = signed (i < 0) (i.natAbs * unitsPerOne) := by
  rw [signed_mul, signed_natAbs]

/-- No double's count is nearer to an integer than the one the integer is rounded to. -/
theorem natAbs_roundedUnits_sub_le (i : Int) (s : Bool) {m : Nat} (hm : Representable m) :
    (roundedUnits i - i * unitsPerOne).natAbs ≤ (signed s m - i * unitsPerOne).natAbs := by
  rw [mul_unitsPerOne]
  exact natAbs_signed_sub_le _ s (natAbs_roundUnits_sub_le hm _)

theorem rank_ofInt {i : Int} (h : i.natAbs ≤ 2 ^ 63) : (ofInt i).rank = some (roundedUnits i) := by
  obtain ⟨hr, hx⟩ := ofInt_eq h
  rw [hx]
  exact rank_finite _ _ hr

theorem exists_real?_ofInt {i : Int} (h : i.natAbs ≤ 2 ^ 63) : ∃ q, (ofInt i).real? = some q := by
  obtain ⟨hr, hx⟩ := ofInt_eq h
  rw [hx]
  exact ⟨_, rfl⟩

/-- **The nearest double.** No double is nearer to an integer than the one it widens to. -/
theorem ofInt_nearest {i : Int} (h : i.natAbs ≤ 2 ^ 63) {q v : ℚ} {y : Binary64}
    (hq : (ofInt i).real? = some q) (hv : y.real? = some v) : |q - i| ≤ |v - i| := by
  obtain ⟨hr, hx⟩ := ofInt_eq h
  rw [hx, real?_finite_iff] at hq
  cases y with
  | nan => cases hv
  | infinite => cases hv
  | finite s m hm =>
    rw [real?_finite_iff] at hv
    have hi : (i : ℚ) * unitsPerOne = (i * unitsPerOne : Int) := by
      push_cast
      rfl
    exact abs_sub_le_of_scaled unitsPerOne_pos_rat hq hv hi (natAbs_roundedUnits_sub_le i s hm)

/-- An integer comes back from the double it widens to exactly if it is rounded to itself. -/
theorem real?_ofInt_iff {i : Int} (h : i.natAbs ≤ 2 ^ 63) :
    (ofInt i).real? = some (i : ℚ) ↔ ∃ m k, m < 2 ^ 53 ∧ i.natAbs = m * 2 ^ k := by
  obtain ⟨hr, hx⟩ := ofInt_eq h
  rw [← roundUnits_eq_self_iff h, hx, real?_finite_int_iff, mul_unitsPerOne]
  constructor
  · intro he
    simpa using (congrArg Int.natAbs he).symm
  · intro he
    rw [he]

end Binary64

/-! ## Values -/

theorem natAbs_toInt_le (i : Int64) : i.toInt.natAbs ≤ 2 ^ 63 := by
  obtain ⟨hlow, hhigh⟩ := fitsInt64_toInt i
  have hbound : int64Bound = 2 ^ 63 := rfl
  omega

namespace Value

/-- What a double narrows to is its value. -/
theorem narrow_eq_some_iff {x : Binary64} {w : Value} : (number x).coerce .integer = some w ↔
    ∃ n : Int64, w = integer n ∧ x.real? = some (n.toInt : ℚ) := by
  show x.toInt?.map (integer ∘ Int64.ofInt) = some w ↔ _
  rw [Option.map_eq_some_iff]
  constructor
  · rintro ⟨n, hn, rfl⟩
    obtain ⟨hreal, hfits⟩ := Binary64.toInt?_eq_some_iff.1 hn
    exact ⟨Int64.ofInt n, rfl, by rw [toInt_ofInt_of_fits hfits, hreal]⟩
  · rintro ⟨n, rfl, hreal⟩
    exact ⟨n.toInt, Binary64.toInt?_eq_some_iff.2 ⟨hreal, fitsInt64_toInt n⟩,
      congrArg integer (Int64.ofInt_toInt n)⟩

/-- **Coercion between numbers.** An integer widens to the double nearest to it, and comes back from
it exactly if it is less than 53 bits with zeros behind them. A double narrows to an integer exactly
if it has an integer of 64 bits as its value, and to that one. -/
theorem coerce_between_numbers (i : Int64) (x : Binary64) :
    (∃ y q, (integer i).coerce .number = some (number y) ∧ y.real? = some q ∧
      (∀ (z : Binary64) v, z.real? = some v → |q - i.toInt| ≤ |v - i.toInt|) ∧
      ((number y).coerce .integer = some (integer i) ↔
        ∃ m k, m < 2 ^ 53 ∧ i.toInt.natAbs = m * 2 ^ k)) ∧
    ∀ w, (number x).coerce .integer = some w ↔
      ∃ n : Int64, w = integer n ∧ x.real? = some (n.toInt : ℚ) := by
  refine ⟨?_, fun w => narrow_eq_some_iff⟩
  have hi := natAbs_toInt_le i
  obtain ⟨q, hq⟩ := Binary64.exists_real?_ofInt hi
  refine ⟨.ofInt i.toInt, q, rfl, hq, fun z v hv => Binary64.ofInt_nearest hi hq hv, ?_⟩
  rw [← Binary64.real?_ofInt_iff hi, narrow_eq_some_iff]
  constructor
  · rintro ⟨n, hn, hreal⟩
    cases hn
    exact hreal
  · exact fun hreal => ⟨i, rfl, hreal⟩

/-- The first integer of 54 bits with a last bit comes back as its neighbour, and the last integer
of 64 bits does not come back at all. -/
theorem coerce_widens_too_far : ∃ x y,
    (integer 9007199254740993).coerce .number = some (number x) ∧
      (number x).coerce .integer = some (integer 9007199254740992) ∧
    (integer Int64.maxValue).coerce .number = some (number y) ∧
      (number y).coerce .integer = none := by
  refine ⟨_, _, rfl, ?_, rfl, ?_⟩
  · decide +kernel
  · decide +kernel

end Value

end TypedSeries
