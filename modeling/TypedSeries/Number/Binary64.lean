import TypedSeries.Number.Integer64

/-!
# Binary floating-point numbers

A finite double is a sign and a count of units of `2 ^ -1074`, the smallest positive double, so
order and rounding are questions about natural numbers.

1. `roundUnits n d` is the representable count nearest to the quotient `n / d`, of two equally
   near the one with the even significand (`representable_roundUnits`).
2. `Binary64.rank` places every number but NaN on the integers, the infinities just past the
   largest finite count; comparison is comparison of ranks.
3. `Binary64.toBits` and `Binary64.ofBits` are the interchange encoding, with one NaN.
-/

namespace TypedSeries

/-! ## Representable counts -/

/-- The count of units in the number one. -/
def unitsPerOne : Nat := Nat.pow 2 1074

/-- The first count past the largest finite double that has its shape, `2 ^ 1024`. -/
def overflowUnits : Nat := Nat.pow 2 2098

/-- A count of units that a double holds: below the overflow bound, with all but its leading
53 bits zero. -/
def Representable (units : Nat) : Prop :=
  units < overflowUnits ∧ Nat.pow 2 (units.log2 - 52) ∣ units

instance (units : Nat) : Decidable (Representable units) :=
  inferInstanceAs (Decidable (_ ∧ _))

theorem lt_overflowUnits {x a : Nat} (h : x < Nat.pow 2 a) (ha : a ≤ 2098) :
    x < overflowUnits := by
  unfold overflowUnits
  generalize 2098 = b at ha
  exact Nat.lt_of_lt_of_le h (Nat.pow_le_pow_right (by decide) ha)

theorem representable_zero : Representable 0 :=
  ⟨lt_overflowUnits (Nat.two_pow_pos 0) (by decide), 0, rfl⟩

/-- The multiple of `2 ^ s` nearest to `n / d`, where `s` leaves 53 leading bits; a tie goes to
the even multiple. -/
def roundUnits (n d : Nat) : Nat :=
  let step := Nat.pow 2 ((n / d).log2 - 52)
  let k := n / (d * step)
  let r := n % (d * step)
  if 2 * r < d * step ∨ (2 * r = d * step ∧ k % 2 = 0) then k * step else (k + 1) * step

theorem log2_mul_two_pow_le {k s : Nat} (h : k < Nat.pow 2 53) :
    (k * Nat.pow 2 s).log2 - 52 ≤ s := by
  rw [Nat.pow_eq] at h ⊢
  by_cases hk : k = 0
  · subst hk; simp
  · have hne : k * 2 ^ s ≠ 0 := Nat.mul_ne_zero hk (Nat.ne_of_gt (Nat.two_pow_pos s))
    have : (k * 2 ^ s).log2 < 53 + s := by
      rw [Nat.log2_lt hne, Nat.pow_add]
      exact Nat.mul_lt_mul_of_pos_right h (Nat.two_pow_pos _)
    omega

theorem dvd_of_significand_le {k s : Nat} (h : k ≤ Nat.pow 2 53) :
    Nat.pow 2 ((k * Nat.pow 2 s).log2 - 52) ∣ k * Nat.pow 2 s := by
  rcases Nat.lt_or_eq_of_le h with h | h
  · exact Nat.dvd_trans (Nat.pow_dvd_pow 2 (log2_mul_two_pow_le h)) (Nat.dvd_mul_left _ _)
  · subst h
    simp only [Nat.pow_eq]
    rw [← Nat.pow_add, Nat.log2_two_pow]
    exact Nat.pow_dvd_pow 2 (by omega)

theorem quotient_lt (n d : Nat) :
    n / (d * Nat.pow 2 ((n / d).log2 - 52)) < Nat.pow 2 53 := by
  simp only [Nat.pow_eq]
  rw [← Nat.div_div_eq_div_mul]
  generalize n / d = q
  rw [Nat.div_lt_iff_lt_mul (Nat.two_pow_pos _), ← Nat.pow_add]
  refine Nat.lt_of_lt_of_le Nat.lt_log2_self (Nat.pow_le_pow_right (by decide) ?_)
  omega

/-- A rounded count below the overflow bound is representable. -/
theorem representable_roundUnits {n d : Nat} (h : roundUnits n d < overflowUnits) :
    Representable (roundUnits n d) := by
  refine ⟨h, ?_⟩
  have hk := quotient_lt n d
  unfold roundUnits
  dsimp only
  split
  · exact dvd_of_significand_le (Nat.le_of_lt hk)
  · exact dvd_of_significand_le hk

/-! ## Numbers -/

/-- A binary64 number; all NaNs are one. -/
inductive Binary64 where
  | nan
  | infinite (negative : Bool)
  | finite (negative : Bool) (units : Nat) (representable : Representable units)
deriving DecidableEq

namespace Binary64

instance : Inhabited Binary64 := ⟨nan⟩

/-- The zero of either sign. -/
def zero (negative : Bool) : Binary64 := finite negative 0 representable_zero

/-- The double nearest to `± (n / d) · 2 ^ -1074`, or the infinity of that sign past the
overflow bound. -/
def nearest (negative : Bool) (n d : Nat) : Binary64 :=
  if h : roundUnits n d < overflowUnits then finite negative _ (representable_roundUnits h)
  else infinite negative

/-- The double nearest to an integer. -/
def ofInt (i : Int) : Binary64 := nearest (i < 0) (i.natAbs * unitsPerOne) 1

/-- The integer a double is, if it is one that 64 signed bits hold. -/
def toInt? : Binary64 → Option Int
  | finite negative units _ =>
    if units % unitsPerOne = 0 then
      let i := (if negative then -1 else 1) * ((units / unitsPerOne : Nat) : Int)
      if FitsInt64 i then some i else none
    else none
  | _ => none

/-! ## Order -/

/-- The place of a number on the integers, counted in units; NaN has none. -/
def rank : Binary64 → Option Int
  | nan => none
  | infinite negative => some ((if negative then -1 else 1) * (overflowUnits : Int))
  | finite negative units _ => some ((if negative then -1 else 1) * (units : Int))

/-- The order of two numbers; NaN is in order with nothing, and both zeros are equal. -/
def compare (x y : Binary64) : Option Ordering :=
  match x.rank, y.rank with
  | some a, some b => some (Ord.compare a b)
  | _, _ => none

/-- Numeric equality: NaN equals nothing, and both zeros are equal. -/
def equals (x y : Binary64) : Bool := x.compare y == some .eq

/-! ## Arithmetic on magnitudes -/

def isInfinite : Binary64 → Bool
  | infinite _ => true
  | _ => false

def isZero : Binary64 → Bool
  | finite _ units _ => units == 0
  | _ => false

/-- The rounded product of two finite numbers. -/
def times : Binary64 → Binary64 → Binary64
  | finite s a _, finite t b _ => nearest (s != t) (a * b) unitsPerOne
  | infinite s, finite t _ _ => infinite (s != t)
  | finite s _ _, infinite t => infinite (s != t)
  | _, _ => nan

/-- The rounded quotient of a finite number by a finite number other than zero. -/
def quotient : Binary64 → Binary64 → Binary64
  | finite s a _, finite t b _ => if b = 0 then nan else nearest (s != t) (a * unitsPerOne) b
  | _, _ => nan

/-- The number of opposite sign. -/
def negate : Binary64 → Binary64
  | nan => nan
  | infinite s => infinite (!s)
  | finite s u h => finite (!s) u h

/-! ## Interchange encoding -/

/-- The bits of a fraction, `2 ^ 52` patterns of them. -/
def fractionSize : Nat := Nat.pow 2 52

/-- The bit of the sign. -/
def signBit : Nat := Nat.pow 2 63

/-- The 64 bits of a number: sign, biased exponent, fraction. -/
def toBits : Binary64 → Nat
  | nan => 0x7ff8000000000000
  | infinite negative => (if negative then signBit else 0) + 0x7ff0000000000000
  | finite negative units _ =>
    (if negative then signBit else 0) +
      (if units < fractionSize then units
       else (units.log2 - 51) * fractionSize +
        (units / Nat.pow 2 (units.log2 - 52) - fractionSize))

theorem representable_normal {f e : Nat} (hf : f < fractionSize) (he : e ≤ 2045) :
    Representable ((fractionSize + f) * Nat.pow 2 e) := by
  have hf : f < 4503599627370496 := hf
  have hs : fractionSize = 4503599627370496 := rfl
  have hp : Nat.pow 2 53 = 9007199254740992 := rfl
  refine ⟨?_, dvd_of_significand_le (by omega)⟩
  refine lt_overflowUnits (a := 53 + e) ?_ (by omega)
  simp only [Nat.pow_eq] at hp ⊢
  rw [Nat.pow_add]
  exact Nat.mul_lt_mul_of_pos_right (by omega) (Nat.two_pow_pos _)

theorem representable_subnormal {f : Nat} (hf : f < fractionSize) : Representable f := by
  have hp : Nat.pow 2 53 = 9007199254740992 := rfl
  have hf' : f < 4503599627370496 := hf
  have h := @dvd_of_significand_le f 0 (by omega)
  simp only [Nat.pow_eq, Nat.pow_zero, Nat.mul_one] at h
  exact ⟨lt_overflowUnits hf (by decide), h⟩

/-- The number of a 64-bit pattern. -/
def ofBits (b : Nat) : Binary64 :=
  let negative := b / signBit % 2 == 1
  let e := b / fractionSize % 2048
  let f := b % fractionSize
  have hf : f < fractionSize := Nat.mod_lt _ (by decide)
  if e = 2047 then if f = 0 then infinite negative else nan
  else if e = 0 then finite negative f (representable_subnormal hf)
  else if he : e - 1 ≤ 2045 then
    finite negative ((fractionSize + f) * Nat.pow 2 (e - 1)) (representable_normal hf he)
  else nan

end Binary64

end TypedSeries
