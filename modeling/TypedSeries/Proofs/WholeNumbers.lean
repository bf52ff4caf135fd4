import TypedSeries.Proofs.NumberText

/-!
# Doubles that are written as integers

1. Rounding never goes past a number that the grid of the rounded one holds
   (`roundUnits_le_of_dvd`), so an integer rounds to an integer, and one of at most `2 ^ 63` to one
   of at most `2 ^ 63` (`dvd_roundUnits`, `roundUnits_le_pow`).
2. The text of a double is digits alone exactly if the exponent of its shortest decimal is not
   negative, and then they say the integer that rounds to the double (`Decimal.readDigits_plain`,
   `Decimal.units_of_toBinary64`).
3. The one double that an integer of 64 bits could round to without being one is `2 ^ 63`, and its
   text says more than that.

**Main.** `readInteger_toText_eq_none`: the text of a double that is no integer of 64 bits reads as
none.
-/

namespace TypedSeries

/-! ## Rounding of integers -/

/-- What lies on the grid of a quotient's rounding and not below the quotient is not below what the
quotient rounds to. -/
theorem roundUnits_le_of_dvd {n d bound : Nat} (hd : 0 < d)
    (hgrid : Nat.pow 2 ((n / d).log2 - 52) ∣ bound) (h : n ≤ d * bound) :
    roundUnits n d ≤ bound := by
  unfold roundUnits
  dsimp only
  generalize hstep : Nat.pow 2 ((n / d).log2 - 52) = step at hgrid
  obtain ⟨m, rfl⟩ := hgrid
  have hpos : 0 < d * step := by
    rw [← hstep]
    exact Nat.mul_pos hd (Nat.pow_pos (by decide))
  have hn : n ≤ d * step * m := by rwa [Nat.mul_assoc]
  have hk : n / (d * step) ≤ m := Nat.div_le_of_le_mul hn
  split
  next =>
    rw [Nat.mul_comm step]
    exact Nat.mul_le_mul_right step hk
  next hup =>
    -- a remainder is left, so the quotient is below the bound by a whole step
    have hrest : 0 < n % (d * step) := by
      by_contra hzero
      exact hup (.inl (by omega))
    have hlt : n / (d * step) < m := by
      refine Nat.lt_of_le_of_ne hk fun he => ?_
      have hsplit := Nat.div_add_mod n (d * step)
      rw [he] at hsplit
      omega
    rw [Nat.mul_comm step]
    exact Nat.mul_le_mul_right step hlt

theorem unitsPerOne_pos : 0 < unitsPerOne := by
  unfold unitsPerOne
  generalize 1074 = k
  exact Nat.two_pow_pos k

theorem pow_mul_unitsPerOne (e : Nat) : 2 ^ e * unitsPerOne = 2 ^ (e + 1074) := by
  unfold unitsPerOne
  generalize 1074 = k
  exact (Nat.pow_add 2 e k).symm

theorem pow_dvd_unitsPerOne {s : Nat} (h : s ≤ 1074) : Nat.pow 2 s ∣ unitsPerOne := by
  unfold unitsPerOne
  generalize 1074 = k at h
  exact Nat.pow_dvd_pow 2 h

theorem unitsPerOne_dvd_pow {s : Nat} (h : 1074 ≤ s) : unitsPerOne ∣ Nat.pow 2 s := by
  unfold unitsPerOne
  generalize 1074 = k at h
  exact Nat.pow_dvd_pow 2 h

/-- An integer rounds to an integer. -/
theorem dvd_roundUnits (n : Nat) : unitsPerOne ∣ roundUnits (n * unitsPerOne) 1 := by
  generalize hu : n * unitsPerOne = u
  have hdvd : unitsPerOne ∣ u := hu ▸ Nat.dvd_mul_left _ _
  unfold roundUnits
  simp only [Nat.div_one, Nat.one_mul]
  by_cases hs : u.log2 - 52 ≤ 1074
  · -- the grid is as fine as the integers, so nothing is rounded
    have hgrid : Nat.pow 2 (u.log2 - 52) ∣ u := Nat.dvd_trans (pow_dvd_unitsPerOne hs) hdvd
    have hrest : u % Nat.pow 2 (u.log2 - 52) = 0 := Nat.mod_eq_zero_of_dvd hgrid
    have hpos : 0 < Nat.pow 2 (u.log2 - 52) := Nat.pow_pos (by decide)
    rw [hrest, if_pos (.inl (by omega)), Nat.div_mul_cancel hgrid]
    exact hdvd
  · have hstep : unitsPerOne ∣ Nat.pow 2 (u.log2 - 52) := unitsPerOne_dvd_pow (by omega)
    split
    · exact Nat.dvd_mul_left_of_dvd hstep _
    · exact Nat.dvd_mul_left_of_dvd hstep _

theorem roundUnits_le_pow {n e : Nat} (h : n ≤ 2 ^ e) :
    roundUnits (n * unitsPerOne) 1 ≤ 2 ^ e * unitsPerOne := by
  have hle : n * unitsPerOne ≤ 2 ^ e * unitsPerOne := Nat.mul_le_mul_right _ h
  rw [pow_mul_unitsPerOne] at hle ⊢
  generalize n * unitsPerOne = u at hle
  refine roundUnits_le_of_dvd (by decide) ?_ (by rwa [Nat.one_mul])
  rw [Nat.div_one]
  apply Nat.pow_dvd_pow
  by_cases hu : u = 0
  · subst hu
    simp
  · have hlog : u.log2 < e + 1074 + 1 :=
      (Nat.log2_lt hu).2 (Nat.lt_of_le_of_lt hle (Nat.pow_lt_pow_succ (by decide)))
    omega

namespace Decimal

/-! ## Texts of digits alone -/

/-- A decimal without digits after the point is written as digits, and they say its value. -/
theorem readDigits_plain {d : Decimal} (h : 0 ≤ d.exponent) :
    readDigits d.plain = some (d.coefficient * 10 ^ d.exponent.toNat) := by
  have hne : decimalDigits d.coefficient ≠ [] := Nat.toDigits_ne_nil
  have hall : (decimalDigits d.coefficient ++ List.replicate d.exponent.toNat '0').all
      Char.isDigit = true := by
    rw [List.all_append, all_isDigit_decimalDigits, all_isDigit_zeros]
    rfl
  have hplain : d.plain = decimalDigits d.coefficient ++ List.replicate d.exponent.toNat '0' := by
    unfold plain
    exact if_pos h
  rw [hplain, readDigits, if_pos ⟨by simp [hne], hall⟩, digitsValue_append_zeros,
    digitsValue_decimalDigits]

/-- A decimal with digits after the point is not written as digits alone. -/
theorem readDigits_plain_of_neg {d : Decimal} (h : d.exponent < 0) : readDigits d.plain = none := by
  have hpoint : '.' ∈ d.plain := by
    unfold plain
    dsimp only
    rw [if_neg (by omega)]
    split <;> simp
  refine if_neg ?_
  rintro ⟨-, hall⟩
  exact absurd (List.all_eq_true.1 hall '.' hpoint) (by decide)

/-- A double that a decimal without digits after the point rounds to is that integer, rounded. -/
theorem units_of_toBinary64 {d : Decimal} {units : Nat} {h : Representable units}
    (he : 0 ≤ d.exponent) (hd : d.toBinary64 false = .finite false units h) :
    units = roundUnits (d.coefficient * 10 ^ d.exponent.toNat * unitsPerOne) 1 := by
  unfold toBinary64 at hd
  split at hd
  next hzero =>
    cases hd
    rw [hzero, Nat.zero_mul, Nat.zero_mul]
    rfl
  next =>
    split at hd
    next => cases hd
    next =>
      split at hd
      next hlow =>
        unfold pointPosition at hlow
        omega
      next =>
        unfold Binary64.nearest at hd
        split at hd
        next => cases hd; rfl
        next => cases hd

end Decimal

/-! ## Doubles that are no integer -/

/-- The first integer past 64 bits, as a double. -/
def int64Limit : Nat := 2 ^ 63 * unitsPerOne

theorem representable_int64Limit : Representable int64Limit := by decide +kernel

/-- The shortest digits of the first integer past 64 bits say a larger one. -/
theorem readInteger_int64Limit :
    readInteger (Binary64.finite false int64Limit representable_int64Limit).toText = none := by
  decide +kernel

/-- A whole count of at most `2 ^ 63` ones, with a sign, is an integer of 64 bits, but for `2 ^ 63`
itself. -/
theorem toInt?_ne_none {negative : Bool} {units : Nat} (h : Representable units)
    (hdvd : unitsPerOne ∣ units) (hle : units ≤ int64Limit)
    (hne : negative = true ∨ units ≠ int64Limit) :
    (Binary64.finite negative units h).toInt? ≠ none := by
  obtain ⟨q, hunits⟩ := hdvd
  have hpos := unitsPerOne_pos
  have hbound : int64Bound = 2 ^ 63 := rfl
  unfold int64Limit at hle hne
  rw [hunits, Nat.mul_comm] at hle hne
  unfold Binary64.toInt?
  dsimp only
  rw [hunits, Nat.mul_mod_right, if_pos rfl, Nat.mul_div_cancel_left _ hpos]
  have hq : q ≤ 2 ^ 63 := Nat.le_of_mul_le_mul_right hle hpos
  have hq' : negative = true ∨ q ≠ 2 ^ 63 := hne.imp_right fun h he => h (by rw [he])
  have hfits : FitsInt64 ((if negative = true then -1 else 1) * (q : Int)) := by
    unfold FitsInt64
    rw [hbound]
    cases negative with
    | true => simp only [if_true]; omega
    | false =>
      have hlt : q ≠ 2 ^ 63 := hq'.resolve_left (by decide)
      simp only [Bool.false_eq_true, if_false]
      omega
  rw [if_pos hfits]
  exact Option.some_ne_none _

/-- **Doubles that are no integer.** The text of a double that is no integer of 64 bits reads as
none. -/
theorem readInteger_toText_eq_none {x : Binary64} (h : x.toInt? = none) :
    readInteger x.toText = none := by
  cases x with
  | nan => decide +kernel
  | infinite negative => cases negative <;> decide +kernel
  | finite negative units hr =>
    by_cases hlimit : negative = true ∨ units ≠ int64Limit
    · have hround := Decimal.toBinary64_shortest .up hr
      have hsign : splitSign (Binary64.toText (.finite negative units hr)) =
          (negative, (Decimal.shortest .up units hr).plain) := by
        obtain ⟨c, cs, hc, hd⟩ := Decimal.exists_cons_plain (Decimal.shortest .up units hr)
        rw [Binary64.toText, hc, splitSign_sign negative hd]
      unfold readInteger
      simp only [hsign]
      generalize Decimal.shortest .up units hr = d at hround
      by_cases he : 0 ≤ d.exponent
      · rw [Decimal.readDigits_plain he, Option.bind_some]
        generalize hn : d.coefficient * 10 ^ d.exponent.toNat = n
        have hunits := Decimal.units_of_toBinary64 he hround
        rw [hn] at hunits
        refine if_neg fun hfits => ?_
        have hle : n ≤ 2 ^ 63 := by
          have hbound : int64Bound = 2 ^ 63 := rfl
          unfold FitsInt64 at hfits
          rw [hbound] at hfits
          split at hfits <;> omega
        refine toInt?_ne_none hr ?_ ?_ hlimit h
        · rw [hunits]
          exact dvd_roundUnits n
        · rw [hunits]
          exact roundUnits_le_pow hle
      · rw [Decimal.readDigits_plain_of_neg (by omega)]
        rfl
    · obtain ⟨hnegative, hunits⟩ := not_or.1 hlimit
      have hunits : units = int64Limit := Decidable.not_not.1 hunits
      have hx : Binary64.finite negative units hr =
          .finite false int64Limit representable_int64Limit := by
        rw [Binary64.finite.injEq]
        exact ⟨Bool.eq_false_iff.2 hnegative, hunits⟩
      rw [hx]
      exact readInteger_int64Limit

end TypedSeries
