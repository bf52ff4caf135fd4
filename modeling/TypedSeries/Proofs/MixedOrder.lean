import Mathlib.Data.List.Rotate
import TypedSeries.Proofs.NumericCoercion

/-!
# The order of values of mixed kinds

An integer and a double are compared as two doubles, so the integer is rounded first.

1. Values that are compared as three of one order chain (`Value.chains_of_order`): three of one
   kind, and doubles with one integer, which is rounded wherever it is compared.
2. Rounding never turns two integers round (`Binary64.roundedUnits_mono`), but it can put them on
   one double (`Value.Merges`). Then they are equal to the double and not to each other.

**Main.** `Value.compare_order`: comparison agrees with itself turned round, and three values are
out of order exactly if they are two integers and a double the integers merge at.
-/

namespace TypedSeries

/-! ## Rounding keeps the order -/

namespace Binary64

theorem exists_roundedUnits_eq {i : Int} (h : i.natAbs ≤ 2 ^ 63) :
    ∃ s m, Representable m ∧ roundedUnits i = signed s m := by
  obtain ⟨hr, -⟩ := ofInt_eq h
  exact ⟨_, _, hr, rfl⟩

/-- Of two integers the lesser is not rounded to more. -/
theorem roundedUnits_mono {i j : Int} (hi : i.natAbs ≤ 2 ^ 63) (hj : j.natAbs ≤ 2 ^ 63)
    (h : i ≤ j) : roundedUnits i ≤ roundedUnits j := by
  obtain ⟨s, m, hm, hri⟩ := exists_roundedUnits_eq hi
  obtain ⟨t, n, hn, hrj⟩ := exists_roundedUnits_eq hj
  -- each is rounded to a count no farther from it than the other's
  have hneari := natAbs_roundedUnits_sub_le i t hn
  have hnearj := natAbs_roundedUnits_sub_le j s hm
  rw [← hrj] at hneari
  rw [← hri] at hnearj
  rcases Int.lt_or_eq_of_le h with hlt | rfl
  · have hscaled : i * unitsPerOne < j * unitsPerOne :=
      Int.mul_lt_mul_of_pos_right hlt (by exact_mod_cast unitsPerOne_pos)
    generalize i * (unitsPerOne : Int) = a at *
    generalize j * (unitsPerOne : Int) = b at *
    omega
  · exact Int.le_refl _

/-- An integer of less than 53 bits with zeros behind them is rounded to itself. -/
theorem roundedUnits_of_short {i : Int} (h : i.natAbs ≤ 2 ^ 63)
    (hshort : ∃ m k, m < 2 ^ 53 ∧ i.natAbs = m * 2 ^ k) : roundedUnits i = i * unitsPerOne := by
  rw [mul_unitsPerOne, roundedUnits, (roundUnits_eq_self_iff h).2 hshort]

theorem compare_eq_of_rank {x y : Binary64} {a b : Int} (hx : x.rank = some a)
    (hy : y.rank = some b) : x.compare y = some (Ord.compare a b) := by
  rw [compare, hx, hy]

theorem exists_rank_of_compare {x y : Binary64} {o : Ordering} (h : x.compare y = some o) :
    ∃ a b, x.rank = some a ∧ y.rank = some b := by
  rw [compare] at h
  split at h
  next a b hx hy => exact ⟨a, b, hx, hy⟩
  next => cases h

theorem compare_of_unranked {x y : Binary64} (h : x.rank = none ∨ y.rank = none) :
    x.compare y = none := by
  rw [compare]
  rcases h with hx | hy
  · rw [hx]
  · rw [hy]
    cases x.rank <;> rfl

theorem compare_swap (x y : Binary64) : y.compare x = (x.compare y).map Ordering.swap := by
  rw [compare, compare]
  cases x.rank with
  | none => cases y.rank <;> rfl
  | some a =>
    cases y.rank with
    | none => rfl
    | some b => exact congrArg some (Int.compare_swap a b).symm

end Binary64

namespace Value

/-! ## Chains -/

/-- Two steps of the order that do not go down are together one, which goes up if either did. -/
def Chains (a b c : Value) : Prop :=
  ∀ o₁ o₂, a.compare b = some o₁ → b.compare c = some o₂ → o₁.isLE → o₂.isLE →
    ∃ o, a.compare c = some o ∧ o.isLE ∧ (o = .eq → o₁ = .eq ∧ o₂ = .eq)

section

variable {a b c : Value}

/-- Three values that are compared as three of one order chain. -/
theorem chains_of_order {α : Type} [Ord α] [Std.TransOrd α] {p q r : α}
    (hab : a.compare b = some (Ord.compare p q)) (hbc : b.compare c = some (Ord.compare q r))
    (hac : a.compare c = some (Ord.compare p r)) : Chains a b c := by
  intro o₁ o₂ h₁ h₂ hle₁ hle₂
  rw [hab, Option.some.injEq] at h₁
  rw [hbc, Option.some.injEq] at h₂
  subst h₁
  subst h₂
  refine ⟨_, hac, Std.TransCmp.isLE_trans hle₁ hle₂, fun heq => ⟨?_, ?_⟩⟩
  -- a step up on either side would be a step up altogether
  · refine (Ordering.isLE_iff_eq_lt_or_eq_eq.1 hle₁).resolve_left fun hlt => ?_
    rw [Std.TransCmp.lt_of_lt_of_isLE hlt hle₂] at heq
    cases heq
  · refine (Ordering.isLE_iff_eq_lt_or_eq_eq.1 hle₂).resolve_left fun hlt => ?_
    rw [Std.TransCmp.lt_of_isLE_of_lt hle₁ hlt] at heq
    cases heq

/-- Three values whose comparisons are those of integers chain if the integers say so. -/
theorem chains_iff_of_compare {p q r s t u : Int} (hab : a.compare b = some (Ord.compare p q))
    (hbc : b.compare c = some (Ord.compare r s)) (hac : a.compare c = some (Ord.compare t u)) :
    Chains a b c ↔ (p ≤ q → r ≤ s → t ≤ u ∧ (t = u → p = q ∧ r = s)) := by
  constructor
  · intro h hpq hrs
    obtain ⟨o, ho, hle, heq⟩ := h _ _ hab hbc (Int.isLE_compare.2 hpq) (Int.isLE_compare.2 hrs)
    rw [hac, Option.some.injEq] at ho
    subst ho
    rw [Int.isLE_compare] at hle
    rw [Int.compare_eq_eq, Int.compare_eq_eq, Int.compare_eq_eq] at heq
    exact ⟨hle, heq⟩
  · intro h o₁ o₂ h₁ h₂ hle₁ hle₂
    rw [hab, Option.some.injEq] at h₁
    rw [hbc, Option.some.injEq] at h₂
    subst h₁
    subst h₂
    obtain ⟨hle, heq⟩ := h (Int.isLE_compare.1 hle₁) (Int.isLE_compare.1 hle₂)
    refine ⟨_, hac, Int.isLE_compare.2 hle, ?_⟩
    rw [Int.compare_eq_eq, Int.compare_eq_eq, Int.compare_eq_eq]
    exact heq

theorem chains_of_incomparable (h : a.compare b = none ∨ b.compare c = none) : Chains a b c := by
  intro o₁ o₂ h₁ h₂
  rcases h with h | h
  · rw [h] at h₁
    cases h₁
  · rw [h] at h₂
    cases h₂

end

/-- Doubles chain. -/
theorem chains_number (x y z : Binary64) : Chains (number x) (number y) (number z) := by
  intro o₁ o₂ h₁ h₂
  obtain ⟨p, q, hx, hy⟩ := Binary64.exists_rank_of_compare h₁
  obtain ⟨-, r, -, hz⟩ := Binary64.exists_rank_of_compare h₂
  exact chains_of_order (a := number x) (b := number y) (c := number z)
    (Binary64.compare_eq_of_rank hx hy) (Binary64.compare_eq_of_rank hy hz)
    (Binary64.compare_eq_of_rank hx hz) o₁ o₂ h₁ h₂

/-! ## Merged integers -/

/-- Two integers, the lesser first, that are both equal to a double. -/
structure Merges (x : Binary64) (i j : Int64) : Prop where
  lt : i.toInt < j.toInt
  left : (integer i).compare (number x) = some .eq
  right : (integer j).compare (number x) = some .eq

section

variable {x : Binary64} {q : Int} {i j : Int64}

theorem compare_integer_integer (i j : Int64) :
    (integer i).compare (integer j) = some (Ord.compare i.toInt j.toInt) := rfl

theorem compare_integer_number (hx : x.rank = some q) (i : Int64) :
    (integer i).compare (number x) = some (Ord.compare (Binary64.roundedUnits i.toInt) q) := by
  show (Binary64.ofInt i.toInt).compare x = _
  exact Binary64.compare_eq_of_rank (Binary64.rank_ofInt (natAbs_toInt_le i)) hx

theorem compare_number_integer (hx : x.rank = some q) (i : Int64) :
    (number x).compare (integer i) = some (Ord.compare q (Binary64.roundedUnits i.toInt)) := by
  show x.compare (Binary64.ofInt i.toInt) = _
  exact Binary64.compare_eq_of_rank hx (Binary64.rank_ofInt (natAbs_toInt_le i))

theorem compare_integer_unranked (hx : x.rank = none) (i : Int64) :
    (integer i).compare (number x) = none := by
  show (Binary64.ofInt i.toInt).compare x = _
  exact Binary64.compare_of_unranked (.inr hx)

theorem compare_unranked_integer (hx : x.rank = none) (i : Int64) :
    (number x).compare (integer i) = none := by
  show x.compare (Binary64.ofInt i.toInt) = _
  exact Binary64.compare_of_unranked (.inl hx)

theorem merges_iff (hx : x.rank = some q) : Merges x i j ↔
    i.toInt < j.toInt ∧ Binary64.roundedUnits i.toInt = q ∧ Binary64.roundedUnits j.toInt = q := by
  have heq : ∀ n : Int64, (integer n).compare (number x) = some .eq ↔
      Binary64.roundedUnits n.toInt = q := by
    intro n
    rw [compare_integer_number hx, Option.some.injEq, Int.compare_eq_eq]
  rw [← heq, ← heq]
  exact ⟨fun h => ⟨h.lt, h.left, h.right⟩, fun ⟨hlt, hi, hj⟩ => ⟨hlt, hi, hj⟩⟩

theorem not_merges_of_unranked (hx : x.rank = none) : ¬ Merges x i j := by
  intro h
  have heq := h.left
  rw [compare_integer_unranked hx] at heq
  cases heq

/-- Of two merged integers one is longer than 53 bits. -/
theorem Merges.exists_long (h : Merges x i j) :
    ∃ n ∈ [i, j], ¬ ∃ m k, m < 2 ^ 53 ∧ n.toInt.natAbs = m * 2 ^ k := by
  cases hx : x.rank with
  | none => exact absurd h (not_merges_of_unranked hx)
  | some q =>
    obtain ⟨hlt, hi, hj⟩ := (merges_iff hx).1 h
    by_contra hshort
    simp only [List.mem_cons, List.not_mem_nil, or_false, exists_eq_or_imp, exists_eq_left,
      not_or, not_not] at hshort
    rw [Binary64.roundedUnits_of_short (natAbs_toInt_le i) hshort.1] at hi
    rw [Binary64.roundedUnits_of_short (natAbs_toInt_le j) hshort.2, ← hi] at hj
    have hne : (unitsPerOne : Int) ≠ 0 := by exact_mod_cast Nat.ne_of_gt unitsPerOne_pos
    exact absurd (Int.eq_of_mul_eq_mul_right hne hj) (Int.ne_of_gt hlt)

theorem roundedUnits_toInt_mono (i j : Int64) (h : i.toInt ≤ j.toInt) :
    Binary64.roundedUnits i.toInt ≤ Binary64.roundedUnits j.toInt :=
  Binary64.roundedUnits_mono (natAbs_toInt_le i) (natAbs_toInt_le j) h

theorem isRotated_triple {α : Type} {a b c x y z : α} : [a, b, c].IsRotated [x, y, z] ↔
    (a = x ∧ b = y ∧ c = z) ∨ (a = z ∧ b = x ∧ c = y) ∨ (a = y ∧ b = z ∧ c = x) := by
  constructor
  · rintro ⟨n, hn⟩
    rw [← List.rotate_mod] at hn
    obtain h | h | h : n % 3 = 0 ∨ n % 3 = 1 ∨ n % 3 = 2 := by omega
    · exact .inl (by simpa [h] using hn)
    · obtain ⟨hb, hc, ha⟩ : b = x ∧ c = y ∧ a = z := by simpa [h] using hn
      exact .inr (.inl ⟨ha, hb, hc⟩)
    · obtain ⟨hc, ha, hb⟩ : c = x ∧ a = y ∧ b = z := by simpa [h] using hn
      exact .inr (.inr ⟨ha, hb, hc⟩)
  · rintro (⟨rfl, rfl, rfl⟩ | ⟨rfl, rfl, rfl⟩ | ⟨rfl, rfl, rfl⟩)
    · exact ⟨0, rfl⟩
    · exact ⟨1, rfl⟩
    · exact ⟨2, rfl⟩

/-- Two integers and a double, in three of their orders, chain unless the double merges the
integers. -/
theorem chains_iff_not_merges {a b c : Value}
    (h : [a, b, c].IsRotated [integer i, integer j, number x]) :
    Chains a b c ↔ ¬ Merges x i j := by
  have hrot := isRotated_triple.1 h
  cases hx : x.rank with
  | none =>
    refine iff_of_true (chains_of_incomparable ?_) (not_merges_of_unranked hx)
    rcases hrot with ⟨rfl, rfl, rfl⟩ | ⟨rfl, rfl, rfl⟩ | ⟨rfl, rfl, rfl⟩
    · exact .inr (compare_integer_unranked hx j)
    · exact .inl (compare_unranked_integer hx i)
    · exact .inl (compare_integer_unranked hx j)
  | some q =>
    have hmono := roundedUnits_toInt_mono i j
    rw [merges_iff hx]
    rcases hrot with ⟨rfl, rfl, rfl⟩ | ⟨rfl, rfl, rfl⟩ | ⟨rfl, rfl, rfl⟩
    · rw [chains_iff_of_compare (compare_integer_integer i j) (compare_integer_number hx j)
        (compare_integer_number hx i)]
      omega
    · rw [chains_iff_of_compare (compare_number_integer hx i) (compare_integer_integer i j)
        (compare_number_integer hx j)]
      omega
    · rw [chains_iff_of_compare (compare_integer_number hx j) (compare_number_integer hx i)
        (compare_integer_integer j i)]
      omega

end

/-! ## Values -/

/-- Three values that are not two merged integers and their double chain. -/
theorem chains_of_unmerged {a b c : Value} (h : ∀ x i j,
    [a, b, c].IsRotated [integer i, integer j, number x] → ¬ Merges x i j) : Chains a b c := by
  have hrotated {x i j} (hrot : [a, b, c].IsRotated [integer i, integer j, number x]) :
      Chains a b c := (chains_iff_not_merges hrot).2 (h x i j hrot)
  cases a with
  | text s =>
    cases b with
    | text t =>
      cases c with
      | text u => exact chains_of_order rfl rfl rfl
      | integer | number | boolean => exact chains_of_incomparable (.inr rfl)
    | integer | number | boolean => exact chains_of_incomparable (.inl rfl)
  | boolean p =>
    cases b with
    | boolean q =>
      cases c with
      | boolean r => exact chains_of_order rfl rfl rfl
      | text | integer | number => exact chains_of_incomparable (.inr rfl)
    | text | integer | number => exact chains_of_incomparable (.inl rfl)
  | integer i =>
    cases b with
    | text | boolean => exact chains_of_incomparable (.inl rfl)
    | integer j =>
      cases c with
      | text | boolean => exact chains_of_incomparable (.inr rfl)
      | integer k => exact chains_of_order rfl rfl rfl
      | number x => exact hrotated (isRotated_triple.2 (.inl ⟨rfl, rfl, rfl⟩))
    | number x =>
      cases c with
      | text | boolean => exact chains_of_incomparable (.inr rfl)
      | integer j => exact hrotated (isRotated_triple.2 (.inr (.inr ⟨rfl, rfl, rfl⟩)))
      | number y => exact chains_number (.ofInt i.toInt) x y
  | number x =>
    cases b with
    | text | boolean => exact chains_of_incomparable (.inl rfl)
    | integer i =>
      cases c with
      | text | boolean => exact chains_of_incomparable (.inr rfl)
      | integer j => exact hrotated (isRotated_triple.2 (.inr (.inl ⟨rfl, rfl, rfl⟩)))
      | number y => exact chains_number x (.ofInt i.toInt) y
    | number y =>
      cases c with
      | text | boolean => exact chains_of_incomparable (.inr rfl)
      | integer i => exact chains_number x y (.ofInt i.toInt)
      | number z => exact chains_number x y z

/-- Three values chain unless they are two merged integers and their double, in the order in which
they are equal, equal and not equal. -/
theorem chains_iff {a b c : Value} : Chains a b c ↔ ∀ x i j,
    [a, b, c].IsRotated [integer i, integer j, number x] → ¬ Merges x i j :=
  ⟨fun h _ _ _ hrot => (chains_iff_not_merges hrot).1 h, chains_of_unmerged⟩

theorem compare_swap (a b : Value) : b.compare a = (a.compare b).map Ordering.swap := by
  cases a with
  | text s =>
    cases b with
    | text t => exact congrArg some Std.OrientedOrd.eq_swap
    | integer | number | boolean => rfl
  | integer i =>
    cases b with
    | integer j => exact congrArg some Std.OrientedOrd.eq_swap
    | number y => exact Binary64.compare_swap (.ofInt i.toInt) y
    | text | boolean => rfl
  | number x =>
    cases b with
    | integer j => exact Binary64.compare_swap x (.ofInt j.toInt)
    | number y => exact Binary64.compare_swap x y
    | text | boolean => rfl
  | boolean p =>
    cases b with
    | boolean q => exact congrArg some Std.OrientedOrd.eq_swap
    | text | integer | number => rfl

/-- **The order of values.** Comparison turned round says the reverse. Two steps of it that do not
go down are one that does not, and goes up if either did, unless the three values are two integers
and a double that both are equal to; one of two such integers is longer than 53 bits. -/
theorem compare_order (a b c : Value) :
    b.compare a = (a.compare b).map Ordering.swap ∧
    (Chains a b c ↔ ∀ x i j,
      [a, b, c].IsRotated [integer i, integer j, number x] → ¬ Merges x i j) ∧
    ∀ x i j, Merges x i j → ∃ n ∈ [i, j], ¬ ∃ m k, m < 2 ^ 53 ∧ n.toInt.natAbs = m * 2 ^ k :=
  ⟨compare_swap a b, chains_iff, fun _ _ _ h => h.exists_long⟩

/-- The double `2 ^ 53` is equal to an integer and to the integer after it, and the three are out of
order: equal, equal and greater. -/
theorem compare_merges_neighbours :
    Merges (.ofBits 0x4340000000000000) 9007199254740992 9007199254740993 ∧
    ¬ Chains (integer 9007199254740993) (number (.ofBits 0x4340000000000000))
      (integer 9007199254740992) := by
  have h : Merges (.ofBits 0x4340000000000000) 9007199254740992 9007199254740993 :=
    ⟨by decide, by decide +kernel, by decide +kernel⟩
  have hrot : [integer 9007199254740993, number (.ofBits 0x4340000000000000),
      integer 9007199254740992].IsRotated _ := isRotated_triple.2 (.inr (.inr ⟨rfl, rfl, rfl⟩))
  exact ⟨h, fun hchains => (chains_iff_not_merges hrot).1 hchains h⟩

end Value

end TypedSeries
