import Mathlib.Data.List.TakeWhile
import Mathlib.Tactic.Ring
import TypedSeries.Value

/-!
# Values as text

1. The decimal digits of an integer read back as the integer (`readInteger_integerText`).
2. A decimal in normal form, laid out without an exponent, reads back
   (`Decimal.readDecimal_plain`).
3. The exact decimal of a double rounds to the double: counted in units, the zeros that went into
   its exponent cancel (`Decimal.toBinary64_exact`). What is written for a double is in normal
   form and rounds to it (`Decimal.toBinary64_shortest`).

**Main.** `Value.coerce_toText`: the text of a value, read as the value's kind, is the value.
-/

namespace TypedSeries

/-! ## Runs of a class of characters -/

theorem takeWhile_append_cons {p : Char → Bool} {w rest : List Char} {c : Char}
    (hw : ∀ a ∈ w, p a = true) (hc : ¬ p c = true) : (w ++ c :: rest).takeWhile p = w := by
  rw [List.takeWhile_append_of_pos hw, List.takeWhile_cons_of_neg hc, List.append_nil]

theorem dropWhile_append_cons {p : Char → Bool} {w rest : List Char} {c : Char}
    (hw : ∀ a ∈ w, p a = true) (hc : ¬ p c = true) :
    (w ++ c :: rest).dropWhile p = c :: rest := by
  rw [List.dropWhile_append_of_pos hw, List.dropWhile_cons_of_neg hc]

/-- A text that is at its end or goes on with a character of none of a class. -/
def Stops (p : Char → Bool) (cs : List Char) : Prop := ∀ c ∈ cs.head?, p c = false

theorem run_iff {p : Char → Bool} {cs w rest : List Char} :
    cs.takeWhile p = w ∧ cs.dropWhile p = rest ↔
      cs = w ++ rest ∧ (∀ c ∈ w, p c = true) ∧ Stops p rest := by
  constructor
  · rintro ⟨rfl, rfl⟩
    refine ⟨List.takeWhile_append_dropWhile.symm, fun c hc => List.mem_takeWhile_imp hc, ?_⟩
    intro c hc
    have h := List.head?_dropWhile_not p cs
    rw [Option.mem_def.1 hc] at h
    simpa using h
  · rintro ⟨rfl, hw, hr⟩
    cases rest with
    | nil =>
      rw [List.append_nil]
      exact ⟨List.takeWhile_eq_self_iff.2 hw, List.dropWhile_eq_nil_iff.2 hw⟩
    | cons c rest =>
      have hc : ¬ p c = true := by simp [hr c rfl]
      exact ⟨takeWhile_append_cons hw hc, dropWhile_append_cons hw hc⟩

theorem takeWhile_of_all {cs : List Char} {p : Char → Bool} (h : cs.all p = true) :
    cs.takeWhile p = cs ∧ cs.dropWhile p = [] := by
  have h := List.all_eq_true.1 h
  exact ⟨List.takeWhile_eq_self_iff.2 h, List.dropWhile_eq_nil_iff.2 h⟩

/-! ## Integers -/

theorem all_isDigit_decimalDigits (n : Nat) : (decimalDigits n).all Char.isDigit = true :=
  List.all_eq_true.2 fun _ h => Nat.isDigit_of_mem_toDigits (by decide) (by decide) h

theorem readDigits_decimalDigits (n : Nat) : readDigits (decimalDigits n) = some n := by
  rw [readDigits, if_pos ⟨Nat.toDigits_ne_nil, all_isDigit_decimalDigits n⟩,
    digitsValue_decimalDigits]

/-- A text that begins with a digit has no sign. -/
theorem splitSign_of_isDigit {c : Char} {cs : List Char} (h : c.isDigit = true) :
    splitSign (c :: cs) = (false, c :: cs) := by
  unfold splitSign
  split
  next e => cases e; exact absurd h (by decide)
  next e => cases e; exact absurd h (by decide)
  next => rfl

theorem splitSign_sign (negative : Bool) {c : Char} {cs : List Char} (h : c.isDigit = true) :
    splitSign ((if negative then ['-'] else []) ++ c :: cs) = (negative, c :: cs) := by
  cases negative with
  | true => rfl
  | false => exact splitSign_of_isDigit h

theorem exists_cons_decimalDigits (n : Nat) :
    ∃ c cs, decimalDigits n = c :: cs ∧ c.isDigit = true := by
  have hne : decimalDigits n ≠ [] := Nat.toDigits_ne_nil
  obtain ⟨c, cs, h⟩ := List.exists_cons_of_ne_nil hne
  exact ⟨c, cs, h, List.all_eq_true.1 (all_isDigit_decimalDigits n) c (h ▸ List.mem_cons_self)⟩

theorem fitsInt64_toInt (i : Int64) : FitsInt64 i.toInt := by
  have h1 := i.le_toInt
  have h2 := i.toInt_lt
  have hb : int64Bound = 9223372036854775808 := rfl
  unfold FitsInt64
  omega

theorem toInt_ofInt_of_fits {n : Int} (h : FitsInt64 n) : (Int64.ofInt n).toInt = n := by
  obtain ⟨hlow, hhigh⟩ := h
  have hb : int64Bound = 9223372036854775808 := rfl
  exact Int64.toInt_ofInt_of_le (by omega) (by omega)

theorem int64?_toInt (i : Int64) : int64? i.toInt = some i := by
  rw [int64?, if_pos (fitsInt64_toInt i), Int64.ofInt_toInt]

/-- An integer's text reads back as the integer. -/
theorem readInteger_integerText (i : Int64) : readInteger (integerText i) = some i := by
  unfold readInteger integerText
  dsimp only
  by_cases h : i.toInt < 0
  · have hi : -((i.toInt.natAbs : Nat) : Int) = i.toInt := by omega
    rw [if_pos h]
    show (readDigits (decimalDigits i.toInt.natAbs)).bind
      (fun n => int64? (if true = true then -(n : Int) else (n : Int))) = _
    rw [readDigits_decimalDigits, Option.bind_some, if_pos rfl, hi, int64?_toInt]
  · have hi : ((i.toInt.natAbs : Nat) : Int) = i.toInt := by omega
    obtain ⟨c, cs, hc, hd⟩ := exists_cons_decimalDigits i.toInt.natAbs
    rw [if_neg h, List.nil_append, hc, splitSign_of_isDigit hd, ← hc, readDigits_decimalDigits,
      Option.bind_some, if_neg Bool.false_ne_true, hi, int64?_toInt]

namespace Decimal

/-! ## Normal form -/

theorem strip_of_dvd {c : Nat} {e : Int} (hc : c ≠ 0) :
    strip (c * 10) e = strip c (e + 1) := by
  rw [strip, dif_pos ⟨by omega, by omega⟩, Nat.mul_div_cancel _ (by decide)]

theorem mul_pow_ne_zero {c b : Nat} (hc : c ≠ 0) (hb : 0 < b) (k : Nat) : c * b ^ k ≠ 0 :=
  Nat.mul_ne_zero hc (Nat.ne_of_gt (Nat.pow_pos hb))

theorem eq_of_mul_ten_pow {a b : Nat} (k : Nat) (h : a * 10 ^ k = b * 10 ^ k) : a = b :=
  Nat.eq_of_mul_eq_mul_right (Nat.pow_pos (by decide)) h

theorem strip_scale {c : Nat} (hc : c ≠ 0) (e : Int) (k : Nat) :
    strip (c * 10 ^ k) (e - k) = strip c e := by
  induction k generalizing e with
  | zero => simp
  | succ k ih =>
    rw [Nat.pow_succ, ← Nat.mul_assoc, strip_of_dvd (mul_pow_ne_zero hc (by decide) k),
      show e - ((k + 1 : Nat) : Int) + 1 = e - k by omega, ih]

/-- The trailing zeros taken off a coefficient are in the exponent. -/
theorem strip_spec {c : Nat} (e : Int) (hc : c ≠ 0) :
    (strip c e).coefficient % 10 ≠ 0 ∧
      ∃ k : Nat, c = (strip c e).coefficient * 10 ^ k ∧ (strip c e).exponent = e + k := by
  induction c, e using strip.induct with
  | case1 c e h ih =>
    obtain ⟨hd, k, hk, he⟩ := ih (by omega)
    rw [strip, dif_pos h]
    refine ⟨hd, k + 1, ?_, by rw [he]; omega⟩
    rw [Nat.pow_succ, ← Nat.mul_assoc, ← hk]
    omega
  | case2 c e h =>
    rw [strip, dif_neg h]
    exact ⟨by simp only; omega, 0, by simp, by simp⟩

theorem normalize_scale (c k : Nat) (e : Int) :
    normalize ⟨c * 10 ^ k, e - k⟩ = normalize ⟨c, e⟩ := by
  unfold normalize
  by_cases hc : c = 0
  · simp [hc]
  · rw [if_neg (mul_pow_ne_zero hc (by decide) k), if_neg hc, strip_scale hc]

/-- A normal form is its own. -/
theorem normalize_normalize (d : Decimal) : d.normalize.normalize = d.normalize := by
  by_cases hc : d.coefficient = 0
  · rw [show d.normalize = ⟨0, 0⟩ by rw [normalize, if_pos hc]]; rfl
  · obtain ⟨hd, -⟩ := strip_spec d.exponent hc
    have hn : d.normalize = strip d.coefficient d.exponent := by rw [normalize, if_neg hc]
    have h0 : (strip d.coefficient d.exponent).coefficient ≠ 0 := by omega
    rw [hn, normalize, if_neg h0, strip, dif_neg (fun h => hd h.2)]

/-! ## Reading a plain decimal -/

theorem readDecimal_of_digits {w : List Char} (hw : w.all Char.isDigit = true) (hne : w ≠ []) :
    readDecimal w = some (normalize ⟨digitsValue w, 0⟩) := by
  obtain ⟨ht, hd⟩ := takeWhile_of_all hw
  unfold readDecimal
  simp only [ht, hd, List.append_nil]
  rw [if_neg hne]
  rfl

theorem readDecimal_of_point {w f : List Char} (hw : w.all Char.isDigit = true) (hne : w ≠ [])
    (hf : f.all Char.isDigit = true) :
    readDecimal (w ++ '.' :: f) = some (normalize ⟨digitsValue (w ++ f), -f.length⟩) := by
  obtain ⟨hft, hfd⟩ := takeWhile_of_all hf
  have hw := List.all_eq_true.1 hw
  have hpoint : ¬ Char.isDigit '.' = true := by decide
  unfold readDecimal
  simp only [takeWhile_append_cons hw hpoint, dropWhile_append_cons hw hpoint, hft, hfd]
  rw [if_neg (by simp [hne])]
  simp [readExponentPart]

theorem digitsValue_zeros_append (k : Nat) (cs : List Char) :
    digitsValue (List.replicate k '0' ++ cs) = digitsValue cs := by
  rw [digitsValue, Nat.ofDigitChars_append, Nat.ofDigitChars_replicate_zero, Nat.mul_zero]

theorem digitsValue_append_zeros (k : Nat) (cs : List Char) :
    digitsValue (cs ++ List.replicate k '0') = digitsValue cs * 10 ^ k := by
  rw [digitsValue, Nat.ofDigitChars_append, Nat.ofDigitChars_replicate_zero, Nat.mul_comm]

theorem all_isDigit_zeros (k : Nat) : (List.replicate k '0').all Char.isDigit = true := by
  rw [List.all_eq_true]
  intro c h
  rw [(List.mem_replicate.1 h).2]
  decide

/-- A decimal in normal form, laid out without an exponent, reads back. -/
theorem readDecimal_plain {d : Decimal} (h : d.normalize = d) : readDecimal d.plain = some d := by
  have hds := all_isDigit_decimalDigits d.coefficient
  have hne : decimalDigits d.coefficient ≠ [] := Nat.toDigits_ne_nil
  unfold plain
  dsimp only
  by_cases he : 0 ≤ d.exponent
  · rw [if_pos he, readDecimal_of_digits (by rw [List.all_append, hds, all_isDigit_zeros]; rfl)
      (by simp [hne]), digitsValue_append_zeros, digitsValue_decimalDigits]
    have hs := normalize_scale d.coefficient d.exponent.toNat d.exponent
    rw [show d.exponent - (d.exponent.toNat : Int) = 0 by omega] at hs
    rw [hs]
    exact congrArg some h
  · rw [if_neg he]
    generalize hn : (-d.exponent).toNat = n
    have hn : d.exponent = -(n : Int) := by omega
    have hvalue : ∀ cs : List Char, digitsValue cs = d.coefficient →
        some (normalize ⟨digitsValue cs, -(n : Int)⟩) = some d := by
      intro cs hcs
      rw [hcs, ← hn]
      exact congrArg some h
    split
    next hlt =>
      -- the point stands among the digits
      have hall := List.all_eq_true.1 hds
      rw [readDecimal_of_point (List.all_eq_true.2 fun c hc => hall c (List.mem_of_mem_take hc))
        (by simp; omega) (List.all_eq_true.2 fun c hc => hall c (List.mem_of_mem_drop hc)),
        List.take_append_drop, List.length_drop,
        show (decimalDigits d.coefficient).length - ((decimalDigits d.coefficient).length - n) = n
          by omega]
      exact hvalue _ (digitsValue_decimalDigits _)
    next hge =>
      -- zeros stand between the point and the digits
      have hf : (List.replicate (n - (decimalDigits d.coefficient).length) '0' ++
          decimalDigits d.coefficient).all Char.isDigit = true := by
        rw [List.all_append, hds, all_isDigit_zeros]; rfl
      have hlen : (List.replicate (n - (decimalDigits d.coefficient).length) '0' ++
          decimalDigits d.coefficient).length = n := by
        rw [List.length_append, List.length_replicate]; omega
      have hr := readDecimal_of_point (w := ['0']) (by decide) (by decide) hf
      rw [List.singleton_append, List.singleton_append, hlen] at hr
      rw [hr]
      refine hvalue _ ?_
      rw [show ∀ cs, '0' :: cs = List.replicate 1 '0' ++ cs from fun _ => rfl,
        digitsValue_zeros_append, digitsValue_zeros_append, digitsValue_decimalDigits]

/-! ## The exact decimal of a double -/

theorem roundUnits_mul {units k : Nat} (h : Representable units) (hk : 0 < k) :
    roundUnits (units * k) k = units := by
  obtain ⟨m, hm⟩ := h.2
  unfold roundUnits
  simp only [Nat.mul_div_cancel _ hk]
  generalize Nat.pow 2 (units.log2 - 52) = step at hm
  rcases Nat.eq_zero_or_pos step with hs | hs
  · subst hs; simp at hm; subst hm; simp
  · have hpos : 0 < k * step := Nat.mul_pos hk hs
    have hmul : units * k = k * step * m := by rw [hm]; ring
    rw [hmul, Nat.mul_mod_right, Nat.mul_div_cancel_left _ hpos, if_pos (.inl (by omega)), hm,
      Nat.mul_comm]

theorem nearest_mul (negative : Bool) {units k : Nat} (h : Representable units) (hk : 0 < k) :
    Binary64.nearest negative (units * k) k = .finite negative units h := by
  have hr := roundUnits_mul h hk
  unfold Binary64.nearest
  rw [dif_pos (hr.symm ▸ h.1)]
  congr 1

theorem lt_pow_length (d : Decimal) : d.coefficient < 10 ^ d.length :=
  (Nat.length_toDigits_le_iff (by decide) Nat.length_toDigits_pos).1 (Nat.le_refl _)

theorem pow_length_le {d : Decimal} (h : d.coefficient ≠ 0) :
    10 ^ (d.length - 1) ≤ d.coefficient := by
  by_cases h1 : d.length - 1 = 0
  · rw [h1]; omega
  · refine Nat.le_of_not_lt fun hlt => ?_
    have : d.length ≤ d.length - 1 :=
      (Nat.length_toDigits_le_iff (by decide) (Nat.pos_of_ne_zero h1)).2 hlt
    omega

/-- What turns a count of units into a count of `10 ^ -1074`. -/
def unitScale : Nat := Nat.pow 5 1074

theorem le_unitScale : 10 ^ 744 ≤ unitScale := by decide +kernel

theorem unitScale_pos : 0 < unitScale :=
  Nat.lt_of_lt_of_le (Nat.pow_pos (by decide)) le_unitScale

theorem mul_unitScale_ne_zero {units : Nat} (h : units ≠ 0) : units * unitScale ≠ 0 := by
  have := unitScale_pos
  generalize unitScale = s at this
  exact Nat.mul_ne_zero h (by omega)

theorem overflow_mul_unitScale : overflowUnits * unitScale ≤ 10 ^ 1383 := by decide +kernel

theorem unitScale_mul_unitsPerOne : unitScale * unitsPerOne = 10 ^ 1074 := by decide +kernel

theorem exact_eq (units : Nat) : exact units = normalize ⟨units * unitScale, -1074⟩ := by
  delta exact unitScale; rfl

/-- A positive count of units as its exact decimal: `k` zeros went into the exponent. -/
theorem exact_spec {units : Nat} (h0 : units ≠ 0) :
    ∃ k : Nat, units * unitScale = (exact units).coefficient * 10 ^ k ∧
      (exact units).exponent = -1074 + k := by
  have hc := mul_unitScale_ne_zero h0
  have he : exact units = strip (units * unitScale) (-1074) := by
    rw [exact_eq, normalize, if_neg hc]
  obtain ⟨-, k, hk⟩ := strip_spec (-1074) hc
  exact ⟨k, he ▸ hk⟩

/-- The point of a double's exact decimal is neither far before nor far after its digits. -/
theorem pointPosition_exact {units : Nat} (h : Representable units) (h0 : units ≠ 0) :
    -330 ≤ (exact units).pointPosition ∧ (exact units).pointPosition ≤ 310 := by
  obtain ⟨k, hk, he⟩ := exact_spec h0
  generalize exact units = d at hk he
  have hc : d.coefficient ≠ 0 := by
    intro hz
    rw [hz, Nat.zero_mul] at hk
    exact mul_unitScale_ne_zero h0 hk
  have hlow : 10 ^ 744 < 10 ^ (d.length + k) :=
    calc 10 ^ 744 ≤ unitScale := le_unitScale
      _ ≤ units * unitScale := Nat.le_mul_of_pos_left _ (Nat.pos_of_ne_zero h0)
      _ = d.coefficient * 10 ^ k := hk
      _ < 10 ^ d.length * 10 ^ k :=
        Nat.mul_lt_mul_of_pos_right (lt_pow_length d) (Nat.pow_pos (by decide))
      _ = 10 ^ (d.length + k) := (Nat.pow_add ..).symm
  have hhigh : 10 ^ (d.length - 1 + k) < 10 ^ 1383 :=
    calc 10 ^ (d.length - 1 + k) = 10 ^ (d.length - 1) * 10 ^ k := Nat.pow_add ..
      _ ≤ d.coefficient * 10 ^ k := Nat.mul_le_mul_right _ (pow_length_le hc)
      _ = units * unitScale := hk.symm
      _ < overflowUnits * unitScale := Nat.mul_lt_mul_of_pos_right h.1 unitScale_pos
      _ ≤ 10 ^ 1383 := overflow_mul_unitScale
  have h1 := (Nat.pow_lt_pow_iff_right (by decide)).1 hlow
  have h2 := (Nat.pow_lt_pow_iff_right (by decide)).1 hhigh
  unfold pointPosition
  omega

/-- The exact decimal of a double rounds to the double. -/
theorem toBinary64_exact {units : Nat} (h : Representable units) :
    (exact units).toBinary64 false = .finite false units h := by
  by_cases h0 : units = 0
  · subst h0
    rw [exact_eq, Nat.zero_mul]
    rfl
  obtain ⟨k, hk, he⟩ := exact_spec h0
  obtain ⟨hlow, hhigh⟩ := pointPosition_exact h h0
  generalize exact units = d at hk he hlow hhigh
  have hc : d.coefficient ≠ 0 := by
    intro hz
    rw [hz, Nat.zero_mul] at hk
    exact mul_unitScale_ne_zero h0 hk
  -- both sides counted in units, with the zeros of the coefficient put back
  have hunits : d.coefficient * unitsPerOne * 10 ^ k = units * 10 ^ 1074 := by
    rw [← unitScale_mul_unitsPerOne, ← Nat.mul_assoc, hk]
    ring
  unfold toBinary64
  rw [if_neg hc, if_neg (by omega), if_neg (by omega)]
  by_cases hexp : 0 ≤ d.exponent
  · rw [if_pos hexp]
    have hn : d.coefficient * Nat.pow 10 d.exponent.toNat * unitsPerOne = units * 1 := by
      refine eq_of_mul_ten_pow 1074 ?_
      rw [Nat.mul_one, ← hunits, show k = d.exponent.toNat + 1074 by omega, Nat.pow_add,
        Nat.pow_eq, Nat.mul_right_comm d.coefficient, Nat.mul_assoc (d.coefficient * unitsPerOne)]
    rw [hn, nearest_mul false h (by decide)]
  · rw [if_neg hexp]
    have hn : d.coefficient * unitsPerOne = units * Nat.pow 10 (-d.exponent).toNat := by
      refine eq_of_mul_ten_pow k ?_
      rw [hunits, Nat.mul_assoc, Nat.pow_eq, ← Nat.pow_add,
        show (-d.exponent).toNat + k = 1074 by omega]
    have hp : 0 < Nat.pow 10 (-d.exponent).toNat := Nat.pow_pos (by decide)
    generalize Nat.pow 10 (-d.exponent).toNat = p at hn hp
    rw [hn, nearest_mul false h hp]

/-- What is written for a double rounds to it. -/
theorem toBinary64_shortest (tie : Tie) {units : Nat} (h : Representable units) :
    (shortest tie units h).toBinary64 false = .finite false units h := by
  rcases shortest_eq_or_toBinary64 tie units h with he | he
  · rw [he, toBinary64_exact]
  · exact he

theorem normalize_of_onGrid {tie : Tie} {x : Binary64} {d e : Decimal} {cut : Nat}
    (h : d.onGrid tie x cut = some e) : e.normalize = e := by
  have hlow : (d.below cut).normalize = d.below cut := normalize_normalize _
  have hhigh : (d.above cut).normalize = d.above cut := normalize_normalize _
  unfold onGrid at h
  dsimp only at h
  split at h
  · split at h
    · cases h; split <;> assumption
    · cases h; exact hlow
  · split at h
    · cases h; exact hhigh
    · cases h

theorem normalize_search {d : Decimal} (hd : d.normalize = d) (tie : Tie) (x : Binary64)
    (cut : Nat) : (search tie x d cut).normalize = search tie x d cut := by
  induction cut with
  | zero => exact hd
  | succ cut ih =>
    rw [search]
    split
    next e he => exact normalize_of_onGrid he
    next => exact ih

theorem normalize_shortest (tie : Tie) {units : Nat} (h : Representable units) :
    (shortest tie units h).normalize = shortest tie units h :=
  normalize_search (normalize_normalize _) _ _ _

/-- Rounding keeps the sign out of the size. -/
theorem toBinary64_sign {d : Decimal} {units : Nat} {h : Representable units}
    (hd : d.toBinary64 false = .finite false units h) (negative : Bool) :
    d.toBinary64 negative = .finite negative units h := by
  have hnearest : ∀ n k, Binary64.nearest false n k = .finite false units h →
      Binary64.nearest negative n k = .finite negative units h := by
    intro n k hn
    unfold Binary64.nearest at hn ⊢
    split at hn
    next hr => cases hn; rw [dif_pos hr]
    next => cases hn
  unfold toBinary64 at hd ⊢
  split at hd
  next h0 => cases hd; rw [if_pos h0]; rfl
  next h0 =>
    rw [if_neg h0]
    split at hd
    next => cases hd
    next hi =>
      rw [if_neg hi]
      split at hd
      next hz => cases hd; rw [if_pos hz]; rfl
      next hz =>
        rw [if_neg hz]
        split at hd
        next he => rw [if_pos he]; exact hnearest _ _ hd
        next he => rw [if_neg he]; exact hnearest _ _ hd

theorem exists_cons_plain (d : Decimal) : ∃ c cs, d.plain = c :: cs ∧ c.isDigit = true := by
  obtain ⟨c, cs, hc, hd⟩ := exists_cons_decimalDigits d.coefficient
  unfold plain
  dsimp only
  split
  · exact ⟨c, _, by rw [hc]; rfl, hd⟩
  · split
    next hlt =>
      obtain ⟨n, hn⟩ : ∃ n, (decimalDigits d.coefficient).length - (-d.exponent).toNat = n + 1 :=
        ⟨_, (Nat.succ_pred (by omega)).symm⟩
      exact ⟨c, _, by rw [hn, hc]; rfl, hd⟩
    next => exact ⟨'0', _, rfl, by decide⟩

end Decimal

/-- **Doubles as text.** Every double's text reads back as the double. -/
theorem readNumber_toText (x : Binary64) : readNumber x.toText = some x := by
  cases x with
  | nan => decide +kernel
  | infinite negative => cases negative <;> decide +kernel
  | finite negative units h =>
    have hr := Decimal.readDecimal_plain (Decimal.normalize_shortest .up h)
    have ht := Decimal.toBinary64_sign (Decimal.toBinary64_shortest .up h) negative
    obtain ⟨c, cs, hc, hd⟩ := Decimal.exists_cons_plain (Decimal.shortest .up units h)
    have hs : splitSign (Binary64.toText (.finite negative units h)) =
        (negative, (Decimal.shortest .up units h).plain) := by
      rw [Binary64.toText, hc, splitSign_sign negative hd]
    unfold readNumber
    simp only [hs, hr, ht]

/-! ## Values -/

theorem isBlank_of_isDigit {c : Char} (h : c.isDigit = true) : isBlank c = false := by
  have hc : 48 ≤ c.toNat ∧ c.toNat ≤ 57 := by
    simpa [Char.isDigit, UInt32.le_iff_toNat_le] using h
  simp only [isBlank, inRanges, blankRanges, List.any_cons, List.any_nil, Bool.or_false,
    Bool.or_eq_false_iff, Bool.and_eq_false_iff, decide_eq_false_iff_not]
  omega

theorem trimLeft_eq_self {cs : List Char} (h : ∀ c ∈ cs, isBlank c = false) :
    trimLeft cs = cs := by
  cases cs with
  | nil => rfl
  | cons c cs => exact List.dropWhile_cons_of_neg (by simp [h c List.mem_cons_self])

theorem trim_eq_self {cs : List Char} (h : ∀ c ∈ cs, isBlank c = false) : trim cs = cs := by
  rw [trim, trimLeft_eq_self h, trimLeft_eq_self (fun c hc => h c (List.mem_reverse.1 hc)),
    List.reverse_reverse]

theorem mem_integerText {i : Int64} {c : Char} (h : c ∈ integerText i) :
    c.isDigit = true ∨ c = '-' := by
  unfold integerText at h
  rcases List.mem_append.1 h with h | h
  · split at h
    · exact .inr (List.mem_singleton.1 h)
    · cases h
  · exact .inl (List.all_eq_true.1 (all_isDigit_decimalDigits _) c h)

theorem not_isBlank_integerText {i : Int64} {c : Char} (h : c ∈ integerText i) :
    isBlank c = false := by
  rcases mem_integerText h with h | rfl
  · exact isBlank_of_isDigit h
  · decide

/-- The digits of a decimal and its point are all there is in its plain form. -/
theorem mem_plain {d : Decimal} {c : Char} (h : c ∈ d.plain) : c.isDigit = true ∨ c = '.' := by
  have hdigits : ∀ {n}, c ∈ decimalDigits n → c.isDigit = true := fun hc =>
    List.all_eq_true.1 (all_isDigit_decimalDigits _) c hc
  have hzeros : ∀ {k}, c ∈ List.replicate k '0' → c.isDigit = true := fun hc =>
    List.all_eq_true.1 (Decimal.all_isDigit_zeros _) c hc
  unfold Decimal.plain at h
  dsimp only at h
  split at h
  · rcases List.mem_append.1 h with h | h
    · exact .inl (hdigits h)
    · exact .inl (hzeros h)
  · split at h
    · rcases List.mem_append.1 h with h | h
      · exact .inl (hdigits (List.mem_of_mem_take h))
      · rcases List.mem_cons.1 h with rfl | h
        · exact .inr rfl
        · exact .inl (hdigits (List.mem_of_mem_drop h))
    · rcases List.mem_cons.1 h with rfl | h
      · exact .inl (by decide)
      · rcases List.mem_cons.1 h with rfl | h
        · exact .inr rfl
        · rcases List.mem_append.1 h with h | h
          · exact .inl (hzeros h)
          · exact .inl (hdigits h)

theorem mem_toText {x : Binary64} {c : Char} (h : c ∈ x.toText) :
    c.isDigit = true ∨ c ∈ ['-', '.', 'N', 'a', 'i', 'n', 'f'] := by
  have hsign : ∀ {negative : Bool}, c ∈ (if negative then ['-'] else []) → c = '-' := by
    intro negative hs
    split at hs
    · exact List.mem_singleton.1 hs
    · cases hs
  cases x with
  | nan =>
    have h : c = 'N' ∨ c = 'a' ∨ c = 'N' := by simpa [Binary64.toText] using h
    rcases h with rfl | rfl | rfl <;> exact .inr (by decide)
  | infinite negative =>
    rcases List.mem_append.1 h with h | h
    · exact .inr (hsign h ▸ List.mem_cons_self)
    · have h : c = 'i' ∨ c = 'n' ∨ c = 'f' := by simpa using h
      rcases h with rfl | rfl | rfl <;> exact .inr (by decide)
  | finite negative units hr =>
    rw [Binary64.toText] at h
    rcases List.mem_append.1 h with h | h
    · exact .inr (hsign h ▸ List.mem_cons_self)
    · rcases mem_plain h with h | rfl
      · exact .inl h
      · exact .inr (by decide)

theorem not_isBlank_toText {x : Binary64} {c : Char} (h : c ∈ x.toText) : isBlank c = false := by
  have hwords : (['-', '.', 'N', 'a', 'i', 'n', 'f'].all fun c => !isBlank c) = true := by decide
  rcases mem_toText h with h | h
  · exact isBlank_of_isDigit h
  · simpa using List.all_eq_true.1 hwords c h

namespace Value

/-- **Values as text.** The text of a value, read as the value's kind, is the value. -/
theorem coerce_toText (v : Value) : (text v.toText).coerce v.kind = some v := by
  cases v with
  | text s => rfl
  | integer i =>
    simp only [toText, kind, coerce, String.toList_ofList]
    rw [trim_eq_self fun _ => not_isBlank_integerText, readInteger_integerText]
    rfl
  | number x =>
    simp only [toText, kind, coerce, String.toList_ofList]
    rw [trim_eq_self fun _ => not_isBlank_toText, readNumber_toText]
    rfl
  | boolean b => cases b <;> decide +kernel

end Value

end TypedSeries
