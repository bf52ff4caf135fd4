import TypedSeries.Predicate

/-!
# The order native to each kind

The order of values as their kinds have it, said apart from how a store compares them: text by
its bytes, integers as integers, false before true, doubles as numbers with NaN outside the order.

1. Of two characters the lesser has the lesser encoding, whatever follows (`encoding_lt`), so
   text is in order by code points exactly when it is by bytes (`lt_iff_bytes_lt`).
2. `Binary64.Precedes` and `Binary64.Coincides` order doubles by sign and size; ranks agree with
   them (`Binary64.rank_spec`).

**Main.** `Value.compare_spec`: the comparison of two values of one kind is their native order.
-/

namespace TypedSeries

/-! ## Text -/

theorem cons_lt_of_le {a b : Nat} (h : a ≤ b) (hb : b < 256) {u v : List UInt8}
    (huv : a = b → u < v) : UInt8.ofNat a :: u < UInt8.ofNat b :: v := by
  rw [List.cons_lt_cons_iff, UInt8.lt_iff_toNat_lt, UInt8.toNat_ofNat', UInt8.toNat_ofNat',
    Nat.mod_eq_of_lt (by omega), Nat.mod_eq_of_lt hb]
  by_cases he : a = b
  · exact .inr ⟨congrArg UInt8.ofNat he, huv he⟩
  · exact .inl (by omega)

theorem cons_lt_of_lt {a b : Nat} (h : a < b) (hb : b < 256) (u v : List UInt8) :
    UInt8.ofNat a :: u < UInt8.ofNat b :: v :=
  cons_lt_of_le (Nat.le_of_lt h) hb fun he => absurd he (Nat.ne_of_lt h)

/-- The encodings of two characters part at a byte that the lesser character has less. -/
theorem encoding_lt {c d : Char} (h : c < d) (r r' : List UInt8) :
    String.utf8EncodeChar c ++ r < String.utf8EncodeChar d ++ r' := by
  have hn : c.val.toNat < d.val.toNat := h
  have hd : d.val.toNat < 0x110000 := by
    have := d.valid
    simp only [UInt32.isValidChar, Nat.isValidChar] at this
    omega
  unfold String.utf8EncodeChar
  dsimp only
  generalize c.val.toNat = n at hn
  generalize d.val.toNat = m at hn hd
  -- encodings of different lengths part at the first byte
  by_cases h1 : n ≤ 0x7f
  · rw [if_pos h1]
    split
    · exact cons_lt_of_lt (by omega) (by omega) _ _
    · split
      · exact cons_lt_of_lt (by omega) (by omega) _ _
      · split
        · exact cons_lt_of_lt (by omega) (by omega) _ _
        · exact cons_lt_of_lt (by omega) (by omega) _ _
  · rw [if_neg h1, if_neg (by omega : ¬ m ≤ 0x7f)]
    by_cases h2 : n ≤ 0x7ff
    · rw [if_pos h2]
      split
      · exact cons_lt_of_le (by omega) (by omega) fun _ => cons_lt_of_lt (by omega) (by omega) _ _
      · split
        · exact cons_lt_of_lt (by omega) (by omega) _ _
        · exact cons_lt_of_lt (by omega) (by omega) _ _
    · rw [if_neg h2, if_neg (by omega : ¬ m ≤ 0x7ff)]
      by_cases h3 : n ≤ 0xffff
      · rw [if_pos h3]
        split
        · exact cons_lt_of_le (by omega) (by omega) fun _ =>
            cons_lt_of_le (by omega) (by omega) fun _ => cons_lt_of_lt (by omega) (by omega) _ _
        · exact cons_lt_of_lt (by omega) (by omega) _ _
      · rw [if_neg h3, if_neg (by omega : ¬ m ≤ 0xffff)]
        exact cons_lt_of_le (by omega) (by omega) fun _ =>
          cons_lt_of_le (by omega) (by omega) fun _ =>
            cons_lt_of_le (by omega) (by omega) fun _ => cons_lt_of_lt (by omega) (by omega) _ _

/-- The bytes of a text in UTF-8. -/
def bytes (s : String) : List UInt8 := s.toUTF8.data.toList

theorem bytes_eq (s : String) : bytes s = s.toList.flatMap String.utf8EncodeChar := by
  have h : s.toByteArray = (s.toList.flatMap String.utf8EncodeChar).toByteArray := by
    have := String.toByteArray_ofList (l := s.toList)
    rwa [String.ofList_toList] at this
  rw [bytes, String.toUTF8_eq_toByteArray, h, List.data_toByteArray]

theorem flatMap_encoding_lt {cs ds : List Char} (h : cs < ds) :
    cs.flatMap String.utf8EncodeChar < ds.flatMap String.utf8EncodeChar := by
  induction h with
  | @nil d ds =>
    obtain ⟨x, xs, hx⟩ := List.exists_cons_of_ne_nil (@String.utf8EncodeChar_ne_nil d)
    rw [List.flatMap_nil, List.flatMap_cons, hx]
    exact .nil
  | cons _ ih =>
    rw [List.flatMap_cons, List.flatMap_cons]
    exact List.append_left_lt ih
  | rel h =>
    rw [List.flatMap_cons, List.flatMap_cons]
    exact encoding_lt h _ _

/-- Text is in order by code points exactly when it is by bytes. -/
theorem lt_iff_bytes_lt {a b : String} : a < b ↔ bytes a < bytes b := by
  have hmono : ∀ {a b : String}, a < b → bytes a < bytes b := by
    intro a b h
    rw [bytes_eq, bytes_eq]
    exact flatMap_encoding_lt h
  refine ⟨hmono, fun h => Decidable.byContradiction fun hab => ?_⟩
  by_cases hba : b < a
  · exact List.lt_asymm h (hmono hba)
  · have he : a = b := String.le_antisymm (String.not_lt.1 hba) (String.not_lt.1 hab)
    rw [he] at h
    exact List.lt_irrefl _ h

theorem compare_text_lt {a b : String} : Ord.compare a b = .lt ↔ bytes a < bytes b := by
  rw [← lt_iff_bytes_lt]
  show compareOfLessAndEq a b = .lt ↔ a < b
  unfold compareOfLessAndEq
  split
  next h => exact iff_of_true rfl h
  next h =>
    refine iff_of_false ?_ h
    split <;> exact fun he => nomatch he

theorem compare_text_eq {a b : String} : Ord.compare a b = .eq ↔ a = b :=
  Std.LawfulEqOrd.compare_eq_iff_eq

theorem compare_text_gt {a b : String} : Ord.compare a b = .gt ↔ bytes b < bytes a := by
  rw [← compare_text_lt, Std.OrientedCmp.gt_iff_lt]

/-! ## Doubles -/

/-- A count of units with a sign. -/
def signed (negative : Bool) (units : Nat) : Int := if negative then -units else units

@[simp] theorem signed_true (units : Nat) : signed true units = -units := rfl

@[simp] theorem signed_false (units : Nat) : signed false units = units := rfl

namespace Binary64

/-- The order of doubles as numbers: the infinities at its two ends, NaN nowhere. -/
def Precedes : Binary64 → Binary64 → Prop
  | infinite s, infinite t => s = true ∧ t = false
  | infinite s, finite _ _ _ => s = true
  | finite _ _ _, infinite t => t = false
  | finite s a _, finite t b _ => signed s a < signed t b
  | _, _ => False

/-- Doubles that are one number: both zeros are, NaN is none. -/
def Coincides : Binary64 → Binary64 → Prop
  | infinite s, infinite t => s = t
  | finite s a _, finite t b _ => signed s a = signed t b
  | _, _ => False

instance : DecidableRel Precedes := fun x y => by
  cases x <;> cases y <;> dsimp only [Precedes] <;> infer_instance

instance : DecidableRel Coincides := fun x y => by
  cases x <;> cases y <;> dsimp only [Coincides] <;> infer_instance

theorem rank_finite (s : Bool) (a : Nat) (h : Representable a) :
    rank (finite s a h) = some (signed s a) := by
  cases s with
  | true => exact congrArg some (Int.neg_one_mul _)
  | false => exact congrArg some (Int.one_mul _)

theorem rank_infinite (s : Bool) : rank (infinite s) = some (signed s overflowUnits) := by
  cases s with
  | true => exact congrArg some (Int.neg_one_mul _)
  | false => exact congrArg some (Int.one_mul _)

/-- Only NaN has no rank. -/
theorem eq_nan_of_rank {x : Binary64} (h : x.rank = none) : x = nan := by
  cases x with
  | nan => rfl
  | infinite s => rw [rank_infinite] at h; cases h
  | finite s a ha => rw [rank_finite] at h; cases h

theorem equals_self {x : Binary64} (h : x ≠ nan) : x.equals x = true := by
  unfold equals compare
  cases hx : x.rank with
  | none => exact absurd (eq_nan_of_rank hx) h
  | some a => simp

/-- A finite number lies between the infinities. -/
theorem signed_mem_overflow {s : Bool} {a : Nat} (h : Representable a) :
    -(overflowUnits : Int) < signed s a ∧ signed s a < overflowUnits := by
  have hlt := h.1
  generalize overflowUnits = u at hlt
  cases s <;> simp <;> omega

/-- Ranks are in the order of the numbers. -/
theorem rank_spec {x y : Binary64} {a b : Int} (hx : x.rank = some a) (hy : y.rank = some b) :
    (a < b ↔ x.Precedes y) ∧ (a = b ↔ x.Coincides y) := by
  have hpos : (0 : Int) < overflowUnits := by
    exact_mod_cast lt_overflowUnits (x := 0) (Nat.two_pow_pos 0) (by decide)
  cases x with
  | nan => cases hx
  | infinite s =>
    rw [rank_infinite] at hx
    cases hx
    cases y with
    | nan => cases hy
    | infinite t =>
      rw [rank_infinite] at hy
      cases hy
      generalize overflowUnits = u at hpos
      cases s <;> cases t <;> simp [Precedes, Coincides] <;> omega
    | finite t b hb =>
      rw [rank_finite] at hy
      cases hy
      have hlt := signed_mem_overflow (s := t) hb
      generalize overflowUnits = u at hlt
      cases s <;> simp [Precedes, Coincides] <;> omega
  | finite s a ha =>
    rw [rank_finite] at hx
    cases hx
    cases y with
    | nan => cases hy
    | infinite t =>
      rw [rank_infinite] at hy
      cases hy
      have hlt := signed_mem_overflow (s := s) ha
      generalize overflowUnits = u at hlt
      cases t <;> simp [Precedes, Coincides] <;> omega
    | finite t b hb =>
      rw [rank_finite] at hy
      cases hy
      exact ⟨Iff.rfl, Iff.rfl⟩

theorem compare_spec (x y : Binary64) : (x.compare y = some .lt ↔ x.Precedes y) ∧
    (x.compare y = some .eq ↔ x.Coincides y) ∧ (x.compare y = some .gt ↔ y.Precedes x) := by
  unfold compare
  cases hx : x.rank with
  | none =>
    obtain rfl : x = nan := eq_nan_of_rank hx
    cases y <;> simp [Precedes, Coincides]
  | some a =>
    cases hy : y.rank with
    | none =>
      obtain rfl : y = nan := eq_nan_of_rank hy
      cases x <;> simp [Precedes, Coincides]
    | some b =>
      rw [← (rank_spec hx hy).1, ← (rank_spec hx hy).2, ← (rank_spec hy hx).1]
      simp only [Option.some.injEq]
      exact ⟨Int.compare_eq_lt, Int.compare_eq_eq, Int.compare_eq_gt⟩

end Binary64

/-! ## Values -/

namespace Value

/-- The strict order native to a kind; values of two kinds are not in order. -/
def Less : Value → Value → Prop
  | text a, text b => bytes a < bytes b
  | integer a, integer b => a < b
  | number a, number b => a.Precedes b
  | boolean a, boolean b => a = false ∧ b = true
  | _, _ => False

/-- The equality native to a kind. -/
def Same : Value → Value → Prop
  | text a, text b => a = b
  | integer a, integer b => a = b
  | number a, number b => a.Coincides b
  | boolean a, boolean b => a = b
  | _, _ => False

instance : DecidableRel Less := fun v w => by
  cases v <;> cases w <;> dsimp only [Less] <;> infer_instance

instance : DecidableRel Same := fun v w => by
  cases v <;> cases w <;> dsimp only [Same] <;> infer_instance

/-- **Comparison.** Two values of one kind compare as the kind's own order has them. -/
theorem compare_spec {v w : Value} (h : v.kind = w.kind) : (v.compare w = some .lt ↔ v.Less w) ∧
    (v.compare w = some .eq ↔ v.Same w) ∧ (v.compare w = some .gt ↔ w.Less v) := by
  cases v with
  | text a =>
    cases w with
    | text b =>
      simp only [compare, Option.some.injEq]
      exact ⟨compare_text_lt, compare_text_eq, compare_text_gt⟩
    | _ => cases h
  | integer a =>
    cases w with
    | integer b =>
      simp only [compare, Option.some.injEq, Less, Same]
      rw [Int64.lt_iff_toInt_lt, Int64.lt_iff_toInt_lt, ← Int64.toInt_inj]
      exact ⟨Int.compare_eq_lt, Int.compare_eq_eq, Int.compare_eq_gt⟩
    | _ => cases h
  | number a =>
    cases w with
    | number b => exact a.compare_spec b
    | _ => cases h
  | boolean a =>
    cases w with
    | boolean b => cases a <;> cases b <;> decide
    | _ => cases h

theorem equals_self {v : Value} (h : v ≠ number .nan) : v.equals v = true := by
  cases v with
  | number x => exact Binary64.equals_self fun hx => h (hx ▸ rfl)
  | _ => simp [equals]

end Value

/-! ## Operators -/

/-- What an operator says of two values, given whether they are less, equal or greater. -/
def Operator.Says (op : Operator) (less equal greater : Prop) : Prop :=
  match op with
  | .less => less
  | .lessEqual => less ∨ equal
  | .greater => greater
  | .greaterEqual => greater ∨ equal
  | .equal => equal
  | .notEqual => less ∨ greater

instance (op : Operator) (less equal greater : Prop) [Decidable less] [Decidable equal]
    [Decidable greater] : Decidable (op.Says less equal greater) := by
  cases op <;> dsimp only [Operator.Says] <;> infer_instance

theorem Operator.holds_iff (op : Operator) (o : Ordering) :
    op.holds o = true ↔ op.Says (o = .lt) (o = .eq) (o = .gt) := by
  cases op <;> cases o <;> decide

/-- A comparison of a value with a literal, in the native order of their kind. -/
def Predicate.Says (p : Predicate) (v : Value) : Prop :=
  p.op.Says (v.Less p.value) (v.Same p.value) (p.value.Less v)

instance (p : Predicate) : DecidablePred p.Says := fun v =>
  inferInstanceAs (Decidable (p.op.Says (v.Less p.value) (v.Same p.value) (p.value.Less v)))

/-- A candidate is accepted exactly if, read as the literal's kind, it stands to the literal in
the native order as the operator says. -/
theorem Predicate.accepts_iff {p : Predicate} {v w : Value} (hv : w.coerce p.kind = some v)
    (hk : v.kind = p.value.kind) : p.accepts w = true ↔ p.Says v := by
  obtain ⟨hlt, heq, hgt⟩ := Value.compare_spec hk
  unfold accepts Says
  rw [hv, Option.bind_some, ← hlt, ← heq, ← hgt]
  cases v.compare p.value with
  | none => cases p.op <;> simp [Operator.Says]
  | some o =>
    simp only [Option.some.injEq]
    exact p.op.holds_iff o

end TypedSeries
