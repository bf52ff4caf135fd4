/-!
# Percent coding

Text inside a request target is written byte by byte: a byte that stands for itself as its
character, every other byte as a percent sign and two hexadecimal digits in upper case.

**Main.** `decode_encode`: decoding gives back the bytes that were written.
-/

namespace TypedSeries.Percent

/-- A hexadecimal digit in upper case. -/
def digit (n : Nat) : Char := if n < 10 then Char.ofNat (48 + n) else Char.ofNat (55 + n)

/-- The value of a hexadecimal digit of either case. -/
def digitValue? (c : Char) : Option Nat :=
  if '0' ≤ c ∧ c ≤ '9' then some (c.toNat - 48)
  else if 'A' ≤ c ∧ c ≤ 'F' then some (c.toNat - 55)
  else if 'a' ≤ c ∧ c ≤ 'f' then some (c.toNat - 87)
  else none

theorem digitValue?_digit {n : Nat} (h : n < 16) : digitValue? (digit n) = some n := by
  have all : ∀ m ∈ List.range 16, digitValue? (digit m) = some m := by decide
  exact all n (List.mem_range.2 h)

/-- A byte as a percent sign and two digits. -/
def escape (b : UInt8) : List Char := ['%', digit (b.toNat / 16), digit (b.toNat % 16)]

/-- Letters, digits and the four marks that stand for themselves in any part of a target. -/
def isUnreserved (c : Char) : Bool :=
  c.isAlphanum || c = '-' || c = '_' || c = '.' || c = '~'

/-- The character of a byte. -/
def byteChar (b : UInt8) : Char := Char.ofNat b.toNat

/-- One byte of a text. -/
def encodeByte (b : UInt8) : List Char :=
  if isUnreserved (byteChar b) then [byteChar b] else escape b

def encodeBytes (bs : List UInt8) : List Char := bs.flatMap encodeByte

/-- The bytes of a character. -/
def charBytes (c : Char) : List UInt8 := String.utf8EncodeChar c

/-- A text with everything but the unreserved characters escaped. -/
def encode (s : String) : List Char := encodeBytes (s.toList.flatMap charBytes)

/-- Escape the characters of a class, byte by byte, and keep the others. -/
def escapeWhere (special : Char → Bool) (cs : List Char) : List Char :=
  cs.flatMap fun c => if special c then (charBytes c).flatMap escape else [c]

/-- The bytes of a coded text; a percent sign without two digits after it is kept. -/
def decode : List Char → List UInt8
  | '%' :: a :: b :: rest =>
    match digitValue? a, digitValue? b with
    | some x, some y => UInt8.ofNat (16 * x + y) :: decode rest
    | _, _ => charBytes '%' ++ decode (a :: b :: rest)
  | c :: rest => charBytes c ++ decode rest
  | [] => []

/-- The text of a coded text, if its bytes are one. -/
def decodeText? (cs : List Char) : Option String := String.fromUTF8? (decode cs).toByteArray

/-! ## Round trip -/

theorem decode_cons_of_ne {c : Char} (h : c ≠ '%') (rest : List Char) :
    decode (c :: rest) = charBytes c ++ decode rest := by
  cases rest with
  | nil => simp [decode]
  | cons d rest => cases rest with
    | nil => simp [decode]
    | cons e rest => rw [decode]; intro a b r hc; simp_all

theorem decode_escape (b : UInt8) (rest : List Char) :
    decode (escape b ++ rest) = b :: decode rest := by
  have h := b.toNat_lt
  have hx := digitValue?_digit (n := b.toNat / 16) (by omega)
  have hy := digitValue?_digit (n := b.toNat % 16) (by omega)
  have hb : 16 * (b.toNat / 16) + b.toNat % 16 = b.toNat := Nat.div_add_mod _ _
  simp [escape, decode, hx, hy, hb]

theorem charBytes_byteChar (b : UInt8) (h : isUnreserved (byteChar b) = true) :
    charBytes (byteChar b) = [b] ∧ byteChar b ≠ '%' := by
  have all : ∀ n ∈ List.range 256, isUnreserved (byteChar (UInt8.ofNat n)) = true →
      charBytes (byteChar (UInt8.ofNat n)) = [UInt8.ofNat n] ∧
        byteChar (UInt8.ofNat n) ≠ '%' := by decide +kernel
  have := all b.toNat (List.mem_range.2 b.toNat_lt)
  simpa using this (by simpa using h)

theorem decode_encodeBytes (bs : List UInt8) (rest : List Char) :
    decode (encodeBytes bs ++ rest) = bs ++ decode rest := by
  induction bs with
  | nil => rfl
  | cons b bs ih =>
    by_cases h : isUnreserved (byteChar b) = true
    · obtain ⟨hc, hn⟩ := charBytes_byteChar b h
      have : encodeBytes (b :: bs) = byteChar b :: encodeBytes bs := by
        simp [encodeBytes, encodeByte, h]
      rw [this, List.cons_append, decode_cons_of_ne hn, hc, ih]; rfl
    · have : encodeBytes (b :: bs) = escape b ++ encodeBytes bs := by
        simp [encodeBytes, encodeByte, h]
      rw [this, List.append_assoc, decode_escape, ih]; rfl

theorem decode_encode (s : String) : decode (encode s) = s.toList.flatMap charBytes := by
  have := decode_encodeBytes (s.toList.flatMap charBytes) []
  simpa [encode, decode] using this

end TypedSeries.Percent
