import Counsel.Text.Utf8
import Mathlib.Algebra.Group.Nat.Defs

/-!
Every text is read back from its bytes (`decodeLossy_encode`). A character's number is in none of
the ranges that are kept out, so the reader meets nothing ill-formed and puts no replacement.
-/

namespace Counsel.Text.Utf8

variable {rest : List UInt8} {b : UInt8} {p : Pending}

theorem toNat_byte {n : Nat} (small : n < 256) : (UInt8.ofNat n).toNat = n :=
  UInt8.toNat_ofNat_of_lt' small

/-! ### Bytes within a character -/

/-- The bytes that continue a character: so many groups of six bits, the highest first. -/
def tails : Nat → Nat → List UInt8
  | 0, _ => []
  | k + 1, n => .ofNat (0x80 + n / Nat.pow 64 k % 64) :: tails k n

/-- A group of six bits joins those before it. -/
theorem join_bits (n k : Nat) : n / 64 ^ (k + 1) * 64 + n / 64 ^ k % 64 = n / 64 ^ k := by
  rw [Nat.pow_succ, ← Nat.div_div_eq_div_mul]
  exact Nat.div_add_mod' (n / 64 ^ k) 64

theorem decodeFrom_next (least : p.low ≤ b.toNat) (most : b.toNat ≤ p.high)
    (more : 1 < p.missing) :
    decodeFrom (some p) (b :: rest) =
      decodeFrom (some ⟨p.bits * 64 + (b.toNat - 0x80), p.missing - 1, 0x80, 0xbf⟩) rest := by
  simp only [decodeFrom, least, most, and_self, if_true, Nat.not_le.mpr more, if_false]

theorem decodeFrom_last (least : p.low ≤ b.toNat) (most : b.toNat ≤ p.high)
    (last : p.missing ≤ 1) :
    decodeFrom (some p) (b :: rest) =
      some (.ofNat (p.bits * 64 + (b.toNat - 0x80))) :: decodeFrom none rest := by
  simp only [decodeFrom, least, most, and_self, if_true, last]

/-- The bytes that continue a character complete it. Only the first of them may have a narrower
range. -/
theorem decodeFrom_tails {n low high : Nat} (k : Nat) (least : low ≤ 0x80 + n / 64 ^ k % 64)
    (most : 0x80 + n / 64 ^ k % 64 ≤ high) :
    decodeFrom (some ⟨n / 64 ^ (k + 1), k + 1, low, high⟩) (tails (k + 1) n ++ rest) =
      some (.ofNat n) :: decodeFrom none rest := by
  induction k generalizing low high with
  | zero =>
      have byte : (UInt8.ofNat (0x80 + n / Nat.pow 64 0 % 64)).toNat = 0x80 + n / 64 ^ 0 % 64 :=
        toNat_byte (by omega)
      rw [tails, List.cons_append, decodeFrom_last (by rwa [byte]) (by rwa [byte]) (Nat.le_refl 1),
        byte, Nat.add_sub_cancel_left, join_bits, Nat.pow_zero, Nat.div_one]
      rfl
  | succ k ih =>
      have byte : (UInt8.ofNat (0x80 + n / Nat.pow 64 (k + 1) % 64)).toNat =
          0x80 + n / 64 ^ (k + 1) % 64 := toNat_byte (by simp only [Nat.pow_eq]; omega)
      rw [tails, List.cons_append, decodeFrom_next (by rwa [byte]) (by rwa [byte])
        (Nat.lt_add_of_pos_left k.succ_pos), byte, Nat.add_sub_cancel_left, join_bits]
      exact ih (by omega) (by omega)

/-! ### Characters -/

theorem decodeFrom_first (starts : first b = .pending p) :
    decodeFrom none (b :: rest) = decodeFrom (some p) rest := by
  simp only [decodeFrom, starts]

/-- The bytes of a character are read as the character. -/
theorem decodeFrom_encodeChar (c : Char) (rest : List UInt8) :
    decodeFrom none (encodeChar c ++ rest) = some c :: decodeFrom none rest := by
  have valid : c.toNat < 0xd800 ∨ 0xdfff < c.toNat ∧ c.toNat < 0x110000 := c.valid
  unfold encodeChar
  generalize named : c.toNat = n at valid
  obtain rfl : Char.ofNat n = c := named ▸ Char.ofNat_toNat c
  simp only
  split
  · have lead : first (.ofNat n) = .char (.ofNat n) := by
      simp only [first, toNat_byte (show n < 256 by omega)]
      rw [if_pos (by omega)]
    simp only [List.singleton_append, decodeFrom, lead]
  split
  · have lead : first (.ofNat (0xc0 + n / 64)) = .pending ⟨n / 64, 1, 0x80, 0xbf⟩ := by
      simp only [first, toNat_byte (show 0xc0 + n / 64 < 256 by omega), Nat.add_sub_cancel_left]
      rw [if_neg (by omega), if_neg (by omega), if_pos (by omega)]
    rw [List.cons_append, decodeFrom_first lead]
    exact decodeFrom_tails 0 (by omega) (by omega)
  split
  · have lead : first (.ofNat (0xe0 + n / 4096)) = .pending ⟨n / 4096, 2,
        if 0xe0 + n / 4096 = 0xe0 then 0xa0 else 0x80,
        if 0xe0 + n / 4096 = 0xed then 0x9f else 0xbf⟩ := by
      simp only [first, toNat_byte (show 0xe0 + n / 4096 < 256 by omega), Nat.add_sub_cancel_left]
      rw [if_neg (by omega), if_neg (by omega), if_neg (by omega), if_pos (by omega)]
    rw [List.cons_append, decodeFrom_first lead]
    exact decodeFrom_tails 1 (by split <;> omega) (by split <;> omega)
  · have lead : first (.ofNat (0xf0 + n / 262144)) = .pending ⟨n / 262144, 3,
        if 0xf0 + n / 262144 = 0xf0 then 0x90 else 0x80,
        if 0xf0 + n / 262144 = 0xf4 then 0x8f else 0xbf⟩ := by
      simp only [first, toNat_byte (show 0xf0 + n / 262144 < 256 by omega),
        Nat.add_sub_cancel_left]
      rw [if_neg (by omega), if_neg (by omega), if_neg (by omega), if_neg (by omega),
        if_pos (by omega)]
    rw [List.cons_append, decodeFrom_first lead]
    exact decodeFrom_tails 2 (by split <;> omega) (by split <;> omega)

theorem decodeFrom_encode (s : List Char) : decodeFrom none (encode s) = s.map some := by
  induction s with
  | nil => rfl
  | cons c s ih =>
      have first := decodeFrom_encodeChar c (encode s)
      rwa [ih] at first

/-- A text is read back from its bytes. -/
@[simp] theorem decodeLossy_encode (s : List Char) : decodeLossy (encode s) = s := by
  rw [decodeLossy, decodeFrom_encode, List.map_map]
  exact List.map_id s

end Counsel.Text.Utf8
