import Counsel.Proofs.Text.Blank
import Counsel.Proofs.Text.Utf8
import Counsel.Query

/-!
Query strings are read back (`parse_print`), whatever characters are in the names and the values.

An encoded byte is read back where it stands (`decodeBytes_encodeByte`), and none of the characters
that join names, values and pairs is in an encoded text (`safe_encode`). So the mark between two
pairs and the first `=` of a pair are found where they were written.
-/

namespace Counsel.Query

open Text

/-! ### Bytes -/

/-- A character of an encoded text: in ASCII, and no mark that joins pairs or their parts. -/
def Safe (c : Char) : Prop := c.toNat < 128 ∧ c ≠ '&' ∧ c ≠ '='

instance (c : Char) : Decidable (Safe c) := by unfold Safe; infer_instance

/-- What holds of all numbers below 256 holds of all bytes. -/
theorem forall_byte {P : UInt8 → Prop} (each : ∀ n < 256, P (.ofNat n)) (b : UInt8) : P b := by
  simpa using each b.toNat b.toNat_lt

theorem safe_of_isPlain : ∀ b, isPlain b = true → Safe (Char.ofNat b.toNat) :=
  forall_byte (by decide +kernel)

theorem safe_capitalHexDigit (n : Nat) : Safe (capitalHexDigit n) := by
  have digits : ∀ m < 16, Safe (Nat.digitChar m).toUpper := by decide
  exact digits (n % 16) (Nat.mod_lt n (by decide))

theorem safe_encodeByte (b : UInt8) : ∀ c ∈ encodeByte b, Safe c := by
  unfold encodeByte
  split
  · rename_i plain
    exact List.forall_mem_singleton.mpr (safe_of_isPlain b plain)
  split
  · exact List.forall_mem_singleton.mpr (by decide)
  · exact List.forall_mem_cons.mpr ⟨by decide, List.forall_mem_cons.mpr ⟨safe_capitalHexDigit _,
      List.forall_mem_singleton.mpr (safe_capitalHexDigit _)⟩⟩

/-- Characters in ASCII are their own bytes. -/
theorem encode_ascii {s : List Char} (ascii : ∀ c ∈ s, c.toNat < 128) :
    Utf8.encode s = s.map fun c => UInt8.ofNat c.toNat := by
  induction s with
  | nil => rfl
  | cons c s ih =>
      obtain ⟨first, others⟩ := List.forall_mem_cons.mp ascii
      have single : Utf8.encodeChar c = [.ofNat c.toNat] := by
        simp only [Utf8.encodeChar, first, if_true]
      rw [Utf8.encode, List.flatMap_cons, single, ← Utf8.encode, ih others]
      rfl

theorem hexByte?_capitalHexDigit (n : Nat) :
    hexByte? (.ofNat (capitalHexDigit n).toNat) = some (n % 16) := by
  have digits : ∀ m < 16, hexByte? (.ofNat (Nat.digitChar m).toUpper.toNat) = some m := by decide
  exact digits (n % 16) (Nat.mod_lt n (by decide))

/-- A byte other than the percent sign stands for one byte. -/
theorem decodeBytes_cons {b : UInt8} (plain : b ≠ 0x25) (rest : List UInt8) :
    decodeBytes (b :: rest) = (if b = 0x2b then 0x20 else b) :: decodeBytes rest := by
  rw [decodeBytes]
  intro _ _ _ percent
  exact absurd percent plain

theorem decodeBytes_percent {a b : UInt8} {high low : Nat} (first : hexByte? a = some high)
    (second : hexByte? b = some low) (rest : List UInt8) :
    decodeBytes (0x25 :: a :: b :: rest) = .ofNat (high * 16 + low) :: decodeBytes rest := by
  simp only [decodeBytes, first, second]

/-- An encoded byte is read back. -/
theorem decodeBytes_encodeByte (b : UInt8) (rest : List UInt8) :
    decodeBytes (((encodeByte b).map fun c => UInt8.ofNat c.toNat) ++ rest) =
      b :: decodeBytes rest := by
  have itself : ∀ b, isPlain b = true →
      UInt8.ofNat (Char.ofNat b.toNat).toNat = b ∧ b ≠ 0x25 ∧ b ≠ 0x2b :=
    forall_byte (by decide +kernel)
  unfold encodeByte
  split
  · rename_i plain
    obtain ⟨same, percent, plus⟩ := itself b plain
    rw [List.map_singleton, List.singleton_append, same, decodeBytes_cons percent, if_neg plus]
  split
  · rename_i space
    subst space
    exact decodeBytes_cons (b := 0x2b) (by decide) rest
  · have whole : b.toNat / 16 % 16 * 16 + b.toNat % 16 = b.toNat := by
      have := b.toNat_lt
      omega
    refine (decodeBytes_percent (hexByte?_capitalHexDigit _) (hexByte?_capitalHexDigit _)
      rest).trans ?_
    rw [whole, UInt8.ofNat_toNat]

/-! ### Texts -/

theorem safe_encode (s : List Char) : ∀ c ∈ encode s, Safe c := by
  intro c member
  obtain ⟨b, _, within⟩ := List.mem_flatMap.mp member
  exact safe_encodeByte b c within

theorem decodeBytes_flatMap (bytes : List UInt8) :
    decodeBytes ((bytes.flatMap encodeByte).map fun c => UInt8.ofNat c.toNat) = bytes := by
  induction bytes with
  | nil => rfl
  | cons b bytes ih =>
      rw [List.flatMap_cons, List.map_append, decodeBytes_encodeByte, ih]

/-- An encoded text is read back. -/
@[simp] theorem decode_encode (s : List Char) : decode (encode s) = s := by
  have bytes : Utf8.encode (encode s) = _ := encode_ascii fun c member => (safe_encode s c member).1
  rw [decode, bytes, encode, decodeBytes_flatMap, Utf8.decodeLossy_encode]

/-! ### Pairs -/

/-- A text is cut at the first occurrence of a mark. -/
theorem splitOnce_append {mark : Char} {left : List Char} (fresh : mark ∉ left)
    (right : List Char) : splitOnce [mark] (left ++ mark :: right) = some (left, right) := by
  induction left with
  | nil => simp [splitOnce]
  | cons c left ih =>
      rw [List.mem_cons, not_or] at fresh
      rw [List.cons_append, splitOnce, ih fresh.2]
      simp [fresh.1]

theorem splitPair_pairChars (pair : String × String) :
    splitPair (pairChars pair) = (encode pair.1.toList, encode pair.2.toList) := by
  have fresh : '=' ∉ encode pair.1.toList := fun member => (safe_encode _ _ member).2.2 rfl
  rw [splitPair, pairChars, splitOnce_append fresh]
  rfl

theorem notMem_pairChars (pair : String × String) : '&' ∉ pairChars pair := by
  simp only [pairChars, List.mem_append, List.mem_cons, not_or]
  exact ⟨fun member => (safe_encode _ _ member).2.1 rfl, by decide,
    fun member => (safe_encode _ _ member).2.1 rfl⟩

/-- The pairs of a query string are read back. -/
theorem parse_print (pairs : List (String × String)) : parse (print pairs) = pairs := by
  cases pairs with
  | nil => rfl
  | cons first others =>
      have pieces :
          splitAtMark '&' (print (first :: others)) = (first :: others).map pairChars := by
        rw [splitAtMark_eq_splitOn, print, List.splitOn_intercalate '&' _ (by simp)]
        intro piece member
        obtain ⟨pair, _, rfl⟩ := List.mem_map.mp member
        exact notMem_pairChars pair
      have kept : ((first :: others).map pairChars).filter (!·.isEmpty) =
          (first :: others).map pairChars := by
        rw [List.filter_eq_self]
        intro piece member
        obtain ⟨pair, _, rfl⟩ := List.mem_map.mp member
        simp [pairChars]
      rw [parse, pieces, kept, List.map_map]
      refine List.map_id'' (fun pair => ?_) _
      simp [splitPair_pairChars]

end Counsel.Query
