/-!
UTF-8: the bytes of a text, and the text of bytes.

Reading is a machine of two states. Between characters a byte starts one; within a character it
says how many bytes are still to come and in what range the next one has to lie. A byte out of range
ends the character in progress as ill-formed and is then read as a first byte, so each longest
ill-formed beginning counts once.
-/

namespace Counsel.Text.Utf8

/-- The bytes of a character. -/
def encodeChar (c : Char) : List UInt8 :=
  let n := c.toNat
  let tail (shift : Nat) : UInt8 := .ofNat (0x80 + n / Nat.pow 64 shift % 64)
  if n < 0x80 then [.ofNat n]
  else if n < 0x800 then [.ofNat (0xc0 + n / 64), tail 0]
  else if n < 0x10000 then [.ofNat (0xe0 + n / 4096), tail 1, tail 0]
  else [.ofNat (0xf0 + n / 262144), tail 2, tail 1, tail 0]

/-- The bytes of characters. -/
def encode (s : List Char) : List UInt8 := s.flatMap encodeChar

/-- A character in progress: its bits so far, how many bytes are still to come, and the range of
the next one. -/
structure Pending where
  bits : Nat
  missing : Nat
  low : Nat
  high : Nat
  deriving DecidableEq, Repr

/-- What a first byte does: it is a character, it starts one, or it is ill-formed. -/
inductive First where
  | char (c : Char)
  | pending (p : Pending)
  | bad
  deriving Repr

/-- What a byte means between characters. Overlong forms, surrogates and numbers beyond the last
character are kept out by the range of the second byte. -/
def first (b : UInt8) : First :=
  let n := b.toNat
  if n < 0x80 then .char (.ofNat n)
  else if n < 0xc2 then .bad
  else if n < 0xe0 then .pending ⟨n - 0xc0, 1, 0x80, 0xbf⟩
  else if n < 0xf0 then
    .pending ⟨n - 0xe0, 2, if n = 0xe0 then 0xa0 else 0x80, if n = 0xed then 0x9f else 0xbf⟩
  else if n < 0xf5 then
    .pending ⟨n - 0xf0, 3, if n = 0xf0 then 0x90 else 0x80, if n = 0xf4 then 0x8f else 0xbf⟩
  else .bad

/-- The characters of bytes; nothing for each ill-formed piece. -/
def decodeFrom : Option Pending → List UInt8 → List (Option Char)
  | none, [] => []
  | some _, [] => [none]
  | none, b :: rest =>
      match first b with
      | .char c => some c :: decodeFrom none rest
      | .pending p => decodeFrom (some p) rest
      | .bad => none :: decodeFrom none rest
  | some p, b :: rest =>
      let n := b.toNat
      if p.low ≤ n ∧ n ≤ p.high then
        let bits := p.bits * 64 + (n - 0x80)
        if p.missing ≤ 1 then some (.ofNat bits) :: decodeFrom none rest
        else decodeFrom (some ⟨bits, p.missing - 1, 0x80, 0xbf⟩) rest
      else
        none :: match first b with
          | .char c => some c :: decodeFrom none rest
          | .pending p => decodeFrom (some p) rest
          | .bad => none :: decodeFrom none rest

/-- The character put for an ill-formed piece. -/
def replacement : Char := Char.ofNat 0xfffd

/-- The characters of bytes, with a replacement for each ill-formed piece. -/
def decodeLossy (bytes : List UInt8) : List Char :=
  (decodeFrom none bytes).map fun c => c.getD replacement

/-- The characters of bytes that are well-formed throughout. -/
def decode? (bytes : List UInt8) : Option (List Char) := (decodeFrom none bytes).mapM id

end Counsel.Text.Utf8
