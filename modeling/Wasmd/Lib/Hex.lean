import Mathlib.Tactic.Common
import Mathlib.Data.List.Basic

/-!
# Hexadecimal texts

Go's `encoding/hex` on bytes.

* `encode` — two digits for each byte.
* `decode` — digits of either case, with the two errors of `hex.DecodeString`.
* `decode_encode` — reading undoes writing.
-/

namespace Hex

/-- The digit of a number below 16, as a byte of the text. -/
def digit (n : Nat) : UInt8 := UInt8.ofNat (if n < 10 then 48 + n else 87 + n)

/-- `hex.Encode`. -/
def encode (bz : List UInt8) : List UInt8 :=
  bz.flatMap fun b => [digit (b.toNat / 16), digit (b.toNat % 16)]

/-- The value of a digit. -/
def fromDigit (c : UInt8) : Option Nat :=
  if 48 ≤ c ∧ c ≤ 57 then some (c.toNat - 48)
  else if 97 ≤ c ∧ c ≤ 102 then some (c.toNat - 87)
  else if 65 ≤ c ∧ c ≤ 70 then some (c.toNat - 55)
  else none

/-- The errors of `hex.Decode`. -/
inductive DecodeError where
  /-- `InvalidByteError`. -/
  | invalidByte (b : UInt8)
  /-- `ErrLength`. -/
  | oddLength
  deriving DecidableEq, Repr

/-- `strconv.IsPrint` on the runes of one byte. -/
def printable (b : UInt8) : Bool := (32 ≤ b ∧ b < 127) ∨ (161 ≤ b ∧ b ≠ 173)

/-- The text of the error; the byte is printed with `%#U`. -/
def DecodeError.text : DecodeError → String
  | .invalidByte b =>
    let code := String.ofList
      [(Nat.digitChar (b.toNat / 16)).toUpper, (Nat.digitChar (b.toNat % 16)).toUpper]
    let quoted := if printable b then " '" ++ String.singleton (Char.ofNat b.toNat) ++ "'" else ""
    "encoding/hex: invalid byte: U+00" ++ code ++ quoted
  | .oddLength => "encoding/hex: odd length hex string"

/-- `hex.DecodeString` on the bytes of the text: the first byte that is no digit is reported, before
an odd length is. -/
def decode : List UInt8 → Except DecodeError (List UInt8)
  | [] => .ok []
  | [p] =>
    match fromDigit p with
    | some _ => .error .oddLength
    | none => .error (.invalidByte p)
  | p :: q :: rest =>
    match fromDigit p, fromDigit q with
    | some a, some b => (decode rest).map (UInt8.ofNat (a * 16 + b) :: ·)
    | none, _ => .error (.invalidByte p)
    | some _, none => .error (.invalidByte q)

theorem fromDigit_digit {n : Nat} (h : n < 16) : fromDigit (digit n) = some n := by
  have hall : ∀ i : Fin 16, fromDigit (digit i) = some i.val := by decide
  exact hall ⟨n, h⟩

/-- **Reading undoes writing.** -/
theorem decode_encode (bz : List UInt8) : decode (encode bz) = .ok bz := by
  induction bz with
  | nil => rfl
  | cons b rest ih =>
      have hb : b.toNat < 256 := b.toNat_lt
      show decode (digit (b.toNat / 16) :: digit (b.toNat % 16) :: encode rest) = _
      rw [decode, fromDigit_digit (by omega), fromDigit_digit (by omega), ih]
      show Except.ok (UInt8.ofNat (b.toNat / 16 * 16 + b.toNat % 16) :: rest) = _
      rw [Nat.div_add_mod', UInt8.ofNat_toNat]

end Hex
