import Mathlib.Tactic.Common

/-! Bytes written as pairs of lowercase hexadecimal digits. -/

namespace HexText

def hexByte (byte : UInt8) : List Char :=
  [Nat.digitChar (byte.toNat / 16), Nat.digitChar (byte.toNat % 16)]

def encode (bytes : List UInt8) : String := String.ofList (bytes.flatMap hexByte)

theorem hexByte_injective {left right : UInt8} (same : hexByte left = hexByte right) : left = right := by
  have digits : ∀ a < 16, ∀ b < 16, Nat.digitChar a = Nat.digitChar b → a = b := by decide
  have leftBound := left.toNat_lt
  have rightBound := right.toNat_lt
  simp only [hexByte, List.cons.injEq, and_true] at same
  have high := digits (left.toNat / 16) (by omega) (right.toNat / 16) (by omega) same.1
  have low := digits (left.toNat % 16) (by omega) (right.toNat % 16) (by omega) same.2
  apply UInt8.toNat_inj.mp
  omega

theorem encode_injective : Function.Injective encode := by
  intro left right same
  have digits := String.ofList_inj.mp same
  clear same
  induction left generalizing right with
  | nil =>
    cases right with
    | nil => rfl
    | cons byte bytes => cases digits
  | cons byte bytes ih =>
    cases right with
    | nil => cases digits
    | cons other others =>
      have parts := List.append_inj digits rfl
      rw [hexByte_injective parts.1, ih parts.2]

end HexText
