import Mathlib.Algebra.Ring.Nat
import Mathlib.Data.List.Induction
import Mathlib.Tactic.Common

/-! Decimal numbers written as ASCII bytes in a fixed number of places. -/

namespace DigitBytes

/-- `u8::is_ascii_digit`. -/
def isDigit (byte : UInt8) : Bool := 48 ≤ byte.toNat && byte.toNat ≤ 57

def digit (value : Nat) : UInt8 := UInt8.ofNat (48 + value % 10)

def write : Nat → Nat → List UInt8
  | 0, _ => []
  | places + 1, value => write places (value / 10) ++ [digit value]

def read (bytes : List UInt8) : Nat := bytes.foldl (fun total byte => total * 10 + (byte.toNat - 48)) 0

theorem digit_toNat (value : Nat) : (digit value).toNat = 48 + value % 10 := by
  rw [digit, UInt8.toNat_ofNat']
  omega

theorem digit_isDigit (value : Nat) : isDigit (digit value) = true := by
  unfold isDigit
  rw [digit_toNat]
  simp only [Bool.and_eq_true, decide_eq_true_eq]
  omega

theorem isDigit_bounds {byte : UInt8} (digit : isDigit byte = true) : 48 ≤ byte.toNat ∧ byte.toNat ≤ 57 := by
  unfold isDigit at digit
  simpa only [Bool.and_eq_true, decide_eq_true_eq] using digit

@[simp] theorem write_length (places value : Nat) : (write places value).length = places := by
  induction places generalizing value with
  | zero => rfl
  | succ places ih => rw [write, List.length_append, ih, List.length_singleton]

theorem write_digits (places value : Nat) : (write places value).all isDigit = true := by
  induction places generalizing value with
  | zero => rfl
  | succ places ih =>
    rw [write, List.all_append, ih, List.all_cons, digit_isDigit, List.all_nil]
    rfl

theorem read_snoc (bytes : List UInt8) (byte : UInt8) :
    read (bytes ++ [byte]) = read bytes * 10 + (byte.toNat - 48) := by
  rw [read, List.foldl_append]
  rfl

theorem read_append (front back : List UInt8) :
    read (front ++ back) = read front * 10 ^ back.length + read back := by
  induction back using List.reverseRecOn with
  | nil => simp [read]
  | append_singleton back byte ih =>
    rw [← List.append_assoc, read_snoc, ih, read_snoc, List.length_append, List.length_singleton, Nat.pow_succ,
      Nat.add_mul, Nat.mul_assoc, Nat.add_assoc]

theorem read_lt {bytes : List UInt8} (digits : bytes.all isDigit = true) : read bytes < 10 ^ bytes.length := by
  induction bytes using List.reverseRecOn with
  | nil => exact Nat.one_pos
  | append_singleton bytes byte ih =>
    rw [List.all_append, Bool.and_eq_true, List.all_cons, List.all_nil, Bool.and_true] at digits
    have bounds := isDigit_bounds digits.2
    have front := ih digits.1
    rw [read_snoc, List.length_append, List.length_singleton, Nat.pow_succ]
    omega

theorem read_write (places value : Nat) (bounded : value < 10 ^ places) :
    read (write places value) = value := by
  induction places generalizing value with
  | zero =>
    rw [Nat.pow_zero] at bounded
    exact (Nat.lt_one_iff.mp bounded).symm
  | succ places ih =>
    rw [Nat.pow_succ] at bounded
    rw [write, read_snoc, ih (value / 10) (by omega), digit_toNat]
    omega

theorem write_read {bytes : List UInt8} (digits : bytes.all isDigit = true) :
    write bytes.length (read bytes) = bytes := by
  induction bytes using List.reverseRecOn with
  | nil => rfl
  | append_singleton bytes byte ih =>
    rw [List.all_append, Bool.and_eq_true, List.all_cons, List.all_nil, Bool.and_true] at digits
    have bounds := isDigit_bounds digits.2
    have tens : (read bytes * 10 + (byte.toNat - 48)) / 10 = read bytes := by omega
    have last : digit (read bytes * 10 + (byte.toNat - 48)) = byte := by
      apply UInt8.toNat_inj.mp
      rw [digit_toNat]
      omega
    rw [List.length_append, List.length_singleton, read_snoc, write, tens, ih digits.1, last]

theorem write_eq_iff {bytes : List UInt8} {value : Nat} :
    write bytes.length value = bytes ∧ value < 10 ^ bytes.length ↔
      bytes.all isDigit = true ∧ value = read bytes := by
  constructor
  · rintro ⟨written, bounded⟩
    refine ⟨written ▸ write_digits _ _, ?_⟩
    rw [← read_write _ value bounded, written]
  · rintro ⟨digits, rfl⟩
    exact ⟨write_read digits, read_lt digits⟩

end DigitBytes
