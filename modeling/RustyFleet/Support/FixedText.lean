import Mathlib.Algebra.Ring.Nat
import Mathlib.Tactic.Common

/-! Records of decimal numbers written in columns of fixed width, and the order of their texts. -/

namespace FixedText

def digits : Nat → Nat → List Char
  | 0, _ => []
  | width + 1, value => digits width (value / 10) ++ [Nat.digitChar (value % 10)]

def digitsValue (text : List Char) : Nat := text.foldl (fun total c => 10 * total + (c.toNat - 48)) 0

/-- The columns of a record: the width of each number and the text behind it. -/
abbrev Layout := List (Nat × List Char)

def render : Layout → List Nat → List Char
  | (width, mark) :: layout, value :: values => digits width value ++ (mark ++ render layout values)
  | _, _ => []

def read : Layout → List Char → Option (List Nat)
  | [], [] => some []
  | [], _ :: _ => none
  | (width, mark) :: layout, text =>
    if (text.take width).all Char.isDigit ∧ (text.drop width).take mark.length = mark then
      (read layout (text.drop (width + mark.length))).map (digitsValue (text.take width) :: ·)
    else none

/-- Every number fits its column. -/
inductive Fits : Layout → List Nat → Prop
  | nil : Fits [] []
  | cons {width : Nat} {mark : List Char} {layout : Layout} {value : Nat} {values : List Nat}
      (bounded : value < 10 ^ width) (rest : Fits layout values) :
      Fits ((width, mark) :: layout) (value :: values)

theorem digits_length (width value : Nat) : (digits width value).length = width := by
  induction width generalizing value with
  | zero => rfl
  | succ width ih => rw [digits, List.length_append, ih, List.length_singleton]

theorem digits_isDigit (width value : Nat) : (digits width value).all Char.isDigit = true := by
  induction width generalizing value with
  | zero => rfl
  | succ width ih =>
    have last : (Nat.digitChar (value % 10)).isDigit = true := by
      rw [Nat.isDigit_digitChar, decide_eq_true_eq]
      omega
    rw [digits, List.all_append, ih, List.all_cons, last, List.all_nil]
    rfl

theorem digits_value (width value : Nat) (bounded : value < 10 ^ width) :
    digitsValue (digits width value) = value := by
  induction width generalizing value with
  | zero =>
    rw [Nat.pow_zero] at bounded
    exact (Nat.lt_one_iff.mp bounded).symm
  | succ width ih =>
    have tenth : value / 10 < 10 ^ width := by
      rw [Nat.pow_succ] at bounded
      omega
    have most : List.foldl (fun total c => 10 * total + (c.toNat - 48)) 0 (digits width (value / 10)) =
        value / 10 := ih (value / 10) tenth
    rw [digitsValue, digits, List.foldl_append, List.foldl_cons, List.foldl_nil, most,
      Nat.toNat_digitChar_sub_48_of_lt_ten (by omega)]
    omega

theorem digits_zero (width : Nat) : digits width 0 = List.replicate width '0' := by
  induction width with
  | zero => rfl
  | succ width ih => rw [digits, Nat.zero_div, ih, Nat.zero_mod, List.replicate_succ']; rfl

theorem padded_eq_digits (width value : Nat) (bounded : value < 10 ^ (width + 1)) :
    List.replicate (width + 1 - (Nat.toDigits 10 value).length) '0' ++ Nat.toDigits 10 value =
      digits (width + 1) value := by
  induction width generalizing value with
  | zero =>
    have small : value < 10 := bounded
    rw [Nat.toDigits_of_lt_base small, digits, Nat.mod_eq_of_lt small]
    rfl
  | succ width ih =>
    rw [digits]
    by_cases small : value < 10
    · rw [Nat.toDigits_of_lt_base small, Nat.mod_eq_of_lt small, Nat.div_eq_of_lt small, digits_zero]
      rfl
    · have tenth : value / 10 < 10 ^ (width + 1) := by
        rw [Nat.pow_succ] at bounded
        omega
      rw [Nat.toDigits_of_base_le (by decide) (Nat.le_of_not_lt small), List.length_append,
        List.length_singleton, Nat.add_sub_add_right, ← List.append_assoc, ih (value / 10) tenth]

theorem append_lt {first later : List Char} (sameLength : first.length = later.length)
    (order : first < later) (rest restLater : List Char) : first ++ rest < later ++ restLater := by
  induction first generalizing later with
  | nil =>
    cases later with
    | nil => exact absurd order (List.not_lt_nil [])
    | cons c later => cases sameLength
  | cons c first ih =>
    cases later with
    | nil => cases sameLength
    | cons d later =>
      rw [List.cons_append, List.cons_append, List.cons_lt_cons_iff]
      rcases List.cons_lt_cons_iff.mp order with smaller | ⟨rfl, tail⟩
      · exact .inl smaller
      · exact .inr ⟨rfl, ih (Nat.succ.inj sameLength) tail⟩

theorem digitChar_lt {first later : Nat} (order : first < later) (bounded : later < 10) :
    Nat.digitChar first < Nat.digitChar later := by
  have smaller := Nat.toNat_digitChar_of_lt_ten (Nat.lt_trans order bounded)
  have larger := Nat.toNat_digitChar_of_lt_ten bounded
  rw [Char.lt_def, UInt32.lt_iff_toNat_lt]
  change (Nat.digitChar first).toNat < (Nat.digitChar later).toNat
  omega

theorem digits_lt (width : Nat) {first later : Nat} (order : first < later) (bounded : later < 10 ^ width) :
    digits width first < digits width later := by
  induction width generalizing first later with
  | zero =>
    rw [Nat.pow_zero] at bounded
    omega
  | succ width ih =>
    rw [digits, digits]
    have tenth : later / 10 < 10 ^ width := by
      rw [Nat.pow_succ] at bounded
      omega
    by_cases smaller : first / 10 < later / 10
    · have sameLength : (digits width (first / 10)).length = (digits width (later / 10)).length := by
        rw [digits_length, digits_length]
      exact append_lt sameLength (ih smaller tenth) _ _
    · have same : first / 10 = later / 10 := by omega
      have last : first % 10 < later % 10 := by omega
      rw [same]
      apply List.append_left_lt
      exact List.cons_lt_cons_iff.mpr (.inl (digitChar_lt last (by omega)))

theorem read_render (layout : Layout) (values : List Nat) (fits : Fits layout values) :
    read layout (render layout values) = some values := by
  induction fits with
  | nil => rfl
  | @cons width mark layout value values bounded rest ih =>
    have column : (render ((width, mark) :: layout) (value :: values)).take width = digits width value := by
      rw [render, List.take_append_of_le_length (Nat.le_of_eq (digits_length width value).symm),
        List.take_of_length_le (Nat.le_of_eq (digits_length width value))]
    have behind : (render ((width, mark) :: layout) (value :: values)).drop width =
        mark ++ render layout values := by
      rw [render, List.drop_append_of_le_length (Nat.le_of_eq (digits_length width value).symm),
        List.drop_of_length_le (Nat.le_of_eq (digits_length width value)), List.nil_append]
    have marked : ((render ((width, mark) :: layout) (value :: values)).drop width).take mark.length = mark := by
      rw [behind, List.take_append_of_le_length (Nat.le_refl _), List.take_length]
    have remaining : (render ((width, mark) :: layout) (value :: values)).drop (width + mark.length) =
        render layout values := by
      rw [← List.drop_drop, behind, List.drop_append_of_le_length (Nat.le_refl _), List.drop_length,
        List.nil_append]
    rw [read, if_pos ⟨column ▸ digits_isDigit width value, marked⟩, remaining, ih, column,
      digits_value width value bounded]
    rfl

theorem render_lt (layout : Layout) {first later : List Nat} (fits : Fits layout first)
    (fitsLater : Fits layout later) (order : first < later) : render layout first < render layout later := by
  induction fits generalizing later with
  | nil =>
    cases fitsLater
    exact absurd order (List.not_lt_nil [])
  | @cons width mark layout value values bounded rest ih =>
    cases fitsLater with
    | @cons _ _ _ next nexts boundedLater restLater =>
      rw [render, render]
      rcases List.cons_lt_cons_iff.mp order with smaller | ⟨rfl, tail⟩
      · have sameLength : (digits width value).length = (digits width next).length := by
          rw [digits_length, digits_length]
        exact append_lt sameLength (digits_lt width smaller boundedLater) _ _
      · exact List.append_left_lt (List.append_left_lt (ih restLater tail))

section Shortest

theorem repr_injective {first later : Nat} (same : first.repr = later.repr) : first = later := by
  have read : ∀ value : Nat, Nat.ofDigitChars 10 value.repr.toList 0 = value := by
    intro value
    rw [Nat.toList_repr]
    exact Nat.ofDigitChars_toDigits (by decide) (by decide)
  rw [← read first, same, read]

theorem repr_isDigit {value : Nat} {c : Char} (member : c ∈ value.repr.toList) : c.isDigit = true := by
  rw [Nat.toList_repr] at member
  exact Nat.isDigit_of_mem_toDigits (by decide) (by decide) member

theorem int_repr_chars {value : Int} {c : Char} (member : c ∈ value.repr.toList) :
    c = '-' ∨ c.isDigit = true := by
  rw [Int.repr_eq_if] at member
  split at member
  · exact .inr (repr_isDigit member)
  · rw [String.toList_append, List.mem_append] at member
    rcases member with sign | digit
    · exact .inl (List.mem_singleton.mp sign)
    · exact .inr (repr_isDigit digit)

theorem int_repr_injective {first later : Int} (same : first.repr = later.repr) : first = later := by
  have unsigned : ∀ value other : Nat, value.repr ≠ "-" ++ other.repr := by
    intro value other equal
    have sign : '-' ∈ value.repr.toList := by
      rw [equal, String.toList_append]
      exact List.mem_append_left _ (List.mem_singleton.mpr rfl)
    exact absurd (repr_isDigit sign) (by decide)
  rw [Int.repr_eq_if, Int.repr_eq_if] at same
  split at same <;> split at same
  · have values := repr_injective same
    omega
  · exact absurd same (unsigned _ _)
  · exact absurd same.symm (unsigned _ _)
  · have values := repr_injective (String.append_right_inj _ |>.mp same)
    omega

end Shortest

end FixedText
