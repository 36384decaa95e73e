import Mathlib.Algebra.Ring.Int.Defs
import Mathlib.Algebra.Ring.Nat
import Mathlib.Tactic.Common
import RustyFleet.Support.OrderedMap

namespace RustyFleet

/-- A stable machine-readable validation failure. -/
structure ContractViolation where
  code : String
  path : String
  message : String
deriving DecidableEq, Repr

def violationIf (wrong : Prop) [Decidable wrong] (code path message : String) : List ContractViolation :=
  if wrong then [⟨code, path, message⟩] else []

@[simp] theorem violationIf_nil (wrong : Prop) [Decidable wrong] (code path message : String) :
    violationIf wrong code path message = [] ↔ ¬ wrong := by
  by_cases h : wrong <;> simp [violationIf, h]

def ContractViolation.within (scope : String) (failure : ContractViolation) : ContractViolation :=
  { failure with path := scope ++ failure.path }

def finish (failures : List ContractViolation) : Except (List ContractViolation) Unit :=
  if failures.isEmpty then .ok () else .error failures

/-- A contract lists what is wrong with a value; a valid value has nothing wrong with it. -/
class ValidateContract (α : Type) where
  violations : α → List ContractViolation

export ValidateContract (violations)

def validate {α : Type} [ValidateContract α] (value : α) : Except (List ContractViolation) Unit :=
  finish (violations value)

def isInvalid {α : Type} [ValidateContract α] (value : α) : Bool :=
  match validate value with
  | .ok _ => false
  | .error _ => true

def Valid {α : Type} [ValidateContract α] (value : α) : Prop := violations value = []

instance {α : Type} [ValidateContract α] (value : α) : Decidable (Valid value) :=
  inferInstanceAs (Decidable (violations value = []))

theorem validate_of_valid {α : Type} [ValidateContract α] {value : α} (valid : Valid value) :
    validate value = .ok () := by
  rw [Valid] at valid
  simp [validate, finish, valid]

theorem validate_of_not_valid {α : Type} [ValidateContract α] {value : α} (invalid : ¬ Valid value) :
    validate value = .error (violations value) := by
  rw [Valid] at invalid
  simp [validate, finish, invalid]

theorem validate_ok_iff {α : Type} [ValidateContract α] (value : α) :
    validate value = .ok () ↔ Valid value := by
  constructor
  · intro ok
    by_contra invalid
    rw [validate_of_not_valid invalid] at ok
    cases ok
  · exact validate_of_valid

theorem isInvalid_false_iff {α : Type} [ValidateContract α] (value : α) :
    isInvalid value = false ↔ Valid value := by
  by_cases valid : Valid value
  · simp [isInvalid, validate_of_valid valid, valid]
  · simp [isInvalid, validate_of_not_valid valid, valid]

/-- The characters Rust's `trim` removes: those with the Unicode `White_Space` property. -/
def isWhitespace (c : Char) : Bool :=
  let n := c.toNat
  (9 ≤ n && n ≤ 13) || n == 0x20 || n == 0x85 || n == 0xA0 || n == 0x1680 ||
    (0x2000 ≤ n && n ≤ 0x200A) || n == 0x2028 || n == 0x2029 || n == 0x202F || n == 0x205F || n == 0x3000

def trimmedEmpty (value : String) : Bool := value.toList.all isWhitespace

def nonempty (value : String) : Option String :=
  if trimmedEmpty value then none else some value

def requireNonempty (value path : String) : List ContractViolation :=
  violationIf (trimmedEmpty value = true) "required_text" path "value must not be empty"

@[simp] theorem requireNonempty_nil (value path : String) :
    requireNonempty value path = [] ↔ trimmedEmpty value = false := by
  simp [requireNonempty]

def asciiDigit (c : Char) : Bool := '0' ≤ c && c ≤ '9'

def asciiLowercase (c : Char) : Bool := 'a' ≤ c && c ≤ 'z'

def asciiUppercase (c : Char) : Bool := 'A' ≤ c && c ≤ 'Z'

def asciiAlphanumeric (c : Char) : Bool := asciiDigit c || asciiLowercase c || asciiUppercase c

/-- A JSON value is kept as its text: the modelled code only counts and copies it. -/
abbrev JsonValue := String

def u64Max : Nat := 2 ^ 64 - 1

/-- `saturating_add(1)` on a `u64` counter. -/
def saturatingSucc (counter : Nat) : Nat := min (counter + 1) u64Max

def i64Max : Int := 2 ^ 63 - 1

def i64Min : Int := -2 ^ 63

def saturateI64 (value : Int) : Int := max i64Min (min value i64Max)

end RustyFleet
