import Mathlib.Data.Int.Log
import Mathlib.Data.Rat.Floor

set_option autoImplicit false

namespace WebTsToolkit.Js

/-- `Number.MAX_SAFE_INTEGER`. -/
def maxSafeInteger : Int := 2 ^ 53 - 1

/-- `Number.isSafeInteger` of an integer. Sums of safe integers are exact or not safe. -/
def isSafeInteger (value : Int) : Bool :=
  -maxSafeInteger ≤ value && value ≤ maxSafeInteger

theorem isSafeInteger_iff (value : Int) :
    isSafeInteger value = true ↔ -(2 ^ 53 - 1) ≤ value ∧ value ≤ 2 ^ 53 - 1 := by
  rw [isSafeInteger, Bool.and_eq_true, decide_eq_true_iff, decide_eq_true_iff]
  rfl

/-- A number of JavaScript, a finite one by its exact value. -/
inductive Number where
  | finite (value : ℚ)
  | infinite (negative : Bool)
  | nan
  deriving DecidableEq

/-- Half-way cases go to the even neighbour. -/
def roundHalfEven (value : ℚ) : Int :=
  let down := Int.floor value
  let rest := value - down
  if rest < 1 / 2 then down
  else if 1 / 2 < rest then down + 1
  else if down % 2 = 0 then down
  else down + 1

/-- A double keeps 53 significant bits. -/
def roundToDouble (value : ℚ) : ℚ :=
  if value = 0 then 0
  else
    let unit := (2 : ℚ) ^ (Int.log 2 (abs value) - 52)
    roundHalfEven (value / unit) * unit

/-- The difference of two finite numbers. -/
def subtract (left right : ℚ) : ℚ :=
  roundToDouble (left - right)

namespace Number

/-- `left <= right`, which is false where one of them is NaN. -/
def le : Number → Number → Bool
  | .finite left, .finite right => left ≤ right
  | .infinite left, .infinite right => left || !right
  | .infinite left, .finite _ => left
  | .finite _, .infinite right => !right
  | _, _ => false

/-- `Number.isFinite(value)`. -/
def isFinite : Number → Bool
  | .finite _ => true
  | _ => false

theorem le_trans {first second third : Number} (lower : first.le second = true)
    (upper : second.le third = true) : first.le third = true := by
  cases first <;> cases second <;> cases third <;>
    simp only [le, decide_eq_true_eq, Bool.or_eq_true, Bool.not_eq_eq_eq_not, Bool.not_true,
      Bool.false_eq_true] at lower upper ⊢ <;> grind

/-- A number above another one is not NaN. -/
theorem le_refl_of_le {first second : Number} (lower : first.le second = true) :
    second.le second = true := by
  cases first <;> cases second <;> simp_all [le]

/-- `Math.max(left, right)`. -/
def max : Number → Number → Number
  | .nan, _ | _, .nan => .nan
  | left, right => if left.le right then right else left

/-- `Math.min(left, right)`. -/
def min : Number → Number → Number
  | .nan, _ | _, .nan => .nan
  | left, right => if left.le right then left else right

/-- The length that an array-like object of this `length` has, `none` where no array is that
long. -/
def toLength : Number → Option Nat
  | .finite value => some (Int.floor value).toNat
  | .infinite negative => if negative then some 0 else none
  | .nan => some 0

/-- The value of a number that passes `Number.isSafeInteger`. -/
def safeInteger : Number → Option Int
  | .finite value => if value.den = 1 && isSafeInteger value.num then some value.num else none
  | _ => none

end Number

end WebTsToolkit.Js
