import Mathlib.Data.List.TakeWhile
import WebTsToolkit.Js.Double
import WebTsToolkit.Js.JsonText

set_option autoImplicit false

/- Decimal texts, as sequences of UTF-16 code units, and their numbers. -/
namespace WebTsToolkit.Js.Decimal

open JsonText (CodeUnits code)

/-- `[0-9]`. -/
def isDigit (unit : Nat) : Bool :=
  code '0' ≤ unit && unit ≤ code '9'

/-- `/^[0-9]+$/.test(text)`. -/
def isDigits (text : CodeUnits) : Bool :=
  !text.isEmpty && text.all isDigit

/-- Without a mark in front, where it has it. -/
def dropMark (mark : Nat) : CodeUnits → CodeUnits
  | [] => []
  | unit :: rest => if unit = mark then rest else unit :: rest

def digitsValue (digits : CodeUnits) : Nat :=
  digits.foldl (fun value unit => value * 10 + (unit - code '0')) 0

/-- The exponent that `e`, a sign and digits spell. -/
def exponentValue (text : CodeUnits) : Int :=
  match text with
  | [] => 0
  | _ :: signed =>
    if signed.head? = some (code '-') then -(digitsValue signed.tail : Int)
    else digitsValue (dropMark (code '+') signed)

/-- The mathematical value of a text with an optional minus, digits with an optional fraction and
an optional exponent. -/
def decimalValue (text : CodeUnits) : ℚ :=
  let unsigned := dropMark (code '-') text
  let integer := unsigned.takeWhile isDigit
  let rest := unsigned.dropWhile isDigit
  let dotted := rest.head? = some (code '.')
  let fraction := if dotted then rest.tail.takeWhile isDigit else []
  let exponent := exponentValue (if dotted then rest.tail.dropWhile isDigit else rest)
  (if text.head? = some (code '-') then -1 else 1) * digitsValue (integer ++ fraction) *
    (10 : ℚ) ^ (exponent - fraction.length)

/-- The finite double nearest to a value, if the nearest one is not 2^1024 or its negation. -/
def nearestDouble (value : ℚ) : Option ℚ :=
  if value = 0 then some 0
  else
    let unit := (2 : ℚ) ^ max (Int.log 2 (abs value) - 52) (-1074)
    let rounded := roundHalfEven (value / unit) * unit
    if abs rounded < 2 ^ 1024 then some rounded else none

/-- `Number(text)` of a decimal text. -/
def number (text : CodeUnits) : Number :=
  match nearestDouble (decimalValue text) with
  | some value => .finite value
  | none => .infinite (text.head? = some (code '-'))

/-- `0 < value`. -/
def positive : Number → Bool
  | .finite value => 0 < value
  | .infinite negative => !negative
  | .nan => false

variable {text : CodeUnits}

theorem dropMark_of_ne {mark : Nat} (other : text.head? ≠ some mark) :
    dropMark mark text = text := by
  cases text with
  | nil => rfl
  | cons unit rest =>
    rw [dropMark, if_neg]
    rintro rfl
    exact other rfl

theorem isDigits_iff (text : CodeUnits) :
    isDigits text = true ↔ text ≠ [] ∧ ∀ unit ∈ text, isDigit unit = true := by
  simp [isDigits]

theorem head_ne_of_isDigits (digits : isDigits text = true) {mark : Nat}
    (other : isDigit mark = false) : text.head? ≠ some mark := by
  intro same
  have member := List.mem_of_head? same
  have digit := ((isDigits_iff text).mp digits).2 mark member
  rw [other] at digit
  contradiction

/-- Digits spell an integer. -/
theorem decimalValue_digits (digits : isDigits text = true) :
    decimalValue text = digitsValue text := by
  have minus : text.head? ≠ some (code '-') := head_ne_of_isDigits digits (by decide)
  have all := ((isDigits_iff text).mp digits).2
  have taken : text.takeWhile isDigit = text := List.takeWhile_eq_self_iff.mpr all
  have dropped : text.dropWhile isDigit = [] := List.dropWhile_eq_nil_iff.mpr all
  rw [decimalValue, dropMark_of_ne minus, taken, dropped, if_neg minus]
  simp [exponentValue]

theorem roundHalfEven_pos {value : ℚ} (above : 1 ≤ value) : 1 ≤ roundHalfEven value := by
  have down : 1 ≤ Int.floor value := Int.le_floor.mpr (by exact_mod_cast above)
  unfold roundHalfEven
  dsimp only
  split_ifs <;> omega

/-- A positive integer does not round to zero. -/
theorem nearestDouble_pos {count : Nat} (nonzero : count ≠ 0) {value : ℚ}
    (near : nearestDouble count = some value) : 0 < value := by
  have large : (1 : ℚ) ≤ count := by exact_mod_cast Nat.one_le_iff_ne_zero.mpr nonzero
  have above : (0 : ℚ) < count := by linarith
  rw [nearestDouble, if_neg (ne_of_gt above)] at near
  simp only [Option.ite_none_right_eq_some, Option.some.injEq] at near
  rw [← near.2, abs_of_pos above]
  have unitPositive : (0 : ℚ) < (2 : ℚ) ^ max (Int.log 2 (count : ℚ) - 52) (-1074) :=
    zpow_pos (by norm_num) _
  have unitBelow : (2 : ℚ) ^ max (Int.log 2 (count : ℚ) - 52) (-1074) ≤ count := by
    rcases max_choice (Int.log 2 (count : ℚ) - 52) (-1074 : ℤ) with same | same
    · rw [same]
      calc (2 : ℚ) ^ (Int.log 2 (count : ℚ) - 52) ≤ (2 : ℚ) ^ Int.log 2 (count : ℚ) :=
            zpow_le_zpow_right₀ (by norm_num) (by omega)
        _ ≤ count := Int.zpow_log_le_self (by norm_num) above
    · rw [same]
      calc (2 : ℚ) ^ (-1074 : ℤ) ≤ (2 : ℚ) ^ (0 : ℤ) :=
            zpow_le_zpow_right₀ (by norm_num) (by omega)
        _ = 1 := zpow_zero _
        _ ≤ count := large
  have quotient : 1 ≤ (count : ℚ) / (2 : ℚ) ^ max (Int.log 2 (count : ℚ) - 52) (-1074) :=
    (one_le_div unitPositive).mpr unitBelow
  have rounded := roundHalfEven_pos quotient
  have cast : (0 : ℚ) < roundHalfEven
      ((count : ℚ) / (2 : ℚ) ^ max (Int.log 2 (count : ℚ) - 52) (-1074)) := by
    exact_mod_cast rounded
  exact mul_pos cast unitPositive

/-- The number of digits is positive unless they spell zero. -/
theorem positive_number_digits (digits : isDigits text = true) :
    positive (number text) = true ↔ digitsValue text ≠ 0 := by
  have minus : text.head? ≠ some (code '-') := head_ne_of_isDigits digits (by decide)
  rw [number, decimalValue_digits digits]
  by_cases zero : digitsValue text = 0
  · simp [zero, nearestDouble, positive]
  · cases near : nearestDouble (digitsValue text : ℚ) with
    | none => simp [positive, minus, zero]
    | some value => simp [positive, zero, nearestDouble_pos zero near]

theorem roundHalfEven_intCast (value : Int) : roundHalfEven value = value := by
  unfold roundHalfEven
  simp

/-- A safe integer is a double. -/
theorem nearestDouble_safe {count : Nat} (safe : count < 2 ^ 53) :
    nearestDouble count = some (count : ℚ) := by
  by_cases zero : count = 0
  · subst zero
    simp [nearestDouble]
  · have above : (0 : ℚ) < count := by exact_mod_cast Nat.pos_of_ne_zero zero
    have low : 0 ≤ Int.log 2 (count : ℚ) := by
      rw [Int.log_natCast]
      exact Int.natCast_nonneg _
    have high : Int.log 2 (count : ℚ) < 53 := by
      rw [Int.log_natCast]
      exact_mod_cast Nat.log_lt_of_lt_pow zero safe
    have exponent : max (Int.log 2 (count : ℚ) - 52) (-1074) =
        -((52 - Int.log 2 (count : ℚ)).toNat : Int) := by
      omega
    generalize (52 - Int.log 2 (count : ℚ)).toNat = places at exponent
    have positive : (0 : ℚ) < 2 ^ places := pow_pos (by norm_num) _
    have whole : (count : ℚ) / (2 : ℚ) ^ (-(places : Int)) = ((count * 2 ^ places : Int) : ℚ) := by
      rw [zpow_neg, zpow_natCast, div_inv_eq_mul]
      push_cast
      rfl
    have back : (((count * 2 ^ places : Int) : Int) : ℚ) * (2 : ℚ) ^ (-(places : Int)) = count := by
      rw [zpow_neg, zpow_natCast]
      push_cast
      field_simp
    have finite : abs (count : ℚ) < 2 ^ 1024 := by
      rw [abs_of_pos above]
      calc (count : ℚ) < 2 ^ 53 := by exact_mod_cast safe
        _ < 2 ^ 1024 := pow_lt_pow_right₀ (by norm_num) (by norm_num)
    rw [nearestDouble, if_neg (ne_of_gt above), abs_of_pos above]
    simp only [exponent, whole, roundHalfEven_intCast, back]
    rw [if_pos finite]

/-- Digits of a safe integer are its text. -/
theorem number_digits (digits : isDigits text = true) (safe : digitsValue text < 2 ^ 53) :
    number text = .finite (digitsValue text) := by
  rw [number, decimalValue_digits digits, nearestDouble_safe safe]

end WebTsToolkit.Js.Decimal
