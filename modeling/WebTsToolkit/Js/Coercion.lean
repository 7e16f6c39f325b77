import WebTsToolkit.Js.Decimal

set_option autoImplicit false

/- Numbers as texts and texts as numbers, as the operators of the language convert them. -/
namespace WebTsToolkit.Js.Coercion

open JsonText (CodeUnits code literalUnits)
open Decimal (isDigit isDigits dropMark)

/-- `left < right`, which is false where one of them is NaN. -/
def lessThan (left right : Number) : Bool :=
  left.le right && !right.le left

theorem lessThan_irrefl (value : Number) : lessThan value value = false := by
  simp [lessThan]

theorem lessThan_asymm {left right : Number} (less : lessThan left right = true) :
    lessThan right left = false := by
  simp only [lessThan, Bool.and_eq_true, Bool.not_eq_true'] at less
  simp [lessThan, less.2]

theorem lessThan_trans {first second third : Number} (lower : lessThan first second = true)
    (upper : lessThan second third = true) : lessThan first third = true := by
  simp only [lessThan, Bool.and_eq_true, Bool.not_eq_true'] at lower upper ⊢
  refine ⟨Number.le_trans lower.1 upper.1, ?_⟩
  rw [← Bool.not_eq_true]
  intro back
  have around := Number.le_trans back lower.1
  rw [upper.2] at around
  contradiction

/-- A white space or a line terminator. -/
def isWhiteSpace (unit : Nat) : Bool :=
  (9 ≤ unit && unit ≤ 13) || unit = 0x20 || unit = 0xA0 || unit = 0x1680 ||
    (0x2000 ≤ unit && unit ≤ 0x200A) || unit = 0x2028 || unit = 0x2029 || unit = 0x202F ||
      unit = 0x205F || unit = 0x3000 || unit = 0xFEFF

def trim (text : CodeUnits) : CodeUnits :=
  ((text.dropWhile isWhiteSpace).reverse.dropWhile isWhiteSpace).reverse

/-- Without its sign, where it has one. -/
def unsigned (text : CodeUnits) : CodeUnits :=
  if text.head? = some (code '-') || text.head? = some (code '+') then text.tail else text

/-- Nothing, or an `e`, a sign or none, and digits. -/
def isExponent : CodeUnits → Bool
  | [] => true
  | mark :: rest => (mark = code 'e' || mark = code 'E') && isDigits (unsigned rest)

/-- Digits with an optional fraction and an optional exponent, at least one of them in front of the
exponent. -/
def isUnsignedDecimal (text : CodeUnits) : Bool :=
  let integer := text.takeWhile isDigit
  let rest := text.dropWhile isDigit
  let dotted := rest.head? = some (code '.')
  let fraction := if dotted then rest.tail.takeWhile isDigit else []
  !(integer ++ fraction).isEmpty &&
    isExponent (if dotted then rest.tail.dropWhile isDigit else rest)

/-- A digit of a radix up to 16. -/
def radixDigit (radix unit : Nat) : Option Nat :=
  let value :=
    if code '0' ≤ unit && unit ≤ code '9' then unit - code '0'
    else if code 'a' ≤ unit && unit ≤ code 'f' then unit - code 'a' + 10
    else if code 'A' ≤ unit && unit ≤ code 'F' then unit - code 'A' + 10
    else radix
  if value < radix then some value else none

def radixInteger (radix : Nat) (digits : CodeUnits) : Option Nat :=
  if digits.isEmpty then none
  else digits.foldlM (fun value unit => (radixDigit radix unit).map (value * radix + ·)) 0

/-- The number of a text such as `0x1F`, `0o17` or `0b11`. -/
def radixNumber (radix : Nat) (digits : CodeUnits) : Number :=
  match radixInteger radix digits with
  | none => .nan
  | some value =>
    match Decimal.nearestDouble value with
    | some double => .finite double
    | none => .infinite false

/-- `StringToNumber(text)`. -/
def stringToNumber (text : CodeUnits) : Number :=
  match trim text with
  | [] => .finite 0
  | 0x30 :: 0x78 :: digits | 0x30 :: 0x58 :: digits => radixNumber 16 digits
  | 0x30 :: 0x6F :: digits | 0x30 :: 0x4F :: digits => radixNumber 8 digits
  | 0x30 :: 0x62 :: digits | 0x30 :: 0x42 :: digits => radixNumber 2 digits
  | trimmed =>
    if unsigned trimmed = literalUnits "Infinity" then
      .infinite (trimmed.head? = some (code '-'))
    else if isUnsignedDecimal (unsigned trimmed) then
      Decimal.number (dropMark (code '+') trimmed)
    else .nan

/-- The fewest digits that spell a positive double, nearest to it, with the power of ten that they
are multiplied by. -/
def shortest (value : ℚ) : Nat × Int :=
  let digits := fun count : Nat =>
    let power := Int.log 10 value + 1 - count
    let scaled := value / (10 : ℚ) ^ power
    let spells := fun digits : Int => Decimal.nearestDouble (digits * (10 : ℚ) ^ power) = some value
    ([roundHalfEven scaled, Int.floor scaled, Int.ceil scaled].find? spells).map
      fun digits => (digits.toNat, power)
  match (List.range' 1 17).findSome? digits with
  | some (10, power) => (1, power + 1)
  | some found => found
  | none => (0, 0)

def decimalDigits (value : Nat) : CodeUnits :=
  (Nat.toDigits 10 value).map code

/-- `Number::toString` of a positive number that `digits` spell, times this power of ten. -/
def layout (digits : CodeUnits) (power : Int) : CodeUnits :=
  let count := digits.length
  let point := power + count
  if count ≤ point && point ≤ 21 then digits ++ List.replicate (point - count).toNat (code '0')
  else if 0 < point && point ≤ 21 then
    digits.take point.toNat ++ code '.' :: digits.drop point.toNat
  else if -6 < point && point ≤ 0 then
    literalUnits "0." ++ List.replicate (-point).toNat (code '0') ++ digits
  else
    digits.take 1 ++ (if count = 1 then [] else code '.' :: digits.drop 1) ++ code 'e' ::
      (if point - 1 < 0 then code '-' else code '+') :: decimalDigits (point - 1).natAbs

def positiveToString (value : ℚ) : CodeUnits :=
  let (digits, power) := shortest value
  layout (decimalDigits digits) power

/-- `Number::toString(value, 10)`. -/
def numberToString : Number → CodeUnits
  | .nan => literalUnits "NaN"
  | .infinite negative => (if negative then [code '-'] else []) ++ literalUnits "Infinity"
  | .finite value =>
    if value = 0 then [code '0']
    else if value < 0 then code '-' :: positiveToString (-value)
    else positiveToString value

end WebTsToolkit.Js.Coercion
