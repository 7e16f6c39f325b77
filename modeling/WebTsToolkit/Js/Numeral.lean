import WebTsToolkit.Js.Text

set_option autoImplicit false

namespace WebTsToolkit.Js

/-- `Number.isFinite` of a number with this text. -/
def isFiniteText (text : String) : Bool :=
  text != "NaN" && text != "Infinity" && text != "-Infinity"

/-- The integer that a text without an exponent spells. -/
def plainInteger (text : String) : Option Int :=
  match text.toList with
  | '-' :: digits => (arrayIndex (String.ofList digits)).map fun magnitude : Nat => -(magnitude : Int)
  | _ => (arrayIndex text).map fun magnitude : Nat => (magnitude : Int)

/-- The digits of a text such as `1.5e+300`, which numbers from 1e21 on have, and the number
of zeros after them. -/
def exponentDigits (text : List Char) : Option (List Char × Nat) :=
  match text.splitOn 'e' with
  | [mantissa, '+' :: exponent] =>
    let digits := mantissa.filter (· != '.')
    let fraction := ((mantissa.splitOn '.').drop 1).flatten
    if digits.all isDigit && exponent.all isDigit && fraction.length ≤ digitsValue exponent then
      some (digits, digitsValue exponent - fraction.length)
    else none
  | _ => none

/-- The integer that the text of a number spells. -/
def integerValue (text : String) : Option Int :=
  match plainInteger text with
  | some value => some value
  | none =>
    let negative := startsWith text "-"
    (exponentDigits (text.toList.drop (if negative then 1 else 0))).map fun (digits, zeros) =>
      (if negative then -1 else 1) * ((digitsValue digits * 10 ^ zeros : Nat) : Int)

/-- `Number.isInteger`. -/
def isIntegerText (text : String) : Bool :=
  (integerValue text).isSome

/-- `String` of a number with this text: negative zero loses its sign. -/
def unsignedZero (text : String) : String :=
  if text = "-0" then "0" else text

/-- An integer other than negative zero is written as it was. -/
theorem repr_of_plainInteger {text : String} {value : Int} (spelled : plainInteger text = some value)
    (signed : text ≠ "-0") : value.repr = text := by
  rw [plainInteger] at spelled
  split at spelled
  · next digits same =>
    obtain ⟨magnitude, found, negated⟩ := Option.map_eq_some_iff.mp spelled
    have written := repr_of_arrayIndex found
    subst negated
    have positive : magnitude ≠ 0 := by
      intro zero
      apply signed
      apply String.toList_inj.mp
      rw [same]
      have zeroText : String.ofList digits = "0" := by
        rw [← written, zero]
        rfl
      rw [← String.toList_ofList (l := digits), zeroText]
      rfl
    obtain ⟨before, rfl⟩ := Nat.exists_eq_succ_of_ne_zero positive
    apply String.toList_inj.mp
    show (Int.repr (Int.negSucc before)).toList = text.toList
    have pieces : Int.repr (Int.negSucc before) = "-" ++ Nat.repr (before + 1) := rfl
    rw [pieces, String.toList_append, written, String.toList_ofList (l := digits), same]
    rfl
  · obtain ⟨magnitude, found, same⟩ := Option.map_eq_some_iff.mp spelled
    subst same
    exact repr_of_arrayIndex found

example : integerValue "-12" = some (-12) ∧ integerValue "1.5" = none ∧
    integerValue "1.5e+22" = some 15000000000000000000000 := by decide

/-- A number with at least `width` decimal digits. -/
def paddedDigits (width value : Nat) : String :=
  String.ofList (List.replicate (width - value.repr.length) '0') ++ value.repr

/-- Year, month and day of a day number, which counts from the first of January 1970 in the
proleptic Gregorian calendar. Years are counted from March, in eras of 400. -/
def civilOfDays (days : Int) : Int × Nat × Nat :=
  let shifted := days + 719468
  let era := shifted / 146097
  let dayOfEra := (shifted % 146097).toNat
  let yearOfEra := (dayOfEra - dayOfEra / 1460 + dayOfEra / 36524 - dayOfEra / 146096) / 365
  let dayOfYear := dayOfEra - (365 * yearOfEra + yearOfEra / 4 - yearOfEra / 100)
  let shiftedMonth := (5 * dayOfYear + 2) / 153
  let day := dayOfYear - (153 * shiftedMonth + 2) / 5 + 1
  let month := if shiftedMonth < 10 then shiftedMonth + 3 else shiftedMonth - 9
  (yearOfEra + era * 400 + (if month ≤ 2 then 1 else 0), month, day)

/-- Years outside 0 to 9999 have a sign and six digits. -/
def isoYear (year : Int) : String :=
  if 0 ≤ year ∧ year ≤ 9999 then paddedDigits 4 year.toNat
  else (if year < 0 then "-" else "+") ++ paddedDigits 6 year.natAbs

/-- `Date.prototype.toISOString` of a time in milliseconds. -/
def toISOString (time : Int) : String :=
  let civil := civilOfDays (time / 86400000)
  let clock := (time % 86400000).toNat
  isoYear civil.1 ++ "-" ++ paddedDigits 2 civil.2.1 ++ "-" ++ paddedDigits 2 civil.2.2 ++ "T" ++
    paddedDigits 2 (clock / 3600000) ++ ":" ++ paddedDigits 2 (clock / 60000 % 60) ++ ":" ++
    paddedDigits 2 (clock / 1000 % 60) ++ "." ++ paddedDigits 3 (clock % 1000) ++ "Z"

example : toISOString 1709210096789 = "2024-02-29T12:34:56.789Z" ∧
    toISOString (-62198755200000) = "-000001-01-01T00:00:00.000Z" := by decide

end WebTsToolkit.Js
