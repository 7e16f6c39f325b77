import WebTsToolkit.AssetInliner.Srcset
import WebTsToolkit.Js.Decimal

set_option autoImplicit false

namespace WebTsToolkit.AssetInliner

open Js
open Js.Decimal (isDigit)
open Js.JsonText (CodeUnits code ExponentSign)

/- "Parse a srcset attribute" of the HTML standard. -/
namespace SrcsetStandard

/-- ASCII whitespace: TAB, LF, FF, CR and SPACE. -/
def isAsciiWhitespace (unit : Nat) : Bool :=
  [9, 10, 12, 13, 32].contains unit

/-- A series of one or more ASCII digits. -/
structure Digits where
  units : CodeUnits
  nonempty : units ≠ []
  digits : ∀ unit ∈ units, isDigit unit = true

/-- A valid non-negative integer. -/
def ValidInteger (text : CodeUnits) : Prop :=
  ∃ digits : Digits, digits.units = text

inductive Mantissa where
  | integer (digits : Digits)
  | fraction (digits : Digits)
  | both (integer fraction : Digits)

def Mantissa.units : Mantissa → CodeUnits
  | .integer digits => digits.units
  | .fraction digits => code '.' :: digits.units
  | .both digits decimals => digits.units ++ code '.' :: decimals.units

structure Exponent where
  capital : Bool
  sign : ExponentSign
  digits : Digits

def Exponent.units (exponent : Exponent) : CodeUnits :=
  (if exponent.capital then code 'E' else code 'e') ::
    (exponent.sign.units ++ exponent.digits.units)

/-- A valid floating-point number. -/
structure FloatingPoint where
  negative : Bool
  mantissa : Mantissa
  exponent : Option Exponent

def FloatingPoint.units (number : FloatingPoint) : CodeUnits :=
  (if number.negative then [code '-'] else []) ++ number.mantissa.units ++
    (number.exponent.map Exponent.units).getD []

def ValidFloatingPoint (text : CodeUnits) : Prop :=
  ∃ number : FloatingPoint, number.units = text

/-- The rules for parsing floating-point number values, `none` where they return an error. -/
def floatingPointValue (text : CodeUnits) : Option ℚ :=
  Decimal.nearestDouble (Decimal.decimalValue text)

/-- The variables of the descriptor parser. -/
structure Descriptors where
  error : Bool := false
  width : Option Nat := none
  density : Option ℚ := none
  futureCompatH : Option Nat := none

open Classical in
/-- One descriptor, in a user agent that supports `sizes`. A number and the letter after it are
parsed as the number; a density that the rules return an error for is an error. -/
noncomputable def Descriptors.read (state : Descriptors) (descriptor : CodeUnits) : Descriptors :=
  let text := descriptor.dropLast
  if descriptor.getLast? = some (code 'w') ∧ ValidInteger text then
    let error := state.error || state.width.isSome || state.density.isSome
    let width := Decimal.digitsValue text
    if width = 0 then { state with error := true }
    else { state with error, width := some width }
  else if descriptor.getLast? = some (code 'x') ∧ ValidFloatingPoint text then
    let error := state.error || state.width.isSome || state.density.isSome ||
      state.futureCompatH.isSome
    match floatingPointValue text with
    | none => { state with error := true }
    | some density =>
      if density < 0 then { state with error := true }
      else { state with error, density := some density }
  else if descriptor.getLast? = some (code 'h') ∧ ValidInteger text then
    let error := state.error || state.futureCompatH.isSome || state.density.isSome
    let futureCompatH := Decimal.digitsValue text
    if futureCompatH = 0 then { state with error := true }
    else { state with error, futureCompatH := some futureCompatH }
  else { state with error := true }

/-- The descriptor parser: whether there is no error. -/
noncomputable def acceptsDescriptors (descriptors : List CodeUnits) : Bool :=
  let state := descriptors.foldl Descriptors.read {}
  !state.error && !(state.futureCompatH.isSome && state.width.isNone)

inductive TokenizerState where
  | inDescriptor
  | inParens
  | afterDescriptor
  deriving DecidableEq

/-- "If current descriptor is not empty, append current descriptor to descriptors." -/
def appendCurrent (descriptors : List CodeUnits) (current : CodeUnits) : List CodeUnits :=
  if current = [] then descriptors else descriptors ++ [current]

/-- The descriptor tokenizer: the descriptors and the input after them. In the state after a
descriptor, a character that is not whitespace is read again in a descriptor. -/
def tokenizeDescriptors (state : TokenizerState) (current : CodeUnits)
    (descriptors : List CodeUnits) (input : CodeUnits) : List CodeUnits × CodeUnits :=
  match state, input with
  | .inDescriptor, [] => (appendCurrent descriptors current, [])
  | .inDescriptor, c :: rest =>
    if isAsciiWhitespace c then
      tokenizeDescriptors .afterDescriptor [] (appendCurrent descriptors current) rest
    else if c = code ',' then (appendCurrent descriptors current, rest)
    else if c = code '(' then
      tokenizeDescriptors .inParens (current ++ [c]) descriptors rest
    else tokenizeDescriptors .inDescriptor (current ++ [c]) descriptors rest
  | .inParens, [] => (descriptors ++ [current], [])
  | .inParens, c :: rest =>
    if c = code ')' then tokenizeDescriptors .inDescriptor (current ++ [c]) descriptors rest
    else tokenizeDescriptors .inParens (current ++ [c]) descriptors rest
  | .afterDescriptor, [] => (descriptors, [])
  | .afterDescriptor, c :: rest =>
    if isAsciiWhitespace c then tokenizeDescriptors .afterDescriptor current descriptors rest
    else tokenizeDescriptors .inDescriptor current descriptors (c :: rest)
termination_by (input.length, if state = .afterDescriptor then 1 else 0)

/-- "Remove all trailing U+002C COMMA characters from url." -/
def removeTrailingCommas (url : CodeUnits) : CodeUnits :=
  (url.reverse.dropWhile (· = code ',')).reverse

/-- An image candidate in front of the input, which starts with its URL: the URL, the descriptors
and the input after them. -/
def splitCandidate (input : CodeUnits) : CodeUnits × List CodeUnits × CodeUnits :=
  let url := input.takeWhile (!isAsciiWhitespace ·)
  let rest := input.dropWhile (!isAsciiWhitespace ·)
  if url.getLast? = some (code ',') then (removeTrailingCommas url, [], rest)
  else
    let tokens := tokenizeDescriptors .inDescriptor [] [] (rest.dropWhile isAsciiWhitespace)
    (url, tokens.1, tokens.2)

/-- The characters between two candidates. -/
def isBetween (c : Nat) : Bool :=
  isAsciiWhitespace c || c = code ','

theorem tokenizeDescriptors_length (state : TokenizerState) (current : CodeUnits)
    (descriptors : List CodeUnits) (input : CodeUnits) :
    (tokenizeDescriptors state current descriptors input).2.length ≤ input.length := by
  fun_induction tokenizeDescriptors state current descriptors input <;>
    simp only [List.length_cons, List.length_nil] at * <;> omega

theorem splitCandidate_length {c : Nat} (rest : CodeUnits) (url : isBetween c = false) :
    (splitCandidate (c :: rest)).2.2.length < (c :: rest).length := by
  have letter : isAsciiWhitespace c = false := by
    rw [isBetween, Bool.or_eq_false_iff] at url
    exact url.1
  have after : ((c :: rest).dropWhile (!isAsciiWhitespace ·)).length ≤ rest.length := by
    rw [List.dropWhile_cons, if_pos (by simp [letter])]
    exact (List.dropWhile_sublist _).length_le
  rw [splitCandidate, List.length_cons]
  dsimp only
  split
  · exact Nat.lt_succ_of_le after
  · have blanks := (List.dropWhile_sublist (l := (c :: rest).dropWhile (!isAsciiWhitespace ·))
      isAsciiWhitespace).length_le
    have tokens := tokenizeDescriptors_length .inDescriptor [] []
      (((c :: rest).dropWhile (!isAsciiWhitespace ·)).dropWhile isAsciiWhitespace)
    exact Nat.lt_succ_of_le ((tokens.trans blanks).trans after)

theorem head_dropWhile {stops : Nat → Bool} {input rest : CodeUnits} {c : Nat}
    (next : input.dropWhile stops = c :: rest) : stops c = false := by
  have stop := List.head?_dropWhile_not stops input
  rw [next] at stop
  simpa using stop

/-- The splitting loop: the URLs of the image candidates, in order. -/
noncomputable def parseSrcset (input : CodeUnits) : List CodeUnits :=
  match _next : input.dropWhile isBetween with
  | [] => []
  | c :: rest =>
    let candidate := splitCandidate (c :: rest)
    if acceptsDescriptors candidate.2.1 then candidate.1 :: parseSrcset candidate.2.2
    else parseSrcset candidate.2.2
termination_by input.length
decreasing_by
  all_goals
    have shorter := splitCandidate_length rest (head_dropWhile _next)
    have separators := (List.dropWhile_sublist (l := input) isBetween).length_le
    rw [_next] at separators
    exact lt_of_lt_of_le shorter separators

end SrcsetStandard

open SrcsetStandard
open Js.Decimal (isDigits dropMark)

theorem isDigits_iff_validInteger (text : CodeUnits) :
    isDigits text = true ↔ ValidInteger text := by
  rw [Decimal.isDigits_iff]
  constructor
  · rintro ⟨nonempty, digits⟩
    exact ⟨⟨text, nonempty, digits⟩, rfl⟩
  · rintro ⟨digits, rfl⟩
    exact ⟨digits.nonempty, digits.digits⟩

/-- What follows a run of digits. -/
def NoDigitFirst (rest : CodeUnits) : Prop :=
  ∀ unit, rest.head? = some unit → isDigit unit = false

variable {rest : CodeUnits}

theorem takeWhile_of_noDigitFirst (stops : NoDigitFirst rest) : rest.takeWhile isDigit = [] := by
  cases rest with
  | nil => rfl
  | cons unit rest => rw [List.takeWhile_cons, stops unit rfl, if_neg (by decide)]

theorem dropWhile_of_noDigitFirst (stops : NoDigitFirst rest) : rest.dropWhile isDigit = rest := by
  cases rest with
  | nil => rfl
  | cons unit rest => rw [List.dropWhile_cons, stops unit rfl, if_neg (by decide)]

theorem takeWhile_digits (digits : Digits) (stops : NoDigitFirst rest) :
    (digits.units ++ rest).takeWhile isDigit = digits.units := by
  rw [List.takeWhile_append_of_pos digits.digits, takeWhile_of_noDigitFirst stops,
    List.append_nil]

theorem dropWhile_digits (digits : Digits) (stops : NoDigitFirst rest) :
    (digits.units ++ rest).dropWhile isDigit = rest := by
  rw [List.dropWhile_append_of_pos digits.digits, dropWhile_of_noDigitFirst stops]

/-- The digits in front of a text, if there are any. -/
theorem exists_digits {text : CodeUnits} (some : (text.takeWhile isDigit).isEmpty = false) :
    ∃ digits : Digits, digits.units = text.takeWhile isDigit := by
  refine ⟨⟨text.takeWhile isDigit, ?_, fun unit => List.mem_takeWhile_imp⟩, rfl⟩
  intro empty
  rw [empty] at some
  contradiction

theorem head_ne_mark (digits : Digits) {mark : Nat} (other : isDigit mark = false) :
    digits.units.head? ≠ some mark :=
  Decimal.head_ne_of_isDigits ((isDigits_iff_validInteger _).mpr ⟨digits, rfl⟩) other

theorem isExponent_units (exponent : Exponent) : isExponent exponent.units = true := by
  have plus : exponent.digits.units.head? ≠ some (code '+') := head_ne_mark _ (by decide)
  have minus : exponent.digits.units.head? ≠ some (code '-') := head_ne_mark _ (by decide)
  have digits := (isDigits_iff_validInteger exponent.digits.units).mpr ⟨exponent.digits, rfl⟩
  have mark : ((if exponent.capital then code 'E' else code 'e') == code 'e' ||
      (if exponent.capital then code 'E' else code 'e') == code 'E') = true := by
    cases exponent.capital <;> rfl
  rw [Exponent.units, isExponent, mark, Bool.true_and]
  cases exponent.sign with
  | none => simpa [ExponentSign.units, plus, minus] using digits
  | plus | minus => simpa [ExponentSign.units] using digits

theorem exists_exponent {text : CodeUnits} (matched : isExponent text = true) :
    ∃ exponent : Option Exponent, (exponent.map Exponent.units).getD [] = text := by
  cases text with
  | nil => exact ⟨none, rfl⟩
  | cons mark rest =>
    rw [isExponent, Bool.and_eq_true, Bool.or_eq_true, beq_iff_eq, beq_iff_eq] at matched
    obtain ⟨letter, spelled⟩ := matched
    obtain ⟨capital, rfl⟩ : ∃ capital : Bool, mark = if capital then code 'E' else code 'e' := by
      rcases letter with rfl | rfl
      · exact ⟨false, rfl⟩
      · exact ⟨true, rfl⟩
    obtain ⟨digits, units⟩ := (isDigits_iff_validInteger _).mp spelled
    obtain ⟨sign, signed⟩ : ∃ sign : ExponentSign, sign.units ++ digits.units = rest := by
      cases rest with
      | nil => exact ⟨.none, by simpa [ExponentSign.units] using units⟩
      | cons first rest =>
        by_cases plus : first = code '+'
        · exact ⟨.plus, by rw [units]; simp [ExponentSign.units, plus]⟩
        · by_cases minus : first = code '-'
          · exact ⟨.minus, by rw [units]; simp [ExponentSign.units, minus]⟩
          · exact ⟨.none, by rw [units]; simp [ExponentSign.units, plus, minus]⟩
    refine ⟨some ⟨capital, sign, digits⟩, ?_⟩
    rw [← signed]
    rfl

/-- An exponent starts with its letter. -/
theorem noDigitFirst_exponent (exponent : Option Exponent) :
    NoDigitFirst ((exponent.map Exponent.units).getD []) := by
  intro unit first
  cases exponent with
  | none => contradiction
  | some exponent =>
    obtain rfl := Option.some.inj first
    cases exponent.capital <;> rfl

theorem head_exponent_ne_dot (exponent : Option Exponent) :
    ((exponent.map Exponent.units).getD []).head? ≠ some (code '.') := by
  intro first
  cases exponent with
  | none => contradiction
  | some exponent =>
    have letter := Option.some.inj first
    revert letter
    cases exponent.capital <;> decide

theorem isExponent_getD (exponent : Option Exponent) :
    isExponent ((exponent.map Exponent.units).getD []) = true := by
  cases exponent with
  | none => rfl
  | some exponent => exact isExponent_units exponent

theorem noDigitFirst_dot (rest : CodeUnits) : NoDigitFirst (code '.' :: rest) := by
  intro unit first
  rw [← Option.some.inj first]
  rfl

/-- The pattern after an optional minus. -/
theorem isNumberText_eq (value : CodeUnits) :
    isNumberText value =
      let unsigned := dropMark (code '-') value
      let rest := unsigned.dropWhile isDigit
      if rest.head? = some (code '.') then
        !(rest.tail.takeWhile isDigit).isEmpty && isExponent (rest.tail.dropWhile isDigit)
      else !(unsigned.takeWhile isDigit).isEmpty && isExponent rest :=
  rfl

theorem dropMark_minus (number : FloatingPoint) :
    dropMark (code '-') number.units =
      number.mantissa.units ++ (number.exponent.map Exponent.units).getD [] := by
  obtain ⟨negative, mantissa, exponent⟩ := number
  cases negative with
  | true => rfl
  | false =>
    apply Decimal.dropMark_of_ne
    show (mantissa.units ++ _).head? ≠ _
    have head (digits : Digits) (rest : CodeUnits) :
        (digits.units ++ rest).head? ≠ some (code '-') := by
      intro first
      obtain ⟨unit, others, same⟩ := List.exists_cons_of_ne_nil digits.nonempty
      apply head_ne_mark digits (show isDigit (code '-') = false by decide)
      rw [same] at first ⊢
      exact first
    cases mantissa with
    | integer digits => exact head digits _
    | fraction digits => simp [Mantissa.units, code]
    | both digits decimals =>
      rw [Mantissa.units, List.append_assoc]
      exact head digits _

theorem isNumberText_units (number : FloatingPoint) : isNumberText number.units = true := by
  have stops := noDigitFirst_exponent number.exponent
  have noDot := head_exponent_ne_dot number.exponent
  have exponent := isExponent_getD number.exponent
  have filled (digits : Digits) : digits.units.isEmpty = false := by
    simpa using digits.nonempty
  rw [isNumberText_eq, dropMark_minus]
  dsimp only
  cases number.mantissa with
  | integer digits =>
    rw [Mantissa.units, dropWhile_digits digits stops, takeWhile_digits digits stops,
      if_neg noDot, filled, exponent]
    rfl
  | fraction digits =>
    have dotted := dropWhile_of_noDigitFirst
      (noDigitFirst_dot (digits.units ++ (number.exponent.map Exponent.units).getD []))
    rw [Mantissa.units, List.cons_append, dotted, List.head?_cons, if_pos rfl, List.tail_cons,
      takeWhile_digits digits stops, dropWhile_digits digits stops, filled, exponent]
    rfl
  | both digits decimals =>
    have dotted := noDigitFirst_dot
      (decimals.units ++ (number.exponent.map Exponent.units).getD [])
    rw [Mantissa.units, List.append_assoc, List.cons_append, dropWhile_digits digits dotted,
      List.head?_cons, if_pos rfl, List.tail_cons, takeWhile_digits decimals stops,
      dropWhile_digits decimals stops, filled, exponent]
    rfl

/-- A text with an optional minus in front. -/
theorem exists_minus (text : CodeUnits) :
    ∃ negative : Bool, (if negative then [code '-'] else []) ++ dropMark (code '-') text = text := by
  cases text with
  | nil => exact ⟨false, rfl⟩
  | cons unit rest =>
    by_cases minus : unit = code '-'
    · exact ⟨true, by rw [dropMark, if_pos minus, minus]; rfl⟩
    · exact ⟨false, by rw [dropMark, if_neg minus]; rfl⟩

theorem exists_mantissa {unsigned : CodeUnits}
    (matched : (let rest := unsigned.dropWhile isDigit
      if rest.head? = some (code '.') then
        !(rest.tail.takeWhile isDigit).isEmpty && isExponent (rest.tail.dropWhile isDigit)
      else !(unsigned.takeWhile isDigit).isEmpty && isExponent rest) = true) :
    ∃ (mantissa : Mantissa) (exponent : Option Exponent),
      mantissa.units ++ (exponent.map Exponent.units).getD [] = unsigned := by
  have whole := List.takeWhile_append_dropWhile (p := isDigit) (l := unsigned)
  dsimp only at matched
  split at matched
  · next dot =>
    rw [Bool.and_eq_true, Bool.not_eq_true'] at matched
    obtain ⟨decimals, fraction⟩ := exists_digits matched.1
    obtain ⟨exponent, last⟩ := exists_exponent matched.2
    have dotted : unsigned.dropWhile isDigit =
        code '.' :: (decimals.units ++ (exponent.map Exponent.units).getD []) := by
      rw [fraction, last, List.takeWhile_append_dropWhile]
      exact (List.cons_head?_tail dot).symm
    cases some : (unsigned.takeWhile isDigit).isEmpty with
    | true =>
      rw [List.isEmpty_iff] at some
      refine ⟨.fraction decimals, exponent, ?_⟩
      rw [← whole, some, dotted]
      rfl
    | false =>
      obtain ⟨digits, integer⟩ := exists_digits some
      refine ⟨.both digits decimals, exponent, ?_⟩
      rw [← whole, dotted, ← integer, Mantissa.units, List.append_assoc]
      rfl
  · rw [Bool.and_eq_true, Bool.not_eq_true'] at matched
    obtain ⟨digits, integer⟩ := exists_digits matched.1
    obtain ⟨exponent, last⟩ := exists_exponent matched.2
    refine ⟨.integer digits, exponent, ?_⟩
    rw [Mantissa.units, integer, last, whole]

/-- The pattern of a density matches the valid floating-point numbers. -/
theorem isNumberText_iff_validFloatingPoint (text : CodeUnits) :
    isNumberText text = true ↔ ValidFloatingPoint text := by
  constructor
  · intro matched
    obtain ⟨negative, signed⟩ := exists_minus text
    obtain ⟨mantissa, exponent, unsigned⟩ := exists_mantissa matched
    refine ⟨⟨negative, mantissa, exponent⟩, ?_⟩
    rw [FloatingPoint.units, List.append_assoc, unsigned, signed]
  · rintro ⟨number, rfl⟩
    exact isNumberText_units number

end WebTsToolkit.AssetInliner
