import Mathlib.Data.List.Lex
import WebTsToolkit.Js.Coercion
import WebTsToolkit.Library.Comparator

set_option autoImplicit false

namespace WebTsToolkit.Utils.OrderBy

open Js Library Comparator
open JsonText (CodeUnits literalUnits)

/-- A key to sort by. A text is its sequence of UTF-16 code units. The two zeros are one number,
which neither an operator used here nor `String` tells apart. -/
inductive Scalar where
  | undefined
  | null
  | boolean (value : Bool)
  | number (value : Number)
  | string (text : CodeUnits)
  deriving DecidableEq

namespace Scalar

def isNullish : Scalar → Bool
  | .undefined | .null => true
  | _ => false

def isString : Scalar → Bool
  | .string _ => true
  | _ => false

def toNumber : Scalar → Number
  | .undefined => .nan
  | .null => .finite 0
  | .boolean value => .finite (if value then 1 else 0)
  | .number value => value
  | .string text => Coercion.stringToNumber text

/-- `String(value)`. -/
def toText : Scalar → CodeUnits
  | .undefined => literalUnits "undefined"
  | .null => literalUnits "null"
  | .boolean value => literalUnits (if value then "true" else "false")
  | .number value => Coercion.numberToString value
  | .string text => text

/-- `left < right`, which compares texts only with one another. -/
def lessThan (left right : Scalar) : Bool :=
  match left, right with
  | .string text, .string other => text < other
  | left, right => Coercion.lessThan left.toNumber right.toNumber

end Scalar

def sameValueZero (left right : Scalar) : Bool :=
  left = right

def compareAscending (left right : Scalar) : Int :=
  if sameValueZero left right then 0
  else if left = .undefined then 1
  else if right = .undefined then -1
  else if left = .null then 1
  else if right = .null then -1
  else if right.lessThan left then 1
  else if left.lessThan right then -1
  else if left.toText = right.toText then 0
  else if right.toText < left.toText then 1
  else -1

section OrderBy

variable {T : Type}

/-- The comparison of two values by their keys, with the loop over the callbacks. -/
def compareBy (callbacks : List (T → Scalar)) (orders : List String) (left right : T) : Int :=
  match callbacks with
  | [] => 0
  | callback :: callbacks =>
    let comparison := compareAscending (callback left) (callback right)
    if comparison ≠ 0 then
      if orders.head? = some "desc" then comparison * -1 else comparison
    else compareBy callbacks orders.tail left right

/-- The comparison of two values with their positions that is given to `sort`. -/
def compareEntries (callbacks : List (T → Scalar)) (orders : List String) (left right : T × Nat) :
    Int :=
  let comparison := compareBy callbacks orders left.1 right.1
  if comparison ≠ 0 then comparison else (left.2 : Int) - right.2

/-- Without iteratees the values are their own keys. -/
def callbacksOf (identity : T → Scalar) (iteratees : List (T → Scalar)) : List (T → Scalar) :=
  if 0 < iteratees.length then iteratees else [identity]

/-- `none` is no array. An iteratee that is a path is the function that reads it. The language
promises of `Array.prototype.sort` what a `SortMethod` does, and leaves the rest to the engine. -/
def orderBy (array : SortMethod (T × Nat)) (identity : T → Scalar) (collection : Option (List T))
    (iteratees : List (T → Scalar)) (orders : List String) : List T :=
  match collection with
  | none => []
  | some values =>
    let callbacks := callbacksOf identity iteratees
    (array.sort (compareEntries callbacks orders) values.zipIdx).map Prod.fst

end OrderBy

/-- The two keys are compared as numbers, and the first one is less. -/
structure NumberStep (first second : Scalar) : Prop where
  present : first.isNullish = false ∧ second.isNullish = false
  mixed : (first.isString && second.isString) = false
  less : Coercion.lessThan first.toNumber second.toNumber = true

/-- Both keys are strings, or neither is less as a number. -/
def ComparedAsTexts (first second : Scalar) : Prop :=
  (first.isString && second.isString) = true ∨
    Coercion.lessThan first.toNumber second.toNumber = false ∧
      Coercion.lessThan second.toNumber first.toNumber = false

/-- The two keys are compared as texts, and the first one is not greater. -/
structure TextStep (first second : Scalar) : Prop where
  present : first.isNullish = false ∧ second.isNullish = false
  texts : ComparedAsTexts first second
  notGreater : first.toText ≤ second.toText

/-- Three keys that their comparisons, some of them as numbers and some as texts, lead around in a
circle. -/
structure Clash (first second third : Scalar) : Prop where
  toSecond : NumberStep first second ∨ TextStep first second
  toThird : NumberStep second third ∨ TextStep second third
  toFirst : NumberStep third first ∨ TextStep third first
  byNumber : NumberStep first second ∨ NumberStep second third ∨ NumberStep third first
  byText : TextStep first second ∨ TextStep second third ∨ TextStep third first

/-- The first key comes before the second one: the other is missing, or it is less as a number, or
as a text where they are compared so. -/
def Before (first second : Scalar) : Prop :=
  first.isNullish = false ∧ second.isNullish = true ∨ first = .null ∧ second = .undefined ∨
    NumberStep first second ∨ TextStep first second ∧ first.toText ≠ second.toText

def Ties (first second : Scalar) : Prop :=
  ¬ Before first second ∧ ¬ Before second first

variable {T : Type}

/-- The value at the first position comes before the other one, by the first column in which their
keys do not tie, or else by its position. -/
def Precedes (callbacks : List (T → Scalar)) (orders : List String) (left right : T × Nat) : Prop :=
  match callbacks with
  | [] => left.2 < right.2
  | callback :: callbacks =>
    (if orders.head? = some "desc" then Before (callback right.1) (callback left.1)
      else Before (callback left.1) (callback right.1)) ∨
      Ties (callback left.1) (callback right.1) ∧ Precedes callbacks orders.tail left right

/-- Three values whose keys clash in the first column that does not tie all of them, where neither
the later columns nor the positions part the keys that tie there the other way. -/
def Contradicts (callbacks : List (T → Scalar)) (orders : List String)
    (first second third : T × Nat) : Prop :=
  match callbacks with
  | [] => False
  | callback :: callbacks =>
    let ties := fun left right : T × Nat => Ties (callback left.1) (callback right.1)
    let stays := fun left right => ties left right → ¬ Precedes callbacks orders.tail right left
    (ties first second ∧ ties second third ∧ ties third first ∧
        Contradicts callbacks orders.tail first second third) ∨
      ((if orders.head? = some "desc" then
            Clash (callback third.1) (callback second.1) (callback first.1)
          else Clash (callback first.1) (callback second.1) (callback third.1)) ∧
        stays first second ∧ stays second third ∧ stays third first)

/-- The sign of a comparison as texts. -/
def compareTexts (left right : Scalar) : Int :=
  if left.toText = right.toText then 0 else if right.toText < left.toText then 1 else -1

variable {left right : Scalar}

theorem lessThan_of_mixed (mixed : (left.isString && right.isString) = false) :
    left.lessThan right = Coercion.lessThan left.toNumber right.toNumber := by
  cases left <;> cases right <;> first | rfl | simp [Scalar.isString] at mixed

theorem compareAscending_strings (text other : CodeUnits) :
    compareAscending (.string text) (.string other) =
      compareTexts (.string text) (.string other) := by
  simp only [compareAscending, sameValueZero, compareTexts, Scalar.toText, Scalar.lessThan,
    decide_eq_true_eq, Scalar.string.injEq, reduceCtorEq, ↓reduceIte]
  rcases lt_trichotomy text other with less | rfl | greater
  · simp [less, less.ne, less.not_gt]
  · simp
  · simp [greater, greater.ne']

/-- Of two keys that are there, one is less as a number, or their texts are compared. -/
theorem compareAscending_cases (here : left.isNullish = false) (there : right.isNullish = false) :
    (NumberStep left right ∧ compareAscending left right = -1) ∨
      (NumberStep right left ∧ compareAscending left right = 1) ∨
        (ComparedAsTexts left right ∧ compareAscending left right = compareTexts left right) := by
  by_cases strings : (left.isString && right.isString) = true
  · right
    right
    refine ⟨Or.inl strings, ?_⟩
    cases left <;> cases right <;>
      first | exact compareAscending_strings _ _ | simp [Scalar.isString] at strings
  · have mixed : (left.isString && right.isString) = false := by simpa using strings
    have mixed' : (right.isString && left.isString) = false := by rwa [Bool.and_comm]
    by_cases same : left = right
    · subst same
      right
      right
      have irreflexive := Coercion.lessThan_irrefl left.toNumber
      refine ⟨Or.inr ⟨irreflexive, irreflexive⟩, ?_⟩
      simp [compareAscending, sameValueZero, compareTexts]
    · have kinds : left ≠ .undefined ∧ right ≠ .undefined ∧ left ≠ .null ∧ right ≠ .null := by
        refine ⟨?_, ?_, ?_, ?_⟩ <;> rintro rfl <;> simp [Scalar.isNullish] at here there
      simp only [compareAscending, sameValueZero, same, kinds, lessThan_of_mixed mixed,
        lessThan_of_mixed mixed', decide_false, Bool.false_eq_true, ↓reduceIte]
      cases less : Coercion.lessThan left.toNumber right.toNumber with
      | true =>
        left
        exact ⟨⟨⟨here, there⟩, mixed, less⟩, by simp [Coercion.lessThan_asymm less]⟩
      | false =>
        right
        cases greater : Coercion.lessThan right.toNumber left.toNumber with
        | true =>
          left
          exact ⟨⟨⟨there, here⟩, mixed', greater⟩, by simp⟩
        | false =>
          right
          exact ⟨Or.inr ⟨less, greater⟩, by simp [compareTexts]⟩

theorem compareTexts_swap (left right : Scalar) :
    compareTexts right left = -compareTexts left right := by
  simp only [compareTexts]
  rcases lt_trichotomy left.toText right.toText with less | same | greater
  · simp [less, less.ne, less.ne', less.not_gt]
  · simp [same]
  · simp [greater, greater.ne, greater.ne', greater.not_gt]

theorem compareTexts_nonpos_iff (left right : Scalar) :
    compareTexts left right ≤ 0 ↔ left.toText ≤ right.toText := by
  simp only [compareTexts]
  rcases lt_trichotomy left.toText right.toText with less | same | greater
  · simp [less.le, less.ne, less.not_gt]
  · simp [same]
  · simp [greater, greater.ne']

theorem NumberStep.asymm (step : NumberStep left right) : ¬ NumberStep right left := by
  intro back
  have less := Coercion.lessThan_asymm step.less
  rw [back.less] at less
  contradiction

theorem NumberStep.not_texts (step : NumberStep left right) : ¬ ComparedAsTexts left right := by
  rintro (strings | ⟨same, -⟩)
  · simp [step.mixed] at strings
  · simp [step.less] at same

theorem ComparedAsTexts.symm (texts : ComparedAsTexts left right) : ComparedAsTexts right left := by
  rcases texts with strings | ⟨lower, upper⟩
  · exact Or.inl (by rwa [Bool.and_comm])
  · exact Or.inr ⟨upper, lower⟩

theorem compareAscending_swap_of_nullish {left : Scalar} (nullish : left.isNullish = true)
    (right : Scalar) : compareAscending right left = -compareAscending left right := by
  cases left with
  | undefined | null => cases right <;> simp [compareAscending, sameValueZero]
  | boolean value | number value | string text => simp [Scalar.isNullish] at nullish

theorem compareAscending_antisymmetric : Antisymmetric compareAscending := by
  intro left right
  cases here : left.isNullish with
  | true => exact compareAscending_swap_of_nullish here right
  | false =>
    cases there : right.isNullish with
    | true => rw [compareAscending_swap_of_nullish there left, Int.neg_neg]
    | false =>
      have texts := compareTexts_swap left right
      rcases compareAscending_cases here there with
          ⟨step, sign⟩ | ⟨step, sign⟩ | ⟨mode, sign⟩ <;>
        rcases compareAscending_cases there here with
          ⟨step', sign'⟩ | ⟨step', sign'⟩ | ⟨mode', sign'⟩
      · exact absurd step' step.asymm
      · omega
      · exact absurd mode'.symm step.not_texts
      · omega
      · exact absurd step step'.asymm
      · exact absurd mode' step.not_texts
      · exact absurd mode.symm step'.not_texts
      · exact absurd mode step'.not_texts
      · omega

/-- Two keys that are there stand in order by a step. -/
theorem compareAscending_nonpos_iff (here : left.isNullish = false)
    (there : right.isNullish = false) :
    compareAscending left right ≤ 0 ↔ NumberStep left right ∨ TextStep left right := by
  rcases compareAscending_cases here there with ⟨step, sign⟩ | ⟨step, sign⟩ | ⟨mode, sign⟩
  · rw [sign]
    simp [step]
  · have greater : ¬ compareAscending left right ≤ 0 := by omega
    simp only [greater, false_iff, not_or]
    exact ⟨step.asymm, fun other => step.not_texts other.texts.symm⟩
  · rw [sign, compareTexts_nonpos_iff]
    constructor
    · intro notGreater
      exact Or.inr ⟨⟨here, there⟩, mode, notGreater⟩
    · rintro (step | step)
      · exact absurd mode step.not_texts
      · exact step.notGreater

theorem compareAscending_before_nullish (here : left.isNullish = false)
    (missing : right.isNullish = true) : compareAscending left right = -1 := by
  cases left <;> cases right <;>
    first | contradiction | simp [compareAscending, sameValueZero]

theorem compareAscending_neg (step : NumberStep left right) : compareAscending left right < 0 := by
  rcases compareAscending_cases step.present.1 step.present.2 with
    ⟨-, sign⟩ | ⟨back, -⟩ | ⟨mode, -⟩
  · omega
  · exact absurd back step.asymm
  · exact absurd mode step.not_texts

theorem compareAscending_of_textStep (step : TextStep left right) :
    compareAscending left right = compareTexts left right := by
  rcases compareAscending_cases step.present.1 step.present.2 with
    ⟨other, -⟩ | ⟨other, -⟩ | ⟨-, sign⟩
  · exact absurd step.texts other.not_texts
  · exact absurd step.texts.symm other.not_texts
  · exact sign

theorem compareAscending_neg_iff (left right : Scalar) :
    compareAscending left right < 0 ↔ Before left right := by
  have reversed := compareAscending_antisymmetric left right
  cases here : left.isNullish with
  | false =>
    have notNull : left ≠ .null := by
      rintro rfl
      contradiction
    cases there : right.isNullish with
    | true => simp [Before, here, there, compareAscending_before_nullish here there]
    | false =>
      simp only [Before, here, there, notNull, Bool.false_eq_true, and_false, false_and,
        false_or]
      constructor
      · intro negative
        rcases (compareAscending_nonpos_iff here there).mp (by omega) with step | step
        · exact Or.inl step
        · refine Or.inr ⟨step, fun same => ?_⟩
          rw [compareAscending_of_textStep step, compareTexts, if_pos same] at negative
          contradiction
      · rintro (step | ⟨step, apart⟩)
        · exact compareAscending_neg step
        · rw [compareAscending_of_textStep step, compareTexts, if_neg apart,
            if_neg (not_lt.mpr step.notGreater)]
          decide
  | true =>
    have noStep : ¬ NumberStep left right := fun step => by simp [step.present.1] at here
    have noText : ¬ TextStep left right := fun step => by simp [step.present.1] at here
    simp only [Before, here, noStep, noText, Bool.true_eq_false, false_and, false_or, or_false]
    cases left with
    | undefined | null => cases right <;> simp [compareAscending, sameValueZero]
    | boolean value | number value | string text => contradiction

theorem compareAscending_eq_zero_iff (left right : Scalar) :
    compareAscending left right = 0 ↔ Ties left right := by
  have reversed := compareAscending_antisymmetric left right
  rw [Ties, ← compareAscending_neg_iff, ← compareAscending_neg_iff]
  omega

/-- A missing key stands in no circle. -/
theorem not_nullish_of_loop {first second third : Scalar}
    (loop : Loop compareAscending first second third) : first.isNullish = false := by
  have undefined_last (right : Scalar) (order : compareAscending .undefined right ≤ 0) :
      right = .undefined := by
    cases right <;> simp [compareAscending, sameValueZero] at order ⊢
  have null_late (right : Scalar) (order : compareAscending .null right ≤ 0) :
      right = .undefined ∨ right = .null := by
    cases right <;> simp [compareAscending, sameValueZero] at order ⊢
  obtain ⟨toSecond, toThird, toFirst, strict⟩ := loop
  have settled : ¬ (first = .undefined ∧ second = .undefined ∧ third = .undefined) := by
    rintro ⟨rfl, rfl, rfl⟩
    simp [compareAscending, sameValueZero] at strict
  have settled' : ¬ (first = .null ∧ second = .null ∧ third = .null) := by
    rintro ⟨rfl, rfl, rfl⟩
    simp [compareAscending, sameValueZero] at strict
  cases first with
  | undefined =>
    have two := undefined_last second toSecond
    subst two
    exact absurd ⟨rfl, rfl, undefined_last third toThird⟩ settled
  | null =>
    rcases null_late second toSecond with rfl | rfl
    · have three := undefined_last third toThird
      subst three
      exact absurd (undefined_last _ toFirst) (by simp)
    · rcases null_late third toThird with rfl | rfl
      · exact absurd (undefined_last _ toFirst) (by simp)
      · exact absurd ⟨rfl, rfl, rfl⟩ settled'
  | boolean value | number value | string text => rfl

end WebTsToolkit.Utils.OrderBy
