import WebTsToolkit.AssetInliner.SrcsetStandard

set_option autoImplicit false

namespace WebTsToolkit.AssetInliner

open Js SrcsetStandard
open Js.Decimal (isDigit isDigits)
open Js.JsonText (CodeUnits code)

/-- What the flags of `validDescriptors` know of the descriptor parser. -/
structure Flags (width density height : Bool) (state : Descriptors) : Prop where
  error : state.error = false
  width : state.width.isSome = width
  density : state.density.isSome = density
  height : state.futureCompatH.isSome = height

variable {state : Descriptors}

/-- An error stays. -/
theorem read_error (failed : state.error = true) (descriptor : CodeUnits) :
    (state.read descriptor).error = true := by
  unfold Descriptors.read
  dsimp only
  repeat' split
  all_goals simp [failed]

theorem foldl_error (failed : state.error = true) (descriptors : List CodeUnits) :
    (descriptors.foldl Descriptors.read state).error = true := by
  induction descriptors generalizing state with
  | nil => exact failed
  | cons descriptor rest ih => exact ih (read_error failed descriptor)

theorem suffixes_apart :
    code 'w' ≠ code 'x' ∧ code 'w' ≠ code 'h' ∧ code 'x' ≠ code 'h' := by
  decide

theorem positive_iff {text : CodeUnits} (valid : ValidInteger text) :
    Decimal.positive (Decimal.number text) = true ↔ Decimal.digitsValue text ≠ 0 :=
  Decimal.positive_number_digits ((isDigits_iff_validInteger text).mpr valid)

/-- A number is a density if it is a finite double of at least zero. -/
theorem density_iff (text : CodeUnits) :
    (Decimal.number text).isFinite = true ∧ (Number.finite 0).le (Decimal.number text) = true ↔
      ∃ density, floatingPointValue text = some density ∧ ¬density < 0 := by
  rw [Decimal.number, floatingPointValue]
  cases Decimal.nearestDouble (Decimal.decimalValue text) with
  | none => simp [Number.isFinite]
  | some density => simp [Number.isFinite, Number.le]

/-- What a pass of the loop leaves of the flags, if it goes on. -/
def nextFlags (width density height : Bool) (descriptor : CodeUnits) :
    Option (Bool × Bool × Bool) :=
  let value := descriptor.dropLast
  let suffix := descriptor.getLast?
  if suffix = some (code 'w') ∧ isDigits value = true ∧
      Decimal.positive (Decimal.number value) = true then
    if width || density then none else some (true, density, height)
  else if suffix = some (code 'x') ∧ isNumberText value = true ∧
      (Decimal.number value).isFinite = true ∧
      (Number.finite 0).le (Decimal.number value) = true then
    if width || density || height then none else some (width, true, height)
  else if suffix = some (code 'h') ∧ isDigits value = true ∧
      Decimal.positive (Decimal.number value) = true then
    if height || density then none else some (width, density, true)
  else none

theorem validDescriptorsFrom_cons (width density height : Bool) (descriptor : CodeUnits)
    (rest : List CodeUnits) :
    validDescriptorsFrom width density height (descriptor :: rest) =
      ((nextFlags width density height descriptor).map fun next =>
        validDescriptorsFrom next.1 next.2.1 next.2.2 rest).getD false := by
  rw [validDescriptorsFrom, nextFlags]
  repeat' split
  all_goals rfl

/-- A pass ends the loop exactly on an error of the descriptor parser. -/
theorem nextFlags_cases {width density height : Bool} (flags : Flags width density height state)
    (descriptor : CodeUnits) :
    (nextFlags width density height descriptor = none ∧ (state.read descriptor).error = true) ∨
      ∃ next, nextFlags width density height descriptor = some next ∧
        Flags next.1 next.2.1 next.2.2 (state.read descriptor) := by
  classical
  obtain ⟨error, widthFlag, densityFlag, heightFlag⟩ := flags
  obtain ⟨apart, apart', apart''⟩ := suffixes_apart
  rw [nextFlags, Descriptors.read]
  simp only [isDigits_iff_validInteger, isNumberText_iff_validFloatingPoint, density_iff, error,
    widthFlag, densityFlag, heightFlag, Bool.false_or]
  by_cases asWidth : descriptor.getLast? = some (code 'w') ∧ ValidInteger descriptor.dropLast
  · obtain ⟨suffix, valid⟩ := asWidth
    simp only [suffix, valid, positive_iff valid, Option.some.injEq, apart, apart', true_and,
      false_and, if_true, if_false]
    by_cases zero : Decimal.digitsValue descriptor.dropLast = 0
    · simp [zero]
    · cases taken : width || density with
      | true => simp [zero]
      | false =>
        refine Or.inr ⟨(true, density, height), by simp [zero], ?_⟩
        rw [if_neg zero]
        exact ⟨rfl, rfl, densityFlag, heightFlag⟩
  · by_cases asDensity : descriptor.getLast? = some (code 'x') ∧
        ValidFloatingPoint descriptor.dropLast
    · obtain ⟨suffix, valid⟩ := asDensity
      simp only [suffix, valid, Option.some.injEq, apart.symm, apart'', true_and, false_and,
        if_true, if_false]
      cases parsed : floatingPointValue descriptor.dropLast with
      | none => simp
      | some density' =>
        by_cases negative : density' < 0
        · simp [negative]
        · cases taken : width || density || height with
          | true => simp [negative]
          | false =>
            refine Or.inr ⟨(width, true, height), by simp [negative], ?_⟩
            dsimp only
            rw [if_neg negative]
            exact ⟨rfl, widthFlag, rfl, heightFlag⟩
    · by_cases asHeight : descriptor.getLast? = some (code 'h') ∧
          ValidInteger descriptor.dropLast
      · obtain ⟨suffix, valid⟩ := asHeight
        simp only [suffix, valid, positive_iff valid, Option.some.injEq, apart'.symm,
          apart''.symm, true_and, false_and, if_true, if_false]
        by_cases zero : Decimal.digitsValue descriptor.dropLast = 0
        · simp [zero]
        · cases taken : height || density with
          | true => simp [zero]
          | false =>
            refine Or.inr ⟨(width, density, true), by simp [zero], ?_⟩
            rw [if_neg zero]
            exact ⟨rfl, widthFlag, densityFlag, rfl⟩
      · refine Or.inl ⟨?_, ?_⟩
        · rw [if_neg fun matched => asWidth ⟨matched.1, matched.2.1⟩,
            if_neg fun matched => asDensity ⟨matched.1, matched.2.1⟩,
            if_neg fun matched => asHeight ⟨matched.1, matched.2.1⟩]
        · rw [if_neg asWidth, if_neg asDensity, if_neg asHeight]

/-- The loop and the descriptor parser decide alike. -/
theorem validDescriptorsFrom_eq {width density height : Bool}
    (flags : Flags width density height state) (descriptors : List CodeUnits) :
    validDescriptorsFrom width density height descriptors =
      (!(descriptors.foldl Descriptors.read state).error &&
        !((descriptors.foldl Descriptors.read state).futureCompatH.isSome &&
          (descriptors.foldl Descriptors.read state).width.isNone)) := by
  induction descriptors generalizing width density height state with
  | nil =>
    rw [validDescriptorsFrom, List.foldl_nil, flags.error, flags.height]
    have absent : state.width.isNone = !width := by
      rw [← flags.width, Option.not_isSome]
    rw [absent]
    cases width <;> cases height <;> rfl
  | cons descriptor rest ih =>
    rw [validDescriptorsFrom_cons, List.foldl_cons]
    rcases nextFlags_cases flags descriptor with ⟨ends, failed⟩ | ⟨next, goes, flags⟩
    · rw [ends, foldl_error failed]
      rfl
    · rw [goes]
      exact ih flags

theorem validDescriptors_eq (descriptors : List CodeUnits) :
    validDescriptors descriptors = acceptsDescriptors descriptors :=
  have flags : Flags false false false {} := ⟨rfl, rfl, rfl, rfl⟩
  validDescriptorsFrom_eq flags descriptors

theorem isSpace_eq (unit : Nat) : isSpace unit = isAsciiWhitespace unit := by
  rw [Bool.eq_iff_iff]
  simp [isSpace, isAsciiWhitespace, code]
  omega

theorem push_eq (descriptors : List CodeUnits) (descriptor : CodeUnits) :
    push descriptors descriptor = appendCurrent descriptors descriptor := by
  cases descriptor <;> rfl

/-- The states of the two tokenizers. -/
def DescriptorState.standard : DescriptorState → TokenizerState
  | .descriptor => .inDescriptor
  | .parentheses => .inParens
  | .after => .afterDescriptor

/-- A descriptor is begun in parentheses and not begun after another one. -/
structure Begun (state : DescriptorState) (descriptor : CodeUnits) : Prop where
  parentheses : state = .parentheses → descriptor ≠ []
  after : state = .after → descriptor = []

theorem Begun.inside (descriptor : CodeUnits) : Begun .descriptor descriptor :=
  ⟨fun h => (by cases h), fun h => (by cases h)⟩

theorem Begun.nested {descriptor : CodeUnits} (filled : descriptor ≠ []) :
    Begun .parentheses descriptor :=
  ⟨fun _ => filled, fun h => (by cases h)⟩

theorem Begun.passed : Begun .after [] :=
  ⟨fun h => (by cases h), fun _ => rfl⟩

/-- The compact loop makes the same descriptors, and counts the units that the tokenizer reads. -/
theorem readDescriptors_eq {state : DescriptorState} {descriptor : CodeUnits}
    (begun : Begun state descriptor) (descriptors : List CodeUnits) (input : CodeUnits) :
    tokenizeDescriptors state.standard descriptor descriptors input =
      ((readDescriptors state descriptor descriptors input).1,
        input.drop (readDescriptors state descriptor descriptors input).2) := by
  induction input generalizing state descriptor descriptors with
  | nil =>
    rw [readDescriptors]
    cases state with
    | descriptor => rw [DescriptorState.standard, tokenizeDescriptors, push_eq]; rfl
    | parentheses =>
      rw [DescriptorState.standard, tokenizeDescriptors, push_eq, appendCurrent,
        if_neg (begun.parentheses rfl)]
      rfl
    | after => rw [DescriptorState.standard, tokenizeDescriptors, begun.after rfl]; rfl
  | cons ch rest ih =>
    have filled : descriptor ++ [ch] ≠ [] := by simp
    have inside := Begun.inside (descriptor ++ [ch])
    have nested := Begun.nested filled
    have passed := Begun.passed
    -- a unit that does not end the descriptor, in it or after another one
    have goes : tokenizeDescriptors .inDescriptor descriptor descriptors (ch :: rest) =
        if isSpace ch then
          tokenizeDescriptors .afterDescriptor [] (push descriptors descriptor) rest
        else if ch = code ',' then (push descriptors descriptor, rest)
        else tokenizeDescriptors (if ch = code '(' then .inParens else .inDescriptor)
          (descriptor ++ [ch]) descriptors rest := by
      rw [tokenizeDescriptors, isSpace_eq, push_eq]
      split_ifs <;> rfl
    have comma : isSpace (code ',') = false := by decide
    cases state with
    | parentheses =>
      rw [DescriptorState.standard, tokenizeDescriptors, readDescriptors, if_pos rfl]
      split
      · exact ih inside descriptors
      · exact ih nested descriptors
    | descriptor =>
      have apart : DescriptorState.descriptor ≠ .parentheses := by decide
      rw [DescriptorState.standard, goes, readDescriptors, if_neg apart]
      by_cases ends : ch = code ','
      · rw [if_pos ends, ends, comma]
        rfl
      · rw [if_neg ends, if_neg ends]
        by_cases space : isSpace ch = true
        · rw [if_pos space, if_pos space]
          exact ih passed _
        · rw [if_neg space, if_neg space]
          split
          · exact ih nested descriptors
          · exact ih inside descriptors
    | after =>
      have apart : DescriptorState.after ≠ .parentheses := by decide
      obtain rfl := begun.after rfl
      rw [DescriptorState.standard, tokenizeDescriptors, goes, readDescriptors, if_neg apart,
        ← isSpace_eq]
      by_cases ends : ch = code ','
      · rw [if_pos ends, ends, comma]
        rfl
      · rw [if_neg ends, if_neg ends]
        by_cases space : isSpace ch = true
        · rw [if_pos space, if_pos space]
          exact ih passed descriptors
        · rw [if_neg space, if_neg space, if_neg space]
          split
          · exact ih nested descriptors
          · exact ih inside descriptors

/-- Whitespace in front of a descriptor is skipped. -/
theorem tokenizeDescriptors_skip (descriptors : List CodeUnits) (input : CodeUnits) :
    tokenizeDescriptors .afterDescriptor [] descriptors input =
      tokenizeDescriptors .inDescriptor [] descriptors (input.dropWhile isAsciiWhitespace) := by
  induction input with
  | nil => rw [tokenizeDescriptors, List.dropWhile_nil, tokenizeDescriptors]; rfl
  | cons c rest ih =>
    rw [tokenizeDescriptors, List.dropWhile_cons]
    split
    · exact ih
    · rfl

theorem tokenizeDescriptors_blanks (input : CodeUnits) :
    tokenizeDescriptors .inDescriptor [] [] input =
      tokenizeDescriptors .inDescriptor [] [] (input.dropWhile isAsciiWhitespace) := by
  cases input with
  | nil => rfl
  | cons c rest =>
    rw [List.dropWhile_cons]
    split
    · next space =>
      rw [tokenizeDescriptors, if_pos space]
      exact tokenizeDescriptors_skip [] rest
    · rfl

end WebTsToolkit.AssetInliner
