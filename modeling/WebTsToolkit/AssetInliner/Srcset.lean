import WebTsToolkit.Js.Decimal

set_option autoImplicit false

namespace WebTsToolkit.AssetInliner

open Js
open Js.Decimal (isDigit isDigits dropMark)
open Js.JsonText (CodeUnits code)

/-- A complete URL token; the end is exclusive. -/
structure SrcsetCandidate where
  url : CodeUnits
  urlStart : Nat
  urlEnd : Nat
  deriving DecidableEq

def isSpace (ch : Nat) : Bool :=
  ch == code ' ' || ch == code '\t' || ch == code '\n' || ch == 12 || ch == code '\r'

/-- `/^(?:[eE][+-]?[0-9]+)?$/.test(text)`. -/
def isExponent (text : CodeUnits) : Bool :=
  match text with
  | [] => true
  | mark :: rest =>
    (mark == code 'e' || mark == code 'E') &&
      isDigits (if rest.head? = some (code '+') ∨ rest.head? = some (code '-') then rest.tail
        else rest)

/-- `/^-?(?:[0-9]+(?:\.[0-9]+)?|\.[0-9]+)(?:[eE][+-]?[0-9]+)?$/.test(value)`. -/
def isNumberText (value : CodeUnits) : Bool :=
  let unsigned := dropMark (code '-') value
  let rest := unsigned.dropWhile isDigit
  if rest.head? = some (code '.') then
    !(rest.tail.takeWhile isDigit).isEmpty && isExponent (rest.tail.dropWhile isDigit)
  else !(unsigned.takeWhile isDigit).isEmpty && isExponent rest

/-- The loop of `validDescriptors`, with its flags. -/
def validDescriptorsFrom (width density height : Bool) : List CodeUnits → Bool
  | [] => !height || width
  | descriptor :: rest =>
    let value := descriptor.dropLast
    let suffix := descriptor.getLast?
    if suffix = some (code 'w') ∧ isDigits value = true ∧
        Decimal.positive (Decimal.number value) = true then
      if width || density then false else validDescriptorsFrom true density height rest
    else if suffix = some (code 'x') ∧ isNumberText value = true ∧
        (Decimal.number value).isFinite = true ∧
        (Number.finite 0).le (Decimal.number value) = true then
      if width || density || height then false else validDescriptorsFrom width true height rest
    else if suffix = some (code 'h') ∧ isDigits value = true ∧
        Decimal.positive (Decimal.number value) = true then
      if height || density then false else validDescriptorsFrom width density true rest
    else false

def validDescriptors (descriptors : List CodeUnits) : Bool :=
  validDescriptorsFrom false false false descriptors

/-- `state` of `tokenizeSrcset`. -/
inductive DescriptorState where
  | descriptor
  | parentheses
  | after
  deriving DecidableEq

/-- `if (descriptor) descriptors.push(descriptor)`. -/
def push (descriptors : List CodeUnits) (descriptor : CodeUnits) : List CodeUnits :=
  if descriptor.isEmpty then descriptors else descriptors ++ [descriptor]

/-- A result after one more unit. -/
def oneMore (result : List CodeUnits × Nat) : List CodeUnits × Nat :=
  (result.1, result.2 + 1)

/-- The loop over the descriptors of a candidate: they and the number of units read. -/
def readDescriptors (state : DescriptorState) (descriptor : CodeUnits)
    (descriptors : List CodeUnits) : CodeUnits → List CodeUnits × Nat
  | [] => (push descriptors descriptor, 0)
  | ch :: rest =>
    if state = .parentheses then
      oneMore (readDescriptors (if ch = code ')' then .descriptor else .parentheses)
        (descriptor ++ [ch]) descriptors rest)
    else if ch = code ',' then (push descriptors descriptor, 1)
    else if isSpace ch then
      oneMore (readDescriptors .after [] (push descriptors descriptor) rest)
    else
      oneMore (readDescriptors (if ch = code '(' then .parentheses else .descriptor)
        (descriptor ++ [ch]) descriptors rest)

/-- `while (pos < input.length && skips(input[pos])) pos++`. -/
def skip (skips : Nat → Bool) (input : CodeUnits) (pos : Nat) : Nat :=
  pos + ((input.drop pos).takeWhile skips).length

/-- `while (input[urlEnd - 1] === ',') urlEnd--`. -/
def dropCommas (input : CodeUnits) : Nat → Nat
  | 0 => 0
  | less + 1 => if input[less]? = some (code ',') then dropCommas input less else less + 1

/-- `input.slice(start, end)`. -/
def slice (input : CodeUnits) (start stop : Nat) : CodeUnits :=
  (input.take stop).drop start

/-- One pass of the outer loop from the start of a URL: the span of the URL, the descriptors and
the position after them. -/
def readCandidate (input : CodeUnits) (urlStart : Nat) : Nat × List CodeUnits × Nat :=
  let pos := skip (fun ch => !isSpace ch) input urlStart
  if input[pos - 1]? = some (code ',') then (dropCommas input pos, [], pos)
  else
    let (descriptors, read) := readDescriptors .descriptor [] [] (input.drop pos)
    (pos, descriptors, pos + read)

def isSeparator (ch : Nat) : Bool :=
  isSpace ch || ch == code ','

theorem drop_length_takeWhile (skips : Nat → Bool) (units : CodeUnits) :
    units.drop (units.takeWhile skips).length = units.dropWhile skips := by
  induction units with
  | nil => rfl
  | cons unit rest ih =>
    rw [List.takeWhile_cons, List.dropWhile_cons]
    cases skips unit with
    | false => rfl
    | true => exact ih

theorem drop_skip (skips : Nat → Bool) (input : CodeUnits) (pos : Nat) :
    input.drop (skip skips input pos) = (input.drop pos).dropWhile skips := by
  rw [skip, ← List.drop_drop]
  exact drop_length_takeWhile skips (input.drop pos)

theorem le_skip (skips : Nat → Bool) (input : CodeUnits) (pos : Nat) :
    pos ≤ skip skips input pos :=
  Nat.le_add_right _ _

variable {input : CodeUnits} {skips : Nat → Bool}

theorem skip_le {pos : Nat} (inside : pos ≤ input.length) :
    skip skips input pos ≤ input.length := by
  have shorter := (List.takeWhile_sublist (l := input.drop pos) skips).length_le
  rw [List.length_drop] at shorter
  rw [skip]
  omega

/-- A position where the next unit is passed over moves. -/
theorem lt_skip {pos unit : Nat} (next : input[pos]? = some unit) (passes : skips unit = true) :
    pos < skip skips input pos := by
  obtain ⟨inside, rfl⟩ := List.getElem?_eq_some_iff.mp next
  rw [skip, List.drop_eq_getElem_cons inside, List.takeWhile_cons, if_pos passes]
  simp

/-- The unit that ends a run of units is not of their kind. -/
theorem stops_of_skip {pos unit : Nat} (next : input[skip skips input pos]? = some unit) :
    skips unit = false := by
  have dropped := drop_skip skips input pos
  have head : ((input.drop pos).dropWhile skips).head? = some unit := by
    rw [← dropped, List.head?_drop]
    exact next
  have stop := List.head?_dropWhile_not skips (input.drop pos)
  rw [head] at stop
  simpa using stop

theorem lt_readCandidate {pos : Nat} (inside : skip isSeparator input pos < input.length) :
    pos < (readCandidate input (skip isSeparator input pos)).2.2 := by
  have next := List.getElem?_eq_getElem inside
  have stop := stops_of_skip next
  have letter : isSpace input[skip isSeparator input pos] = false := by
    rw [isSeparator, Bool.or_eq_false_iff] at stop
    exact stop.1
  have start := le_skip isSeparator input pos
  have moves : skip isSeparator input pos <
      skip (fun ch => !isSpace ch) input (skip isSeparator input pos) :=
    lt_skip next (by simp [letter])
  rw [readCandidate]
  dsimp only
  split
  · show pos < skip _ _ _
    omega
  · show pos < skip _ _ _ + _
    omega

/-- `tokenizeSrcset` from a position on. -/
def tokenizeFrom (input : CodeUnits) (pos : Nat) : List SrcsetCandidate :=
  if _ : pos < input.length then
    let urlStart := skip isSeparator input pos
    if _ : urlStart = input.length then []
    else
      let read := readCandidate input urlStart
      if validDescriptors read.2.1 then
        ⟨slice input urlStart read.1, urlStart, read.1⟩ :: tokenizeFrom input read.2.2
      else tokenizeFrom input read.2.2
  else []
termination_by input.length - pos
decreasing_by
  all_goals
    rename_i inside ends _
    have within : skip isSeparator input pos ≤ input.length := skip_le (le_of_lt inside)
    have advance := lt_readCandidate (lt_of_le_of_ne within ends)
    omega

def tokenizeSrcset (input : CodeUnits) : List SrcsetCandidate :=
  tokenizeFrom input 0

end WebTsToolkit.AssetInliner
