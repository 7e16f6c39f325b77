import WebTsToolkit.Js.CodePoint
import WebTsToolkit.Js.Coercion
import WebTsToolkit.Js.Json
import WebTsToolkit.Js.Text

set_option autoImplicit false

namespace WebTsToolkit.Js

open JsonText (code hexValue)

/-- What `JSON.parse` gives. -/
inductive JsonValue where
  | null
  | bool (value : Bool)
  | number (value : Number)
  | string (text : Utf16)
  | array (items : List JsonValue)
  | object (members : List (Utf16 × JsonValue))

namespace JsonValue

/-- `JSON.stringify` of a code point inside a string. -/
def escape : CodePoint → List Char
  | .scalar value => Json.escape value
  | .lone unit =>
    ['\\', 'u', Nat.digitChar (unit.toNat / 4096), Nat.digitChar (unit.toNat / 256 % 16),
      Nat.digitChar (unit.toNat / 16 % 16), Nat.digitChar (unit.toNat % 16)]

def quote (text : Utf16) : List Char :=
  '"' :: ((codePoints text).flatMap escape ++ ['"'])

/-- `JSON.stringify` of a number. -/
def spellNumber (value : Number) : List Char :=
  match value.safeInteger with
  | some value => (toString value).toList
  | none =>
    if value.isFinite then (Coercion.numberToString value).map Char.ofNat
    else ['n', 'u', 'l', 'l']

mutual

/-- `JSON.stringify`. -/
def stringify : JsonValue → List Char
  | .null => ['n', 'u', 'l', 'l']
  | .bool value => if value then ['t', 'r', 'u', 'e'] else ['f', 'a', 'l', 's', 'e']
  | .number value => spellNumber value
  | .string text => quote text
  | .array [] => ['[', ']']
  | .array (item :: items) => '[' :: (stringify item ++ stringifyItems items)
  | .object [] => ['{', '}']
  | .object ((name, value) :: members) =>
    '{' :: (quote name ++ ':' :: (stringify value ++ stringifyMembers members))

def stringifyItems : List JsonValue → List Char
  | [] => [']']
  | item :: items => ',' :: (stringify item ++ stringifyItems items)

def stringifyMembers : List (Utf16 × JsonValue) → List Char
  | [] => ['}']
  | (name, value) :: members =>
    ',' :: (quote name ++ ':' :: (stringify value ++ stringifyMembers members))

end

def skipBlanks (text : List Char) : List Char :=
  text.dropWhile fun c => c = ' ' || c = '\t' || c = '\n' || c = '\r'

def hexUnit (first second third fourth : Char) : Option UInt16 := do
  let first ← hexValue (code first)
  let second ← hexValue (code second)
  let third ← hexValue (code third)
  let fourth ← hexValue (code fourth)
  return (((first * 16 + second) * 16 + third) * 16 + fourth).toUInt16

/-- A string from behind its opening quote on, and what follows it. -/
def parseText : List Char → Option (Utf16 × List Char)
  | [] => none
  | c :: rest =>
    if c = '"' then some ([], rest)
    else if c = '\\' then
      match rest with
      | [] => none
      | mark :: rest =>
        if mark = 'u' then
          match rest with
          | first :: second :: third :: fourth :: rest => do
            let unit ← hexUnit first second third fourth
            let (text, rest) ← parseText rest
            return (unit :: text, rest)
          | _ => none
        else do
          let unit ← JsonText.unescape (code mark)
          let (text, rest) ← parseText rest
          return (unit.toUInt16 :: text, rest)
    else if c.toNat < 32 then none
    else do
      let (text, rest) ← parseText rest
      return (unitsOf c ++ text, rest)

def isNumberMark (c : Char) : Bool :=
  isDigit c || c = '-' || c = '+' || c = '.' || c = 'e' || c = 'E'

def isDigits (text : List Char) : Bool :=
  !text.isEmpty && text.all isDigit

/-- Nothing, or `e` with an exponent. -/
def isExponent : List Char → Bool
  | [] => true
  | mark :: rest =>
    (mark = 'e' || mark = 'E') &&
      match rest with
      | sign :: digits => if sign = '+' || sign = '-' then isDigits digits else isDigits rest
      | [] => false

/-- Nothing, or a fraction or an exponent or both. -/
def isNumeralTail : List Char → Bool
  | [] => true
  | c :: rest =>
    if c = '.' then
      !(rest.takeWhile isDigit).isEmpty && isExponent (rest.dropWhile isDigit)
    else isExponent (c :: rest)

/-- The grammar of JSON numbers. -/
def isNumeral (text : List Char) : Bool :=
  let unsigned := match text with
    | '-' :: rest => rest
    | _ => text
  let integer := unsigned.takeWhile isDigit
  (integer == ['0'] || (!integer.isEmpty && integer.head? != some '0')) &&
    isNumeralTail (unsigned.dropWhile isDigit)

def parseNumber (text : List Char) : Option (JsonValue × List Char) :=
  let token := text.takeWhile isNumberMark
  if isNumeral token then
    some (.number (Decimal.number (token.map code)), text.dropWhile isNumberMark)
  else none

/-- The array index that a key spells. -/
def keyIndex (key : Utf16) : Option Nat :=
  let digits := key.map fun unit => Char.ofNat unit.toNat
  if isDigits digits && (digits == ['0'] || digits.head? != some '0') &&
      digitsValue digits < 2 ^ 32 - 1 then
    some (digitsValue digits)
  else none

/-- `target[name] = value`. -/
def assign (members : List (Utf16 × JsonValue)) (entry : Utf16 × JsonValue) :
    List (Utf16 × JsonValue) :=
  if members.any fun other => other.1 == entry.1 then
    members.map fun other => if other.1 = entry.1 then entry else other
  else members ++ [entry]

/-- The object with these members, in the order of its keys. -/
def ofMembers (members : List (Utf16 × JsonValue)) : JsonValue :=
  let own := members.foldl assign []
  let indices := own.filter fun entry => (keyIndex entry.1).isSome
  let names := own.filter fun entry => (keyIndex entry.1).isNone
  let before (left right : Utf16 × JsonValue) : Bool :=
    (keyIndex left.1).getD 0 ≤ (keyIndex right.1).getD 0
  .object (indices.mergeSort before ++ names)

mutual

/-- A value and what follows it. Each nested value takes one of the characters, so that their
number bounds the nesting. -/
def parseValue : Nat → List Char → Option (JsonValue × List Char)
  | 0, _ => none
  | fuel + 1, text =>
    match skipBlanks text with
    | '"' :: rest => (parseText rest).map fun read => (.string read.1, read.2)
    | '[' :: rest =>
      match skipBlanks rest with
      | ']' :: rest => some (.array [], rest)
      | rest => do
        let (item, rest) ← parseValue fuel rest
        let (items, rest) ← parseItems fuel rest
        return (.array (item :: items), rest)
    | '{' :: rest =>
      match skipBlanks rest with
      | '}' :: rest => some (.object [], rest)
      | rest => do
        let (members, rest) ← parseMember fuel rest
        return (ofMembers members, rest)
    | 't' :: 'r' :: 'u' :: 'e' :: rest => some (.bool true, rest)
    | 'f' :: 'a' :: 'l' :: 's' :: 'e' :: rest => some (.bool false, rest)
    | 'n' :: 'u' :: 'l' :: 'l' :: rest => some (.null, rest)
    | rest => parseNumber rest

/-- The items behind an item, and what follows the array. -/
def parseItems : Nat → List Char → Option (List JsonValue × List Char)
  | 0, _ => none
  | fuel + 1, text =>
    match skipBlanks text with
    | ']' :: rest => some ([], rest)
    | ',' :: rest => do
      let (item, rest) ← parseValue fuel rest
      let (items, rest) ← parseItems fuel rest
      return (item :: items, rest)
    | _ => none

def parseMember : Nat → List Char → Option (List (Utf16 × JsonValue) × List Char)
  | 0, _ => none
  | fuel + 1, text =>
    match skipBlanks text with
    | '"' :: rest => do
      let (name, rest) ← parseText rest
      match skipBlanks rest with
      | ':' :: rest => do
        let (value, rest) ← parseValue fuel rest
        let (members, rest) ← parseMembers fuel rest
        return ((name, value) :: members, rest)
      | _ => none
    | _ => none

def parseMembers : Nat → List Char → Option (List (Utf16 × JsonValue) × List Char)
  | 0, _ => none
  | fuel + 1, text =>
    match skipBlanks text with
    | '}' :: rest => some ([], rest)
    | ',' :: rest => parseMember fuel rest
    | _ => none

end

/-- `JSON.parse`. -/
def parse (text : List Char) : Option JsonValue :=
  match parseValue (text.length + 1) text with
  | some (value, rest) => if skipBlanks rest = [] then some value else none
  | none => none

theorem hexValue_digitChar {value : Nat} (small : value < 16) :
    hexValue (code (Nat.digitChar value)) = some value := by
  revert value
  decide

theorem hexUnit_digits {unit : UInt16} :
    hexUnit (Nat.digitChar (unit.toNat / 4096)) (Nat.digitChar (unit.toNat / 256 % 16))
      (Nat.digitChar (unit.toNat / 16 % 16)) (Nat.digitChar (unit.toNat % 16)) = some unit := by
  have bound := unit.toNat_lt
  have whole : ((unit.toNat / 4096 * 16 + unit.toNat / 256 % 16) * 16 + unit.toNat / 16 % 16) * 16 +
      unit.toNat % 16 = unit.toNat := by omega
  rw [hexUnit, hexValue_digitChar (by omega), hexValue_digitChar (by omega),
    hexValue_digitChar (by omega), hexValue_digitChar (by omega)]
  show some (Nat.toUInt16 _) = _
  rw [whole]
  simp

variable {c : Char} {mark : Char} {count : Nat}

theorem parseText_plain (quoted : c ≠ '"') (escaped : c ≠ '\\') (control : 32 ≤ c.toNat)
    (rest : List Char) : parseText (c :: rest) =
      (parseText rest).map fun read => (unitsOf c ++ read.1, read.2) := by
  rw [parseText.eq_def]
  dsimp only
  rw [if_neg quoted, if_neg escaped, if_neg (by omega)]
  cases parseText rest <;> rfl

theorem parseText_mark {unit : Nat} (plain : mark ≠ 'u')
    (stands : JsonText.unescape (code mark) = some unit) (rest : List Char) :
    parseText ('\\' :: mark :: rest) =
      (parseText rest).map fun read => (unit.toUInt16 :: read.1, read.2) := by
  rw [parseText.eq_def]
  dsimp only
  rw [if_neg (by decide), if_pos rfl, if_neg plain, stands]
  cases parseText rest <;> rfl

theorem parseText_hex {first second third fourth : Char} {unit : UInt16}
    (stands : hexUnit first second third fourth = some unit) (rest : List Char) :
    parseText ('\\' :: 'u' :: first :: second :: third :: fourth :: rest) =
      (parseText rest).map fun read => (unit :: read.1, read.2) := by
  rw [parseText.eq_def]
  dsimp only
  rw [if_neg (by decide), if_pos rfl, if_pos rfl, stands]
  cases parseText rest <;> rfl

/-- An escaped code point is read back. -/
theorem parseText_escape (point : CodePoint) (rest : List Char) :
    parseText (escape point ++ rest) =
      (parseText rest).map fun read => (point.units ++ read.1, read.2) := by
  cases point with
  | lone unit => exact parseText_hex hexUnit_digits rest
  | scalar c =>
    show parseText (Json.escape c ++ rest) = (parseText rest).map fun read =>
      (unitsOf c ++ read.1, read.2)
    unfold Json.escape
    split_ifs with quote slash back tab line form carriage control
    · subst quote
      exact parseText_mark (by decide) rfl rest
    · subst slash
      exact parseText_mark (by decide) rfl rest
    · subst back
      exact parseText_mark (by decide) rfl rest
    · subst tab
      exact parseText_mark (by decide) rfl rest
    · subst line
      exact parseText_mark (by decide) rfl rest
    · subst form
      exact parseText_mark (by decide) rfl rest
    · subst carriage
      exact parseText_mark (by decide) rfl rest
    · have stands : hexUnit '0' '0' (Nat.digitChar (c.toNat / 16)) (Nat.digitChar (c.toNat % 16)) =
          some c.toNat.toUInt16 := by
        have whole : ((0 * 16 + 0) * 16 + c.toNat / 16) * 16 + c.toNat % 16 = c.toNat := by omega
        have zero : hexValue (code '0') = some 0 := by decide
        rw [hexUnit, zero, hexValue_digitChar (by omega), hexValue_digitChar (by omega)]
        show some (Nat.toUInt16 _) = _
        rw [whole]
      have units : unitsOf c = [c.toNat.toUInt16] := by rw [unitsOf, if_pos (by omega)]
      rw [units]
      exact parseText_hex stands rest
    · exact parseText_plain quote slash (by omega) rest

theorem parseText_points (points : List CodePoint) (rest : List Char) :
    parseText (points.flatMap escape ++ '"' :: rest) =
      some (points.flatMap CodePoint.units, rest) := by
  induction points with
  | nil => rw [parseText.eq_def]; rfl
  | cons point points ih =>
    rw [List.flatMap_cons, List.append_assoc, parseText_escape, ih]
    rfl

/-- A quoted string is read back. -/
theorem parseText_quote (text : Utf16) (rest : List Char) :
    parseText ((codePoints text).flatMap escape ++ ['"'] ++ rest) = some (text, rest) := by
  rw [List.append_assoc, List.cons_append, List.nil_append, parseText_points, units_codePoints]

theorem toDigits_isDigit (member : c ∈ Nat.toDigits 10 count) : isDigit c = true := by
  rw [← Nat.toList_repr] at member
  exact isDigit_of_mem_repr member

theorem isNumberMark_of_isDigit (digit : isDigit c = true) : isNumberMark c = true := by
  simp [isNumberMark, digit]

theorem isNumeral_toDigits (count : Nat) : isNumeral (Nat.toDigits 10 count) = true := by
  have unsigned : (match Nat.toDigits 10 count with
      | '-' :: rest => rest
      | _ => Nat.toDigits 10 count) = Nat.toDigits 10 count := by
    split
    · next rest same =>
      have digit : isDigit '-' = true := toDigits_isDigit (same ▸ List.mem_cons_self)
      exact absurd digit (by decide)
    · rfl
  have taken : (Nat.toDigits 10 count).takeWhile isDigit = Nat.toDigits 10 count :=
    List.takeWhile_eq_self_iff.mpr fun c member => toDigits_isDigit member
  have dropped : (Nat.toDigits 10 count).dropWhile isDigit = [] :=
    List.dropWhile_eq_nil_iff.mpr fun c member => toDigits_isDigit member
  unfold isNumeral
  rw [unsigned]
  simp only [taken, dropped, isNumeralTail, Bool.and_true, Bool.or_eq_true, Bool.and_eq_true]
  by_cases zero : count = 0
  · subst zero
    exact Or.inl rfl
  · right
    constructor
    · cases same : Nat.toDigits 10 count with
      | nil => exact absurd same Nat.toDigits_ne_nil
      | cons head rest => rfl
    · simpa using head_toDigits (Nat.pos_of_ne_zero zero)

theorem digitsValue_code (digits : List Char) :
    Decimal.digitsValue (digits.map code) = digitsValue digits := by
  rw [Decimal.digitsValue, List.foldl_map, digitsValue]
  congr 1
  funext value digit
  rw [Nat.mul_comm]
  rfl

/-- The digits of a safe integer in front of a mark are read back. -/
theorem parseNumber_digits (safe : count < 2 ^ 53) (stops : isNumberMark mark = false)
    (rest : List Char) :
    parseNumber (Nat.toDigits 10 count ++ mark :: rest) =
      some (.number (.finite count), mark :: rest) := by
  have marks : ∀ c ∈ Nat.toDigits 10 count, isNumberMark c = true :=
    fun c member => isNumberMark_of_isDigit (toDigits_isDigit member)
  have taken : (Nat.toDigits 10 count ++ mark :: rest).takeWhile isNumberMark =
      Nat.toDigits 10 count := by
    rw [List.takeWhile_append_of_pos marks, List.takeWhile_cons_of_neg (by simp [stops]),
      List.append_nil]
  have dropped : (Nat.toDigits 10 count ++ mark :: rest).dropWhile isNumberMark = mark :: rest := by
    rw [List.dropWhile_append_of_pos marks, List.dropWhile_cons_of_neg (by simp [stops])]
  have value : digitsValue (Nat.toDigits 10 count) = count := by
    rw [← Nat.toList_repr, digitsValue_repr]
  have digits : Decimal.isDigits ((Nat.toDigits 10 count).map code) = true := by
    rw [Decimal.isDigits_iff]
    refine ⟨by simp [Nat.toDigits_ne_nil], ?_⟩
    intro unit member
    obtain ⟨c, listed, rfl⟩ := List.mem_map.mp member
    exact toDigits_isDigit listed
  have number := Decimal.number_digits digits (by rwa [digitsValue_code, value])
  rw [digitsValue_code, value] at number
  rw [parseNumber, taken, if_pos (isNumeral_toDigits count), dropped, number]

/-- A string or a safe integer that is not negative. -/
inductive IsAtom : JsonValue → Prop where
  | text (text : Utf16) : IsAtom (.string text)
  | count (count : Nat) (safe : count < 2 ^ 53) : IsAtom (.number (.finite count))

theorem skipBlanks_cons (space : (c = ' ' || c = '\t' || c = '\n' || c = '\r') = false)
    (rest : List Char) : skipBlanks (c :: rest) = c :: rest := by
  rw [skipBlanks, List.dropWhile_cons_of_neg (by simp [space])]

theorem stringify_count (safe : count < 2 ^ 53) :
    stringify (.number (.finite count)) = Nat.toDigits 10 count := by
  have inside : isSafeInteger (count : Int) = true := by
    rw [isSafeInteger_iff]
    omega
  have integer : (Number.finite (count : ℚ)).safeInteger = some (count : Int) := by
    simp [Number.safeInteger, inside]
  rw [stringify, spellNumber, integer]
  exact Nat.toList_repr

/-- The text of an atom starts with a quote or a digit. -/
theorem stringify_atom {value : JsonValue} (atom : IsAtom value) :
    ∃ head tail, stringify value = head :: tail ∧ (head = '"' ∨ isDigit head = true) := by
  cases atom with
  | text text => exact ⟨'"', _, by rw [stringify, quote], Or.inl rfl⟩
  | count count safe =>
    rw [stringify_count safe]
    cases same : Nat.toDigits 10 count with
    | nil => exact absurd same Nat.toDigits_ne_nil
    | cons head tail =>
      exact ⟨head, tail, rfl, Or.inr (toDigits_isDigit (same ▸ List.mem_cons_self))⟩

theorem skipBlanks_atom {head : Char} (starts : head = '"' ∨ isDigit head = true)
    (rest : List Char) : skipBlanks (head :: rest) = head :: rest := by
  apply skipBlanks_cons
  by_contra blank
  simp only [Bool.not_eq_false, Bool.or_eq_true, decide_eq_true_eq] at blank
  rcases blank with ((rfl | rfl) | rfl) | rfl <;> exact absurd starts (by decide)

/-- An atom in front of a mark is read back. -/
theorem parseValue_atom {value : JsonValue} (atom : IsAtom value)
    (stops : isNumberMark mark = false) (fuel : Nat) (rest : List Char) :
    parseValue (fuel + 1) (stringify value ++ mark :: rest) = some (value, mark :: rest) := by
  cases atom with
  | text text =>
    rw [stringify, quote, parseValue, List.cons_append, skipBlanks_cons (by decide)]
    simp only [parseText_quote, Option.map_some]
  | count count safe =>
    have number := parseNumber_digits safe stops rest
    rw [stringify_count safe]
    cases same : Nat.toDigits 10 count with
    | nil => exact absurd same Nat.toDigits_ne_nil
    | cons head tail =>
      have digit : isDigit head = true := toDigits_isDigit (same ▸ List.mem_cons_self)
      rw [same, List.cons_append] at number
      rw [parseValue, List.cons_append, skipBlanks_atom (Or.inr digit)]
      split
      all_goals try
        next other =>
          obtain ⟨rfl, _⟩ := List.cons.inj other
          exact absurd digit (by decide)
      exact number

theorem stringifyItems_head (items : List JsonValue) :
    ∃ mark text, stringifyItems items = mark :: text ∧ isNumberMark mark = false := by
  cases items with
  | nil => exact ⟨']', [], rfl, by decide⟩
  | cons item items => exact ⟨',', _, rfl, by decide⟩

theorem parseItems_atoms {items : List JsonValue} (atoms : ∀ item ∈ items, IsAtom item)
    {fuel : Nat} (enough : items.length < fuel) (rest : List Char) :
    parseItems fuel (stringifyItems items ++ rest) = some (items, rest) := by
  induction items generalizing fuel with
  | nil =>
    obtain ⟨less, rfl⟩ : ∃ less, fuel = less + 1 := ⟨fuel - 1, by simp at enough; omega⟩
    rw [parseItems, stringifyItems, List.cons_append, skipBlanks_cons (by decide)]
    rfl
  | cons item items ih =>
    rw [List.length_cons] at enough
    obtain ⟨less, rfl⟩ : ∃ less, fuel = less + 2 := ⟨fuel - 2, by omega⟩
    have later := ih (fun other member => atoms other (List.mem_cons_of_mem item member))
      (show items.length < less + 1 by omega)
    obtain ⟨mark, text, shape, stops⟩ := stringifyItems_head items
    have here := parseValue_atom (atoms item List.mem_cons_self) stops less (text ++ rest)
    rw [shape, List.cons_append] at later
    rw [parseItems, stringifyItems, List.cons_append, skipBlanks_cons (by decide), shape,
      List.append_assoc, List.cons_append]
    simp only [here, later, Option.bind_eq_bind, Option.bind_some]
    rfl

theorem length_stringifyItems (items : List JsonValue) :
    items.length < (stringifyItems items).length := by
  induction items with
  | nil => simp [stringifyItems]
  | cons item items ih =>
    simp only [stringifyItems, List.length_cons, List.length_append]
    omega

/-- `JSON.parse` undoes `JSON.stringify` on an array of strings and safe integers. -/
theorem parse_stringify {item : JsonValue} {items : List JsonValue} (first : IsAtom item)
    (atoms : ∀ item ∈ items, IsAtom item) :
    parse (stringify (.array (item :: items))) = some (.array (item :: items)) := by
  obtain ⟨mark, text, shape, stops⟩ := stringifyItems_head items
  have longer := length_stringifyItems items
  have text' : stringify (.array (item :: items)) =
      '[' :: (stringify item ++ stringifyItems items) := by rw [stringify]
  have length : (stringify (.array (item :: items))).length =
      (stringify item).length + (stringifyItems items).length + 1 := by
    rw [text', List.length_cons, List.length_append]
  obtain ⟨less, same⟩ : ∃ less, (stringify item).length + (stringifyItems items).length =
      less + 1 := ⟨(stringify item).length + (stringifyItems items).length - 1, by omega⟩
  have here := parseValue_atom first stops (less + 1) text
  have later := parseItems_atoms atoms (show items.length < less + 2 by omega) []
  obtain ⟨head, tail, start, starts⟩ := stringify_atom first
  have open' : parseValue (less + 3) ('[' :: (stringify item ++ stringifyItems items)) =
      some (.array (item :: items), []) := by
    rw [List.append_nil, shape] at later
    rw [start, List.cons_append] at here
    rw [parseValue, skipBlanks_cons (by decide), shape, start, List.cons_append]
    simp only [skipBlanks_atom starts]
    split
    · next other =>
      obtain ⟨rfl, _⟩ := List.cons.inj other
      exact absurd starts (by decide)
    · simp only [here, later, Option.bind_eq_bind, Option.bind_some]
      rfl
  rw [parse, length, same, text', open']
  rfl

end JsonValue

end WebTsToolkit.Js
