import Mathlib.Data.List.Basic

set_option autoImplicit false

/- ECMAScript JSON texts, as sequences of UTF-16 code units. -/
namespace WebTsToolkit.Js.JsonText

abbrev CodeUnits := List Nat

def code (c : Char) : Nat :=
  c.toNat

/-- White space between tokens. -/
inductive Blank where
  | tab
  | lineFeed
  | carriageReturn
  | space

def Blank.unit : Blank → Nat
  | .tab => code '\t'
  | .lineFeed => code '\n'
  | .carriageReturn => code '\r'
  | .space => code ' '

inductive Digit where
  | zero
  | nonzero (less : Fin 9)

def Digit.unit : Digit → Nat
  | .zero => code '0'
  | .nonzero less => code '1' + less

/-- The integer part of a number has no leading zero. -/
inductive IntegerPart where
  | zero
  | digits (first : Fin 9) (rest : List Digit)

def IntegerPart.units : IntegerPart → CodeUnits
  | .zero => [code '0']
  | .digits first rest => (code '1' + first) :: rest.map Digit.unit

inductive ExponentSign where
  | none
  | plus
  | minus

def ExponentSign.units : ExponentSign → CodeUnits
  | .none => []
  | .plus => [code '+']
  | .minus => [code '-']

structure Exponent where
  capital : Bool
  sign : ExponentSign
  first : Digit
  rest : List Digit

def Exponent.units (exponent : Exponent) : CodeUnits :=
  (if exponent.capital then code 'E' else code 'e') ::
    (exponent.sign.units ++ exponent.first.unit :: exponent.rest.map Digit.unit)

structure Fraction where
  first : Digit
  rest : List Digit

def Fraction.units (fraction : Fraction) : CodeUnits :=
  code '.' :: fraction.first.unit :: fraction.rest.map Digit.unit

structure Numeral where
  negative : Bool
  integer : IntegerPart
  fraction : Option Fraction
  exponent : Option Exponent

def Numeral.units (numeral : Numeral) : CodeUnits :=
  (if numeral.negative then [code '-'] else []) ++ numeral.integer.units ++
    (numeral.fraction.map Fraction.units).getD [] ++ (numeral.exponent.map Exponent.units).getD []

/-- A code unit that stands for itself inside a string. -/
structure PlainUnit where
  unit : Nat
  control : 0x20 ≤ unit
  quote : unit ≠ code '"'
  backslash : unit ≠ code '\\'

inductive Escape where
  | quote
  | backslash
  | slash
  | backspace
  | formFeed
  | lineFeed
  | carriageReturn
  | tab

def Escape.mark : Escape → Nat
  | .quote => code '"'
  | .backslash => code '\\'
  | .slash => code '/'
  | .backspace => code 'b'
  | .formFeed => code 'f'
  | .lineFeed => code 'n'
  | .carriageReturn => code 'r'
  | .tab => code 't'

def Escape.decoded : Escape → Nat
  | .quote => 0x22
  | .backslash => 0x5C
  | .slash => 0x2F
  | .backspace => 0x08
  | .formFeed => 0x0C
  | .lineFeed => 0x0A
  | .carriageReturn => 0x0D
  | .tab => 0x09

/-- A hexadecimal digit: below ten, a small letter or a capital. -/
inductive HexDigit where
  | digit (value : Fin 10)
  | small (above : Fin 6)
  | capital (above : Fin 6)

def HexDigit.unit : HexDigit → Nat
  | .digit value => code '0' + value
  | .small above => code 'a' + above
  | .capital above => code 'A' + above

def HexDigit.value : HexDigit → Nat
  | .digit value => value
  | .small above => 10 + above
  | .capital above => 10 + above

inductive Piece where
  | plain (unit : PlainUnit)
  | escaped (escape : Escape)
  | hex (first second third fourth : HexDigit)

def Piece.units : Piece → CodeUnits
  | .plain unit => [unit.unit]
  | .escaped escape => [code '\\', escape.mark]
  | .hex first second third fourth =>
    [code '\\', code 'u', first.unit, second.unit, third.unit, fourth.unit]

/-- The code unit of the string value. -/
def Piece.decoded : Piece → Nat
  | .plain unit => unit.unit
  | .escaped escape => escape.decoded
  | .hex first second third fourth =>
    ((first.value * 16 + second.value) * 16 + third.value) * 16 + fourth.value

abbrev Literal := List Piece

/-- The literal without its opening quote. -/
def Literal.tail (literal : Literal) : CodeUnits :=
  literal.flatMap Piece.units ++ [code '"']

def Literal.units (literal : Literal) : CodeUnits :=
  code '"' :: Literal.tail literal

/-- The string that a literal stands for. -/
def Literal.decoded (literal : Literal) : CodeUnits :=
  literal.map Piece.decoded

abbrev Blanks := List Blank

def blanks (list : Blanks) : CodeUnits :=
  list.map Blank.unit

mutual

inductive Node where
  | null
  | bool (value : Bool)
  | number (numeral : Numeral)
  | string (literal : Literal)
  | array (inner : Blanks) (items : Items)
  | object (inner : Blanks) (members : Members)

inductive Items where
  | nil
  | cons (before : Blanks) (value : Node) (after : Blanks) (rest : Items)

inductive Members where
  | nil
  | cons (before : Blanks) (name : Literal) (afterName : Blanks) (beforeValue : Blanks)
      (value : Node) (after : Blanks) (rest : Members)

end

def Items.separator : Items → CodeUnits
  | .nil => []
  | .cons _ _ _ _ => [code ',']

def Members.separator : Members → CodeUnits
  | .nil => []
  | .cons _ _ _ _ _ _ _ => [code ',']

def literalUnits (text : String) : CodeUnits :=
  text.toList.map code

mutual

def Node.units : Node → CodeUnits
  | .null => literalUnits "null"
  | .bool value => literalUnits (if value then "true" else "false")
  | .number numeral => numeral.units
  | .string literal => Literal.units literal
  | .array inner items => code '[' :: (blanks inner ++ items.units ++ [code ']'])
  | .object inner members => code '{' :: (blanks inner ++ members.units ++ [code '}'])

def Items.units : Items → CodeUnits
  | .nil => []
  | .cons before value after rest =>
    blanks before ++ value.units ++ blanks after ++ rest.separator ++ rest.units

def Members.units : Members → CodeUnits
  | .nil => []
  | .cons before name afterName beforeValue value after rest =>
    blanks before ++ Literal.units name ++ blanks afterName ++ code ':' :: blanks beforeValue ++
      value.units ++ blanks after ++ rest.separator ++ rest.units

end

def Node.isObject : Node → Bool
  | .object _ _ => true
  | _ => false

/-- A whole text. -/
structure Text where
  before : Blanks
  node : Node
  after : Blanks

def Text.units (text : Text) : CodeUnits :=
  blanks text.before ++ text.node.units ++ blanks text.after

/-- The names of the members of one object, in their order. -/
def Members.names : Members → List CodeUnits
  | .nil => []
  | .cons _ name _ _ _ _ rest => Literal.decoded name :: rest.names

mutual

/-- Some object of the text has two members of one name. -/
def Node.HasDuplicate : Node → Prop
  | .array _ items => items.HasDuplicate
  | .object _ members => ¬members.names.Nodup ∨ members.HasDuplicate
  | _ => False

def Items.HasDuplicate : Items → Prop
  | .nil => False
  | .cons _ value _ rest => value.HasDuplicate ∨ rest.HasDuplicate

def Members.HasDuplicate : Members → Prop
  | .nil => False
  | .cons _ _ _ _ value _ rest => value.HasDuplicate ∨ rest.HasDuplicate

end

/-- The value of a hexadecimal digit. -/
def hexValue (unit : Nat) : Option Nat :=
  if code '0' ≤ unit ∧ unit ≤ code '9' then some (unit - code '0')
  else if code 'a' ≤ unit ∧ unit ≤ code 'f' then some (unit - code 'a' + 10)
  else if code 'A' ≤ unit ∧ unit ≤ code 'F' then some (unit - code 'A' + 10)
  else none

def unescape (mark : Nat) : Option Nat :=
  if mark = code '"' ∨ mark = code '\\' ∨ mark = code '/' then some mark
  else if mark = code 'b' then some 0x08
  else if mark = code 'f' then some 0x0C
  else if mark = code 'n' then some 0x0A
  else if mark = code 'r' then some 0x0D
  else if mark = code 't' then some 0x09
  else none

def parsePieces : CodeUnits → Option CodeUnits
  | [] => none
  | unit :: rest =>
    if unit = code '"' then if rest = [] then some [] else none
    else if unit = code '\\' then
      match rest with
      | [] => none
      | mark :: rest =>
        if mark = code 'u' then
          match rest with
          | first :: second :: third :: fourth :: rest => do
            let first ← hexValue first
            let second ← hexValue second
            let third ← hexValue third
            let fourth ← hexValue fourth
            let rest ← parsePieces rest
            return (((first * 16 + second) * 16 + third) * 16 + fourth) :: rest
          | _ => none
        else do
          let decoded ← unescape mark
          let rest ← parsePieces rest
          return decoded :: rest
    else if unit < 0x20 then none
    else do
      let rest ← parsePieces rest
      return unit :: rest

/-- `JSON.parse` of a text that starts with a quote: its string. -/
def parseString : CodeUnits → Option CodeUnits
  | unit :: rest => if unit = code '"' then parsePieces rest else none
  | [] => none

theorem hexValue_unit (digit : HexDigit) : hexValue digit.unit = some digit.value := by
  cases digit with
  | digit value => revert value; decide
  | small above | capital above => revert above; decide

theorem unescape_mark (escape : Escape) : unescape escape.mark = some escape.decoded := by
  cases escape <;> rfl

theorem mark_ne_u (escape : Escape) : escape.mark ≠ code 'u' := by
  cases escape <;> decide

theorem parsePieces_piece (piece : Piece) (rest : CodeUnits) :
    parsePieces (piece.units ++ rest) =
      (parsePieces rest).map fun decoded => piece.decoded :: decoded := by
  cases piece with
  | plain unit =>
    have printable := Nat.not_lt.mpr unit.control
    show parsePieces (unit.unit :: rest) = _
    rw [parsePieces.eq_def]
    dsimp only
    rw [if_neg unit.quote, if_neg unit.backslash, if_neg printable]
    cases parsePieces rest <;> rfl
  | escaped escape =>
    show parsePieces (code '\\' :: escape.mark :: rest) = _
    rw [parsePieces.eq_def]
    dsimp only
    rw [if_neg (by decide), if_pos rfl, if_neg (mark_ne_u escape), unescape_mark]
    cases parsePieces rest <;> rfl
  | hex first second third fourth =>
    show parsePieces (code '\\' :: code 'u' :: first.unit :: second.unit :: third.unit ::
      fourth.unit :: rest) = _
    rw [parsePieces.eq_def]
    dsimp only
    rw [if_neg (by decide), if_pos rfl, if_pos rfl]
    simp only [hexValue_unit]
    cases parsePieces rest <;> rfl

theorem parsePieces_tail (literal : Literal) :
    parsePieces (Literal.tail literal) = some (Literal.decoded literal) := by
  induction literal with
  | nil => rfl
  | cons piece literal ih =>
    have tail : Literal.tail (piece :: literal) = piece.units ++ Literal.tail literal := by
      rw [Literal.tail, List.flatMap_cons, List.append_assoc]
      rfl
    rw [tail, parsePieces_piece, ih]
    rfl

/-- A literal is read as the string that it stands for. -/
theorem parseString_units (literal : Literal) :
    parseString (Literal.units literal) = some (Literal.decoded literal) := by
  rw [Literal.units, parseString, if_pos rfl, parsePieces_tail]

end WebTsToolkit.Js.JsonText
