import WebTsToolkit.Js.JsonText

set_option autoImplicit false

/- Strings with surrogates, by their UTF-16 code units. -/
namespace WebTsToolkit.Js

abbrev Utf16 := List UInt16

def isHighSurrogate (unit : UInt16) : Bool :=
  0xD800 ≤ unit.toNat && unit.toNat < 0xDC00

def isLowSurrogate (unit : UInt16) : Bool :=
  0xDC00 ≤ unit.toNat && unit.toNat < 0xE000

/-- What `for (const char of text)` visits: a scalar value, or a surrogate without its partner. -/
inductive CodePoint where
  | scalar (value : Char)
  | lone (unit : UInt16)
  deriving DecidableEq

/-- The code units of a scalar value. -/
def unitsOf (value : Char) : Utf16 :=
  if value.toNat < 0x10000 then [value.toNat.toUInt16]
  else
    [(0xD800 + (value.toNat - 0x10000) / 0x400).toUInt16,
      (0xDC00 + (value.toNat - 0x10000) % 0x400).toUInt16]

def CodePoint.units : CodePoint → Utf16
  | .scalar value => unitsOf value
  | .lone unit => [unit]

/-- A code unit that is not the first half of a pair. -/
def CodePoint.single (unit : UInt16) : CodePoint :=
  if isHighSurrogate unit || isLowSurrogate unit then .lone unit
  else .scalar (Char.ofNat unit.toNat)

def CodePoint.pair (high low : UInt16) : CodePoint :=
  .scalar (Char.ofNat (0x10000 + (high.toNat - 0xD800) * 0x400 + (low.toNat - 0xDC00)))

def codePoints : Utf16 → List CodePoint
  | [] => []
  | [unit] => [.single unit]
  | unit :: next :: rest =>
    if isHighSurrogate unit && isLowSurrogate next then .pair unit next :: codePoints rest
    else .single unit :: codePoints (next :: rest)

theorem toNat_ofNat {value : Nat} (valid : value.isValidChar) :
    (Char.ofNat value).toNat = value := by
  rw [Char.ofNat, dif_pos valid]
  rfl

theorem CodePoint.units_single (unit : UInt16) : (CodePoint.single unit).units = [unit] := by
  unfold single
  split
  · rfl
  · next plain =>
    have bound := unit.toNat_lt
    have valid : unit.toNat.isValidChar := by
      simp only [isHighSurrogate, isLowSurrogate, Bool.or_eq_true, Bool.and_eq_true,
        decide_eq_true_eq] at plain
      rw [Nat.isValidChar]
      omega
    rw [units, unitsOf, toNat_ofNat valid, if_pos (by omega)]
    simp

theorem CodePoint.units_pair {high low : UInt16} (first : isHighSurrogate high = true)
    (second : isLowSurrogate low = true) : (CodePoint.pair high low).units = [high, low] := by
  simp only [isHighSurrogate, isLowSurrogate, Bool.and_eq_true, decide_eq_true_eq] at first second
  have valid : (0x10000 + (high.toNat - 0xD800) * 0x400 + (low.toNat - 0xDC00)).isValidChar := by
    rw [Nat.isValidChar]
    omega
  have upper : 0xD800 + (0x10000 + (high.toNat - 0xD800) * 0x400 + (low.toNat - 0xDC00) - 0x10000)
      / 0x400 = high.toNat := by omega
  have lower : 0xDC00 + (0x10000 + (high.toNat - 0xD800) * 0x400 + (low.toNat - 0xDC00) - 0x10000)
      % 0x400 = low.toNat := by omega
  rw [pair, units, unitsOf, toNat_ofNat valid, if_neg (by omega), upper, lower]
  simp

/-- Its code points have the code units of a text. -/
theorem units_codePoints (text : Utf16) : (codePoints text).flatMap CodePoint.units = text := by
  induction text using codePoints.induct with
  | case1 => rfl
  | case2 unit => rw [codePoints, List.flatMap_singleton, CodePoint.units_single]
  | case3 unit next rest both ih =>
    rw [Bool.and_eq_true] at both
    rw [codePoints, if_pos (by simp [both]), List.flatMap_cons, CodePoint.units_pair both.1 both.2,
      ih]
    rfl
  | case4 unit next rest apart ih =>
    rw [codePoints, if_neg apart, List.flatMap_cons, CodePoint.units_single, ih]
    rfl

/-- A mark that is no surrogate is a code point of its own. -/
theorem codePoints_append (text : Utf16) {unit : UInt16} (low : isLowSurrogate unit = false) :
    codePoints (text ++ [unit]) = codePoints text ++ [.single unit] := by
  induction text using codePoints.induct with
  | case1 => rfl
  | case2 other => simp [codePoints, low]
  | case3 first next rest both ih =>
    rw [List.cons_append, List.cons_append, codePoints, codePoints, if_pos both, if_pos both, ih]
    rfl
  | case4 first next rest apart ih =>
    rw [List.cons_append, List.cons_append, codePoints, codePoints, if_neg apart, if_neg apart,
      ← List.cons_append, ih]
    rfl

/-- `TextEncoder.encode`, which replaces lone surrogates. -/
def CodePoint.utf8 : CodePoint → List UInt8
  | .scalar value => String.utf8EncodeChar value
  | .lone _ => String.utf8EncodeChar '\uFFFD'

def utf8ByteLength (text : Utf16) : Nat :=
  ((codePoints text).flatMap CodePoint.utf8).length

theorem utf8ByteLength_append (text : Utf16) {unit : UInt16} (low : isLowSurrogate unit = false) :
    utf8ByteLength text ≤ utf8ByteLength (text ++ [unit]) := by
  rw [utf8ByteLength, utf8ByteLength, codePoints_append text low, List.flatMap_append,
    List.length_append]
  omega

/-- UTF-8 of a text without lone surrogates. -/
def utf8Encode (text : List Char) : List UInt8 :=
  text.flatMap String.utf8EncodeChar

/-- `TextDecoder.decode` of strict UTF-8, which consumes a byte order mark. -/
def utf8Decode (bytes : List UInt8) : Option (List Char) :=
  let marked := bytes.take 3 = [0xEF, 0xBB, 0xBF]
  ((if marked then bytes.drop 3 else bytes).toByteArray.utf8Decode?).map Array.toList

theorem toByteArray_injective : Function.Injective List.toByteArray := by
  intro first second same
  have data := congrArg ByteArray.data same
  simpa using data

theorem utf8Encode_injective : Function.Injective utf8Encode := by
  intro first second same
  have decoded := congrArg (fun bytes => bytes.toByteArray.utf8Decode?) same
  change first.utf8Encode.utf8Decode? = second.utf8Encode.utf8Decode? at decoded
  simpa using decoded

theorem utf8Decode_utf8Encode {text : List Char}
    (unmarked : (utf8Encode text).take 3 ≠ [0xEF, 0xBB, 0xBF]) :
    utf8Decode (utf8Encode text) = some text := by
  rw [utf8Decode, if_neg unmarked]
  change text.utf8Encode.utf8Decode?.map Array.toList = _
  simp

theorem utf8Encode_of_utf8Decode {bytes : List UInt8} {text : List Char}
    (unmarked : bytes.take 3 ≠ [0xEF, 0xBB, 0xBF]) (decoded : utf8Decode bytes = some text) :
    utf8Encode text = bytes := by
  rw [utf8Decode, if_neg unmarked] at decoded
  obtain ⟨chars, found, rfl⟩ := Option.map_eq_some_iff.mp decoded
  apply toByteArray_injective
  change chars.toList.utf8Encode = _
  have isSome : (bytes.toByteArray.utf8Decode?).isSome = true := by rw [found]; rfl
  have whole := ByteArray.utf8Encode_get_utf8Decode? (h := isSome)
  simpa [found] using whole

end WebTsToolkit.Js
