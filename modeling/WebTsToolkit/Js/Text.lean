import Mathlib.Algebra.GroupWithZero.Nat
import Mathlib.Data.List.Induction
import WebTsToolkit.Library.Separated

set_option autoImplicit false

namespace WebTsToolkit.Js

/-- `path.split('.')`. -/
def segments (path : String) : List String :=
  (path.toList.splitOn '.').map String.ofList

/-- `segments.join('.')`. -/
def joinDots (segments : List String) : String :=
  String.ofList (['.'].intercalate (segments.map String.toList))

def isDigit (c : Char) : Bool :=
  '0' ≤ c && c ≤ '9'

def isLetter (c : Char) : Bool :=
  ('A' ≤ c && c ≤ 'Z') || ('a' ≤ c && c ≤ 'z')

/-- `/^(0|[1-9]\d*)$/`. -/
def isIndexText (text : String) : Bool :=
  match text.toList with
  | ['0'] => true
  | head :: rest => isDigit head && head != '0' && rest.all isDigit
  | [] => false

/-- The number that decimal digits spell. -/
def digitsValue (digits : List Char) : Nat :=
  digits.foldl (fun value digit => 10 * value + (digit.toNat - '0'.toNat)) 0

/-- The array index that a property key spells. -/
def arrayIndex (key : String) : Option Nat :=
  if isIndexText key then some (digitsValue key.toList) else none

/-- White space and line terminators, as `trim` and `\s` know them. -/
def isSpace (c : Char) : Bool :=
  [0x9, 0xA, 0xB, 0xC, 0xD, 0x20, 0xA0, 0x1680, 0x2028, 0x2029, 0x202F, 0x205F, 0x3000,
    0xFEFF].contains c.toNat || (0x2000 ≤ c.toNat && c.toNat ≤ 0x200A)

def trim (text : String) : String :=
  String.ofList (((text.toList.dropWhile isSpace).reverse.dropWhile isSpace).reverse)

/-- `text.split(' ')`. -/
def splitSpaces (text : String) : List String :=
  (text.toList.splitOn ' ').map String.ofList

/-- `text.length`, in UTF-16 code units. -/
def utf16Length (text : String) : Nat :=
  (text.toList.map fun c => if c.toNat < 0x10000 then 1 else 2).sum

/-- `text.startsWith(start)`. -/
def startsWith (text start : String) : Bool :=
  start.toList.isPrefixOf text.toList

/-- `text.slice(count)`. -/
def sliceFrom (text : String) (count : Nat) : String :=
  String.ofList (text.toList.drop count)

theorem joinDots_segments (path : String) : joinDots (segments path) = path := by
  have chars : (path.toList.splitOn '.').map (String.toList ∘ String.ofList) =
      path.toList.splitOn '.' := by
    simp
  rw [joinDots, segments, List.map_map, chars, List.intercalate_splitOn, String.ofList_toList]

theorem segments_injective : Function.Injective segments := by
  intro first second same
  rw [← joinDots_segments first, same, joinDots_segments]

theorem segments_ne_nil (path : String) : segments path ≠ [] := by
  rw [segments, ne_eq, List.map_eq_nil_iff]
  exact List.splitOn_ne_nil '.' path.toList

/-- A segment is a piece of a path without dots. -/
def IsSegment (segment : String) : Prop :=
  '.' ∉ segment.toList

theorem isSegment_of_mem {path segment : String} (member : segment ∈ segments path) :
    IsSegment segment := by
  obtain ⟨piece, listed, rfl⟩ := List.mem_map.mp member
  rw [IsSegment, String.toList_ofList]
  exact Library.not_mem_of_mem_splitOn '.' listed

theorem segments_joinDots {path : List String} (nonempty : path ≠ [])
    (plain : ∀ segment ∈ path, IsSegment segment) : segments (joinDots path) = path := by
  have pieces : ∀ piece ∈ path.map String.toList, '.' ∉ piece := by
    intro piece member
    obtain ⟨segment, listed, rfl⟩ := List.mem_map.mp member
    exact plain segment listed
  rw [segments, joinDots, String.toList_ofList,
    List.splitOn_intercalate '.' pieces (by simpa using nonempty), List.map_map]
  have same : String.ofList ∘ String.toList = id := by
    funext text
    exact String.ofList_toList
  rw [same, List.map_id]

theorem toList_segments (path : String) :
    (segments path).map String.toList = path.toList.splitOn '.' := by
  rw [segments, List.map_map]
  have same : String.toList ∘ String.ofList = id := by
    funext chars
    exact String.toList_ofList
  rw [same, List.map_id]

/-- Strictly below a path, in characters and in segments. -/
theorem startsWith_dot_iff (path ancestor : String) :
    startsWith path (ancestor ++ ".") = true ↔
      ∃ rest, rest ≠ [] ∧ segments path = segments ancestor ++ rest := by
  rw [startsWith, List.isPrefixOf_iff_prefix, String.toList_append]
  have dot : ".".toList = ['.'] := rfl
  rw [dot, Library.append_separator_prefix_iff]
  constructor
  · rintro ⟨rest, nonempty, same⟩
    refine ⟨rest.map String.ofList, by simpa using nonempty, ?_⟩
    rw [segments, segments, same, List.map_append]
  · rintro ⟨rest, nonempty, same⟩
    refine ⟨rest.map String.toList, by simpa using nonempty, ?_⟩
    rw [← toList_segments, ← toList_segments, same, List.map_append]

theorem atOrBelow_iff (path ancestor : String) :
    (path == ancestor || startsWith path (ancestor ++ ".")) = true ↔
      segments ancestor <+: segments path := by
  rw [Bool.or_eq_true, beq_iff_eq, startsWith_dot_iff]
  constructor
  · rintro (rfl | ⟨rest, _, same⟩)
    · exact List.prefix_refl _
    · exact ⟨rest, same.symm⟩
  · rintro ⟨rest, same⟩
    by_cases empty : rest = []
    · subst empty
      rw [List.append_nil] at same
      exact Or.inl (segments_injective same).symm
    · exact Or.inr ⟨rest, empty, same.symm⟩

variable {c : Char}

theorem isDigit_of_mem_repr {n : Nat} (member : c ∈ n.repr.toList) : isDigit c = true := by
  rw [Nat.toList_repr] at member
  have digit : c.isDigit = true := Nat.isDigit_of_mem_toDigits (by decide) (by decide) member
  exact digit

/-- Only the number zero starts with the digit zero. -/
theorem head_toDigits {n : Nat} (positive : 0 < n) :
    (Nat.toDigits 10 n).head? ≠ some '0' := by
  induction n using Nat.strongRecOn with
  | ind n ih =>
    by_cases small : n < 10
    · rw [Nat.toDigits_of_lt_base small, List.head?_cons, ne_eq, Option.some.injEq]
      have cases : n = 1 ∨ n = 2 ∨ n = 3 ∨ n = 4 ∨ n = 5 ∨ n = 6 ∨ n = 7 ∨ n = 8 ∨ n = 9 := by
        omega
      rcases cases with rfl | rfl | rfl | rfl | rfl | rfl | rfl | rfl | rfl <;> decide
    · rw [Nat.toDigits_of_base_le (by omega) (by omega),
        List.head?_append_of_ne_nil _ Nat.toDigits_ne_nil]
      exact ih (n / 10) (by omega) (by omega)

theorem isIndexText_repr (n : Nat) : isIndexText n.repr = true := by
  by_cases zero : n = 0
  · subst zero
    rfl
  · have start : (Nat.toDigits 10 n).head? ≠ some '0' := head_toDigits (by omega)
    have digits : ∀ c ∈ Nat.toDigits 10 n, isDigit c = true := by
      intro c member
      rw [← Nat.toList_repr] at member
      exact isDigit_of_mem_repr member
    unfold isIndexText
    rw [Nat.toList_repr]
    cases shape : Nat.toDigits 10 n with
    | nil => exact absurd shape Nat.toDigits_ne_nil
    | cons head rest =>
      rw [shape] at start digits
      have nonzero : head ≠ '0' := by simpa using start
      have headDigit := digits head List.mem_cons_self
      have restDigits : rest.all isDigit = true :=
        List.all_eq_true.mpr fun c member => digits c (List.mem_cons_of_mem _ member)
      split
      · next same => exact absurd (List.cons.inj same).1 nonzero
      · next same =>
        obtain ⟨rfl, rfl⟩ := List.cons.inj same
        simp [headDigit, nonzero, restDigits]
      · next same => contradiction

theorem digitsValue_repr (n : Nat) : digitsValue n.repr.toList = n := by
  rw [Nat.toList_repr]
  exact Nat.ofDigitChars_ten_toDigits

theorem arrayIndex_repr (n : Nat) : arrayIndex n.repr = some n := by
  rw [arrayIndex, if_pos (isIndexText_repr n), digitsValue_repr]

theorem repr_injective {n m : Nat} (same : n.repr = m.repr) : n = m := by
  rw [← digitsValue_repr n, same, digitsValue_repr]

theorem digitChar_of_isDigit (digit : isDigit c = true) :
    Nat.digitChar (c.toNat - '0'.toNat) = c := by
  rw [isDigit, Bool.and_eq_true, decide_eq_true_eq, decide_eq_true_eq] at digit
  have lower : 48 ≤ c.toNat := digit.1
  have upper : c.toNat ≤ 57 := digit.2
  have zero : '0'.toNat = 48 := rfl
  have cases : c.toNat = 48 ∨ c.toNat = 49 ∨ c.toNat = 50 ∨ c.toNat = 51 ∨ c.toNat = 52 ∨
      c.toNat = 53 ∨ c.toNat = 54 ∨ c.toNat = 55 ∨ c.toNat = 56 ∨ c.toNat = 57 := by
    omega
  have same : c = Char.ofNat c.toNat := (Char.ofNat_toNat c).symm
  rcases cases with h | h | h | h | h | h | h | h | h | h <;> rw [h] at same <;> subst same <;> rfl

theorem digitsValue_append (digits : List Char) (digit : Char) :
    digitsValue (digits ++ [digit]) = 10 * digitsValue digits + (digit.toNat - '0'.toNat) := by
  rw [digitsValue, List.foldl_append]
  rfl

theorem isDigit_lt (digit : isDigit c = true) : c.toNat - '0'.toNat < 10 := by
  rw [isDigit, Bool.and_eq_true, decide_eq_true_eq, decide_eq_true_eq] at digit
  have upper : c.toNat ≤ 57 := digit.2
  have zero : '0'.toNat = 48 := rfl
  omega

/-- Digits without a leading zero are the ones their number is written with. -/
theorem toDigits_digitsValue {head : Char} (rest : List Char) (nonzero : head ≠ '0')
    (digits : ∀ c ∈ head :: rest, isDigit c = true) :
    0 < digitsValue (head :: rest) ∧
      Nat.toDigits 10 (digitsValue (head :: rest)) = head :: rest := by
  induction rest using List.reverseRecOn with
  | nil =>
    have digit := digits head List.mem_cons_self
    have value : digitsValue [head] = head.toNat - '0'.toNat := by
      rw [digitsValue, List.foldl_cons, List.foldl_nil]
      omega
    have same := digitChar_of_isDigit digit
    rw [value]
    refine ⟨?_, ?_⟩
    · by_contra small
      have zero : head.toNat - '0'.toNat = 0 := by omega
      rw [zero] at same
      exact nonzero same.symm
    · rw [Nat.toDigits_of_lt_base (isDigit_lt digit), same]
  | append_singleton rest last ih =>
    have earlier : ∀ c ∈ head :: rest, isDigit c = true := by
      intro c member
      apply digits c
      rw [← List.cons_append]
      exact List.mem_append_left _ member
    have final : isDigit last = true := digits last (by simp)
    obtain ⟨positive, same⟩ := ih earlier
    rw [← List.cons_append, digitsValue_append]
    refine ⟨by omega, ?_⟩
    rw [← Nat.toDigits_append_toDigits (by omega) positive (isDigit_lt final), same,
      Nat.toDigits_of_lt_base (isDigit_lt final), digitChar_of_isDigit final]

theorem repr_of_arrayIndex {key : String} {index : Nat} (spelled : arrayIndex key = some index) :
    index.repr = key := by
  rw [arrayIndex] at spelled
  split at spelled
  · next text =>
    apply String.toList_inj.mp
    rw [← Option.some.inj spelled, Nat.toList_repr]
    rw [isIndexText] at text
    split at text
    · next same => rw [same]; rfl
    · next head rest _ same =>
      simp only [Bool.and_eq_true, bne_iff_ne, List.all_eq_true] at text
      rw [same]
      refine (toDigits_digitsValue rest text.1.2 ?_).2
      intro c member
      rcases List.mem_cons.mp member with rfl | member
      · exact text.1.1
      · exact text.2 c member
    · contradiction
  · contradiction

end WebTsToolkit.Js
