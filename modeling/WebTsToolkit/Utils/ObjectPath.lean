import WebTsToolkit.Js.Property

set_option autoImplicit false

namespace WebTsToolkit.Utils

open Js

def isQuote (c : Char) : Bool :=
  c == '"' || c == '\''

def isBracket (c : Char) : Bool :=
  c == '[' || c == ']'

def isBareChar (c : Char) : Bool :=
  c != '.' && !isBracket c

/-- What follows an opening bracket that the grammar accepts: the name, and the rest of the
text past the closing bracket. -/
def bracketName (text : List Char) : Option (List Char × List Char) :=
  match text with
  | [] => none
  | quote :: inner =>
    if isQuote quote then
      match inner.takeWhile (!isQuote ·), inner.dropWhile (!isQuote ·) with
      | first :: name, _ :: ']' :: rest => some (first :: name, rest)
      | _, _ => none
    else
      match text.takeWhile fun c => !isQuote c && !isBracket c,
        text.dropWhile fun c => !isQuote c && !isBracket c with
      | first :: name, ']' :: rest => some (first :: name, rest)
      | _, _ => none

/-- The matches of the path pattern from left to right. Characters that start no match are
passed over; `fuel` bounds the number of characters. -/
def pathTokens (fuel : Nat) (text : List Char) : List String :=
  match fuel, text with
  | 0, _ => []
  | _, [] => []
  | fuel + 1, c :: rest =>
    if isBareChar c then
      String.ofList (text.takeWhile isBareChar) :: pathTokens fuel (text.dropWhile isBareChar)
    else if c = '[' then
      match bracketName rest with
      | some (name, rest') => String.ofList name :: pathTokens fuel rest'
      | none => pathTokens fuel rest
    else pathTokens fuel rest

def toPath (path : String) : List String :=
  if path = "" then []
  else
    match pathTokens path.length path.toList with
    | [] => [path]
    | parts => parts

def isArrayIndexKey (key : String) : Bool :=
  match arrayIndex key with
  | some index => index < 4294967295
  | none => false

def unsafePathParts : List String :=
  ["__proto__", "constructor", "prototype"]

def isObject : Value → Bool
  | .array _ | .object _ | .classed _ _ | .date _ | .regexp _ _ | .callable _ => true
  | _ => false

/-- A numeric key goes before the greater ones and before all other keys, any other new key
goes last. -/
def insertEntry (entries : Entries) (key : String) (value : Value) : Entries :=
  let before : String × Value → Bool := fun entry =>
    isArrayIndexKey entry.1 && (arrayIndex entry.1).getD 0 < (arrayIndex key).getD 0
  if isArrayIndexKey key then
    entries.takeWhile before ++ (key, value) :: entries.dropWhile before
  else entries ++ [(key, value)]

def defineEntry (entries : Entries) (key : String) (value : Value) : Entries :=
  if (getOwn entries key).isSome then
    entries.map fun entry => if entry.1 = key then (key, value) else entry
  else insertEntry entries key value

def defineItem (items : List Value) (index : Nat) (value : Value) : List Value :=
  if index < items.length then items.set index value
  else items ++ List.replicate (index - items.length) .hole ++ [value]

/-- Own properties of an array other than its items, and those of dates, maps, documents and
other leaves, are not represented: defining one changes nothing here. -/
def defineOwnValue (target : Value) (key : String) (value : Value) : Value :=
  match target with
  | .object entries => .object (defineEntry entries key value)
  | .array items =>
    if isArrayIndexKey key then .array (defineItem items ((arrayIndex key).getD 0) value)
    else target
  | .classed (.custom name) fields => .classed (.custom name) (defineEntry fields key value)
  | _ => target

def newContainer (nextKey : String) : Value :=
  if isArrayIndexKey nextKey then .array [] else .object []

/-- The container that a path continues in: an own object-valued property is reused. -/
def enter (current : Value) (key nextKey : String) : Value :=
  match ownProperty current key with
  | some existing => if isObject existing then existing else newContainer nextKey
  | none => newContainer nextKey

def setParts (current : Value) (parts : List String) (value : Value) : Value :=
  match parts with
  | [] => current
  | [key] => defineOwnValue current key value
  | key :: nextKey :: rest =>
    defineOwnValue current key (setParts (enter current key nextKey) (nextKey :: rest) value)

def setPath (target : Value) (path : String) (value : Value) : Value :=
  if (toPath path).any unsafePathParts.contains then target
  else setParts target (toPath path) value

/-- A read that only follows own properties. -/
def readOwn (value : Value) (parts : List String) : Option Value :=
  match parts with
  | [] => some value
  | key :: rest => (ownProperty value key).bind (readOwn · rest)

/-- `Object.entries`. -/
def itemEntries (index : Nat) (items : List Value) : Entries :=
  match items with
  | [] => []
  | .hole :: rest => itemEntries (index + 1) rest
  | item :: rest => (index.repr, item) :: itemEntries (index + 1) rest

def entriesOf : Value → Entries
  | .object entries => entries
  | .array items => itemEntries 0 items
  | .classed (.custom _) fields => fields
  | _ => []

example : toPath "a[0].b['c.d'][e]" = ["a", "0", "b", "c.d", "e"] := by decide

example : setPath (.object []) "a.1.b" (.bool true) =
    .object [("a", .array [.hole, .object [("b", .bool true)]])] := by rfl

variable {key other : String} {entries : Entries}

theorem getOwn_append_cons_ne {before after : Entries} (value : Value) (apart : other ≠ key) :
    getOwn (before ++ (key, value) :: after) other = getOwn (before ++ after) other := by
  have skipped : (other == key) = false := beq_eq_false_iff_ne.mpr apart
  simp only [getOwn, List.lookup_append, List.lookup_cons, skipped]

theorem getOwn_insertEntry_ne (value : Value) (apart : other ≠ key) :
    getOwn (insertEntry entries key value) other = getOwn entries other := by
  rw [insertEntry]
  split
  · rw [getOwn_append_cons_ne value apart, List.takeWhile_append_dropWhile]
  · rw [getOwn_append_cons_ne value apart, List.append_nil]

theorem getOwn_append_cons_self {before after : Entries} {key : String} (value : Value)
    (absent : getOwn before key = none) :
    getOwn (before ++ (key, value) :: after) key = some value := by
  rw [getOwn] at absent
  rw [getOwn, List.lookup_append, absent, Option.none_or, List.lookup_cons_self]

theorem getOwn_insertEntry_self {key : String} (value : Value)
    (absent : getOwn entries key = none) :
    getOwn (insertEntry entries key value) key = some value := by
  rw [insertEntry]
  split
  · apply getOwn_append_cons_self
    rw [getOwn, List.lookup_eq_none_iff] at absent ⊢
    intro entry member
    exact absent entry (List.takeWhile_subset _ member)
  · exact getOwn_append_cons_self value absent

/-- The value stored under one key is replaced. -/
theorem getOwn_replace (entries : Entries) (key other : String) (value : Value) :
    getOwn (entries.map fun entry => if entry.1 = key then (key, value) else entry) other =
      if other = key then (getOwn entries key).map fun _ => value else getOwn entries other := by
  induction entries with
  | nil => simp [getOwn]
  | cons entry rest ih =>
    rw [List.map_cons, getOwn_cons, getOwn_cons, getOwn_cons, ih]
    by_cases here : entry.1 = key
    · by_cases asked : other = key
      · simp [here, asked]
      · simp [here, asked]
    · by_cases asked : other = key
      · have elsewhere : ¬key = entry.1 := fun same => here same.symm
        simp [here, asked, elsewhere]
      · simp [here, asked]

theorem getOwn_defineEntry_ne (value : Value) (apart : other ≠ key) :
    getOwn (defineEntry entries key value) other = getOwn entries other := by
  rw [defineEntry]
  split
  · rw [getOwn_replace, if_neg apart]
  · exact getOwn_insertEntry_ne value apart

theorem getOwn_defineEntry_self (entries : Entries) (key : String) (value : Value) :
    getOwn (defineEntry entries key value) key = some value := by
  rw [defineEntry]
  split
  · next present =>
    obtain ⟨stored, found⟩ := Option.isSome_iff_exists.mp present
    rw [getOwn_replace, if_pos rfl, found]
    rfl
  · next absent => exact getOwn_insertEntry_self value (by simpa using absent)

theorem enter_cases (current : Value) (key nextKey : String) :
    (∃ existing, ownProperty current key = some existing ∧ isObject existing = true ∧
      enter current key nextKey = existing) ∨ enter current key nextKey = newContainer nextKey := by
  rw [enter]
  cases found : ownProperty current key with
  | none => exact Or.inr rfl
  | some existing =>
    by_cases object : isObject existing = true
    · exact Or.inl ⟨existing, rfl, object, if_pos object⟩
    · exact Or.inr (if_neg object)

/-- A part of a path that needs no brackets. -/
structure IsName (part : String) : Prop where
  nonempty : part ≠ ""
  bare : ∀ c ∈ part.toList, isBareChar c = true

theorem IsName.isSegment {part : String} (name : IsName part) : IsSegment part := by
  intro dot
  have bare := name.bare '.' dot
  exact absurd bare (by decide)

theorem isName_repr (index : Nat) : IsName index.repr where
  nonempty := Nat.repr_ne_empty
  bare := by
    intro c member
    have digit := isDigit_of_mem_repr member
    have notDot : c ≠ '.' := by
      rintro rfl
      exact absurd digit (by decide)
    have notOpen : c ≠ '[' := by
      rintro rfl
      exact absurd digit (by decide)
    have notClose : c ≠ ']' := by
      rintro rfl
      exact absurd digit (by decide)
    simp [isBareChar, isBracket, notDot, notOpen, notClose]

theorem pathTokens_bare (fuel : Nat) {text : List Char} (nonempty : text ≠ [])
    (bare : ∀ c ∈ text, isBareChar c = true) (rest : List Char)
    (stops : ∀ c ∈ rest.head?, isBareChar c = false) :
    pathTokens (fuel + 1) (text ++ rest) = String.ofList text :: pathTokens fuel rest := by
  have taken : (text ++ rest).takeWhile isBareChar = text := by
    rw [List.takeWhile_append_of_pos bare]
    cases rest with
    | nil => simp
    | cons c rest => simp [stops c rfl]
  have dropped : (text ++ rest).dropWhile isBareChar = rest := by
    rw [List.dropWhile_append_of_pos bare]
    cases rest with
    | nil => rfl
    | cons c rest => simp [stops c rfl]
  cases text with
  | nil => contradiction
  | cons c text =>
    have first : isBareChar c = true := bare c List.mem_cons_self
    rw [List.cons_append] at taken dropped ⊢
    rw [pathTokens, if_pos first, taken, dropped]

theorem pathTokens_joinDots {fuel : Nat} {names : List String}
    (plain : ∀ part ∈ names, IsName part) (enough : (joinDots names).toList.length ≤ fuel) :
    pathTokens fuel (joinDots names).toList = names := by
  rw [joinDots, String.toList_ofList] at enough ⊢
  induction names generalizing fuel with
  | nil => cases fuel <;> rfl
  | cons part rest ih =>
    have name := plain part List.mem_cons_self
    have some : part.toList ≠ [] := fun empty => name.nonempty (String.toList_eq_nil_iff.mp empty)
    have size : 0 < part.toList.length := List.length_pos_iff.mpr some
    have others : ∀ part ∈ rest, IsName part := fun part member =>
      plain part (List.mem_cons_of_mem _ member)
    by_cases final : rest = []
    · subst final
      rw [List.map_singleton, List.intercalate_singleton] at enough ⊢
      obtain ⟨fuel, rfl⟩ : ∃ less, fuel = less + 1 := ⟨fuel - 1, by omega⟩
      have tokens := pathTokens_bare fuel some name.bare [] (by simp)
      rw [List.append_nil] at tokens
      rw [tokens, String.ofList_toList]
      cases fuel <;> rfl
    · have further : rest.map String.toList ≠ [] := by simpa using final
      rw [List.map_cons, Library.intercalate_cons '.' part.toList further] at enough ⊢
      rw [List.length_append, List.length_cons] at enough
      obtain ⟨fuel, rfl⟩ : ∃ less, fuel = less + 2 := ⟨fuel - 2, by omega⟩
      have stops : ∀ c ∈ ('.' :: ['.'].intercalate (rest.map String.toList)).head?,
          isBareChar c = false := by
        intro c first
        rw [List.head?_cons, Option.mem_some_iff] at first
        rw [← first]
        rfl
      rw [pathTokens_bare (fuel + 1) some name.bare _ stops, String.ofList_toList]
      have dot : pathTokens (fuel + 1) ('.' :: ['.'].intercalate (rest.map String.toList)) =
          pathTokens fuel (['.'].intercalate (rest.map String.toList)) := rfl
      rw [dot, ih others (by omega)]

theorem toPath_joinDots {names : List String} (nonempty : names ≠ [])
    (plain : ∀ part ∈ names, IsName part) : toPath (joinDots names) = names := by
  have tokens := pathTokens_joinDots plain (Nat.le_refl _)
  have written : joinDots names ≠ "" := by
    intro empty
    rw [empty] at tokens
    exact nonempty tokens.symm
  obtain ⟨first, rest, rfl⟩ := List.exists_cons_of_ne_nil nonempty
  rw [toPath, if_neg written, ← String.length_toList, tokens]

end WebTsToolkit.Utils
