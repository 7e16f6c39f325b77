import WebTsToolkit.Library.PrefixCode

set_option autoImplicit false

namespace WebTsToolkit.Js.Json

open PrefixCode

/-- `JSON.stringify` of one character inside a string. A Lean character is never a lone
surrogate, the one other class that is escaped. -/
def escape (c : Char) : List Char :=
  if c = '"' then ['\\', '"']
  else if c = '\\' then ['\\', '\\']
  else if c = '\x08' then ['\\', 'b']
  else if c = '\t' then ['\\', 't']
  else if c = '\n' then ['\\', 'n']
  else if c = '\x0c' then ['\\', 'f']
  else if c = '\r' then ['\\', 'r']
  else if c.toNat < 32 then
    ['\\', 'u', '0', '0', Nat.digitChar (c.toNat / 16), Nat.digitChar (c.toNat % 16)]
  else [c]

/-- Reads one escaped character back. -/
def unescape : List Char → Option (Char × List Char)
  | '\\' :: '"' :: rest => some ('"', rest)
  | '\\' :: '\\' :: rest => some ('\\', rest)
  | '\\' :: 'b' :: rest => some ('\x08', rest)
  | '\\' :: 't' :: rest => some ('\t', rest)
  | '\\' :: 'n' :: rest => some ('\n', rest)
  | '\\' :: 'f' :: rest => some ('\x0c', rest)
  | '\\' :: 'r' :: rest => some ('\r', rest)
  | '\\' :: 'u' :: '0' :: '0' :: high :: low :: rest =>
    ((List.range 32).find? fun code =>
      Nat.digitChar (code / 16) = high ∧ Nat.digitChar (code % 16) = low).map
        fun code => (Char.ofNat code, rest)
  | c :: rest => some (c, rest)
  | [] => none

theorem find_code (code : Nat) (control : code < 32) :
    ((List.range 32).find? fun other =>
      Nat.digitChar (other / 16) = Nat.digitChar (code / 16) ∧
        Nat.digitChar (other % 16) = Nat.digitChar (code % 16)) = some code := by
  revert code
  decide

theorem unescape_escape (c : Char) (tail : List Char) :
    unescape (escape c ++ tail) = some (c, tail) := by
  unfold escape
  split_ifs with quote slash back tab line form carriage control
  all_goals try (subst c; rfl)
  · have found := find_code c.toNat control
    simp only [List.cons_append, List.nil_append, unescape, found, Option.map_some,
      Char.ofNat_toNat]
  · simp only [List.cons_append, List.nil_append]
    unfold unescape
    split <;> simp_all

theorem escape_delimited : SelfDelimiting escape :=
  .of_decode unescape unescape_escape

theorem escape_avoids_quote : Avoids escape '"' := by
  intro c
  unfold escape
  split_ifs with quote
  all_goals exact ⟨_, _, rfl, by first | decide | assumption⟩

/-- `JSON.stringify` of a string, as characters. -/
def quote (text : String) : List Char :=
  '"' :: terminated '"' escape text.toList

theorem quote_delimited : SelfDelimiting quote :=
  ((escape_delimited.terminated escape_avoids_quote).cons '"').comap String.toList
    fun _ _ same => String.toList_inj.mp same

theorem quote_avoids (mark : Char) (apart : '"' ≠ mark) : Avoids quote mark :=
  fun _ => ⟨'"', _, rfl, apart⟩

/-- `JSON.stringify` of an array whose items stringify by `encode`. -/
def array {α : Type} (encode : α → List Char) (items : List α) : List Char :=
  '[' :: separated ',' ']' encode items

theorem array_delimited {α : Type} {encode : α → List Char}
    (delimited : SelfDelimiting encode) (avoids : Avoids encode ']') :
    SelfDelimiting (array encode) :=
  (delimited.separated (by decide) avoids).cons '['

theorem array_avoids {α : Type} (encode : α → List Char) (mark : Char) (apart : '[' ≠ mark) :
    Avoids (array encode) mark :=
  fun _ => ⟨'[', _, rfl, apart⟩

/-- `JSON.stringify` of a string. -/
def stringifyString (text : String) : String :=
  String.ofList (quote text)

/-- `JSON.stringify` of an array of strings. -/
def stringifyStrings (items : List String) : String :=
  String.ofList (array quote items)

/-- `JSON.stringify` of an array of pairs of strings. -/
def stringifyPairs (items : List (String × String)) : String :=
  String.ofList (array (fun pair => array quote [pair.1, pair.2]) items)

theorem stringifyString_injective : Function.Injective stringifyString := by
  intro first second same
  exact quote_delimited.injective (String.ofList_injective same)

theorem stringifyStrings_injective : Function.Injective stringifyStrings := by
  intro first second same
  exact (array_delimited quote_delimited (quote_avoids _ (by decide))).injective
    (String.ofList_injective same)

theorem stringifyPairs_injective : Function.Injective stringifyPairs := by
  have strings := array_delimited quote_delimited (quote_avoids ']' (by decide))
  have pairs : SelfDelimiting fun pair : String × String => array quote [pair.1, pair.2] :=
    strings.comap (fun pair : String × String => [pair.1, pair.2]) fun first second same => by
      simp only [List.cons.injEq, and_true] at same
      exact Prod.ext same.1 same.2
  intro first second same
  exact (array_delimited pairs fun pair => array_avoids quote ']' (by decide) _).injective
    (String.ofList_injective same)

example : stringifyPairs [("a\"b", "1"), ("c", "2")] = "[[\"a\\\"b\",\"1\"],[\"c\",\"2\"]]" := by
  decide

end WebTsToolkit.Js.Json
