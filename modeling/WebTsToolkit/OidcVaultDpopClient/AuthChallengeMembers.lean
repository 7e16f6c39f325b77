import Mathlib.Data.List.TakeWhile
import WebTsToolkit.OidcVaultDpopClient.AuthChallenge

set_option autoImplicit false

namespace WebTsToolkit.OidcVaultDpopClient

section Classes

variable {c : Char}

theorem ne_of_token {mark : Char} (token : isTokenChar c = true)
    (apart : isTokenChar mark = false) : c ≠ mark := by
  rintro rfl
  rw [token] at apart
  contradiction

theorem ows_cases (blank : isOws c = true) : c = ' ' ∨ c = '\t' := by
  rwa [isOws, Bool.or_eq_true, beq_iff_eq, beq_iff_eq] at blank

theorem token_of_ows (blank : isOws c = true) : isTokenChar c = false := by
  rcases ows_cases blank with rfl | rfl <;> decide

theorem ows_of_token (token : isTokenChar c = true) : isOws c = false := by
  by_contra blank
  rw [Bool.not_eq_false] at blank
  rw [token_of_ows blank] at token
  contradiction

theorem not_ows_token68 (token : isToken68Char c = true) : isOws c = false ∧ c ≠ '=' := by
  constructor
  · by_contra blank
    rw [Bool.not_eq_false] at blank
    rcases ows_cases blank with rfl | rfl <;> contradiction
  · rintro rfl
    contradiction

end Classes

/-- The run of a class ends where another character stands. -/
theorem takeWhile_run {p : Char → Bool} {run : Chars} (inside : ∀ c ∈ run, p c = true) {c : Char}
    (outside : p c = false) (rest : Chars) :
    (run ++ c :: rest).takeWhile p = run ∧ (run ++ c :: rest).dropWhile p = c :: rest := by
  constructor
  · rw [List.takeWhile_append_of_pos inside, List.takeWhile_cons_of_neg (by simp [outside]),
      List.append_nil]
  · rw [List.dropWhile_append_of_pos inside, List.dropWhile_cons_of_neg (by simp [outside])]

theorem Token.exists_cons (token : Token) :
    ∃ c rest, token.chars = c :: rest ∧ isTokenChar c = true := by
  obtain ⟨c, rest, same⟩ := List.exists_cons_of_ne_nil token.nonempty
  exact ⟨c, rest, same, token.token c (same ▸ List.mem_cons_self)⟩

theorem isToken_iff (raw : Chars) :
    isToken raw = true ↔ raw ≠ [] ∧ ∀ c ∈ raw, isTokenChar c = true := by
  rw [isToken, Bool.and_eq_true, Bool.not_eq_true', List.isEmpty_eq_false_iff, List.all_eq_true]

/-- Where a text starts after white space. -/
theorem dropWhile_ows (blanks : Ows) {c : Char} (start : isOws c = false) (rest : Chars) :
    (blanks.chars ++ c :: rest).dropWhile isOws = c :: rest :=
  (takeWhile_run blanks.blank start rest).2

theorem ParameterValue.exists_cons (value : ParameterValue) :
    ∃ c rest, value.text = c :: rest ∧ isOws c = false := by
  cases value with
  | token bare =>
    obtain ⟨c, rest, same, token⟩ := bare.exists_cons
    exact ⟨c, rest, same, ows_of_token token⟩
  | quoted content => exact ⟨'"', _, rfl, by decide⟩

theorem matchParameter_text (parameter : Parameter)
    (dots : parameter.value.text.all isDot = true) :
    matchParameter parameter.text = some (parameter.name.chars, parameter.value.text) := by
  obtain ⟨c, rest, text, start⟩ := parameter.value.exists_cons
  have value := dropWhile_ows parameter.after start rest
  rw [← text] at value
  have equals := dropWhile_ows parameter.before (show isOws '=' = false by decide)
    (parameter.after.chars ++ parameter.value.text)
  have run : parameter.text.takeWhile isTokenChar = parameter.name.chars ∧
      parameter.text.dropWhile isTokenChar =
        parameter.before.chars ++ '=' :: (parameter.after.chars ++ parameter.value.text) := by
    rw [Parameter.text]
    cases blanks : parameter.before.chars with
    | nil => exact takeWhile_run parameter.name.token (by decide) _
    | cons blank blanks =>
      apply takeWhile_run parameter.name.token
      apply token_of_ows
      apply parameter.before.blank
      rw [blanks]
      exact List.mem_cons_self
  have named : parameter.name.chars.isEmpty = false :=
    List.isEmpty_eq_false_iff.mpr parameter.name.nonempty
  rw [matchParameter, run.1, run.2, equals]
  simp only [value, named, dots, Bool.not_true, Bool.or_self, Bool.false_eq_true, if_false]

theorem unquote_content (content : List QuotedPiece) :
    unquote (content.flatMap QuotedPiece.text ++ ['"']) =
      some (content.map QuotedPiece.decoded) := by
  induction content with
  | nil => rfl
  | cons piece content ih =>
    rw [List.flatMap_cons, List.append_assoc]
    cases piece with
    | plain c quote backslash =>
      show unquote (c :: (content.flatMap QuotedPiece.text ++ ['"'])) = _
      rw [unquote.eq_def]
      dsimp only
      rw [if_neg (by simpa using quote), if_neg (by simpa using backslash), ih]
      rfl
    | pair c =>
      show unquote ('\\' :: c :: (content.flatMap QuotedPiece.text ++ ['"'])) = _
      rw [unquote.eq_def]
      dsimp only
      rw [if_neg (by decide), if_pos (by decide), ih]
      rfl

/-- A parameter is read as its name and its decoded value. -/
theorem parameterOf_text (parameter : Parameter)
    (dots : parameter.value.text.all isDot = true) :
    parameterOf parameter.text = some parameter.entry := by
  rw [parameterOf, matchParameter_text parameter dots, Parameter.entry]
  cases parameter.value with
  | token bare =>
    have token : isToken bare.chars = true :=
      (isToken_iff bare.chars).mpr ⟨bare.nonempty, bare.token⟩
    show (if isToken bare.chars then _ else _) = _
    rw [if_pos token]
    rfl
  | quoted content =>
    have text : isToken ('"' :: (content.flatMap QuotedPiece.text ++ ['"'])) = false := rfl
    show (if isToken ('"' :: (content.flatMap QuotedPiece.text ++ ['"'])) then _ else _) = _
    rw [text, if_neg Bool.false_ne_true]
    show (unquote _).map _ = _
    rw [unquote_content]
    rfl

theorem exists_content {raw value : Chars} (read : unquote raw = some value) :
    ∃ content : List QuotedPiece, raw = content.flatMap QuotedPiece.text ++ ['"'] ∧
      value = content.map QuotedPiece.decoded := by
  fun_induction unquote raw generalizing value with
  | case1 => contradiction
  | case2 c rest quote last =>
    obtain rfl := Option.some.inj read
    rw [beq_iff_eq] at quote
    rw [List.isEmpty_iff] at last
    exact ⟨[], by rw [quote, last]; rfl, rfl⟩
  | case3 | case4 => contradiction
  | case5 c quote backslash escaped rest ih =>
    obtain ⟨content, inner, rfl⟩ := Option.map_eq_some_iff.mp read
    obtain ⟨parts, same, rfl⟩ := ih inner
    rw [beq_iff_eq] at backslash
    refine ⟨.pair escaped :: parts, ?_, rfl⟩
    rw [backslash, same, List.flatMap_cons, List.append_assoc]
    rfl
  | case6 c rest quote backslash ih =>
    obtain ⟨content, inner, rfl⟩ := Option.map_eq_some_iff.mp read
    obtain ⟨parts, same, rfl⟩ := ih inner
    refine ⟨.plain c (by simpa using quote) (by simpa using backslash) :: parts, ?_, rfl⟩
    rw [same, List.flatMap_cons, List.append_assoc]
    rfl

theorem mem_takeWhile {p : Char → Bool} {c : Char} {text : Chars}
    (member : c ∈ text.takeWhile p) : p c = true :=
  List.mem_takeWhile_imp member

/-- The token that a text starts with. -/
def leadingToken (text : Chars) (nonempty : text.takeWhile isTokenChar ≠ []) : Token where
  chars := text.takeWhile isTokenChar
  nonempty := nonempty
  token _ member := mem_takeWhile member

/-- The white space that a text starts with. -/
def leadingOws (text : Chars) : Ows where
  chars := text.takeWhile isOws
  blank _ member := mem_takeWhile member

theorem exists_match {part name raw : Chars} (matched : matchParameter part = some (name, raw)) :
    ∃ (token : Token) (before after : Ows), token.chars = name ∧
      part = name ++ (before.chars ++ '=' :: (after.chars ++ raw)) := by
  have split : part.takeWhile isTokenChar ++ part.dropWhile isTokenChar = part :=
    List.takeWhile_append_dropWhile
  have blanks : (part.dropWhile isTokenChar).takeWhile isOws ++
      (part.dropWhile isTokenChar).dropWhile isOws = part.dropWhile isTokenChar :=
    List.takeWhile_append_dropWhile
  unfold matchParameter at matched
  split at matched
  · next rest equals =>
    have value : rest.takeWhile isOws ++ rest.dropWhile isOws = rest :=
      List.takeWhile_append_dropWhile
    dsimp only at matched
    split at matched
    · contradiction
    · next accepted =>
      rw [Option.some.injEq, Prod.mk.injEq] at matched
      obtain ⟨rfl, rfl⟩ := matched
      rw [Bool.or_eq_true, not_or, List.isEmpty_iff] at accepted
      refine ⟨leadingToken part accepted.1, leadingOws (part.dropWhile isTokenChar),
        leadingOws rest, rfl, ?_⟩
      show part = part.takeWhile isTokenChar ++
        ((part.dropWhile isTokenChar).takeWhile isOws ++
          '=' :: (rest.takeWhile isOws ++ rest.dropWhile isOws))
      rw [value, ← equals, blanks, split]
  · contradiction

/-- What is read as a parameter is the text of one. -/
theorem exists_parameter {part : Chars} {entry : String × String}
    (read : parameterOf part = some entry) :
    ∃ parameter : Parameter, parameter.text = part ∧ parameter.entry = entry := by
  unfold parameterOf at read
  split at read
  · contradiction
  · next name raw matched =>
    obtain ⟨token, before, after, rfl, same⟩ := exists_match matched
    split at read
    · next bare =>
      rw [isToken_iff] at bare
      refine ⟨⟨token, before, after, .token ⟨raw, bare.1, bare.2⟩⟩, same.symm, ?_⟩
      exact Option.some.inj read
    · split at read
      · next rest _ =>
        obtain ⟨value, unquoted, rfl⟩ := Option.map_eq_some_iff.mp read
        obtain ⟨content, rfl, rfl⟩ := exists_content unquoted
        exact ⟨⟨token, before, after, .quoted content⟩, same.symm, rfl⟩
      · contradiction

section Heads

/-- A text that starts neither with white space nor with an equals sign. -/
def StartsPlain (text : Chars) : Prop :=
  ∃ c rest, text = c :: rest ∧ isOws c = false ∧ c ≠ '='

theorem Parameter.startsPlain (parameter : Parameter) : StartsPlain parameter.text := by
  obtain ⟨c, rest, same, token⟩ := parameter.name.exists_cons
  have text : parameter.text = c :: (rest ++ (parameter.before.chars ++
      '=' :: (parameter.after.chars ++ parameter.value.text))) := by
    rw [Parameter.text, same, List.cons_append]
  exact ⟨c, _, text, ows_of_token token, ne_of_token token (by decide)⟩

theorem Token68.startsPlain (token : Token68) : StartsPlain token.text := by
  obtain ⟨c, rest, same⟩ := List.exists_cons_of_ne_nil token.nonempty
  have plain := not_ows_token68 (token.token c (same ▸ List.mem_cons_self))
  have text : token.text = c :: (rest ++ List.replicate token.padding '=') := by
    rw [Token68.text, same, List.cons_append]
  exact ⟨c, _, text, plain.1, plain.2⟩

variable {part : Chars} {text : Chars}

theorem matchParameter_of_plain
    (plain : ∀ rest, (part.dropWhile isTokenChar).dropWhile isOws ≠ '=' :: rest) :
    matchParameter part = none := by
  unfold matchParameter
  split
  · next rest equals => exact absurd equals (plain rest)
  · rfl

theorem parameterOf_of_unmatched (unmatched : matchParameter part = none) :
    parameterOf part = none := by
  rw [parameterOf, unmatched]

/-- A scheme alone is no parameter. -/
theorem parameterOf_scheme (scheme : Token) : parameterOf scheme.chars = none := by
  apply parameterOf_of_unmatched
  apply matchParameter_of_plain
  intro rest
  have run : scheme.chars.dropWhile isTokenChar = [] :=
    List.dropWhile_eq_nil_iff.mpr scheme.token
  rw [run]
  exact fun impossible => List.cons_ne_nil _ _ impossible.symm

theorem matchChallenge_scheme (scheme : Token) :
    matchChallenge scheme.chars = some (scheme.chars, none) := by
  have drop : scheme.chars.dropWhile isTokenChar = [] :=
    List.dropWhile_eq_nil_iff.mpr scheme.token
  have take : scheme.chars.takeWhile isTokenChar = scheme.chars :=
    List.takeWhile_eq_self_iff.mpr scheme.token
  have named : scheme.chars.isEmpty = false := List.isEmpty_eq_false_iff.mpr scheme.nonempty
  rw [matchChallenge]
  simp only [drop, take, named, Bool.false_eq_true, if_false, List.isEmpty_nil, if_true]

theorem scheme_run (scheme : Token) (more : Nat) (text : Chars) :
    (scheme.chars ++ (spaces more ++ text)).takeWhile isTokenChar = scheme.chars ∧
      (scheme.chars ++ (spaces more ++ text)).dropWhile isTokenChar = spaces more ++ text := by
  have start : spaces more ++ text = ' ' :: (List.replicate more ' ' ++ text) := by
    rw [spaces, List.replicate_succ, List.cons_append]
  rw [start]
  exact takeWhile_run scheme.token (by decide) _

theorem mem_spaces {more : Nat} {c : Char} (member : c ∈ spaces more) : c = ' ' :=
  List.eq_of_mem_replicate member

/-- A scheme with credentials is no parameter. -/
theorem parameterOf_credentials (scheme : Token) (more : Nat) (plain : StartsPlain text) :
    parameterOf (scheme.chars ++ (spaces more ++ text)) = none := by
  obtain ⟨c, rest, rfl, start, apart⟩ := plain
  apply parameterOf_of_unmatched
  apply matchParameter_of_plain
  intro other
  have blank : ∀ space ∈ spaces more, isOws space = true := by
    intro space member
    rw [mem_spaces member]
    rfl
  rw [(scheme_run scheme more _).2, (takeWhile_run blank start rest).2]
  intro same
  exact apart (List.cons.inj same).1

theorem matchChallenge_credentials (scheme : Token) (more : Nat) (plain : StartsPlain text)
    (dots : text.all isDot = true) :
    matchChallenge (scheme.chars ++ (spaces more ++ text)) = some (scheme.chars, some text) := by
  obtain ⟨c, rest, rfl, start, _⟩ := plain
  have run := scheme_run scheme more (c :: rest)
  have named : scheme.chars.isEmpty = false := List.isEmpty_eq_false_iff.mpr scheme.nonempty
  have inside : ∀ space ∈ spaces more, (space == ' ') = true := by
    intro space member
    rw [mem_spaces member]
    rfl
  have outside : (c == ' ') = false := by
    by_contra space
    rw [Bool.not_eq_false, beq_iff_eq] at space
    rw [space] at start
    contradiction
  have blanks := takeWhile_run inside outside rest
  have present : (spaces more ++ c :: rest).isEmpty = false := by
    rw [spaces, List.replicate_succ]
    rfl
  have spaced : (spaces more).isEmpty = false := by
    rw [spaces, List.replicate_succ]
    rfl
  rw [matchChallenge]
  simp only [run.1, run.2, named, present, blanks.1, blanks.2, spaced, dots, List.isEmpty_cons,
    Bool.false_eq_true, if_false, Bool.not_false, Bool.and_self, if_true]

theorem isToken68_text (token : Token68) : isToken68 token.text = true := by
  have padding : (List.replicate token.padding '=').takeWhile isToken68Char = [] ∧
      (List.replicate token.padding '=').dropWhile isToken68Char =
        List.replicate token.padding '=' := by
    cases token.padding with
    | zero | succ padding => exact ⟨rfl, rfl⟩
  have named : token.chars.isEmpty = false := List.isEmpty_eq_false_iff.mpr token.nonempty
  rw [isToken68, Token68.text, List.takeWhile_append_of_pos token.token,
    List.dropWhile_append_of_pos token.token, padding.1, padding.2, List.append_nil, named,
    Bool.not_false, Bool.true_and, List.all_eq_true]
  intro c member
  rw [List.eq_of_mem_replicate member]
  rfl

theorem exists_token68 (read : isToken68 text = true) : ∃ token : Token68, token.text = text := by
  rw [isToken68, Bool.and_eq_true, Bool.not_eq_true', List.isEmpty_eq_false_iff,
    List.all_eq_true] at read
  have padding : text.dropWhile isToken68Char =
      List.replicate (text.dropWhile isToken68Char).length '=' := by
    apply List.eq_replicate_length.mpr
    intro c member
    simpa using read.2 c member
  refine ⟨⟨text.takeWhile isToken68Char, (text.dropWhile isToken68Char).length, read.1,
    fun _ member => mem_takeWhile member⟩, ?_⟩
  rw [Token68.text, ← padding]
  exact List.takeWhile_append_dropWhile

/-- Padding is no value of a parameter. -/
theorem parameterOf_padding (padding : Nat) (name : Chars)
    (token : ∀ c ∈ name, isTokenChar c = true) (same : part = name ++ List.replicate padding '=') :
    parameterOf part = none := by
  subst same
  cases padding with
  | zero =>
    apply parameterOf_of_unmatched
    apply matchParameter_of_plain
    intro rest
    rw [List.replicate_zero, List.append_nil, List.dropWhile_eq_nil_iff.mpr token]
    exact fun impossible => List.cons_ne_nil _ _ impossible.symm
  | succ padding =>
    have run := takeWhile_run token (show isTokenChar '=' = false by decide)
      (List.replicate padding '=')
    have value : (List.replicate padding '=').dropWhile isOws = List.replicate padding '=' := by
      cases padding <;> rfl
    have bare : isToken (List.replicate padding '=') = false := by
      cases padding <;> rfl
    have equals : ('=' :: List.replicate padding '=').dropWhile isOws =
      '=' :: List.replicate padding '=' := rfl
    rw [parameterOf, matchParameter, List.replicate_succ, run.1, run.2, equals]
    simp only [value]
    split
    · rfl
    · next matched =>
      split at matched
      · contradiction
      · rw [Option.some.injEq, Prod.mk.injEq] at matched
        obtain ⟨rfl, rfl⟩ := matched
        rw [bare, if_neg Bool.false_ne_true]
        cases padding <;> rfl

/-- A token68 is no parameter. -/
theorem parameterOf_token68 (token : Token68) : parameterOf token.text = none := by
  by_cases name : ∀ c ∈ token.chars, isTokenChar c = true
  · exact parameterOf_padding token.padding token.chars name rfl
  · apply parameterOf_of_unmatched
    apply matchParameter_of_plain
    intro rest same
    have stops : token.chars.dropWhile isTokenChar ≠ [] := by
      intro ended
      exact name (List.dropWhile_eq_nil_iff.mp ended)
    obtain ⟨c, others, start⟩ := List.exists_cons_of_ne_nil stops
    have inside : c ∈ token.chars := by
      apply (List.dropWhile_sublist isTokenChar).subset
      rw [start]
      exact List.mem_cons_self
    have plain := not_ows_token68 (token.token c inside)
    rw [Token68.text, List.dropWhile_append, start, List.isEmpty_cons, if_neg Bool.false_ne_true,
      List.cons_append, List.dropWhile_cons_of_neg (by simp [plain.1])] at same
    exact plain.2 (List.cons.inj same).1

theorem readCredentials_token68 (token : Token68) :
    readCredentials (some token.text) = some none := by
  rw [readCredentials, parameterOf_token68]
  exact if_pos (isToken68_text token)

theorem readCredentials_parameter (parameter : Parameter)
    (dots : parameter.value.text.all isDot = true) :
    readCredentials (some parameter.text) =
      some (some ((∅ : Js.Map String).set parameter.entry.1 parameter.entry.2)) := by
  rw [readCredentials, parameterOf_text parameter dots]

end Heads

end WebTsToolkit.OidcVaultDpopClient
