import WebTsToolkit.Library.Separated
import WebTsToolkit.OidcVaultDpopClient.AuthChallengeRun

set_option autoImplicit false

namespace WebTsToolkit.OidcVaultDpopClient

open Js

section Pieces

/-- The pieces of a text are the text between its commas. -/
theorem intercalate_pieces {quoted escaped : Bool} {piece text : Chars} {parts : List Chars}
    (split : pieces quoted escaped piece text = some parts) :
    parts ≠ [] ∧ [','].intercalate parts = piece ++ text := by
  induction text generalizing quoted escaped piece parts with
  | nil =>
    rw [pieces] at split
    split at split
    · contradiction
    · obtain rfl := Option.some.inj split
      exact ⟨List.cons_ne_nil _ _, by simp [List.intercalate]⟩
  | cons c text ih =>
    have shifted (quoted escaped : Bool)
        (found : pieces quoted escaped (piece ++ [c]) text = some parts) :
        parts ≠ [] ∧ [','].intercalate parts = piece ++ c :: text := by
      obtain ⟨present, same⟩ := ih found
      exact ⟨present, by rw [same, List.append_assoc]; rfl⟩
    rw [pieces] at split
    split at split
    · exact shifted _ _ split
    · split at split
      · exact shifted _ _ split
      · split at split
        · exact shifted _ _ split
        · split at split
          · next comma =>
            obtain ⟨rest, found, rfl⟩ := Option.map_eq_some_iff.mp split
            obtain ⟨present, same⟩ := ih found
            rw [Bool.and_eq_true, beq_iff_eq] at comma
            refine ⟨List.cons_ne_nil _ _, ?_⟩
            rw [Library.intercalate_cons ',' piece present, same, comma.2]
            rfl
          · exact shifted _ _ split

/-- The white space that a text ends with, and the rest. -/
theorem exists_padded (text : Chars) :
    ∃ member : Member, member.text = trimOws text ∧ member.padded = text := by
  have front : text.takeWhile isOws ++ text.dropWhile isOws = text :=
    List.takeWhile_append_dropWhile
  have back : (text.dropWhile isOws).reverse.takeWhile isOws ++
      (text.dropWhile isOws).reverse.dropWhile isOws = (text.dropWhile isOws).reverse :=
    List.takeWhile_append_dropWhile
  refine ⟨⟨leadingOws text, trimOws text,
    ⟨((text.dropWhile isOws).reverse.takeWhile isOws).reverse, ?_⟩⟩, rfl, ?_⟩
  · intro c member
    exact mem_takeWhile (List.mem_reverse.mp member)
  · have middle : trimOws text ++ ((text.dropWhile isOws).reverse.takeWhile isOws).reverse =
        text.dropWhile isOws := by
      rw [trimOws, ← List.reverse_append, back, List.reverse_reverse]
    show text.takeWhile isOws ++ _ = text
    rw [middle, front]

theorem exists_members (parts : List Chars) :
    ∃ members : List Member, members.map Member.text = parts.map trimOws ∧
      members.map Member.padded = parts := by
  induction parts with
  | nil => exact ⟨[], rfl, rfl⟩
  | cons part parts ih =>
    obtain ⟨members, texts, padded⟩ := ih
    obtain ⟨member, text, same⟩ := exists_padded part
    exact ⟨member :: members, by rw [List.map_cons, text, texts]; rfl,
      by rw [List.map_cons, same, padded]⟩

/-- A text that the splitter goes through without leaving its piece. -/
def Closed (text : Chars) : Prop :=
  ∀ piece rest, pieces false false piece (text ++ rest) = pieces false false (piece ++ text) rest

theorem Closed.nil : Closed [] := by
  intro piece rest
  rw [List.append_nil]
  rfl

theorem Closed.append {first second : Chars} (one : Closed first) (two : Closed second) :
    Closed (first ++ second) := by
  intro piece rest
  rw [List.append_assoc, one, two, List.append_assoc]

theorem closed_singleton {c : Char} (quote : c ≠ '"') (comma : c ≠ ',') : Closed [c] := by
  intro piece rest
  rw [List.singleton_append, pieces]
  simp [quote, comma]

theorem closed_of_forall {text : Chars} (plain : ∀ c ∈ text, c ≠ '"' ∧ c ≠ ',') :
    Closed text := by
  induction text with
  | nil => exact Closed.nil
  | cons c text ih =>
    rw [List.forall_mem_cons] at plain
    exact (closed_singleton plain.1.1 plain.1.2).append (ih plain.2)

theorem closed_token (token : Token) : Closed token.chars := by
  apply closed_of_forall
  intro c member
  have token := token.token c member
  exact ⟨ne_of_token token (by decide), ne_of_token token (by decide)⟩

theorem closed_ows (blanks : Ows) : Closed blanks.chars := by
  apply closed_of_forall
  intro c member
  rcases ows_cases (blanks.blank c member) with rfl | rfl <;> decide

theorem closed_token68 (token : Token68) : Closed token.text := by
  apply Closed.append
  · apply closed_of_forall
    intro c member
    have inside := token.token c member
    constructor
    · rintro rfl
      contradiction
    · rintro rfl
      contradiction
  · apply closed_of_forall
    intro c member
    rw [List.eq_of_mem_replicate member]
    decide

theorem closed_spaces (more : Nat) : Closed (spaces more) := by
  apply closed_of_forall
  intro c member
  rw [mem_spaces member]
  decide

theorem pieces_quote (quoted : Bool) (piece rest : Chars) :
    pieces quoted false piece ('"' :: rest) = pieces (!quoted) false (piece ++ ['"']) rest := by
  rw [pieces]
  cases quoted <;> rfl

theorem pieces_backslash (piece rest : Chars) :
    pieces true false piece ('\\' :: rest) = pieces true true (piece ++ ['\\']) rest := by
  rw [pieces]
  rfl

theorem pieces_escaped (c : Char) (piece rest : Chars) :
    pieces true true piece (c :: rest) = pieces true false (piece ++ [c]) rest := by
  rw [pieces]
  rfl

theorem pieces_content (content : List QuotedPiece) (piece rest : Chars) :
    pieces true false piece (content.flatMap QuotedPiece.text ++ rest) =
      pieces true false (piece ++ content.flatMap QuotedPiece.text) rest := by
  induction content generalizing piece with
  | nil =>
    rw [List.flatMap_nil, List.append_nil]
    rfl
  | cons part content ih =>
    rw [List.flatMap_cons, List.append_assoc, ← List.append_assoc piece, ← ih]
    cases part with
    | plain c quote backslash =>
      show pieces true false piece (c :: _) = _
      rw [pieces]
      simp [quote, backslash, QuotedPiece.text]
    | pair c =>
      show pieces true false piece ('\\' :: c :: _) = _
      rw [pieces_backslash, pieces_escaped, List.append_assoc]
      rfl

theorem closed_value (value : ParameterValue) : Closed value.text := by
  cases value with
  | token bare => exact closed_token bare
  | quoted content =>
    intro piece rest
    show pieces false false piece ('"' :: ((content.flatMap QuotedPiece.text ++ ['"']) ++ rest)) =
      pieces false false (piece ++ ('"' :: (content.flatMap QuotedPiece.text ++ ['"']))) rest
    rw [pieces_quote, List.append_assoc]
    show pieces true false _ _ = _
    rw [pieces_content]
    show pieces true false _ ('"' :: rest) = _
    rw [pieces_quote, List.append_assoc, List.append_assoc]
    rfl

theorem closed_parameter (parameter : Parameter) : Closed parameter.text := by
  have equals : Closed ['='] := closed_singleton (by decide) (by decide)
  have value := (closed_ows parameter.after).append (closed_value parameter.value)
  exact (closed_token parameter.name).append
    ((closed_ows parameter.before).append (equals.append value))

theorem closed_member {challenge : Challenge} {member : Member}
    (listed : member ∈ challenge.members) : Closed member.text := by
  rw [Challenge.members] at listed
  rcases List.mem_cons.mp listed with rfl | further
  · apply (closed_token challenge.scheme).append
    cases challenge.credentials with
    | none => exact Closed.nil
    | token68 more token => exact (closed_spaces more).append (closed_token68 token)
    | parameters more first rest => exact (closed_spaces more).append (closed_parameter first)
  · obtain ⟨inner, _, rfl⟩ := List.mem_map.mp further
    exact closed_parameter inner.parameter

/-- Closed texts between commas are the pieces. -/
theorem pieces_intercalate {first : Chars} {texts : List Chars}
    (closed : ∀ text ∈ first :: texts, Closed text) :
    pieces false false [] ([','].intercalate (first :: texts)) = some (first :: texts) := by
  induction texts generalizing first with
  | nil =>
    have alone := closed first List.mem_cons_self [] []
    rw [List.append_nil, List.nil_append] at alone
    have joined : [','].intercalate [first] = first := by simp [List.intercalate]
    rw [joined, alone, pieces]
    rfl
  | cons second texts ih =>
    rw [List.forall_mem_cons] at closed
    rw [Library.intercalate_cons ',' first (List.cons_ne_nil _ _), closed.1, List.nil_append,
      pieces]
    show (pieces false false [] ([','].intercalate (second :: texts))).map (first :: ·) = _
    rw [ih closed.2]
    rfl

end Pieces

section Trim

/-- A text that neither starts nor ends with white space. -/
structure Bare (text : Chars) : Prop where
  start : ∃ c rest, text = c :: rest ∧ isOws c = false
  stop : ∃ rest c, text = rest ++ [c] ∧ isOws c = false

theorem trimOws_padded {member : Member} (bare : Bare member.text) :
    trimOws member.padded = member.text := by
  obtain ⟨c, rest, start, plain⟩ := bare.start
  obtain ⟨others, last, stop, closing⟩ := bare.stop
  have front : member.padded.dropWhile isOws = member.text ++ member.after.chars := by
    rw [Member.padded, start, List.cons_append]
    exact dropWhile_ows member.before plain _
  have blanks : ∀ blank ∈ member.after.chars.reverse, isOws blank = true := by
    intro blank listed
    exact member.after.blank blank (List.mem_reverse.mp listed)
  rw [trimOws, front, List.reverse_append, stop, List.reverse_append, List.reverse_singleton,
    List.singleton_append, (takeWhile_run blanks closing _).2, List.reverse_cons,
    List.reverse_reverse]

theorem Token.stop (token : Token) : ∃ rest c, token.chars = rest ++ [c] ∧ isOws c = false := by
  rcases List.eq_nil_or_concat token.chars with empty | ⟨rest, c, same⟩
  · exact absurd empty token.nonempty
  · rw [List.concat_eq_append] at same
    refine ⟨rest, c, same, ows_of_token (token.token c ?_)⟩
    rw [same]
    exact List.mem_append_right _ List.mem_cons_self

theorem ParameterValue.stop (value : ParameterValue) :
    ∃ rest c, value.text = rest ++ [c] ∧ isOws c = false := by
  cases value with
  | token bare => exact bare.stop
  | quoted content => exact ⟨'"' :: content.flatMap QuotedPiece.text, '"', rfl, by decide⟩

theorem Token68.stop (token : Token68) :
    ∃ rest c, token.text = rest ++ [c] ∧ isOws c = false := by
  rw [Token68.text]
  cases token.padding with
  | zero =>
    rcases List.eq_nil_or_concat token.chars with empty | ⟨rest, c, same⟩
    · exact absurd empty token.nonempty
    · rw [List.concat_eq_append] at same
      have inside : c ∈ token.chars := by
        rw [same]
        exact List.mem_append_right _ List.mem_cons_self
      refine ⟨rest, c, ?_, (not_ows_token68 (token.token c inside)).1⟩
      rw [List.replicate_zero, List.append_nil, same]
  | succ padding =>
    refine ⟨token.chars ++ List.replicate padding '=', '=', ?_, by decide⟩
    rw [List.replicate_succ', List.append_assoc]

/-- What is put in front of a text does not change its end. -/
theorem stop_append (front : Chars) {text : Chars}
    (stop : ∃ rest c, text = rest ++ [c] ∧ isOws c = false) :
    ∃ rest c, front ++ text = rest ++ [c] ∧ isOws c = false := by
  obtain ⟨rest, c, same, plain⟩ := stop
  exact ⟨front ++ rest, c, by rw [same, List.append_assoc], plain⟩

theorem bare_parameter (parameter : Parameter) : Bare parameter.text where
  start := by
    obtain ⟨c, rest, same, plain, _⟩ := parameter.startsPlain
    exact ⟨c, rest, same, plain⟩
  stop := by
    have value := stop_append parameter.after.chars parameter.value.stop
    have behind := stop_append ['='] value
    exact stop_append _ (stop_append _ behind)

theorem bare_head (challenge : Challenge) : Bare challenge.head where
  start := by
    obtain ⟨c, rest, same, token⟩ := challenge.scheme.exists_cons
    exact ⟨c, rest ++ challenge.credentials.head, by rw [Challenge.head, same]; rfl,
      ows_of_token token⟩
  stop := by
    rw [Challenge.head]
    cases challenge.credentials with
    | none =>
      rw [Credentials.head, List.append_nil]
      exact challenge.scheme.stop
    | token68 more token => exact stop_append _ (stop_append _ token.stop)
    | parameters more first rest =>
      exact stop_append _ (stop_append _ (bare_parameter first).stop)

theorem bare_member {challenge : Challenge} {member : Member}
    (listed : member ∈ challenge.members) : Bare member.text := by
  rw [Challenge.members] at listed
  rcases List.mem_cons.mp listed with rfl | further
  · exact bare_head challenge
  · obtain ⟨inner, _, rfl⟩ := List.mem_map.mp further
    exact bare_parameter inner.parameter

end Trim

theorem mem_intercalate {separator c : Char} {parts : List Chars} {part : Chars}
    (listed : part ∈ parts) (inside : c ∈ part) : c ∈ [separator].intercalate parts := by
  induction parts with
  | nil => exact absurd listed List.not_mem_nil
  | cons first parts ih =>
    by_cases last : parts = []
    · rw [last] at listed ⊢
      rw [List.mem_singleton.mp listed] at inside
      simpa [List.intercalate] using inside
    · rw [Library.intercalate_cons separator first last, List.mem_append]
      rcases List.mem_cons.mp listed with rfl | further
      · exact Or.inl inside
      · exact Or.inr (List.mem_cons_of_mem _ (ih further))

theorem dot_of_headerChar {c : Char} (allowed : isHeaderChar c = true) : isDot c = true := by
  by_contra terminator
  rw [Bool.not_eq_true, isDot, Bool.not_eq_false', List.contains_iff_mem] at terminator
  simp only [List.mem_cons, List.not_mem_nil, or_false] at terminator
  rcases terminator with rfl | rfl | rfl | rfl <;> contradiction

variable {challenges : List Challenge}

theorem dots_of_render (allowed : ∀ c ∈ render challenges, isHeaderChar c = true)
    {challenge : Challenge} (listed : challenge ∈ challenges) {member : Member}
    (inner : member ∈ challenge.members) : member.text.all isDot = true := by
  rw [List.all_eq_true]
  intro c inside
  apply dot_of_headerChar
  apply allowed
  have flat : member ∈ challenges.flatMap Challenge.members :=
    List.mem_flatMap.mpr ⟨challenge, listed, inner⟩
  apply mem_intercalate (List.mem_map_of_mem flat)
  rw [Member.padded]
  exact List.mem_append_right _ (List.mem_append_left _ inside)

/-- The parts of a rendered list are the texts of its members. -/
theorem partsOf_render (present : challenges ≠ []) :
    partsOf (render challenges) =
      some ((challenges.flatMap Challenge.members).map Member.text) := by
  have each : ∀ member ∈ challenges.flatMap Challenge.members,
      ∃ challenge : Challenge, member ∈ challenge.members := by
    intro member flat
    obtain ⟨challenge, _, inner⟩ := List.mem_flatMap.mp flat
    exact ⟨challenge, inner⟩
  have closed : ∀ text ∈ (challenges.flatMap Challenge.members).map Member.padded,
      Closed text := by
    intro text listed
    obtain ⟨member, flat, rfl⟩ := List.mem_map.mp listed
    obtain ⟨challenge, inner⟩ := each member flat
    exact (closed_ows member.before).append
      ((closed_member inner).append (closed_ows member.after))
  have some_member : (challenges.flatMap Challenge.members).map Member.padded ≠ [] := by
    obtain ⟨challenge, rest, rfl⟩ := List.exists_cons_of_ne_nil present
    rw [List.flatMap_cons, Challenge.members]
    exact List.cons_ne_nil _ _
  have split : pieces false false [] (render challenges) =
      some ((challenges.flatMap Challenge.members).map Member.padded) := by
    obtain ⟨first, texts, same⟩ := List.exists_cons_of_ne_nil some_member
    rw [same] at closed
    rw [render, same]
    exact pieces_intercalate closed
  rw [partsOf, split, Option.map_some, List.map_map, Option.some.injEq]
  apply List.map_congr_left
  intro member flat
  obtain ⟨challenge, inner⟩ := each member flat
  exact trimOws_padded (bare_member inner)

theorem error_mem_iff {challenge : Challenge} (unique : challenge.uniqueNames) (value : String) :
    (challenge.credentials.map.bind fun parameters => parameters.lookup "error") = some value ↔
      ("error", value) ∈ challenge.credentials.entries := by
  rw [Challenge.uniqueNames] at unique
  cases given : challenge.credentials with
  | none | token68 more token => simp [Credentials.map, Credentials.entries]
  | parameters more first rest =>
    rw [given] at unique
    exact lookup_mapOf unique "error" value

/-- What a list of challenges that is read gives. -/
theorem error_stateOf {scheme : Scheme} (unique : ∀ challenge ∈ challenges, challenge.uniqueNames)
    (once : challenges.countP (·.hasScheme scheme) ≤ 1) (value : String) :
    ((stateOf scheme challenges).selectedParameters.bind fun parameters =>
        parameters.lookup "error") = some value ↔
      challenges.countP (·.hasScheme scheme) = 1 ∧
        ∃ challenge ∈ challenges, challenge.hasScheme scheme = true ∧
          ("error", value) ∈ challenge.credentials.entries := by
  constructor
  · intro found
    have counted : challenges.countP (·.hasScheme scheme) = 1 := by
      by_contra other
      rw [selectedParameters_of_none (by omega)] at found
      contradiction
    refine ⟨counted, ?_⟩
    have positive : 0 < challenges.countP (·.hasScheme scheme) := by omega
    obtain ⟨challenge, listed, selected⟩ := List.countP_pos_iff.mp positive
    rw [selectedParameters_stateOf once listed selected] at found
    exact ⟨challenge, listed, selected, (error_mem_iff (unique challenge listed) value).mp found⟩
  · rintro ⟨_, challenge, listed, selected, member⟩
    rw [selectedParameters_stateOf once listed selected]
    exact (error_mem_iff (unique challenge listed) value).mpr member

/-- A field gives an error exactly when it is a list of challenges of its grammar, one of which
has the scheme and names that error. -/
theorem readChallengeError_exact (header : String) (scheme : Scheme) (value : String) :
    readChallengeError (some header) scheme = some value ↔
      utf16Length header ≤ 8192 ∧ (∀ c ∈ header.toList, isHeaderChar c = true) ∧
        Grants header.toList scheme value := by
  constructor
  · intro read
    rw [readChallengeError] at read
    split at read
    · contradiction
    · next bounded =>
      rw [Bool.or_eq_true, not_or, decide_eq_true_eq, Bool.not_eq_true, Bool.not_eq_false',
        List.all_eq_true] at bounded
      refine ⟨Nat.not_lt.mp bounded.1, bounded.2, ?_⟩
      obtain ⟨parts, split, looped⟩ := Option.bind_eq_some_iff.mp read
      obtain ⟨state, run, found⟩ := Option.bind_eq_some_iff.mp looped
      obtain ⟨raw, pieces, rfl⟩ := Option.map_eq_some_iff.mp split
      obtain ⟨members, texts, padded⟩ := exists_members raw
      rw [← texts] at run
      obtain ⟨challenges, done⟩ := exists_challenges members run
      rw [done.state] at found
      obtain ⟨counted, granted⟩ := (error_stateOf done.unique done.once value).mp found
      refine ⟨challenges, ?_, done.unique, counted, granted⟩
      have joined := (intercalate_pieces pieces).2
      rw [List.nil_append] at joined
      rw [render, done.members, padded, joined]
  · rintro ⟨short, allowed, challenges, same, unique, counted, granted⟩
    rw [same] at allowed
    have present : challenges ≠ [] := by
      intro empty
      rw [empty] at counted
      exact Nat.zero_ne_one counted
    have run : ((challenges.flatMap Challenge.members).map Member.text).foldlM
        (readPart scheme) .start = some (stateOf scheme challenges) := by
      apply foldlM_challenges challenges unique (Nat.le_of_eq counted)
      intro challenge listed member inner
      exact dots_of_render allowed listed inner
    have bounded : (decide (8192 < utf16Length header) ||
        !header.toList.all isHeaderChar) = false := by
      rw [same, Bool.or_eq_false_iff, decide_eq_false_iff_not, Bool.not_eq_false',
        List.all_eq_true]
      exact ⟨Nat.not_lt.mpr short, allowed⟩
    rw [readChallengeError, bounded, if_neg Bool.false_ne_true, same, partsOf_render present]
    show (((challenges.flatMap Challenge.members).map Member.text).foldlM (readPart scheme)
      .start).bind _ = _
    rw [run]
    exact (error_stateOf unique (Nat.le_of_eq counted) value).mpr ⟨counted, granted⟩

end WebTsToolkit.OidcVaultDpopClient
