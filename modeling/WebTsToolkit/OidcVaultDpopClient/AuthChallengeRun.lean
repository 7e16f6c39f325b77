import Mathlib.Data.List.Induction
import WebTsToolkit.OidcVaultDpopClient.AuthChallengeMembers

set_option autoImplicit false

namespace WebTsToolkit.OidcVaultDpopClient

open Js

abbrev Entry := String × String

def setEntry (map : Map String) (entry : Entry) : Map String :=
  map.set entry.1 entry.2

def mapOf (entries : List Entry) : Map String :=
  entries.foldl setEntry ∅

theorem mapOf_concat (entries : List Entry) (entry : Entry) :
    mapOf (entries ++ [entry]) = (mapOf entries).set entry.1 entry.2 := by
  rw [mapOf, List.foldl_append]
  rfl

theorem lookup_mapOf_isSome (entries : List Entry) (name : String) :
    ((mapOf entries).lookup name).isSome = true ↔ name ∈ entries.map Prod.fst := by
  induction entries using List.reverseRecOn with
  | nil => simp [mapOf]
  | append_singleton entries entry ih =>
    rw [mapOf_concat, Map.lookup_set, List.map_append, List.mem_append, ← ih]
    by_cases here : name = entry.1
    · simp [here]
    · simp [here]

theorem lookup_mapOf {entries : List Entry} (distinct : (entries.map Prod.fst).Nodup)
    (name value : String) :
    (mapOf entries).lookup name = some value ↔ (name, value) ∈ entries := by
  induction entries using List.reverseRecOn with
  | nil => simp [mapOf]
  | append_singleton entries entry ih =>
    rw [List.map_append, List.nodup_append] at distinct
    obtain ⟨before, _, apart⟩ := distinct
    rw [mapOf_concat, Map.lookup_set, List.mem_append, List.mem_singleton, ← ih before]
    by_cases here : name = entry.1
    · rw [if_pos here, Option.some.injEq]
      have absent : (mapOf entries).lookup name ≠ some value := by
        intro found
        have member := (lookup_mapOf_isSome entries name).mp (by rw [found]; rfl)
        exact apart name member entry.1 List.mem_cons_self here
      constructor
      · intro same
        exact Or.inr (Prod.ext here same.symm)
      · rintro (found | same)
        · exact absurd found absent
        · exact (congrArg Prod.snd same).symm
    · rw [if_neg here]
      constructor
      · exact Or.inl
      · rintro (found | same)
        · exact found
        · exact absurd (congrArg Prod.fst same) here

/-- The map of the parameters of a challenge, `none` where it has no parameters. -/
def Credentials.map (credentials : Credentials) : Option (Map String) :=
  match credentials with
  | .parameters _ _ _ => some (mapOf credentials.entries)
  | _ => Option.none

/-- What the loop does with the members of a challenge. -/
def afterChallenge (scheme : Scheme) (state : ReadState) (challenge : Challenge) : ReadState where
  parameters := challenge.credentials.map
  selected := if challenge.hasScheme scheme then .current else state.leave
  seenSelected := state.seenSelected || challenge.hasScheme scheme

def stateOf (scheme : Scheme) (challenges : List Challenge) : ReadState :=
  challenges.foldl (afterChallenge scheme) .start

theorem stateOf_concat (scheme : Scheme) (challenges : List Challenge) (challenge : Challenge) :
    stateOf scheme (challenges ++ [challenge]) =
      afterChallenge scheme (stateOf scheme challenges) challenge := by
  rw [stateOf, List.foldl_append]
  rfl

theorem seenSelected_stateOf (scheme : Scheme) (challenges : List Challenge) :
    (stateOf scheme challenges).seenSelected = true ↔
      0 < challenges.countP (·.hasScheme scheme) := by
  induction challenges using List.reverseRecOn with
  | nil => simp [stateOf, ReadState.start]
  | append_singleton challenges challenge ih =>
    rw [stateOf_concat, List.countP_append, List.countP_singleton, afterChallenge,
      Bool.or_eq_true, ih]
    split
    · next same => simp [same]
    · next other => simp [other]

theorem selectedParameters_leave (state : ReadState) (parameters : Option (Map String))
    (seen : Bool) :
    ReadState.selectedParameters
      { parameters := parameters, selected := state.leave, seenSelected := seen } =
      state.selectedParameters := by
  rw [ReadState.selectedParameters, ReadState.selectedParameters, ReadState.leave]
  cases state.selected <;> rfl

theorem selectedParameters_afterChallenge (scheme : Scheme) (state : ReadState)
    (challenge : Challenge) :
    (afterChallenge scheme state challenge).selectedParameters =
      if challenge.hasScheme scheme then challenge.credentials.map
      else state.selectedParameters := by
  rw [afterChallenge]
  cases challenge.hasScheme scheme with
  | true => rfl
  | false => exact selectedParameters_leave state _ _

/-- The parameters that are read in the end are those of the one selected challenge. -/
theorem selectedParameters_stateOf {scheme : Scheme} {challenges : List Challenge}
    (once : challenges.countP (·.hasScheme scheme) ≤ 1) {challenge : Challenge}
    (member : challenge ∈ challenges) (selected : challenge.hasScheme scheme = true) :
    (stateOf scheme challenges).selectedParameters = challenge.credentials.map := by
  induction challenges using List.reverseRecOn with
  | nil => exact absurd member List.not_mem_nil
  | append_singleton challenges last ih =>
    rw [List.countP_append, List.countP_singleton] at once
    rw [stateOf_concat, selectedParameters_afterChallenge]
    rcases List.mem_append.mp member with earlier | here
    · have counted : 0 < challenges.countP (·.hasScheme scheme) :=
        List.countP_pos_iff.mpr ⟨challenge, earlier, selected⟩
      have other : last.hasScheme scheme = false := by
        by_contra again
        rw [Bool.not_eq_false] at again
        rw [again, if_pos rfl] at once
        omega
      rw [other, if_neg Bool.false_ne_true]
      exact ih (by omega) earlier
    · rw [List.mem_singleton] at here
      rw [← here, selected, if_pos rfl]

theorem selectedParameters_of_none {scheme : Scheme} {challenges : List Challenge}
    (none_selected : challenges.countP (·.hasScheme scheme) = 0) :
    (stateOf scheme challenges).selectedParameters = none := by
  induction challenges using List.reverseRecOn with
  | nil => rfl
  | append_singleton challenges last ih =>
    rw [List.countP_append, List.countP_singleton] at none_selected
    rw [stateOf_concat, selectedParameters_afterChallenge]
    split
    · next again =>
      rw [again, if_pos rfl] at none_selected
      omega
    · exact ih (by omega)

section Forward

variable {scheme : Scheme} {state : ReadState}

theorem readPart_parameter {part : Chars} {entry : Entry} {parameters : Map String}
    (read : parameterOf part = some entry) (current : state.parameters = some parameters)
    (fresh : (parameters.lookup entry.1).isSome = false) :
    readPart scheme state part =
      some { state with parameters := some (parameters.set entry.1 entry.2) } := by
  rw [readPart, read]
  dsimp only
  rw [current]
  dsimp only
  rw [fresh, if_neg Bool.false_ne_true]

theorem readPart_start {part name : Chars} {credentials : Option Chars}
    {parameters : Option (Map String)} (unread : parameterOf part = none)
    (matched : matchChallenge part = some (name, credentials))
    (read : readCredentials credentials = some parameters)
    (free : (lowerCase name == scheme.text && state.seenSelected) = false) :
    readPart scheme state part =
      some
        { parameters := parameters
          selected := if lowerCase name == scheme.text then .current else state.leave
          seenSelected := state.seenSelected || lowerCase name == scheme.text } := by
  rw [readPart, unread]
  dsimp only
  rw [matched]
  dsimp only
  rw [free, if_neg Bool.false_ne_true, read]
  rfl

/-- Further parameters of the current challenge. -/
theorem foldlM_parameters (rest : List ParameterMember) (done : List Entry)
    (current : state.parameters = some (mapOf done))
    (distinct : ((done ++ rest.map fun member => member.parameter.entry).map Prod.fst).Nodup)
    (dots : ∀ member ∈ rest, member.parameter.value.text.all isDot = true) :
    (rest.map fun member => member.parameter.text).foldlM (readPart scheme) state =
      some { state with
        parameters := some (mapOf (done ++ rest.map fun member => member.parameter.entry)) } := by
  induction rest generalizing state done with
  | nil =>
    rw [List.map_nil, List.map_nil, List.append_nil, ← current]
    rfl
  | cons member rest ih =>
    rw [List.forall_mem_cons] at dots
    have fresh : ((mapOf done).lookup member.parameter.entry.1).isSome = false := by
      by_contra known
      rw [Bool.not_eq_false, lookup_mapOf_isSome] at known
      rw [List.map_append, List.nodup_append] at distinct
      exact distinct.2.2 _ known member.parameter.entry.1 List.mem_cons_self rfl
    have step : readPart scheme state member.parameter.text =
        some { state with parameters := some ((mapOf done).set member.parameter.entry.1
          member.parameter.entry.2) } :=
      readPart_parameter (parameterOf_text member.parameter dots.1) current fresh
    rw [List.map_cons, List.foldlM_cons, step]
    have regrouped : done ++ (member :: rest).map (fun member => member.parameter.entry) =
        (done ++ [member.parameter.entry]) ++ rest.map fun member => member.parameter.entry := by
      rw [List.append_assoc]
      rfl
    rw [regrouped] at distinct ⊢
    apply ih
    · rw [mapOf_concat]
    · exact distinct
    · exact dots.2

theorem all_dots_append {first second : Chars} (dots : (first ++ second).all isDot = true) :
    first.all isDot = true ∧ second.all isDot = true := by
  rwa [List.all_append, Bool.and_eq_true] at dots

theorem Parameter.value_dots {parameter : Parameter} (dots : parameter.text.all isDot = true) :
    parameter.value.text.all isDot = true := by
  have after := (all_dots_append (all_dots_append dots).2).2
  rw [List.all_cons, Bool.and_eq_true] at after
  exact (all_dots_append after.2).2

/-- The state behind the member of the scheme, before further parameters. -/
def Credentials.firstMap (credentials : Credentials) : Option (Map String) :=
  match credentials with
  | .parameters _ first _ => some (mapOf [first.entry])
  | _ => Option.none

theorem readPart_head (challenge : Challenge)
    (free : (challenge.hasScheme scheme && state.seenSelected) = false)
    (dots : challenge.head.all isDot = true) :
    readPart scheme state challenge.head =
      some { afterChallenge scheme state challenge with
        parameters := challenge.credentials.firstMap } := by
  have after := (all_dots_append dots).2
  rw [Challenge.head]
  cases given : challenge.credentials with
  | none =>
    rw [Credentials.head, List.append_nil]
    exact readPart_start (parameterOf_scheme _) (matchChallenge_scheme _) rfl free
  | token68 more token =>
    rw [given] at after
    have text := (all_dots_append after).2
    rw [Credentials.head]
    exact readPart_start (parameterOf_credentials _ more token.startsPlain)
      (matchChallenge_credentials _ more token.startsPlain text)
      (readCredentials_token68 token) free
  | parameters more first rest =>
    rw [given] at after
    have text := (all_dots_append after).2
    rw [Credentials.head]
    exact readPart_start (parameterOf_credentials _ more first.startsPlain)
      (matchChallenge_credentials _ more first.startsPlain text)
      (readCredentials_parameter first (Parameter.value_dots text)) free

theorem foldlM_members (challenge : Challenge) (unique : challenge.uniqueNames)
    (free : (challenge.hasScheme scheme && state.seenSelected) = false)
    (dots : ∀ member ∈ challenge.members, member.text.all isDot = true) :
    (challenge.members.map Member.text).foldlM (readPart scheme) state =
      some (afterChallenge scheme state challenge) := by
  rw [Challenge.members, List.forall_mem_cons] at dots
  rw [Challenge.members, List.map_cons, List.foldlM_cons, readPart_head challenge free dots.1]
  rw [Challenge.uniqueNames] at unique
  cases given : challenge.credentials with
  | none | token68 more token =>
    rw [afterChallenge, given]
    rfl
  | parameters more first rest =>
    rw [given] at unique dots
    have inner : ∀ member ∈ rest, member.parameter.value.text.all isDot = true := by
      intro member listed
      exact Parameter.value_dots (dots.2 member.member (List.mem_map_of_mem listed))
    rw [Credentials.rest, List.map_map, Option.bind_eq_bind, Option.bind_some]
    let between : ReadState :=
      { afterChallenge scheme state challenge with
        parameters := (Credentials.parameters more first rest).firstMap }
    have current : between.parameters = some (mapOf [first.entry]) := rfl
    refine (foldlM_parameters rest [first.entry] current unique inner).trans ?_
    rw [afterChallenge, given]
    rfl

/-- A list of challenges with unique names, of which at most one has the scheme, is read. -/
theorem foldlM_challenges (challenges : List Challenge)
    (unique : ∀ challenge ∈ challenges, challenge.uniqueNames)
    (once : challenges.countP (·.hasScheme scheme) ≤ 1)
    (dots : ∀ challenge ∈ challenges, ∀ member ∈ challenge.members,
      member.text.all isDot = true) :
    ((challenges.flatMap Challenge.members).map Member.text).foldlM (readPart scheme) .start =
      some (stateOf scheme challenges) := by
  induction challenges using List.reverseRecOn with
  | nil => rfl
  | append_singleton challenges challenge ih =>
    rw [List.countP_append, List.countP_singleton] at once
    have before := ih (fun other member => unique other (List.mem_append_left _ member))
      (by omega) (fun other member => dots other (List.mem_append_left _ member))
    have last : challenge ∈ challenges ++ [challenge] :=
      List.mem_append_right _ List.mem_cons_self
    have free : (challenge.hasScheme scheme &&
        (stateOf scheme challenges).seenSelected) = false := by
      by_contra both
      rw [Bool.not_eq_false, Bool.and_eq_true, seenSelected_stateOf] at both
      rw [if_pos both.1] at once
      omega
    rw [List.flatMap_append, List.flatMap_singleton, List.map_append, List.foldlM_append, before,
      stateOf_concat]
    exact foldlM_members challenge (unique challenge last) free (dots challenge last)

end Forward

section Backward

/-- What a challenge can start with, as a member of its own. -/
structure Starts (part name : Chars) (parameters : Option (Map String)) (scheme : Token)
    (credentials : Credentials) : Prop where
  text : part = scheme.chars ++ credentials.head
  name : scheme.chars = name
  rest : credentials.rest = []
  map : credentials.map = parameters
  unique : (credentials.entries.map Prod.fst).Nodup

theorem exists_credentials {credentials : Chars} {parameters : Option (Map String)}
    (read : readCredentials (some credentials) = some parameters) (more : Nat) :
    ∃ tree : Credentials, tree.head = spaces more ++ credentials ∧ tree.rest = [] ∧
      tree.map = parameters ∧ (tree.entries.map Prod.fst).Nodup := by
  rw [readCredentials] at read
  split at read
  · next name value first =>
    obtain ⟨parameter, text, entry⟩ := exists_parameter first
    refine ⟨.parameters more parameter [], ?_, rfl, ?_, List.nodup_singleton _⟩
    · rw [Credentials.head, text]
    · rw [← Option.some.inj read]
      show some (mapOf [parameter.entry]) = _
      rw [entry]
      rfl
  · split at read
    · next padded =>
      obtain ⟨token, text⟩ := exists_token68 padded
      refine ⟨.token68 more token, ?_, rfl, ?_, List.nodup_nil⟩
      · rw [Credentials.head, text]
      · exact Option.some.inj read
    · contradiction

theorem readCredentials_space : readCredentials (some [' ']) = none := by
  decide

theorem exists_start {part name : Chars} {credentials : Option Chars}
    {parameters : Option (Map String)} (matched : matchChallenge part = some (name, credentials))
    (read : readCredentials credentials = some parameters) :
    ∃ scheme tree, Starts part name parameters scheme tree := by
  have split : part.takeWhile isTokenChar ++ part.dropWhile isTokenChar = part :=
    List.takeWhile_append_dropWhile
  have blanks : (part.dropWhile isTokenChar).takeWhile (· == ' ') ++
      (part.dropWhile isTokenChar).dropWhile (· == ' ') = part.dropWhile isTokenChar :=
    List.takeWhile_append_dropWhile
  rw [matchChallenge] at matched
  dsimp only at matched
  split at matched
  · contradiction
  · next named =>
    rw [List.isEmpty_iff] at named
    split at matched
    · next alone =>
      rw [Option.some.injEq, Prod.mk.injEq] at matched
      obtain ⟨rfl, rfl⟩ := matched
      rw [List.isEmpty_iff] at alone
      rw [alone, List.append_nil] at split
      refine ⟨leadingToken part named, .none, ?_, rfl, rfl, Option.some.inj read,
        List.nodup_nil⟩
      show part = part.takeWhile isTokenChar ++ []
      rw [List.append_nil, split]
    · split at matched
      · next spaced =>
        rw [Option.some.injEq, Prod.mk.injEq] at matched
        obtain ⟨rfl, rfl⟩ := matched
        rw [Bool.and_eq_true, Bool.and_eq_true, Bool.not_eq_true', Bool.not_eq_true',
          List.isEmpty_eq_false_iff] at spaced
        have count : ∃ more, (part.dropWhile isTokenChar).takeWhile (· == ' ') =
            spaces more := by
          obtain ⟨c, others, same⟩ := List.exists_cons_of_ne_nil spaced.1.1
          refine ⟨others.length, ?_⟩
          apply List.eq_replicate_iff.mpr
          refine ⟨by rw [same, List.length_cons], ?_⟩
          intro space member
          simpa using mem_takeWhile member
        obtain ⟨more, run⟩ := count
        obtain ⟨tree, head, rest, map, unique⟩ := exists_credentials read more
        refine ⟨leadingToken part named, tree, ?_, rfl, rest, map, unique⟩
        show part = part.takeWhile isTokenChar ++ tree.head
        rw [head, ← run, blanks, split]
      · split at matched
        · rw [Option.some.injEq, Prod.mk.injEq] at matched
          obtain ⟨_, rfl⟩ := matched
          rw [readCredentials_space] at read
          contradiction
        · contradiction

/-- What the loop has read so far. -/
structure ReadSoFar (scheme : Scheme) (members : List Member) (state : ReadState)
    (challenges : List Challenge) : Prop where
  members : challenges.flatMap Challenge.members = members
  unique : ∀ challenge ∈ challenges, challenge.uniqueNames
  once : challenges.countP (·.hasScheme scheme) ≤ 1
  state : state = stateOf scheme challenges

/-- A challenge takes one more parameter. -/
def Challenge.extend (challenge : Challenge) (more : Nat) (first : Parameter)
    (rest : List ParameterMember) (member : ParameterMember) : Challenge :=
  { challenge with credentials := .parameters more first (rest ++ [member]) }

section Extend

variable {last : Challenge} {more : Nat} {first : Parameter} {rest : List ParameterMember}

theorem members_extend (given : last.credentials = .parameters more first rest)
    (member : ParameterMember) :
    (last.extend more first rest member).members = last.members ++ [member.member] := by
  have head : (last.extend more first rest member).head = last.head := by
    rw [Challenge.head, Challenge.head, given]
    rfl
  rw [Challenge.members, Challenge.members, given, head, Credentials.rest, List.cons_append]
  show _ :: (rest ++ [member]).map ParameterMember.member = _
  rw [List.map_append]
  rfl

theorem entries_extend (given : last.credentials = .parameters more first rest)
    (member : ParameterMember) :
    (last.extend more first rest member).credentials.entries =
      last.credentials.entries ++ [member.parameter.entry] := by
  rw [given]
  show first.entry :: (rest ++ [member]).map (fun member => member.parameter.entry) = _
  rw [List.map_append]
  rfl

theorem unique_extend (given : last.credentials = .parameters more first rest)
    (unique : last.uniqueNames) {member : ParameterMember}
    (fresh : ((mapOf last.credentials.entries).lookup member.parameter.entry.1).isSome ≠ true) :
    (last.extend more first rest member).uniqueNames := by
  rw [ne_eq, lookup_mapOf_isSome] at fresh
  rw [Challenge.uniqueNames, entries_extend given, List.map_append, List.nodup_append]
  refine ⟨unique, List.nodup_singleton _, ?_⟩
  intro name known other added same
  rw [List.map_singleton, List.mem_singleton] at added
  rw [same, added] at known
  exact fresh known

theorem map_extend (given : last.credentials = .parameters more first rest)
    (member : ParameterMember) :
    (last.extend more first rest member).credentials.map =
      some ((mapOf last.credentials.entries).set member.parameter.entry.1
        member.parameter.entry.2) := by
  rw [← mapOf_concat, ← entries_extend given]
  rfl

end Extend

variable {scheme : Scheme}

theorem countP_replace (before : List Challenge) {last other : Challenge}
    (same : other.hasScheme scheme = last.hasScheme scheme) :
    (before ++ [other]).countP (·.hasScheme scheme) =
      (before ++ [last]).countP (·.hasScheme scheme) := by
  rw [List.countP_append, List.countP_append, List.countP_singleton, List.countP_singleton, same]

/-- A member that is a parameter belongs to the last challenge. -/
theorem ReadSoFar.parameter {members : List Member} {state next : ReadState}
    {challenges : List Challenge} (done : ReadSoFar scheme members state challenges)
    {member : Member} {entry : Entry} (read : parameterOf member.text = some entry)
    (step : readPart scheme state member.text = some next) :
    ∃ challenges, ReadSoFar scheme (members ++ [member]) next challenges := by
  obtain ⟨parameter, text, rfl⟩ := exists_parameter read
  rw [readPart, read] at step
  dsimp only at step
  split at step
  · contradiction
  · next map current =>
    split at step
    · contradiction
    · next fresh =>
      obtain rfl := Option.some.inj step
      have held := done.state
      rcases List.eq_nil_or_concat challenges with rfl | ⟨before, last, rfl⟩
      · rw [held] at current
        contradiction
      · rw [List.concat_eq_append] at done held
        rw [stateOf_concat] at held
        have parameters : last.credentials.map = some map := by
          rw [held] at current
          exact current
        cases given : last.credentials with
        | none | token68 more token =>
          rw [given] at parameters
          contradiction
        | parameters more first rest =>
          have entries : mapOf last.credentials.entries = map := by
            rw [given] at parameters ⊢
            exact Option.some.inj parameters
          rw [← entries] at fresh ⊢
          have lastUnique := done.unique last (List.mem_append_right _ List.mem_cons_self)
          refine ⟨before ++ [last.extend more first rest
            ⟨member.before, parameter, member.after⟩], ?_, ?_, ?_, ?_⟩
          · have added : ParameterMember.member ⟨member.before, parameter, member.after⟩ =
                member := by
              rw [ParameterMember.member, text]
            rw [← done.members, List.flatMap_append, List.flatMap_append,
              List.flatMap_singleton, List.flatMap_singleton, members_extend given, added,
              List.append_assoc]
          · intro challenge listed
            rcases List.mem_append.mp listed with earlier | here
            · exact done.unique challenge (List.mem_append_left _ earlier)
            · rw [List.mem_singleton.mp here]
              exact unique_extend given lastUnique fresh
          · have same : (before ++ [last.extend more first rest
                ⟨member.before, parameter, member.after⟩]).countP (·.hasScheme scheme) =
                (before ++ [last]).countP (·.hasScheme scheme) :=
              countP_replace before rfl
            rw [same]
            exact done.once
          · rw [stateOf_concat, afterChallenge, map_extend given, held]
            rfl

/-- Any other member is the first one of a challenge. -/
theorem ReadSoFar.start {members : List Member} {state next : ReadState}
    {challenges : List Challenge} (done : ReadSoFar scheme members state challenges)
    {member : Member} (unread : parameterOf member.text = none)
    (step : readPart scheme state member.text = some next) :
    ∃ challenges, ReadSoFar scheme (members ++ [member]) next challenges := by
  rw [readPart, unread] at step
  dsimp only at step
  split at step
  · contradiction
  · next name credentials matched =>
    split at step
    · contradiction
    · next free =>
      obtain ⟨parameters, read, rfl⟩ := Option.map_eq_some_iff.mp step
      obtain ⟨token, tree, starts⟩ := exists_start matched read
      let challenge : Challenge := ⟨member.before, token, tree, member.after⟩
      have selected : challenge.hasScheme scheme = (lowerCase name == scheme.text) := by
        rw [← starts.name]
        rfl
      have own : challenge.members = [member] := by
        have head : challenge.head = member.text := starts.text.symm
        rw [Challenge.members, head]
        show _ :: tree.rest.map _ = _
        rw [starts.rest]
        rfl
      refine ⟨challenges ++ [challenge], ?_, ?_, ?_, ?_⟩
      · rw [List.flatMap_append, List.flatMap_singleton, own, done.members]
      · intro other listed
        rcases List.mem_append.mp listed with earlier | here
        · exact done.unique other earlier
        · rw [List.mem_singleton.mp here]
          exact starts.unique
      · rw [List.countP_append, List.countP_singleton, selected]
        have bound := done.once
        split
        · next again =>
          rw [again, Bool.true_and, done.state, seenSelected_stateOf] at free
          omega
        · omega
      · rw [stateOf_concat, afterChallenge, ← done.state, selected]
        show _ = ReadState.mk tree.map _ _
        rw [starts.map]

/-- What the loop accepts are the members of challenges with unique names, of which at most one
has the scheme. -/
theorem exists_challenges {state : ReadState} (members : List Member)
    (read : (members.map Member.text).foldlM (readPart scheme) .start = some state) :
    ∃ challenges, ReadSoFar scheme members state challenges := by
  induction members using List.reverseRecOn generalizing state with
  | nil =>
    obtain rfl := Option.some.inj read
    refine ⟨[], rfl, ?_, Nat.zero_le _, rfl⟩
    intro challenge listed
    exact absurd listed List.not_mem_nil
  | append_singleton members member ih =>
    rw [List.map_append, List.foldlM_append] at read
    obtain ⟨before, earlier, last⟩ := Option.bind_eq_some_iff.mp read
    obtain ⟨challenges, done⟩ := ih earlier
    have step : readPart scheme before member.text = some state := by
      rw [List.map_singleton, List.foldlM_cons] at last
      obtain ⟨after, step, same⟩ := Option.bind_eq_some_iff.mp last
      rw [step, Option.some.inj same]
    cases parameter : parameterOf member.text with
    | some entry => exact done.parameter parameter step
    | none => exact done.start parameter step

end Backward

end WebTsToolkit.OidcVaultDpopClient
