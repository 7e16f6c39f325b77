import WebTsToolkit.AssetInliner.SrcsetAgreement

set_option autoImplicit false

namespace WebTsToolkit.AssetInliner

open Js SrcsetStandard
open Js.JsonText (CodeUnits code)

theorem slice_skip (skips : Nat → Bool) (input : CodeUnits) (pos : Nat) :
    slice input pos (skip skips input pos) = (input.drop pos).takeWhile skips := by
  rw [slice, skip, List.drop_take, Nat.add_sub_cancel_left]
  nth_rewrite 2 [← List.takeWhile_append_dropWhile (p := skips) (l := input.drop pos)]
  exact List.take_left

variable {input : CodeUnits} {candidates : List SrcsetCandidate} {pos : Nat}

/-- The span of a URL up to its last comma. -/
theorem slice_succ {start less unit : Nat} (within : start ≤ less)
    (last : input[less]? = some unit) :
    slice input start (less + 1) = slice input start less ++ [unit] := by
  obtain ⟨inside, rfl⟩ := List.getElem?_eq_some_iff.mp last
  have shorter : start ≤ (input.take less).length := by
    rw [List.length_take]
    omega
  rw [slice, slice, List.take_succ_eq_append_getElem inside, List.drop_append_of_le_length shorter]

theorem removeTrailingCommas_comma (url : CodeUnits) :
    removeTrailingCommas (url ++ [code ',']) = removeTrailingCommas url := by
  simp [removeTrailingCommas]

theorem removeTrailingCommas_other {unit : Nat} (url : CodeUnits) (other : unit ≠ code ',') :
    removeTrailingCommas (url ++ [unit]) = url ++ [unit] := by
  simp [removeTrailingCommas, other]

/-- The end of a URL moves back before its trailing commas, and not to its start. -/
theorem dropCommas_spec {start first : Nat} (head : input[start]? = some first)
    (letter : first ≠ code ',') (pos : Nat) (inside : start < pos) (bounded : pos ≤ input.length) :
    start < dropCommas input pos ∧ dropCommas input pos ≤ pos ∧
      slice input start (dropCommas input pos) =
        removeTrailingCommas (slice input start pos) := by
  induction pos with
  | zero => omega
  | succ less ih =>
    have last := List.getElem?_eq_getElem (l := input) (i := less) (by omega)
    rw [dropCommas]
    by_cases comma : input[less]? = some (code ',')
    · have more : start < less := by
        by_contra stays
        obtain rfl : start = less := by omega
        rw [head] at comma
        exact letter (Option.some.inj comma)
      obtain ⟨above, below, trimmed⟩ := ih more (by omega)
      rw [if_pos comma, trimmed, slice_succ (le_of_lt more) comma, removeTrailingCommas_comma]
      exact ⟨above, by omega, rfl⟩
    · have other : input[less] ≠ code ',' := by
        intro same
        rw [last, same] at comma
        exact comma rfl
      rw [if_neg comma, slice_succ (by omega) last, removeTrailingCommas_other _ other]
      exact ⟨inside, le_refl _, rfl⟩

/-- A pass of the loop reads the candidate that the standard splits off. -/
theorem readCandidate_spec {urlStart first : Nat} (head : input[urlStart]? = some first)
    (starts : isBetween first = false) :
    let read := readCandidate input urlStart
    urlStart < read.1 ∧ read.1 ≤ read.2.2 ∧ read.1 ≤ input.length ∧
      splitCandidate (input.drop urlStart) =
        (slice input urlStart read.1, read.2.1, input.drop read.2.2) := by
  rw [isBetween, Bool.or_eq_false_iff, decide_eq_false_iff_not] at starts
  obtain ⟨letter, noComma⟩ := starts
  obtain ⟨within, _⟩ := List.getElem?_eq_some_iff.mp head
  have same : (fun ch => !isSpace ch) = (!isAsciiWhitespace ·) := by
    funext ch
    rw [isSpace_eq]
  have moves : urlStart < skip (fun ch => !isSpace ch) input urlStart :=
    lt_skip head (by rw [isSpace_eq, letter]; rfl)
  have bounded : skip (fun ch => !isSpace ch) input urlStart ≤ input.length :=
    skip_le (le_of_lt within)
  have url := slice_skip (fun ch => !isSpace ch) input urlStart
  have after := drop_skip (fun ch => !isSpace ch) input urlStart
  have last : ((input.drop urlStart).takeWhile fun ch => !isSpace ch).getLast? =
      input[skip (fun ch => !isSpace ch) input urlStart - 1]? := by
    obtain ⟨less, next⟩ : ∃ less, skip (fun ch => !isSpace ch) input urlStart = less + 1 :=
      ⟨_, (Nat.sub_add_cancel (by omega)).symm⟩
    have unit := List.getElem?_eq_getElem (l := input) (i := less) (by omega)
    rw [← url, next, slice_succ (by omega) unit, List.getLast?_concat, Nat.add_sub_cancel, unit]
  dsimp only
  rw [readCandidate, splitCandidate, ← same, last, ← url, ← after]
  dsimp only
  by_cases comma : input[skip (fun ch => !isSpace ch) input urlStart - 1]? = some (code ',')
  · obtain ⟨above, below, trimmed⟩ := dropCommas_spec head noComma _ moves bounded
    rw [if_pos comma, if_pos comma]
    exact ⟨above, below, by omega, by rw [trimmed]⟩
  · have tokens := readDescriptors_eq (Begun.inside []) []
      (input.drop (skip (fun ch => !isSpace ch) input urlStart))
    rw [DescriptorState.standard, tokenizeDescriptors_blanks, List.drop_drop] at tokens
    rw [if_neg comma, if_neg comma, tokens]
    exact ⟨moves, Nat.le_add_right _ _, bounded, rfl⟩

/-- Candidates with their spans in order, from a position on. -/
def Spans (input : CodeUnits) : Nat → List SrcsetCandidate → Prop
  | _, [] => True
  | pos, candidate :: rest =>
    pos ≤ candidate.urlStart ∧ candidate.urlStart < candidate.urlEnd ∧
      candidate.urlEnd ≤ input.length ∧
      candidate.url = slice input candidate.urlStart candidate.urlEnd ∧
      Spans input candidate.urlEnd rest

theorem Spans.weaken {pos later : Nat} (spans : Spans input later candidates)
    (before : pos ≤ later) : Spans input pos candidates := by
  cases candidates with
  | nil => trivial
  | cons candidate rest => exact ⟨before.trans spans.1, spans.2⟩

theorem Spans.start (spans : Spans input pos candidates) :
    ∀ candidate ∈ candidates, pos ≤ candidate.urlStart := by
  induction candidates generalizing pos with
  | nil => exact nofun
  | cons candidate rest ih =>
    intro other member
    rcases List.mem_cons.mp member with rfl | member
    · exact spans.1
    · have after := ih spans.2.2.2.2 other member
      have nonempty := spans.2.1
      have start := spans.1
      omega

theorem Spans.each (spans : Spans input pos candidates) :
    ∀ candidate ∈ candidates,
      candidate.url = slice input candidate.urlStart candidate.urlEnd ∧
        candidate.urlStart < candidate.urlEnd ∧ candidate.urlEnd ≤ input.length := by
  induction candidates generalizing pos with
  | nil => exact nofun
  | cons candidate rest ih =>
    obtain ⟨_, nonempty, bounded, url, later⟩ := spans
    intro other member
    rcases List.mem_cons.mp member with rfl | member
    · exact ⟨url, nonempty, bounded⟩
    · exact ih later other member

theorem Spans.pairwise (spans : Spans input pos candidates) :
    candidates.Pairwise fun candidate later => candidate.urlEnd ≤ later.urlStart := by
  induction candidates generalizing pos with
  | nil => exact List.Pairwise.nil
  | cons candidate rest ih =>
    have later := spans.2.2.2.2
    exact List.Pairwise.cons later.start (ih later)

theorem isSeparator_eq : isSeparator = isBetween := by
  funext ch
  rw [isSeparator, isBetween, isSpace_eq]
  rfl

/-- From every position on, the loop finds what the standard finds in the rest of the input. -/
theorem tokenizeFrom_spec (input : CodeUnits) (pos : Nat) :
    (tokenizeFrom input pos).map SrcsetCandidate.url = parseSrcset (input.drop pos) ∧
      Spans input pos (tokenizeFrom input pos) := by
  rw [tokenizeFrom]
  by_cases inside : pos < input.length
  · have blanks : (input.drop pos).dropWhile isBetween =
        input.drop (skip isSeparator input pos) := by
      rw [drop_skip, isSeparator_eq]
    have start := le_skip isSeparator input pos
    have bounded : skip isSeparator input pos ≤ input.length := skip_le (le_of_lt inside)
    rw [dif_pos inside]
    dsimp only
    by_cases ends : skip isSeparator input pos = input.length
    · rw [dif_pos ends, parseSrcset.eq_def]
      rw [ends, List.drop_length] at blanks
      split
      · exact ⟨rfl, trivial⟩
      · next next =>
        rw [blanks] at next
        contradiction
    · have within : skip isSeparator input pos < input.length := by omega
      have head := List.getElem?_eq_getElem within
      have starts := (congrFun isSeparator_eq _).symm.trans (stops_of_skip head)
      obtain ⟨nonempty, after, short, split⟩ := readCandidate_spec head starts
      have advance := lt_readCandidate within
      obtain ⟨urls, spans⟩ := tokenizeFrom_spec input
        (readCandidate input (skip isSeparator input pos)).2.2
      have spans' := spans.weaken after
      have parsed : parseSrcset (input.drop pos) =
          if validDescriptors (readCandidate input (skip isSeparator input pos)).2.1 then
            slice input (skip isSeparator input pos)
                (readCandidate input (skip isSeparator input pos)).1 ::
              parseSrcset (input.drop (readCandidate input (skip isSeparator input pos)).2.2)
          else parseSrcset (input.drop (readCandidate input (skip isSeparator input pos)).2.2) := by
        rw [parseSrcset.eq_def]
        rw [List.drop_eq_getElem_cons within] at blanks split
        split
        · next next =>
          rw [blanks] at next
          contradiction
        · next c rest next =>
          rw [next] at blanks
          obtain ⟨rfl, rfl⟩ := List.cons.inj blanks
          rw [split, validDescriptors_eq]
      rw [dif_neg ends, parsed]
      cases validDescriptors (readCandidate input (skip isSeparator input pos)).2.1 with
      | true => exact ⟨by rw [if_pos rfl, if_pos rfl, List.map_cons, urls],
          start, nonempty, short, rfl, spans'⟩
      | false => exact ⟨urls, spans'.weaken (by omega)⟩
  · rw [dif_neg inside, List.drop_eq_nil_of_le (by omega), parseSrcset.eq_def]
    split
    · exact ⟨rfl, trivial⟩
    · next next => contradiction
termination_by input.length - pos
decreasing_by omega

/-- The URLs of the candidates that the standard accepts, in order, each with its span. -/
theorem tokenizeSrcset_exact (input : CodeUnits) :
    (tokenizeSrcset input).map SrcsetCandidate.url = parseSrcset input ∧
      (∀ candidate ∈ tokenizeSrcset input,
        candidate.url = slice input candidate.urlStart candidate.urlEnd ∧
          candidate.urlStart < candidate.urlEnd ∧ candidate.urlEnd ≤ input.length) ∧
      (tokenizeSrcset input).Pairwise fun candidate later =>
        candidate.urlEnd ≤ later.urlStart := by
  obtain ⟨urls, spans⟩ := tokenizeFrom_spec input 0
  exact ⟨urls, spans.each, spans.pairwise⟩

end WebTsToolkit.AssetInliner
