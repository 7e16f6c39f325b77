import WebTsToolkit.AccessRouter.OutputPolicy

set_option autoImplicit false

namespace WebTsToolkit.AccessRouter.OutputPolicy

open Js FieldRules FieldCatalog

section Keys

variable {access : String}

theorem eq_singleton {α : Type} {before after : List α} {item only : α}
    (same : before ++ item :: after = [only]) : before = [] ∧ item = only ∧ after = [] := by
  cases before with
  | nil => simpa using same
  | cons => simp at same

theorem append_left_cancel {start first second : String}
    (same : start ++ first = start ++ second) : first = second := by
  have chars := congrArg String.toList same
  rw [String.toList_append, String.toList_append] at chars
  exact String.toList_inj.mp (List.append_cancel_left chars)

theorem requestKey_inj {first second : RuleEntry} :
    requestKey access first = requestKey access second ↔ first.path = second.path :=
  ⟨append_left_cancel, fun same => congrArg (_ ++ ·) same⟩

theorem joinDots_cons (head : String) {names : List String} (nonempty : names ≠ []) :
    head ++ "." ++ joinDots names = joinDots (head :: names) := by
  obtain ⟨first, rest, rfl⟩ := List.exists_cons_of_ne_nil nonempty
  apply String.toList_inj.mp
  simp [joinDots, List.intercalate, String.toList_append]

theorem joinDots_singleton (name : String) : joinDots [name] = name := by
  simp [joinDots, List.intercalate]

theorem joinDots_injective {first second : List String} (some : first ≠ []) (some' : second ≠ [])
    (plain : ∀ name ∈ first, IsSegment name) (plain' : ∀ name ∈ second, IsSegment name)
    (same : joinDots first = joinDots second) : first = second := by
  rw [← segments_joinDots some plain, same, segments_joinDots some' plain']

/-- The rules below the head of a path. -/
def subEntries (schema : Schema) (access start head : String) (rest : List String) :
    List RuleEntry :=
  let sub := (schema.read head).read "sub"
  if rest.isEmpty || !sub.truthy then []
  else extractOutputFieldRuleEntries sub access (start ++ head ++ ".") rest

/-- A path has one rule, that of its names up to one of them, or goes on below its head. -/
theorem single_or_descends (schema : Schema) (access start head : String) (rest : List String) :
    (∃ names rule, names ≠ [] ∧ names <+: head :: rest ∧
      extractOutputFieldRuleEntries schema access start (head :: rest) =
        [⟨start ++ joinDots names, rule⟩]) ∨
      extractOutputFieldRuleEntries schema access start (head :: rest) =
        ⟨start ++ head, extractScopedOutputRule schema head access⟩ ::
          subEntries schema access start head rest := by
  rw [extractOutputFieldRuleEntries]
  simp only
  split_ifs with absent own stop
  · exact Or.inl ⟨_, _, List.cons_ne_nil _ _, List.prefix_rfl, rfl⟩
  · exact Or.inl ⟨_, _, List.cons_ne_nil _ _, List.prefix_rfl, rfl⟩
  · exact Or.inr (by simp only [subEntries, if_pos stop])
  · exact Or.inr (by simp only [subEntries, if_neg stop])

/-- A rule stands under names that the path begins with. -/
theorem extract_named (path : List String) (schema : Schema) (start : String) :
    ∀ entry ∈ extractOutputFieldRuleEntries schema access start path,
      ∃ names, names ≠ [] ∧ names <+: path ∧ entry.path = start ++ joinDots names := by
  induction path generalizing schema start with
  | nil => simp [extractOutputFieldRuleEntries]
  | cons head rest ih =>
    intro entry member
    rcases single_or_descends schema access start head rest with
      ⟨names, rule, some, within, alone⟩ | descends
    · rw [alone, List.mem_singleton] at member
      exact ⟨names, some, within, member ▸ rfl⟩
    · rw [descends] at member
      rcases List.mem_cons.mp member with rfl | deeper
      · refine ⟨[head], List.cons_ne_nil _ _, ⟨rest, rfl⟩, ?_⟩
        rw [joinDots_singleton]
      · rw [subEntries] at deeper
        split_ifs at deeper
        · contradiction
        · obtain ⟨names, some, within, named⟩ := ih _ _ entry deeper
          refine ⟨head :: names, List.cons_ne_nil _ _,
            List.cons_prefix_cons.mpr ⟨rfl, within⟩, ?_⟩
          rw [named, ← joinDots_cons head some, String.append_assoc, String.append_assoc,
            String.append_assoc]

theorem subEntries_named {schema : Schema} {start head : String} {rest : List String}
    {entry : RuleEntry} (member : entry ∈ subEntries schema access start head rest) :
    ∃ names, names ≠ [] ∧ names <+: rest ∧ entry.path = start ++ joinDots (head :: names) := by
  rw [subEntries] at member
  split_ifs at member
  · contradiction
  · obtain ⟨names, some, within, named⟩ := extract_named rest _ _ entry member
    refine ⟨names, some, within, ?_⟩
    rw [named, ← joinDots_cons head some, String.append_assoc, String.append_assoc,
      String.append_assoc]

theorem cons_named {start head head' : String} {rest rest' names names' : List String}
    (plain : ∀ name ∈ head :: rest, IsSegment name)
    (plain' : ∀ name ∈ head' :: rest', IsSegment name) (within : names <+: rest)
    (within' : names' <+: rest')
    (same : start ++ joinDots (head :: names) = start ++ joinDots (head' :: names')) :
    head :: names = head' :: names' := by
  refine joinDots_injective (List.cons_ne_nil _ _) (List.cons_ne_nil _ _) ?_ ?_
    (append_left_cancel same)
  · exact fun name member =>
      plain name ((List.cons_prefix_cons.mpr ⟨rfl, within⟩).subset member)
  · exact fun name member =>
      plain' name ((List.cons_prefix_cons.mpr ⟨rfl, within'⟩).subset member)

/-- A rule below the head of a path has another key than one at the head. -/
theorem sub_ne_head {schema : Schema} {start head head' : String} {rest rest' : List String}
    (plain : ∀ name ∈ head :: rest, IsSegment name)
    (plain' : ∀ name ∈ head' :: rest', IsSegment name) {entry : RuleEntry}
    (member : entry ∈ subEntries schema access start head rest) : entry.path ≠ start ++ head' := by
  obtain ⟨names, some, within, named⟩ := subEntries_named member
  intro same
  have alone : start ++ joinDots (head :: names) = start ++ joinDots [head'] := by
    rw [← named, same, joinDots_singleton]
  exact some (List.cons.inj (cons_named plain plain' within List.nil_prefix alone)).2

/-- Rules deeper on a path stand under other keys. -/
theorem extract_apart (path : List String) (plain : ∀ name ∈ path, IsSegment name)
    (schema : Schema) (start : String) :
    (extractOutputFieldRuleEntries schema access start path).Pairwise
      fun first second => second.path ≠ first.path := by
  induction path generalizing schema start with
  | nil => exact .nil
  | cons head rest ih =>
    rcases single_or_descends schema access start head rest with
      ⟨names, rule, some, within, alone⟩ | descends
    · rw [alone]
      exact List.pairwise_singleton _ _
    · rw [descends]
      refine List.pairwise_cons.mpr ⟨fun entry deeper => sub_ne_head plain plain deeper, ?_⟩
      rw [subEntries]
      split_ifs
      · exact .nil
      · exact ih (fun name member => plain name (List.mem_cons_of_mem _ member)) _ _

/-- Where two paths have different rules under one key, one of them ends with its rule, and the
rules before it stand before that of the other one. -/
theorem extract_clash (first second : List String) (plain : ∀ name ∈ first, IsSegment name)
    (plain' : ∀ name ∈ second, IsSegment name) (schema : Schema) (start : String)
    {before after before' after' : List RuleEntry} {entry other : RuleEntry}
    (placed : extractOutputFieldRuleEntries schema access start first = before ++ entry :: after)
    (placed' : extractOutputFieldRuleEntries schema access start second =
      before' ++ other :: after')
    (same : entry.path = other.path) (differs : entry.rule ≠ other.rule) :
    (after = [] ∧ before <+: before') ∨ (after' = [] ∧ before' <+: before) := by
  induction first generalizing second schema start before before' with
  | nil => simp [extractOutputFieldRuleEntries] at placed
  | cons head rest ih =>
    cases second with
    | nil => simp [extractOutputFieldRuleEntries] at placed'
    | cons head' rest' =>
      rcases single_or_descends schema access start head rest with
        ⟨_, _, _, _, alone⟩ | descends
      · obtain ⟨rfl, _, rfl⟩ := eq_singleton (placed.symm.trans alone)
        exact Or.inl ⟨rfl, List.nil_prefix⟩
      rcases single_or_descends schema access start head' rest' with
        ⟨_, _, _, _, alone⟩ | descends'
      · obtain ⟨rfl, _, rfl⟩ := eq_singleton (placed'.symm.trans alone)
        exact Or.inr ⟨rfl, List.nil_prefix⟩
      rw [descends] at placed
      rw [descends'] at placed'
      cases before with
      | nil =>
        obtain ⟨rfl, _⟩ := List.cons.inj placed
        cases before' with
        | nil =>
          obtain ⟨rfl, _⟩ := List.cons.inj placed'
          exact absurd (append_left_cancel same ▸ rfl) differs
        | cons _ before' =>
          have member : other ∈ subEntries schema access start head' rest' := by
            rw [(List.cons.inj placed').2]
            exact List.mem_append_cons_self
          exact absurd same.symm (sub_ne_head plain' plain member)
      | cons _ before =>
        obtain ⟨rfl, deeper⟩ := List.cons.inj placed
        have member : entry ∈ subEntries schema access start head rest := by
          rw [deeper]
          exact List.mem_append_cons_self
        cases before' with
        | nil =>
          obtain ⟨rfl, _⟩ := List.cons.inj placed'
          exact absurd same (sub_ne_head plain plain' member)
        | cons _ before' =>
          obtain ⟨rfl, deeper'⟩ := List.cons.inj placed'
          have member' : other ∈ subEntries schema access start head' rest' := by
            rw [deeper']
            exact List.mem_append_cons_self
          obtain ⟨names, _, within, named⟩ := subEntries_named member
          obtain ⟨names', _, within', named'⟩ := subEntries_named member'
          -- both rules stand below one head, in one sub schema
          obtain ⟨rfl, _⟩ := List.cons.inj (cons_named plain plain' within within'
            (named.symm.trans (same.trans named')))
          have tail := fun name member => plain name (List.mem_cons_of_mem head member)
          have tail' := fun name member => plain' name (List.mem_cons_of_mem head member)
          rw [subEntries] at deeper deeper'
          split_ifs at deeper deeper'
          · simp at deeper
          · simp at deeper
          · simp at deeper'
          · exact (ih rest' tail tail' _ _ deeper deeper').imp
              (And.imp_right fun shared => List.cons_prefix_cons.mpr ⟨rfl, shared⟩)
              (And.imp_right fun shared => List.cons_prefix_cons.mpr ⟨rfl, shared⟩)

end Keys

section Stage

/-- The decisions on paths that are asked for one after another on one stage. -/
def decideInTurn (document : Document) (policy : CallFieldPolicy) (access : String) :
    List String → Decisions → List Bool
  | [], _ => []
  | path :: rest, decisions =>
    let decided := evaluateAuthorizedOutputField document policy path access decisions
    decided.1 :: decideInTurn document policy access rest decided.2

def rulesOf (policy : CallFieldPolicy) (access path : String) : List RuleEntry :=
  extractOutputFieldRuleEntries policy.schema access "" (segments path)

/-- Every rule before it on its path is true. -/
def Reached (entries : List RuleEntry) (entry : RuleEntry) : Prop :=
  ∃ before after, entries = before ++ entry :: after ∧
    ∀ earlier ∈ before, earlier.rule.isTrue = true

/-- Rules of one identity that listed paths without an output grant reach have one value. -/
def Coherent (policy : CallFieldPolicy) (access : String) (paths : List String) : Prop :=
  ∀ first ∈ paths, ∀ second ∈ paths,
    hasExplicitFieldGrant policy.outputFields first = false →
    hasExplicitFieldGrant policy.outputFields second = false →
    ∀ entry other, Reached (rulesOf policy access first) entry →
      Reached (rulesOf policy access second) other → entry.path = other.path →
        entry.rule.isTrue = other.rule.isTrue

/-- A boolean rule on a stage: the decision under its identity, or its own from now on. -/
def settleRule (access : String) (entry : RuleEntry) (decisions : Decisions) : Bool × Decisions :=
  match decisions.lookup (requestKey access entry) with
  | some value => (value, decisions)
  | none => (entry.rule.isTrue, (requestKey access entry, entry.rule.isTrue) :: decisions)

variable {document : Document} {policy : CallFieldPolicy} {access path : String}
  {decisions : Decisions} {entry : RuleEntry} {value : Bool}

theorem settleRule_found (found : decisions.lookup (requestKey access entry) = some value) :
    settleRule access entry decisions = (value, decisions) := by
  rw [settleRule, found]

theorem settleRule_fresh (fresh : decisions.lookup (requestKey access entry) = none) :
    settleRule access entry decisions =
      (entry.rule.isTrue, (requestKey access entry, entry.rule.isTrue) :: decisions) := by
  rw [settleRule, fresh]

theorem evaluateRequestRule_eq {modelPermissionPrefix : String}
    (named : policy.modelPermissionPrefix = some modelPermissionPrefix)
    (boolean : isBooleanLeaf entry.rule = true) (decisions : Decisions) :
    evaluateRequestRule document policy access entry decisions =
      settleRule access entry decisions := by
  have decided := decision_of_booleanLeaf boolean document.permissions modelPermissionPrefix
  rw [evaluateRequestRule, memoizeStageFieldDecision, settleRule]
  cases found : decisions.lookup (requestKey access entry) with
  | some value => rfl
  | none =>
    simp only [requestRuleClassification, named, Option.map_some, Option.bind_some, decided]

theorem orderedRules_congr {evaluate evaluate' : RuleEntry → Decisions → Bool × Decisions}
    {entries : List RuleEntry}
    (same : ∀ entry ∈ entries, ∀ decisions, evaluate entry decisions = evaluate' entry decisions)
    (decisions : Decisions) :
    orderedRules evaluate entries decisions = orderedRules evaluate' entries decisions := by
  induction entries generalizing decisions with
  | nil => rfl
  | cons entry rest ih =>
    obtain ⟨first, later⟩ := List.forall_mem_cons.mp same
    rw [orderedRules, orderedRules, first]
    split
    · exact ih later _
    · rfl

/-- An admitted path is decided by its output grant or by its boolean rules. -/
theorem evaluate_admitted {modelPermissionPrefix : String}
    (named : policy.modelPermissionPrefix = some modelPermissionPrefix)
    (boolean : ∀ entry ∈ rulesOf policy access path, isBooleanLeaf entry.rule = true)
    (plain : decisions.lookup ("output:" ++ path) = none) :
    evaluateAuthorizedOutputField document policy path access decisions =
      if hasExplicitFieldGrant policy.outputFields path then (true, decisions)
      else orderedRules (settleRule access) (rulesOf policy access path) decisions := by
  have settled : (prepareOutputPath policy document.permissions path access).documentDependent =
      false := by
    rw [prepareOutputPath]
    simp only [List.any_map, List.any_eq_false, Function.comp_apply]
    intro entry member
    have decided := decision_of_booleanLeaf (boolean entry member) document.permissions
      modelPermissionPrefix
    simp only [requestRuleClassification, named, Option.map_some, Option.bind_some, decided,
      Option.isNone_some, Bool.false_eq_true, not_false_eq_true]
  have ordered : orderedRules (evaluateRequestRule document policy access)
      (rulesOf policy access path) decisions =
        orderedRules (settleRule access) (rulesOf policy access path) decisions :=
    orderedRules_congr (fun entry member => evaluateRequestRule_eq named (boolean entry member)) _
  rw [evaluateAuthorizedOutputField, plain]
  simp only [settled, Bool.false_eq_true, if_false]
  rw [← ordered]
  rfl

/-- Each decision is that of a rule that a listed path without an output grant reaches. -/
def Backed (policy : CallFieldPolicy) (access : String) (paths : List String)
    (decisions : Decisions) : Prop :=
  ∀ key value, (key, value) ∈ decisions → ∃ path ∈ paths,
    hasExplicitFieldGrant policy.outputFields path = false ∧
      ∃ entry, Reached (rulesOf policy access path) entry ∧ key = requestKey access entry ∧
        value = entry.rule.isTrue

theorem mem_of_lookup {key : String} (found : decisions.lookup key = some value) :
    (key, value) ∈ decisions := by
  obtain ⟨before, after, rfl, _⟩ := List.lookup_eq_some_iff.mp found
  exact List.mem_append_cons_self

theorem requestKey_ne_output (entry : RuleEntry) (path : String) :
    requestKey access entry ≠ "output:" ++ path := by
  intro same
  have heads := congrArg (fun text => text.toList.head?) same
  simp [requestKey, String.toList_append] at heads

theorem Backed.plain {paths : List String} (backed : Backed policy access paths decisions)
    (path : String) : decisions.lookup ("output:" ++ path) = none := by
  cases found : decisions.lookup ("output:" ++ path) with
  | none => rfl
  | some value =>
    obtain ⟨_, _, _, entry, _, key, _⟩ := backed _ value (mem_of_lookup found)
    exact absurd key.symm (requestKey_ne_output entry path)

/-- On a coherent list a stage decides a path as its own rules do. -/
theorem orderedRules_backed {paths : List String} (coherent : Coherent policy access paths)
    (listed : path ∈ paths) (ungranted : hasExplicitFieldGrant policy.outputFields path = false)
    (entries before : List RuleEntry) (decisions : Decisions)
    (placed : rulesOf policy access path = before ++ entries)
    (reached : ∀ earlier ∈ before, earlier.rule.isTrue = true)
    (backed : Backed policy access paths decisions) :
    (orderedRules (settleRule access) entries decisions).1 = entries.all (·.rule.isTrue) ∧
      Backed policy access paths (orderedRules (settleRule access) entries decisions).2 := by
  induction entries generalizing before decisions with
  | nil => exact ⟨rfl, backed⟩
  | cons entry rest ih =>
    have here : Reached (rulesOf policy access path) entry := ⟨before, rest, placed, reached⟩
    obtain ⟨after, settled, backed'⟩ : ∃ after,
        settleRule access entry decisions = (entry.rule.isTrue, after) ∧
          Backed policy access paths after := by
      cases found : decisions.lookup (requestKey access entry) with
      | some value =>
        obtain ⟨other, listed', ungranted', rule, reached', key, same⟩ :=
          backed _ value (mem_of_lookup found)
        have equal := coherent path listed other listed' ungranted ungranted' entry rule here
          reached' (requestKey_inj.mp key)
        exact ⟨decisions, by rw [settleRule_found found, same, equal], backed⟩
      | none =>
        refine ⟨_, settleRule_fresh found, fun key value member => ?_⟩
        rcases List.mem_cons.mp member with same | earlier
        · obtain ⟨rfl, rfl⟩ := Prod.mk.inj same
          exact ⟨path, listed, ungranted, entry, here, rfl, rfl⟩
        · exact backed key value earlier
    rw [orderedRules, settled, List.all_cons]
    cases allowed : entry.rule.isTrue with
    | false => exact ⟨rfl, backed'⟩
    | true =>
      refine ih (before ++ [entry]) after (by simpa using placed) ?_ backed'
      exact List.forall_mem_append.mpr ⟨reached, List.forall_mem_singleton.mpr allowed⟩

/-- A stage keeps each decision that it has. -/
theorem orderedRules_keeps (entries : List RuleEntry) {decisions : Decisions} {key : String}
    (found : decisions.lookup key = some value) :
    (orderedRules (settleRule access) entries decisions).2.lookup key = some value := by
  induction entries generalizing decisions with
  | nil => exact found
  | cons entry rest ih =>
    have kept : (settleRule access entry decisions).2.lookup key = some value := by
      cases fresh : decisions.lookup (requestKey access entry) with
      | some other => rwa [settleRule_found fresh]
      | none =>
        rw [settleRule_fresh fresh, List.lookup_cons]
        have apart : (key == requestKey access entry) = false :=
          beq_false_of_ne fun same => by rw [← same, found] at fresh; contradiction
        rw [apart]
        exact found
    rw [orderedRules]
    split
    · next settled =>
      rw [settled] at kept
      exact ih kept
    · next settled =>
      rw [settled] at kept
      exact kept

theorem orderedRules_plain (entries : List RuleEntry) {decisions : Decisions}
    (plain : decisions.lookup ("output:" ++ path) = none) :
    (orderedRules (settleRule access) entries decisions).2.lookup ("output:" ++ path) = none := by
  induction entries generalizing decisions with
  | nil => exact plain
  | cons entry rest ih =>
    have kept : (settleRule access entry decisions).2.lookup ("output:" ++ path) = none := by
      cases fresh : decisions.lookup (requestKey access entry) with
      | some other => rwa [settleRule_found fresh]
      | none =>
        rw [settleRule_fresh fresh, List.lookup_cons,
          beq_false_of_ne (requestKey_ne_output entry path).symm]
        exact plain
    rw [orderedRules]
    split
    · next settled => exact ih (by rwa [settled] at kept)
    · next settled => rwa [settled] at kept

/-- A fresh stage has the own value of each rule that it reached. -/
theorem orderedRules_settles {entries : List RuleEntry}
    (apart : entries.Pairwise fun first second => second.path ≠ first.path)
    {decisions : Decisions}
    (fresh : ∀ entry ∈ entries, decisions.lookup (requestKey access entry) = none)
    (reached : Reached entries entry) :
    (orderedRules (settleRule access) entries decisions).2.lookup (requestKey access entry) =
      some entry.rule.isTrue := by
  induction entries generalizing decisions with
  | nil =>
    obtain ⟨before, after, placed, _⟩ := reached
    simp at placed
  | cons first rest ih =>
    obtain ⟨new, later⟩ := List.forall_mem_cons.mp fresh
    obtain ⟨distinct, apart⟩ := List.pairwise_cons.mp apart
    obtain ⟨before, after, placed, earlier⟩ := reached
    have own : ((requestKey access first, first.rule.isTrue) :: decisions).lookup
        (requestKey access first) = some first.rule.isTrue := by
      rw [List.lookup_cons, beq_self_eq_true]
    rw [orderedRules, settleRule_fresh new]
    cases before with
    | nil =>
      obtain ⟨rfl, _⟩ := List.cons.inj placed
      cases allowed : first.rule.isTrue with
      | true =>
        rw [allowed] at own
        exact orderedRules_keeps rest own
      | false =>
        rw [allowed] at own
        exact own
    | cons _ before =>
      obtain ⟨rfl, rest_placed⟩ := List.cons.inj placed
      obtain ⟨allowed, earlier⟩ := List.forall_mem_cons.mp earlier
      rw [allowed]
      refine ih apart (fun entry member => ?_) ⟨before, after, rest_placed, earlier⟩
      have other : (requestKey access entry == requestKey access first) = false :=
        beq_false_of_ne fun same => distinct entry member (requestKey_inj.mp same)
      rw [List.lookup_cons, other]
      exact later entry member

/-- Where a stage has a decision for every rule, it takes these. -/
theorem orderedRules_found {shared : List RuleEntry}
    (allowed : ∀ rule ∈ shared, decisions.lookup (requestKey access rule) = some true)
    (found : decisions.lookup (requestKey access entry) = some value) :
    (orderedRules (settleRule access) (shared ++ [entry]) decisions).1 = value := by
  induction shared with
  | nil =>
    rw [List.nil_append, orderedRules, settleRule_found found]
    cases value <;> rfl
  | cons first rest ih =>
    obtain ⟨here, later⟩ := List.forall_mem_cons.mp allowed
    rw [List.cons_append, orderedRules, settleRule_found here]
    exact ih later

/-- The static flag of a path. -/
def staticFlag (policy : CallFieldPolicy) (access path : String) : Bool :=
  hasExplicitFieldGrant policy.outputFields path ||
    (rulesOf policy access path).all (·.rule.isTrue)

variable {modelPermissionPrefix : String} {paths : List String}

theorem decideInTurn_coherent (coherent : Coherent policy access paths)
    (named : policy.modelPermissionPrefix = some modelPermissionPrefix)
    (boolean : ∀ path ∈ paths, ∀ entry ∈ rulesOf policy access path,
      isBooleanLeaf entry.rule = true)
    {asked : List String} (listed : ∀ path ∈ asked, path ∈ paths) {decisions : Decisions}
    (backed : Backed policy access paths decisions) :
    decideInTurn document policy access asked decisions = asked.map (staticFlag policy access) := by
  induction asked generalizing decisions with
  | nil => rfl
  | cons path rest ih =>
    obtain ⟨here, later⟩ := List.forall_mem_cons.mp listed
    rw [decideInTurn, List.map_cons, staticFlag,
      evaluate_admitted named (boolean path here) (backed.plain path)]
    cases granted : hasExplicitFieldGrant policy.outputFields path with
    | true => exact congrArg (true :: ·) (ih later backed)
    | false =>
      obtain ⟨decided, backed'⟩ := orderedRules_backed coherent here granted
        (rulesOf policy access path) [] decisions rfl nofun backed
      exact congrArg₂ List.cons decided (ih later backed')

/-- Where a rule ends a path and is another rule of the same identity on a second path, the stage
that has decided the second path decides the first one otherwise. -/
theorem decideInTurn_clash (named : policy.modelPermissionPrefix = some modelPermissionPrefix)
    {first second : String}
    (boolean : ∀ entry ∈ rulesOf policy access first, isBooleanLeaf entry.rule = true)
    (boolean' : ∀ entry ∈ rulesOf policy access second, isBooleanLeaf entry.rule = true)
    (ungranted : hasExplicitFieldGrant policy.outputFields first = false)
    (ungranted' : hasExplicitFieldGrant policy.outputFields second = false)
    {before before' after' : List RuleEntry} {entry other : RuleEntry}
    (placed : rulesOf policy access first = before ++ [entry])
    (placed' : rulesOf policy access second = before' ++ other :: after')
    (shared : before <+: before') (allowed : ∀ rule ∈ before', rule.rule.isTrue = true)
    (same : entry.path = other.path)
    (agrees : decideInTurn document policy access [second, first] [] =
      [staticFlag policy access second, staticFlag policy access first]) :
    entry.rule.isTrue = other.rule.isTrue := by
  have apart : (rulesOf policy access second).Pairwise fun first second =>
      second.path ≠ first.path := extract_apart _ (fun _ => isSegment_of_mem) _ _
  obtain ⟨stage, made⟩ : ∃ stage,
      (orderedRules (settleRule access) (rulesOf policy access second) []).2 = stage := ⟨_, rfl⟩
  have settles {rule : RuleEntry} (reached : Reached (rulesOf policy access second) rule) :
      stage.lookup (requestKey access rule) = some rule.rule.isTrue :=
    made ▸ orderedRules_settles apart (fun _ _ => List.lookup_nil) reached
  have plain : stage.lookup ("output:" ++ first) = none :=
    made ▸ orderedRules_plain _ List.lookup_nil
  have before_settled : ∀ rule ∈ before, stage.lookup (requestKey access rule) = some true := by
    intro rule member
    obtain ⟨earlier, later, split⟩ := List.append_of_mem (shared.subset member)
    rw [← allowed rule (shared.subset member)]
    refine settles ⟨earlier, later ++ other :: after', ?_, fun prior inside => ?_⟩
    · rw [placed', split, List.append_assoc, List.cons_append]
    · exact allowed prior (split ▸ List.mem_append_left _ inside)
  have found := settles ⟨before', after', placed', allowed⟩
  rw [← requestKey_inj.mpr same] at found
  have decided := orderedRules_found before_settled found
  rw [decideInTurn, decideInTurn, decideInTurn, evaluate_admitted named boolean' List.lookup_nil,
    if_neg (by simp [ungranted']), made, evaluate_admitted named boolean plain,
    if_neg (by simp [ungranted]), placed, decided] at agrees
  have last := (List.cons.inj (List.cons.inj agrees).2).1
  rw [last, staticFlag, ungranted, placed, Bool.false_or, List.all_append, List.all_cons,
    List.all_nil, Bool.and_true]
  have earlier : before.all (·.rule.isTrue) = true :=
    List.all_eq_true.mpr fun rule member => allowed rule (shared.subset member)
  rw [earlier, Bool.true_and]

theorem coherent_of_agrees (document : Document)
    (named : policy.modelPermissionPrefix = some modelPermissionPrefix)
    (boolean : ∀ path ∈ paths, ∀ entry ∈ rulesOf policy access path,
      isBooleanLeaf entry.rule = true)
    (agrees : ∀ first ∈ paths, ∀ second ∈ paths,
      decideInTurn document policy access [first, second] [] =
        [staticFlag policy access first, staticFlag policy access second]) :
    Coherent policy access paths := by
  intro first listed second listed' ungranted ungranted' entry other reached reached' same
  obtain ⟨before, after, placed, allowed⟩ := reached
  obtain ⟨before', after', placed', allowed'⟩ := reached'
  by_contra differs
  have apart : entry.rule ≠ other.rule := fun equal => differs (congrArg Schema.isTrue equal)
  rcases extract_clash (segments first) (segments second) (fun _ => isSegment_of_mem)
    (fun _ => isSegment_of_mem) policy.schema "" placed placed' same apart with
    ⟨rfl, shared⟩ | ⟨rfl, shared⟩
  · exact differs (decideInTurn_clash named (boolean first listed) (boolean second listed')
      ungranted ungranted' placed placed' shared allowed' same
      (agrees second listed' first listed))
  · exact differs (decideInTurn_clash named (boolean second listed') (boolean first listed)
      ungranted' ungranted placed' placed shared allowed same.symm
      (agrees first listed second listed')).symm

end Stage

/-- A path of an admitted list, with the boolean rules that its flag comes from. -/
theorem admitted_path {call : CallFieldPolicy} {permissions : String → Bool} {paths : List String}
    {access : String} {static : List StaticOutputPath}
    (admitted : prepareStaticOutputPaths (some call) permissions paths access false = some static) :
    (∃ modelPermissionPrefix, call.modelPermissionPrefix = some modelPermissionPrefix) ∧
      (∀ path ∈ paths, ∀ entry ∈ rulesOf call access path, isBooleanLeaf entry.rule = true) ∧
      static.map (·.path) = paths ∧
      ∀ entry ∈ static, entry.granted = staticFlag call access entry.path := by
  rw [prepareStaticOutputPaths] at admitted
  simp only at admitted
  split_ifs at admitted with unfit refused
  simp only [Bool.or_eq_true, not_or, Bool.not_eq_true, Option.isNone_eq_false_iff] at unfit
  obtain rfl := Option.some.inj admitted
  refine ⟨Option.isSome_iff_exists.mp unfit.2, fun path member => ?_, ?_, ?_⟩
  · refine isBooleanLeaf_of_lookup (segments path) call.schema "" ?_
    by_contra lost
    refine refused (List.any_eq_true.mpr ⟨path, member, ?_⟩)
    rw [eq_false_of_ne_true lost, Bool.not_false, Bool.or_true]
  · simp [List.map_map, Function.comp_def]
  · intro entry member
    obtain ⟨path, _, rfl⟩ := List.mem_map.mp member
    rfl

/-- A policy with one sub record, and a request grant that the fast path admits. -/
def contactPolicy : CallFieldPolicy where
  schema := .record true
    [("contact", true, .record true
      [("read", true, .leaf (.bool true)),
        ("sub", true, .record true [("email", true, .leaf (.bool true))] [])] [])] []
  modelPermissionPrefix := some "org."
  outputFields := .request
  catalog := ⟨["contact", "contact.email"], none, [], [], [], [], ["contact"], [], [], [], [], []⟩
  reusable := true

theorem contactPolicy_coherent :
    Coherent contactPolicy "read" ["contact.email", "contact"] := by
  have allowed : ∀ path ∈ ["contact.email", "contact"],
      ∀ entry ∈ rulesOf contactPolicy "read" path, entry.rule.isTrue = true := by
    have listed : (["contact.email", "contact"].all fun path =>
        (rulesOf contactPolicy "read" path).all (·.rule.isTrue)) = true := rfl
    simpa only [List.all_eq_true] using listed
  rintro first listed second listed' _ _ entry other ⟨_, _, placed, _⟩ ⟨_, _, placed', _⟩ _
  rw [allowed first listed entry (placed ▸ List.mem_append_cons_self),
    allowed second listed' other (placed' ▸ List.mem_append_cons_self)]

/-- A dotted key beside the record of its head: two rules of the identity `a.b`. -/
def sharedPolicy : CallFieldPolicy where
  schema := .record true
    [("a.b", true, .leaf (.bool true)),
      ("a", true, .record true
        [("read", true, .leaf (.bool true)),
          ("sub", true, .record true
            [("b", true, .record true
              [("read", true, .leaf (.bool false)),
                ("sub", true, .record true [("c", true, .leaf (.bool true))] [])] [])] [])] [])] []
  modelPermissionPrefix := some "org."
  outputFields := .request
  catalog := ⟨["a", "a.b", "a.b.c"], none, [], [], [], [], ["a", "a.b"], [], [], [], [], []⟩
  reusable := true

end WebTsToolkit.AccessRouter.OutputPolicy
