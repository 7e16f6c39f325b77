import WebTsToolkit.AccessRouter.FieldCatalog
import WebTsToolkit.AccessRouter.FieldRules

set_option autoImplicit false

namespace WebTsToolkit.AccessRouter.OutputPolicy

open Js FieldRules FieldCatalog

/-- A permission schema, or what stands in one. A record is an object that is no array: it is
ordinary when it is frozen, no proxy, and made from the `Object` prototype. An own slot says
whether it holds data or an accessor, with the value a read gives. -/
inductive Schema where
  | leaf (value : Value)
  | record (ordinary : Bool) (own : List (String × Bool × Schema))
      (inherited : List (String × Schema))

namespace Schema

def ownSlot (schema : Schema) (key : String) : Option (Bool × Schema) :=
  match schema with
  | .leaf _ => none
  | .record _ own _ => own.lookup key

def hasOwn (schema : Schema) (key : String) : Bool :=
  (schema.ownSlot key).isSome

def inheritedValue (schema : Schema) (key : String) : Option Schema :=
  match schema with
  | .leaf _ => none
  | .record _ _ inherited => inherited.lookup key

/-- `schema[key]`. -/
def read (schema : Schema) (key : String) : Schema :=
  match schema.ownSlot key with
  | some slot => slot.2
  | none => (schema.inheritedValue key).getD (.leaf .undefined)

def truthy : Schema → Bool
  | .leaf value => FieldRules.truthy value
  | .record .. => true

def isNullish : Schema → Bool
  | .leaf value => value.isNullish
  | .record .. => false

/-- What the rule evaluator sees: a record is no rule. -/
def rule : Schema → Value
  | .leaf value => value
  | .record .. => .object []

def isTrue : Schema → Bool
  | .leaf (.bool true) => true
  | _ => false

def isRecord : Schema → Bool
  | .leaf _ => false
  | .record .. => true

/-- Frozen, no proxy, made from the `Object` prototype. -/
def ordinaryContainer : Schema → Bool
  | .leaf _ => false
  | .record ordinary _ _ => ordinary

end Schema

/-- The presence of the access key matters: an explicit false must never fall back to the
record. -/
def extractScopedOutputRule (schema : Schema) (field access : String) : Schema :=
  if !schema.truthy || !schema.hasOwn field then .leaf .undefined
  else
    let raw := schema.read field
    if raw.isRecord && raw.hasOwn access then raw.read access else raw

structure RuleEntry where
  path : String
  rule : Schema

/-- The rules of a path, given by its segments, with the request ancestors first. -/
def extractOutputFieldRuleEntries (schema : Schema) (access start : String) :
    List String → List RuleEntry
  | [] => []
  | head :: rest =>
    let path := joinDots (head :: rest)
    if !schema.truthy then [⟨start ++ path, .leaf .undefined⟩]
    else if schema.hasOwn path then [⟨start ++ path, extractScopedOutputRule schema path access⟩]
    else
      let entry : RuleEntry := ⟨start ++ head, extractScopedOutputRule schema head access⟩
      let sub := (schema.read head).read "sub"
      if rest.isEmpty || !sub.truthy then [entry]
      else entry :: extractOutputFieldRuleEntries sub access (start ++ head ++ ".") rest

def isBooleanLeaf : Schema → Bool
  | .leaf (.bool _) | .leaf .undefined => true
  | _ => false

/-- A boolean or absent rule, or an ordinary record that has one as data under the access. -/
def booleanRule (access : String) (raw : Schema) : Bool :=
  isBooleanLeaf raw ||
    (raw.ordinaryContainer &&
      match raw.ownSlot access with
      | some (isData, value) => isData && isBooleanLeaf value
      | none => false)

/-- Proves the lookup route of a path: no function, coercion, inherited slot or proxy takes
part in it. -/
def booleanRuleLookup (access : String) (schema : Schema) : List String → Bool
  | [] => false
  | head :: rest =>
    if schema.isNullish then true
    else if !schema.ordinaryContainer then false
    else
      match schema.ownSlot (joinDots (head :: rest)) with
      | some (isData, value) => isData && booleanRule access value
      | none =>
        match schema.ownSlot head with
        | none => (schema.inheritedValue head).isNone
        | some (isData, value) =>
          if !isData || !booleanRule access value then false
          else if rest.isEmpty || value.isNullish then true
          else if !value.ordinaryContainer then false
          else
            match value.ownSlot "sub" with
            | none => (value.inheritedValue "sub").isNone
            | some (isData, sub) =>
              isData && (!sub.truthy || booleanRuleLookup access sub rest)

/-- The policy that a call owns; a prefix that is no string is `none`. -/
structure CallFieldPolicy where
  schema : Schema
  modelPermissionPrefix : Option String
  outputFields : FieldAuthorization
  catalog : AuthorizationFieldCatalog
  reusable : Bool

def requestRuleClassification (entry : RuleEntry) (permissions : String → Bool)
    (modelPermissionPrefix : Option String) : Option RequestRuleClassification :=
  modelPermissionPrefix.map (prepareRequestFieldRule entry.rule.rule permissions)

structure PreparedOutputPath where
  entries : List RuleEntry
  state : Option FieldAuthorizationState
  backendGrant : Bool
  documentDependent : Bool

def prepareOutputPath (policy : CallFieldPolicy) (permissions : String → Bool)
    (path access : String) : PreparedOutputPath :=
  let entries := extractOutputFieldRuleEntries policy.schema access "" (segments path)
  let classifications := entries.map fun entry =>
    requestRuleClassification entry permissions policy.modelPermissionPrefix
  let backendGrant := hasExplicitFieldGrant policy.outputFields path
  { entries
    backendGrant
    documentDependent := classifications.any fun value => (value.bind (·.decision)).isNone
    state :=
      if backendGrant then some .granted
      else if classifications.all (·.isSome) then
        some (combineFieldAuthorizationStates (classifications.filterMap (·.map (·.state))))
      else none }

structure StaticRule where
  key : String
  allowed : Bool

structure StaticOutputPath where
  path : String
  backendGrant : Bool
  granted : Bool
  entries : List StaticRule

def requestKey (access : String) (entry : RuleEntry) : String :=
  "request:" ++ access ++ ":" ++ entry.path

/-- The static decisions of the paths, where the policy of the call can be prepared and every
path is admitted. -/
def prepareStaticOutputPaths (policy : Option CallFieldPolicy) (permissions : String → Bool)
    (paths : List String) (access : String) (requestOnly : Bool) : Option (List StaticOutputPath) :=
  match policy with
  | none => none
  | some policy =>
    if !policy.reusable || policy.modelPermissionPrefix.isNone then none
    else if paths.any fun path =>
        (!requestOnly && !isCatalogOutputPath policy.catalog path) ||
          !booleanRuleLookup access policy.schema (segments path) then none
    else
      some (paths.map fun path =>
        let prepared := prepareOutputPath policy permissions path access
        { path
          backendGrant := !requestOnly && prepared.backendGrant
          granted := prepared.backendGrant || prepared.entries.all (·.rule.isTrue)
          entries := prepared.entries.map fun entry =>
            ⟨requestKey access entry, entry.rule.isTrue⟩ })

/-- Settled decisions of a document stage. -/
abbrev Decisions := List (String × Bool)

/-- The first decision under a key stays. -/
def memoizeStageFieldDecision (decisions : Decisions) (key : String)
    (evaluate : Decisions → Bool × Decisions) : Bool × Decisions :=
  match decisions.lookup key with
  | some value => (value, decisions)
  | none =>
    let (value, decisions) := evaluate decisions
    (value, (key, value) :: decisions)

/-- What the evaluation of a field of one document reads. -/
structure Document where
  permissions : String → Bool
  grants : String → Bool
  answer : Nat → Option Value

def evaluateRequestRule (document : Document) (policy : CallFieldPolicy) (access : String)
    (entry : RuleEntry) (decisions : Decisions) : Bool × Decisions :=
  memoizeStageFieldDecision decisions (requestKey access entry) fun decisions =>
    let classification :=
      requestRuleClassification entry document.permissions policy.modelPermissionPrefix
    let decision :=
      match classification.bind (·.decision) with
      | some decision => decision
      | none =>
        evaluateScopedAccessRuleValue document.answer entry.rule.rule document.permissions
          document.grants (policy.modelPermissionPrefix.getD "")
    (decision, decisions)

/-- One rule after the other, up to the first that denies. -/
def orderedRules (evaluate : RuleEntry → Decisions → Bool × Decisions) :
    List RuleEntry → Decisions → Bool × Decisions
  | [], decisions => (true, decisions)
  | entry :: rest, decisions =>
    match evaluate entry decisions with
    | (true, decisions) => orderedRules evaluate rest decisions
    | (false, decisions) => (false, decisions)

def evaluateAuthorizedOutputField (document : Document) (policy : CallFieldPolicy)
    (path access : String) (decisions : Decisions) : Bool × Decisions :=
  let key := "output:" ++ path
  match decisions.lookup key with
  | some previous => (previous, decisions)
  | none =>
    let prepared := prepareOutputPath policy document.permissions path access
    if prepared.backendGrant then (true, decisions)
    else
      let evaluate := orderedRules (evaluateRequestRule document policy access) prepared.entries
      if prepared.documentDependent then memoizeStageFieldDecision decisions key evaluate
      else evaluate decisions

section Route

variable {access : String} {schema : Schema} {field : String}

theorem extract_present {slot : Bool × Schema} (own : schema.ownSlot field = some slot) :
    extractScopedOutputRule schema field access =
      if slot.2.isRecord && slot.2.hasOwn access then slot.2.read access else slot.2 := by
  have present : schema.hasOwn field = true := by rw [Schema.hasOwn, own]; rfl
  have whole : schema.truthy = true := by
    cases schema with
    | leaf => contradiction
    | record => rfl
  have read : schema.read field = slot.2 := by rw [Schema.read, own]
  rw [extractScopedOutputRule, present, whole, read]
  rfl

theorem isBooleanLeaf_extract {slot : Bool × Schema} (own : schema.ownSlot field = some slot)
    (boolean : booleanRule access slot.2 = true) :
    isBooleanLeaf (extractScopedOutputRule schema field access) = true := by
  rw [extract_present own]
  rw [booleanRule, Bool.or_eq_true, Bool.and_eq_true] at boolean
  obtain ⟨_, value⟩ := slot
  cases value with
  | leaf value =>
    rcases boolean with leaf | ⟨ordinary, _⟩
    · exact leaf
    · contradiction
  | record ordinary slots inherited =>
    rcases boolean with leaf | ⟨_, accessed⟩
    · contradiction
    · cases found : (Schema.record ordinary slots inherited).ownSlot access with
      | none =>
        rw [found] at accessed
        contradiction
      | some entry =>
        rw [found] at accessed
        have present : (Schema.record ordinary slots inherited).hasOwn access = true := by
          rw [Schema.hasOwn, found]; rfl
        have read : (Schema.record ordinary slots inherited).read access = entry.2 := by
          rw [Schema.read, found]
        rw [present, read]
        exact (Bool.and_eq_true_iff.mp accessed).2

theorem extract_absent (absent : schema.ownSlot field = none) :
    extractScopedOutputRule schema field access = .leaf .undefined := by
  have missing : schema.hasOwn field = false := by rw [Schema.hasOwn, absent]; rfl
  rw [extractScopedOutputRule, missing, Bool.not_false, Bool.or_true, if_pos rfl]

theorem truthy_of_ordinary (ordinary : schema.ordinaryContainer = true) : schema.truthy = true := by
  cases schema with
  | leaf => contradiction
  | record => rfl

theorem not_truthy_of_nullish (nullish : schema.isNullish = true) : schema.truthy = false := by
  cases schema with
  | leaf value =>
    cases value with
    | undefined | null => rfl
    | _ => contradiction
  | record => contradiction

theorem read_absent {key : String} (absent : schema.ownSlot key = none)
    (inherited : (schema.inheritedValue key).isNone = true) :
    schema.read key = .leaf .undefined := by
  rw [Schema.read, absent]
  simp only [Option.isNone_iff_eq_none.mp inherited, Option.getD_none]

/-- Where the extractor enters a sub record, the lookup has entered it too. -/
theorem lookup_sub {value : Schema} {rest : List String}
    (admitted : (if (rest.isEmpty || value.isNullish) = true then true
      else if (!value.ordinaryContainer) = true then false
      else
        match value.ownSlot "sub" with
        | none => (value.inheritedValue "sub").isNone
        | some (isData, sub) =>
          isData && (!sub.truthy || booleanRuleLookup access sub rest)) = true)
    (more : ¬ rest.isEmpty = true) (entered : (value.read "sub").truthy = true) :
    booleanRuleLookup access (value.read "sub") rest = true := by
  cases value with
  | leaf value => contradiction
  | record ordinary own inherited =>
    have whole : (Schema.record ordinary own inherited).isNullish = false := rfl
    rw [whole, Bool.or_false, if_neg more] at admitted
    split_ifs at admitted
    cases found : (Schema.record ordinary own inherited).ownSlot "sub" with
    | none =>
      simp only [found] at admitted
      rw [read_absent found admitted] at entered
      contradiction
    | some slot =>
      have read : (Schema.record ordinary own inherited).read "sub" = slot.2 := by
        rw [Schema.read, found]
      rw [read] at entered ⊢
      simp only [found, entered, Bool.not_true, Bool.false_or, Bool.and_eq_true] at admitted
      exact admitted.2

/-- The lookup follows the rule extractor: on an admitted path every rule is a boolean or
absent. -/
theorem isBooleanLeaf_of_lookup (path : List String) (schema : Schema) (start : String)
    (admitted : booleanRuleLookup access schema path = true) :
    ∀ entry ∈ extractOutputFieldRuleEntries schema access start path,
      isBooleanLeaf entry.rule = true := by
  induction path generalizing schema start with
  | nil => simp [extractOutputFieldRuleEntries]
  | cons head rest ih =>
    rw [booleanRuleLookup] at admitted
    rw [extractOutputFieldRuleEntries]
    by_cases nullish : schema.isNullish = true
    · simp [not_truthy_of_nullish nullish, isBooleanLeaf]
    rw [if_neg nullish] at admitted
    by_cases ordinary : schema.ordinaryContainer = true
    swap
    · simp [ordinary] at admitted
    simp only [ordinary, Bool.not_true, Bool.false_eq_true, if_false] at admitted
    simp only [truthy_of_ordinary ordinary, Bool.not_true, Bool.false_eq_true, if_false]
    cases exact_slot : schema.ownSlot (joinDots (head :: rest)) with
    | some slot =>
      have present : schema.hasOwn (joinDots (head :: rest)) = true := by
        rw [Schema.hasOwn, exact_slot]; rfl
      simp only [exact_slot, Bool.and_eq_true] at admitted
      rw [if_pos present]
      exact List.forall_mem_singleton.mpr (isBooleanLeaf_extract exact_slot admitted.2)
    | none =>
      have missing : ¬ schema.hasOwn (joinDots (head :: rest)) = true := by
        rw [Schema.hasOwn, exact_slot]; simp
      simp only [exact_slot] at admitted
      rw [if_neg missing]
      cases head_slot : schema.ownSlot head with
      | none =>
        simp only [head_slot] at admitted
        have nothing : (schema.read head).read "sub" = .leaf .undefined := by
          rw [read_absent head_slot admitted]
          rfl
        have falsy : Schema.truthy (.leaf .undefined) = false := rfl
        simp [nothing, falsy, extract_absent head_slot, isBooleanLeaf]
      | some slot =>
        have read : schema.read head = slot.2 := by rw [Schema.read, head_slot]
        simp only [head_slot] at admitted
        by_cases bad : (!slot.1 || !booleanRule access slot.2) = true
        · rw [if_pos bad] at admitted
          contradiction
        rw [if_neg bad] at admitted
        have boolean : booleanRule access slot.2 = true := by
          simp only [Bool.or_eq_true, Bool.not_eq_true', not_or] at bad
          exact eq_true_of_ne_false bad.2
        have first : isBooleanLeaf (extractScopedOutputRule schema head access) = true :=
          isBooleanLeaf_extract head_slot boolean
        rw [read]
        -- the descent stops where the extractor's does, or goes on in the same record
        by_cases stop : (rest.isEmpty || !(slot.2.read "sub").truthy) = true
        · rw [if_pos stop]
          simpa using first
        · rw [if_neg stop]
          simp only [Bool.or_eq_true, Bool.not_eq_true', not_or] at stop
          refine List.forall_mem_cons.mpr ⟨first, ih _ _ ?_⟩
          exact lookup_sub admitted stop.1 (eq_true_of_ne_false stop.2)

end Route

section Decision

variable (document : Document) (policy : CallFieldPolicy) (access : String)

/-- A boolean or absent rule is decided before any document. -/
theorem decision_of_booleanLeaf {rule : Schema} (boolean : isBooleanLeaf rule = true)
    (permissions : String → Bool) (modelPermissionPrefix : String) :
    (prepareRequestFieldRule rule.rule permissions modelPermissionPrefix).decision =
      some rule.isTrue := by
  cases rule with
  | record => contradiction
  | leaf value =>
    cases value with
    | bool allowed =>
      by_cases named : modelPermissionPrefix = "" <;> cases allowed <;>
        simp [prepareRequestFieldRule, classifyRequestFieldRule, Schema.rule, Schema.isTrue,
          named]
    | undefined =>
      by_cases named : modelPermissionPrefix = "" <;>
        simp [prepareRequestFieldRule, classifyRequestFieldRule, Schema.rule, Schema.isTrue,
          named]
    | _ => contradiction

theorem evaluate_of_booleanLeaf {rule : Schema} (boolean : isBooleanLeaf rule = true)
    (modelPermissionPrefix : String) :
    evaluateScopedAccessRuleValue document.answer rule.rule document.permissions document.grants
      modelPermissionPrefix = rule.isTrue :=
  decision_is_final document.permissions document.grants modelPermissionPrefix document.answer
    (decision_of_booleanLeaf boolean document.permissions modelPermissionPrefix)

end Decision

end WebTsToolkit.AccessRouter.OutputPolicy
