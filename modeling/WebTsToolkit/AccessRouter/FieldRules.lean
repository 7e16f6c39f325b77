import WebTsToolkit.Js.Text
import WebTsToolkit.Js.Value

set_option autoImplicit false

namespace WebTsToolkit.AccessRouter.FieldRules

open Js

/-- `createValidator(has).stringHandler`: every word of the rule must hold. -/
def stringHandler (has : String → Bool) (rule : String) : Bool :=
  (splitSpaces (trim rule)).all has

mutual

/-- `createValidator(has).arrayHandler`: one item must hold, and an item that is neither a
string nor an array does not. -/
def arrayHandler (has : String → Bool) : List Value → Bool
  | [] => false
  | item :: rest => itemHandler has item || arrayHandler has rest

def itemHandler (has : String → Bool) : Value → Bool
  | .string rule => stringHandler has rule
  | .array items => arrayHandler has items
  | _ => false

end

inductive FieldAuthorizationState where
  | granted
  | deferred
  | denied
  deriving DecidableEq, Repr

/-- A key of the model, when there is a prefix, names a document grant. -/
def possibleGrant (permissions : String → Bool) (modelPermissionPrefix key : String) : Bool :=
  permissions key || modelPermissionPrefix == "" || startsWith key modelPermissionPrefix

/-- Never invokes a permission function. -/
def classifyRequestFieldRule (rule : Value) (permissions : String → Bool)
    (modelPermissionPrefix : String) : FieldAuthorizationState :=
  match rule with
  | .bool allowed => if allowed then .granted else .denied
  | .callable _ => .deferred
  | .string _ | .array _ =>
    if itemHandler permissions rule then .granted
    else if itemHandler (possibleGrant permissions modelPermissionPrefix) rule then .deferred
    else .denied
  | _ => .denied

structure RequestRuleClassification where
  state : FieldAuthorizationState
  decision : Option Bool

def prepareRequestFieldRule (rule : Value) (permissions : String → Bool)
    (modelPermissionPrefix : String) : RequestRuleClassification :=
  let state := classifyRequestFieldRule rule permissions modelPermissionPrefix
  let invariant :=
    if state = .denied ∧ modelPermissionPrefix ≠ "" then classifyRequestFieldRule rule permissions ""
    else state
  ⟨state, if invariant = .deferred then none else some (invariant == .granted)⟩

def stripModelPermissionPrefix (key modelPermissionPrefix : String) : String :=
  if modelPermissionPrefix ≠ "" ∧ startsWith key modelPermissionPrefix then
    sliceFrom key modelPermissionPrefix.length
  else key

/-- A global permission, or the document grant of the stripped key. -/
def scopedGrant (permissions documentGrants : String → Bool) (modelPermissionPrefix key : String) :
    Bool :=
  permissions key || documentGrants (stripModelPermissionPrefix key modelPermissionPrefix)

def evaluateNonFunctionAccessRule (rule : Value) (permissions documentGrants : String → Bool)
    (modelPermissionPrefix : String) : Bool :=
  match rule with
  | .bool allowed => allowed
  | .string _ | .array _ =>
    itemHandler (scopedGrant permissions documentGrants modelPermissionPrefix) rule
  | _ => false

/-- `Boolean(value)`. -/
def truthy : Value → Bool
  | .undefined | .null | .hole => false
  | .bool value => value
  | .number text => text != "0" && text != "-0" && text != "NaN"
  | .bigint value => value != 0
  | .string value => value != ""
  | _ => true

/-- The settled decision. `answer` is what each rule function answers at these permissions and
grants, `none` when it throws or rejects. -/
def evaluateScopedAccessRuleValue (answer : Nat → Option Value) (rule : Value)
    (permissions documentGrants : String → Bool) (modelPermissionPrefix : String) : Bool :=
  match rule with
  | .callable id =>
    match answer id with
    | some value => truthy value
    | none => false
  | _ => evaluateNonFunctionAccessRule rule permissions documentGrants modelPermissionPrefix

def combineFieldAuthorizationStates (states : List FieldAuthorizationState) :
    FieldAuthorizationState :=
  if .denied ∈ states then .denied
  else if .deferred ∈ states then .deferred
  else .granted

section Monotone

variable {has more : String → Bool}

theorem stringHandler_mono (wider : ∀ key, has key = true → more key = true) (rule : String)
    (granted : stringHandler has rule = true) : stringHandler more rule = true := by
  rw [stringHandler, List.all_eq_true] at granted ⊢
  intro word member
  exact wider word (granted word member)

theorem arrayHandler_of_items {items : List Value}
    (item : ∀ item ∈ items, itemHandler has item = true → itemHandler more item = true)
    (granted : arrayHandler has items = true) : arrayHandler more items = true := by
  induction items with
  | nil => exact granted
  | cons first rest ih =>
    obtain ⟨here, later⟩ := List.forall_mem_cons.mp item
    rw [arrayHandler, Bool.or_eq_true] at granted ⊢
    exact granted.imp here (ih later)

/-- More permissions never take a decision back. -/
theorem itemHandler_mono (wider : ∀ key, has key = true → more key = true) (rule : Value)
    (granted : itemHandler has rule = true) : itemHandler more rule = true := by
  induction rule using Value.induction with
  | array items ih => exact arrayHandler_of_items ih granted
  | object entries | classed kind fields => contradiction
  | leaf value leaf =>
    cases value with
    | string rule => exact stringHandler_mono wider rule granted
    | _ => contradiction

end Monotone

section Classification

variable (permissions documentGrants : String → Bool) (modelPermissionPrefix : String)
variable (answer : Nat → Option Value) {rule : Value}

theorem evaluate_of_granted
    (granted : classifyRequestFieldRule rule permissions modelPermissionPrefix = .granted) :
    evaluateScopedAccessRuleValue answer rule permissions documentGrants modelPermissionPrefix =
      true := by
  have wider : ∀ key, permissions key = true →
      scopedGrant permissions documentGrants modelPermissionPrefix key = true := by
    intro key held
    rw [scopedGrant, held, Bool.true_or]
  cases rule with
  | bool allowed =>
    cases allowed with
    | true => rfl
    | false => contradiction
  | string text =>
    rw [classifyRequestFieldRule] at granted
    split_ifs at granted with held
    exact itemHandler_mono wider (.string text) held
  | array items =>
    rw [classifyRequestFieldRule] at granted
    split_ifs at granted with held
    exact itemHandler_mono wider (.array items) held
  | _ => contradiction

/-- With every document grant thought possible, a denial is final. -/
theorem evaluate_of_denied (denied : classifyRequestFieldRule rule permissions "" = .denied) :
    evaluateScopedAccessRuleValue answer rule permissions documentGrants modelPermissionPrefix =
      false := by
  have wider : ∀ key, scopedGrant permissions documentGrants modelPermissionPrefix key = true →
      possibleGrant permissions "" key = true := by
    intro key _
    simp [possibleGrant]
  cases rule with
  | bool allowed =>
    cases allowed with
    | true => contradiction
    | false => rfl
  | string text =>
    rw [classifyRequestFieldRule] at denied
    split_ifs at denied with held possible
    by_contra granted
    exact possible (itemHandler_mono wider (.string text)
      (eq_true_of_ne_false granted))
  | array items =>
    rw [classifyRequestFieldRule] at denied
    split_ifs at denied with held possible
    by_contra granted
    exact possible (itemHandler_mono wider (.array items)
      (eq_true_of_ne_false granted))
  | callable id => contradiction
  | _ => rfl

theorem granted_of_granted {other : String}
    (granted : classifyRequestFieldRule rule permissions modelPermissionPrefix = .granted) :
    classifyRequestFieldRule rule permissions other = .granted := by
  cases rule with
  | string | array =>
    rw [classifyRequestFieldRule] at granted ⊢
    split_ifs at granted with held
    rw [if_pos held]
  | _ => exact granted

/-- A decision made before the document is known is the decision at every document. -/
theorem decision_is_final {decision : Bool}
    (decided : (prepareRequestFieldRule rule permissions modelPermissionPrefix).decision =
      some decision) :
    evaluateScopedAccessRuleValue answer rule permissions documentGrants modelPermissionPrefix =
      decision := by
  have classes : ∀ start, classifyRequestFieldRule rule permissions start = .granted ∨
      classifyRequestFieldRule rule permissions start = .deferred ∨
      classifyRequestFieldRule rule permissions start = .denied := by
    intro start
    cases classifyRequestFieldRule rule permissions start <;> simp
  simp only [prepareRequestFieldRule] at decided
  by_cases again : classifyRequestFieldRule rule permissions modelPermissionPrefix = .denied ∧
      modelPermissionPrefix ≠ ""
  · rw [if_pos again] at decided
    rcases classes "" with granted | deferred | denied
    · rw [granted] at decided
      rw [evaluate_of_granted permissions documentGrants modelPermissionPrefix answer
        (granted_of_granted permissions "" granted)]
      simpa using decided
    · simp [deferred] at decided
    · rw [denied] at decided
      rw [evaluate_of_denied permissions documentGrants modelPermissionPrefix answer denied]
      exact Option.some.inj decided
  · rw [if_neg again] at decided
    rcases classes modelPermissionPrefix with granted | deferred | denied
    · rw [granted] at decided
      rw [evaluate_of_granted permissions documentGrants modelPermissionPrefix answer granted]
      simpa using decided
    · simp [deferred] at decided
    · have unprefixed : modelPermissionPrefix = "" := by
        by_contra named
        exact again ⟨denied, named⟩
      subst unprefixed
      rw [denied] at decided
      rw [evaluate_of_denied permissions documentGrants "" answer denied]
      exact Option.some.inj decided

end Classification

/-- Early classification never overrides the final decision, whatever the document grants. -/
theorem early_classification_sound (rule : Value) (permissions : String → Bool)
    (modelPermissionPrefix : String) :
    (∀ decision, (prepareRequestFieldRule rule permissions modelPermissionPrefix).decision =
      some decision → ∀ answer documentGrants, evaluateScopedAccessRuleValue answer rule permissions
        documentGrants modelPermissionPrefix = decision) ∧
    (classifyRequestFieldRule rule permissions modelPermissionPrefix = .granted →
      ∀ answer documentGrants, evaluateScopedAccessRuleValue answer rule permissions
        documentGrants modelPermissionPrefix = true) :=
  ⟨fun _ decided answer documentGrants =>
      decision_is_final permissions documentGrants modelPermissionPrefix answer decided,
    fun granted answer documentGrants =>
      evaluate_of_granted permissions documentGrants modelPermissionPrefix answer granted⟩

end WebTsToolkit.AccessRouter.FieldRules
