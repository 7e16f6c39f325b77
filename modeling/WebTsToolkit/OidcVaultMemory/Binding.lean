import WebTsToolkit.Js.Property
import WebTsToolkit.Library.Outcome
import WebTsToolkit.OidcVault.Session

set_option autoImplicit false

namespace WebTsToolkit.OidcVaultMemory

open Js Library OidcVault

def isUndefined : Value → Bool
  | .undefined => true
  | _ => false

def isNull : Value → Bool
  | .null => true
  | _ => false

/-- A property that holds a string. -/
def textProperty (value : Value) (name : String) : Option String :=
  match ownProperty value name with
  | some (.string text) => some text
  | _ => none

/-- `/^[A-Za-z0-9_-]{42}[AEIMQUYcgkosw048]$/`. -/
def isHashText (text : String) : Bool :=
  let chars := text.toList
  chars.length == 43 &&
    (chars.take 42).all (fun c => isLetter c || isDigit c || c == '_' || c == '-') &&
    (chars.drop 42).all fun c => "AEIMQUYcgkosw048".toList.contains c

def isHash : Value → Bool
  | .string text => isHashText text
  | _ => false

def isBinding (value : Value) : Bool :=
  match value with
  | .object entries =>
    entries.length == 2 && textProperty value "type" == some "dpop" &&
      (textProperty value "jkt").any isHashText
  | _ => false

def hasValidBinding (deviceBinding : Value) : Bool :=
  isUndefined deviceBinding || isBinding deviceBinding

def hasValidRecordBinding (record : OneTimeFields) : Bool :=
  hasValidBinding record.deviceBinding &&
    (isUndefined record.browserBindingHash || isHash record.browserBindingHash) &&
    (isUndefined record.deviceBinding || !isUndefined record.browserBindingHash)

def assertRecordBinding (record : OneTimeFields) : Except StoreError Unit :=
  if hasValidRecordBinding record then .ok ()
  else .error (.typeError "OIDC vault store record has invalid device/browser binding.")

def assertSessionBinding (session : SessionFields) : Except StoreError Unit :=
  if hasValidBinding session.deviceBinding then .ok ()
  else .error (.typeError "OIDC vault store session has invalid device binding.")

/-- A match passed by `isBindingMatch`, with its two properties. -/
structure RecordBindingMatch where
  deviceBinding : Value
  browserBindingHash : Value

/-- `isBindingMatch`, with the match that it admits. -/
def isBindingMatch (input : Value) : Option RecordBindingMatch :=
  match input with
  | .object entries => do
    let deviceBinding ← getOwn entries "deviceBinding"
    let browserBindingHash ← getOwn entries "browserBindingHash"
    if (isNull deviceBinding || isBinding deviceBinding) &&
        (isNull browserBindingHash || isHash browserBindingHash) then
      some { deviceBinding, browserBindingHash }
    else none
  | _ => none

/-- Strings that are there and equal. -/
def sameText (left right : Option String) : Bool :=
  left.isSome && left == right

def matchesRecordBinding (record : OneTimeFields) (expected : RecordBindingMatch) : Bool :=
  (if isNull expected.deviceBinding then isUndefined record.deviceBinding
    else
      sameText (textProperty record.deviceBinding "type")
        (textProperty expected.deviceBinding "type") &&
      sameText (textProperty record.deviceBinding "jkt")
        (textProperty expected.deviceBinding "jkt")) &&
    (if isNull expected.browserBindingHash then isUndefined record.browserBindingHash
      else
        match record.browserBindingHash, expected.browserBindingHash with
        | .string hash, .string other => hash == other
        | _, _ => false)

/-- A binding of a key, as `inheritSessionBinding` writes it. -/
def dpopBinding (jkt : String) : Value :=
  .object [("type", .string "dpop"), ("jkt", .string jkt)]

/-- `inheritSessionBinding`, with the session that it leaves. -/
def inheritSessionBinding (source : SessionFields) (next : OidcVaultSessionInput) :
    Except StoreError OidcVaultSessionInput := do
  assertSessionBinding source
  assertSessionBinding next.toSessionFields
  let jkt := textProperty source.deviceBinding "jkt"
  if !isUndefined next.deviceBinding && textProperty next.deviceBinding "jkt" != jkt then
    throw (.conflict "OIDC vault session rotation cannot change or add device binding.")
  else
    -- a source that passed its check has a key just when it has a binding
    match jkt with
    | some jkt => return { next with deviceBinding := dpopBinding jkt }
    | none => return next

/-- Both are absent, or both are bindings of one key. -/
def SameBinding (first second : Value) : Prop :=
  (first = .undefined ∧ second = .undefined) ∨
    ∃ jkt, isBinding first = true ∧ isBinding second = true ∧
      textProperty first "jkt" = some jkt ∧ textProperty second "jkt" = some jkt

variable {value : Value} {expected : RecordBindingMatch} {record : OneTimeFields}

theorem isUndefined_iff : isUndefined value = true ↔ value = .undefined := by
  cases value <;> simp [isUndefined]

/-- A valid binding names a key unless it is absent. -/
theorem hasValidBinding_cases {deviceBinding : Value}
    (valid : hasValidBinding deviceBinding = true) :
    (deviceBinding = .undefined ∧ textProperty deviceBinding "jkt" = none) ∨
      ∃ jkt, isBinding deviceBinding = true ∧ isHashText jkt = true ∧
        textProperty deviceBinding "jkt" = some jkt := by
  rw [hasValidBinding, Bool.or_eq_true, isUndefined_iff] at valid
  rcases valid with absent | bound
  · exact Or.inl ⟨absent, absent ▸ rfl⟩
  · refine Or.inr ?_
    have binding := bound
    unfold isBinding at binding
    split at binding
    · rw [Bool.and_eq_true, Option.any_eq_true] at binding
      obtain ⟨_, jkt, named, hash⟩ := binding
      exact ⟨jkt, bound, hash, named⟩
    · contradiction

theorem isBinding_dpopBinding {jkt : String} (hash : isHashText jkt = true) :
    isBinding (dpopBinding jkt) = true := by
  simp [isBinding, dpopBinding, textProperty, ownProperty, getOwn, List.lookup_cons, hash]

theorem assertSessionBinding_eq_ok {session : SessionFields}
    (passed : assertSessionBinding session = .ok ()) :
    hasValidBinding session.deviceBinding = true := by
  unfold assertSessionBinding at passed
  split at passed
  · assumption
  · contradiction

/-- A session that inherits the binding of its source changes nothing else. -/
theorem inheritSessionBinding_eq_ok {source : SessionFields} {next inherited : OidcVaultSessionInput}
    (passed : inheritSessionBinding source next = .ok inherited) :
    SameBinding source.deviceBinding inherited.deviceBinding ∧
      inherited = { next with deviceBinding := inherited.deviceBinding } := by
  unfold inheritSessionBinding at passed
  obtain ⟨_, sourcePassed, passed⟩ := bind_eq_ok passed
  obtain ⟨_, nextPassed, passed⟩ := bind_eq_ok passed
  have sourceValid := assertSessionBinding_eq_ok sourcePassed
  have nextValid := assertSessionBinding_eq_ok nextPassed
  dsimp only at passed
  split at passed
  · contradiction
  · next same =>
    rcases hasValidBinding_cases sourceValid with ⟨absent, unnamed⟩ | ⟨jkt, bound, hash, named⟩
    · rw [unnamed] at passed same
      have kept : next = inherited := Except.ok.inj passed
      subst kept
      have free : next.deviceBinding = .undefined := by
        rcases hasValidBinding_cases nextValid with ⟨free, _⟩ | ⟨jkt, _, _, named⟩
        · exact free
        · rw [named] at same
          simpa [isUndefined_iff] using same
      exact ⟨Or.inl ⟨absent, free⟩, rfl⟩
    · rw [named] at passed
      have written : { next with deviceBinding := dpopBinding jkt } = inherited :=
        Except.ok.inj passed
      subst written
      exact ⟨Or.inr ⟨jkt, bound, isBinding_dpopBinding hash, named, rfl⟩, rfl⟩

/-- The record and the match name one key and one browser hash, or the record has none where the
match says null. -/
structure MatchesExactly (record : OneTimeFields) (expected : RecordBindingMatch) : Prop where
  device : (record.deviceBinding = .undefined ∧ expected.deviceBinding = .null) ∨
    ∃ jkt, isBinding record.deviceBinding = true ∧ isBinding expected.deviceBinding = true ∧
      textProperty record.deviceBinding "jkt" = some jkt ∧
      textProperty expected.deviceBinding "jkt" = some jkt
  browser : (record.browserBindingHash = .undefined ∧ expected.browserBindingHash = .null) ∨
    ∃ hash, record.browserBindingHash = .string hash ∧ expected.browserBindingHash = .string hash

/-- What `isBindingMatch` admits. -/
structure ValidMatch (expected : RecordBindingMatch) : Prop where
  device : expected.deviceBinding = .null ∨ isBinding expected.deviceBinding = true
  browser : expected.browserBindingHash = .null ∨
    ∃ hash, expected.browserBindingHash = .string hash

theorem isNull_iff : isNull value = true ↔ value = .null := by
  cases value <;> simp [isNull]

theorem isHash_eq_string (hash : isHash value = true) : ∃ text, value = .string text := by
  cases value <;> first | exact ⟨_, rfl⟩ | contradiction

theorem isBindingMatch_eq_some {input : Value} (passed : isBindingMatch input = some expected) :
    ValidMatch expected := by
  unfold isBindingMatch at passed
  split at passed
  · obtain ⟨deviceBinding, _, passed⟩ := Option.bind_eq_some_iff.mp passed
    obtain ⟨browserBindingHash, _, passed⟩ := Option.bind_eq_some_iff.mp passed
    split at passed
    · next valid =>
      rw [Bool.and_eq_true, Bool.or_eq_true, Bool.or_eq_true, isNull_iff, isNull_iff] at valid
      rw [← Option.some.inj passed]
      exact ⟨valid.1, valid.2.imp_right isHash_eq_string⟩
    · contradiction
  · contradiction

theorem isBinding_type (binding : isBinding value = true) :
    textProperty value "type" = some "dpop" := by
  unfold isBinding at binding
  split at binding
  · rw [Bool.and_eq_true, Bool.and_eq_true] at binding
    exact beq_iff_eq.mp binding.1.2
  · contradiction

theorem matchesRecordBinding_device (valid : hasValidBinding record.deviceBinding = true)
    (admitted : ValidMatch expected) :
    (if isNull expected.deviceBinding then isUndefined record.deviceBinding
      else
        sameText (textProperty record.deviceBinding "type")
          (textProperty expected.deviceBinding "type") &&
        sameText (textProperty record.deviceBinding "jkt")
          (textProperty expected.deviceBinding "jkt")) = true ↔
      ((record.deviceBinding = .undefined ∧ expected.deviceBinding = .null) ∨
        ∃ jkt, isBinding record.deviceBinding = true ∧
          isBinding expected.deviceBinding = true ∧
          textProperty record.deviceBinding "jkt" = some jkt ∧
          textProperty expected.deviceBinding "jkt" = some jkt) := by
  rcases admitted.device with null | bound
  · rw [null]
    have unbound : isBinding .null = false := rfl
    simp [isNull, isUndefined_iff, unbound]
  · have notNull : ¬isNull expected.deviceBinding = true := by
      intro null
      rw [isNull_iff.mp null] at bound
      contradiction
    have kept : ¬expected.deviceBinding = .null := fun null => notNull (isNull_iff.mpr null)
    rw [if_neg notNull, isBinding_type bound]
    rcases hasValidBinding_cases valid with ⟨absent, unnamed⟩ | ⟨jkt, binding, _, named⟩
    · have untyped : textProperty record.deviceBinding "type" = none := by
        rw [absent]
        rfl
      rw [untyped]
      constructor
      · intro held
        contradiction
      · rintro (⟨_, null⟩ | ⟨_, binding, _⟩)
        · exact absurd null kept
        · rw [absent] at binding
          contradiction
    · rw [isBinding_type binding, named]
      constructor
      · intro held
        rw [Bool.and_eq_true, sameText, sameText, Bool.and_eq_true, Bool.and_eq_true] at held
        have same := beq_iff_eq.mp held.2.2
        exact Or.inr ⟨jkt, binding, bound, rfl, same.symm⟩
      · rintro (⟨absent, _⟩ | ⟨other, _, _, here, there⟩)
        · rw [absent] at binding
          contradiction
        · rw [there, ← here]
          simp [sameText]

theorem matchesRecordBinding_browser (valid : record.browserBindingHash = .undefined ∨
      ∃ hash, record.browserBindingHash = .string hash) (admitted : ValidMatch expected) :
    (if isNull expected.browserBindingHash then isUndefined record.browserBindingHash
      else
        match record.browserBindingHash, expected.browserBindingHash with
        | .string hash, .string other => hash == other
        | _, _ => false) = true ↔
      ((record.browserBindingHash = .undefined ∧ expected.browserBindingHash = .null) ∨
        ∃ hash, record.browserBindingHash = .string hash ∧
          expected.browserBindingHash = .string hash) := by
  rcases valid with absent | ⟨hash, here⟩
  · rcases admitted.browser with null | ⟨other, there⟩
    · simp [absent, null, isNull, isUndefined]
    · simp [absent, there, isNull]
  · rcases admitted.browser with null | ⟨other, there⟩
    · simp [here, null, isNull, isUndefined]
    · rw [here, there]
      show (hash == other) = true ↔ _
      rw [beq_iff_eq]
      constructor
      · intro same
        exact Or.inr ⟨hash, rfl, same ▸ rfl⟩
      · rintro (⟨empty, _⟩ | ⟨_, first, second⟩)
        · contradiction
        · exact (Value.string.inj first).trans (Value.string.inj second).symm

theorem matchesRecordBinding_iff (valid : hasValidRecordBinding record = true)
    (admitted : ValidMatch expected) :
    matchesRecordBinding record expected = true ↔ MatchesExactly record expected := by
  rw [hasValidRecordBinding, Bool.and_eq_true, Bool.and_eq_true] at valid
  have browser : record.browserBindingHash = .undefined ∨
      ∃ hash, record.browserBindingHash = .string hash := by
    have hashed := valid.1.2
    rw [Bool.or_eq_true, isUndefined_iff] at hashed
    exact hashed.imp_right isHash_eq_string
  rw [matchesRecordBinding, Bool.and_eq_true, matchesRecordBinding_device valid.1.1 admitted]
  have same := matchesRecordBinding_browser browser admitted
  constructor
  · intro held
    exact ⟨held.1, same.mp held.2⟩
  · intro exactly
    exact ⟨exactly.device, same.mpr exactly.browser⟩

/-- `hasValidSessionRecord`; its `typeof` tests hold by the types of the fields. -/
def hasValidSessionRecord (session : SessionFields) (sessionId : String) : Bool :=
  session.sessionId == sessionId && session.expiresAt.all Number.isFinite &&
    hasValidBinding session.deviceBinding

end WebTsToolkit.OidcVaultMemory
