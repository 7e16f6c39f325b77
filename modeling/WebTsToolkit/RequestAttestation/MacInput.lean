import WebTsToolkit.RequestAttestation.TransactionId

set_option autoImplicit false

namespace WebTsToolkit.RequestAttestation.Codec

open Js Library JsonValue

section Normalizers

variable {other : UInt16}

theorem between_lower : between 'a' 'z' other = true ↔ 97 ≤ other.toNat ∧ other.toNat ≤ 122 :=
  between_iff

theorem between_upper : between 'A' 'Z' other = true ↔ 65 ≤ other.toNat ∧ other.toNat ≤ 90 :=
  between_iff

/-- An upper-case letter in place of a lower-case one. -/
theorem toUpper_cases (other : UInt16) :
    toUpper other = other ∧ between 'a' 'z' other = false ∨
      between 'A' 'Z' (toUpper other) = true := by
  unfold toUpper
  split
  · next lower =>
    right
    rw [between_lower] at lower
    rw [between_upper, UInt16.toNat_sub_of_le]
    · show 65 ≤ other.toNat - 32 ∧ other.toNat - 32 ≤ 90
      omega
    · rw [UInt16.le_iff_toNat_le]
      show 32 ≤ other.toNat
      omega
  · next plain => exact Or.inl ⟨rfl, by simpa using plain⟩

theorem toUpper_toUpper (other : UInt16) : toUpper (toUpper other) = toUpper other := by
  rcases toUpper_cases other with ⟨same, _⟩ | upper
  · rw [same, same]
  · have plain : between 'a' 'z' (toUpper other) = false := by
      rw [between_upper] at upper
      rw [← Bool.not_eq_true, between_lower]
      omega
    generalize toUpper other = letter at plain
    rw [toUpper, plain]
    rfl

theorem isTokenUnit_toUpper (token : isTokenUnit other = true) :
    isTokenUnit (toUpper other) = true := by
  rcases toUpper_cases other with ⟨same, _⟩ | upper
  · rw [same, token]
  · simp [isTokenUnit, upper]

/-- A normalized method is normalized to itself. -/
theorem normalizeMethod_idem {method result : Utf16}
    (normalized : normalizeMethod method = .ok result) : normalizeMethod result = .ok result := by
  obtain ⟨_, token, same⟩ := bind_eq_ok normalized
  cases same
  rw [require_eq_ok, Bool.and_eq_true, List.all_eq_true] at token
  have again : require (!(method.map toUpper).isEmpty && (method.map toUpper).all isTokenUnit)
      "method must be a non-empty valid HTTP token" = .ok () := by
    rw [require_eq_ok, Bool.and_eq_true, List.all_eq_true]
    constructor
    · simpa using token.1
    · intro other member
      obtain ⟨letter, listed, rfl⟩ := List.mem_map.mp member
      exact isTokenUnit_toUpper (token.2 letter listed)
  rw [normalizeMethod, again, List.map_map]
  have twice : toUpper ∘ toUpper = toUpper := funext toUpper_toUpper
  rw [twice]
  rfl

theorem trimBlanks_trimBlanks (text : Utf16) : trimBlanks (trimBlanks text) = trimBlanks text := by
  have front : (trimBlanks text).dropWhile isBlank = trimBlanks text := by
    rw [List.dropWhile_eq_self_iff]
    intro inside blank
    have shorter : trimBlanks text <+: text.dropWhile isBlank := List.rdropWhile_prefix isBlank _
    have longer : 0 < (text.dropWhile isBlank).length := Nat.lt_of_lt_of_le inside shorter.length_le
    have start : (trimBlanks text)[0] = (text.dropWhile isBlank)[0] := shorter.getElem inside
    have first := List.dropWhile_get_zero_not isBlank text longer
    rw [List.get_eq_getElem] at first
    rw [start] at blank
    exact first blank
  rw [trimBlanks, front]
  exact List.rdropWhile_idempotent isBlank _

theorem normalizeContentType_idem {contentType : Option Utf16} {result : Utf16}
    (normalized : normalizeContentType contentType = .ok result) :
    normalizeContentType (some result) = .ok result := by
  cases contentType with
  | none =>
    cases normalized
    decide
  | some text =>
    obtain ⟨_, controls, normalized⟩ := bind_eq_ok normalized
    obtain ⟨_, bound, same⟩ := bind_eq_ok normalized
    cases same
    rw [normalizeContentType, trimBlanks_trimBlanks, controls]
    show (require _ _ >>= _) = _
    rw [bound]
    rfl

/-- What is required of a request target. -/
structure IsTarget (target : Utf16) : Prop where
  present : target.isEmpty = false
  bound : utf8ByteLength target ≤ maxRequestTargetBytes
  origin : (units "/").isPrefixOf target = true
  path : (units "//").isPrefixOf target = false
  clean : target.forM assertTargetUnit = .ok ()
  escapes : validPercentEscapes target = true
  segments : ((target.takeWhile fun other => other != unit '?').splitOn (unit '/')).forM
    assertSegment = .ok ()

/-- A target without the question mark of an empty query. -/
def withoutEmptyQuery (target : Utf16) : Utf16 :=
  if target.dropWhile (fun other => other != unit '?') = [unit '?'] then
    target.takeWhile fun other => other != unit '?'
  else target

theorem canonicalizeRequestTarget_eq_ok {target result : Utf16} :
    canonicalizeRequestTarget target = .ok result ↔
      IsTarget target ∧ result = withoutEmptyQuery target := by
  constructor
  · intro accepted
    obtain ⟨_, present, accepted⟩ := bind_eq_ok accepted
    obtain ⟨_, bound, accepted⟩ := bind_eq_ok accepted
    obtain ⟨_, origin, accepted⟩ := bind_eq_ok accepted
    obtain ⟨_, path, accepted⟩ := bind_eq_ok accepted
    obtain ⟨_, clean, accepted⟩ := bind_eq_ok accepted
    obtain ⟨_, escapes, accepted⟩ := bind_eq_ok accepted
    obtain ⟨_, segments, same⟩ := bind_eq_ok accepted
    rw [require_eq_ok] at present bound origin path escapes
    cases same
    exact ⟨⟨by simpa using present, by simpa using bound, origin, by simpa using path, clean,
      escapes, segments⟩, rfl⟩
  · rintro ⟨required, rfl⟩
    unfold canonicalizeRequestTarget
    simp only [required.present, required.bound, required.origin, required.path, required.clean,
      required.escapes, required.segments, require, Bool.not_false, decide_true, if_true]
    rfl

/-- A text up to its first question mark, and that mark. -/
theorem eq_append_of_dropWhile {target : Utf16}
    (query : target.dropWhile (fun other => other != unit '?') = [unit '?']) :
    target = target.takeWhile (fun other => other != unit '?') ++ [unit '?'] := by
  rw [← query, List.takeWhile_append_dropWhile]

theorem validPercentEscapes_cons (plain : other ≠ unit '%') (rest : Utf16) :
    validPercentEscapes (other :: rest) = validPercentEscapes rest := by
  rw [validPercentEscapes.eq_def]
  dsimp only
  rw [if_neg plain]

theorem validPercentEscapes_of_append {path : Utf16}
    (valid : validPercentEscapes (path ++ [unit '?']) = true) :
    validPercentEscapes path = true := by
  have notHex : isHex (unit '?') = false := by decide
  induction path using validPercentEscapes.induct with
  | case1 => rfl
  | case2 high low rest ih =>
    simp only [List.cons_append, validPercentEscapes, if_true, Bool.and_eq_true] at valid ⊢
    exact ⟨valid.1, ih valid.2⟩
  | case3 rest short =>
    exfalso
    match rest, short with
    | [], _ => exact absurd valid (by decide)
    | [high], _ =>
      simp only [List.cons_append, List.nil_append, validPercentEscapes, if_true, notHex,
        Bool.and_false, Bool.false_and, Bool.false_eq_true] at valid
    | high :: low :: rest, short => exact short high low rest rfl
  | case4 other rest plain ih =>
    rw [List.cons_append, validPercentEscapes_cons plain] at valid
    rw [validPercentEscapes_cons plain]
    exact ih valid

/-- A target stays one without the question mark of an empty query. -/
theorem IsTarget.withoutEmptyQuery {path : Utf16} (required : IsTarget (path ++ [unit '?']))
    (clear : ∀ other ∈ path, (other != unit '?') = true) : IsTarget path := by
  have taken : path.takeWhile (fun other => other != unit '?') = path :=
    List.takeWhile_eq_self_iff.mpr clear
  have whole : (path ++ [unit '?']).takeWhile (fun other => other != unit '?') = path := by
    rw [List.takeWhile_append_of_pos clear]
    simp
  have segments := required.segments
  rw [whole] at segments
  have origin := required.origin
  cases path with
  | nil => exact absurd origin (by decide)
  | cons first rest =>
    obtain ⟨_, clean, _⟩ := bind_eq_ok (by
      have clean := required.clean
      rw [List.forM_eq_forM, List.forM_append] at clean
      exact clean)
    refine ⟨rfl, ?_, ?_, ?_, clean, validPercentEscapes_of_append required.escapes, ?_⟩
    · exact Nat.le_trans (utf8ByteLength_append _ (by decide)) required.bound
    · simpa [units, List.isPrefixOf] using origin
    · have path := required.path
      cases rest with
      | nil => simp [units, List.isPrefixOf]
      | cons second rest => simpa [units, List.isPrefixOf] using path
    · rw [taken]
      exact segments

theorem canonicalizeRequestTarget_idem {target result : Utf16}
    (accepted : canonicalizeRequestTarget target = .ok result) :
    canonicalizeRequestTarget result = .ok result := by
  obtain ⟨required, rfl⟩ := canonicalizeRequestTarget_eq_ok.mp accepted
  rw [canonicalizeRequestTarget_eq_ok]
  by_cases query : target.dropWhile (fun other => other != unit '?') = [unit '?']
  · have same := eq_append_of_dropWhile query
    have clear : ∀ other ∈ target.takeWhile (fun other => other != unit '?'),
        (other != unit '?') = true := fun other member =>
        List.mem_takeWhile_imp (p := fun other => other != unit '?') member
    rw [withoutEmptyQuery, if_pos query]
    rw [same] at required
    refine ⟨required.withoutEmptyQuery clear, ?_⟩
    rw [withoutEmptyQuery, List.dropWhile_eq_nil_iff.mpr clear, if_neg (List.cons_ne_nil _ _).symm]
  · rw [withoutEmptyQuery, if_neg query]
    exact ⟨required, by rw [withoutEmptyQuery, if_neg query]⟩

end Normalizers

section MacInput

variable {parseUrl : Utf16 → Option Url}

/-- The tuple of a record whose method, target and content type are normalized. -/
def MacInputFields.tuple (fields : MacInputFields) (method requestTarget contentType : Utf16) :
    List JsonValue :=
  [.string macInputLabel, integer protocolVersion, .string fields.replayNamespace,
    .string fields.publicOrigin, .string fields.keyId, integer fields.timestampMs,
    .string fields.nonceHex, .string method, .string requestTarget, .string contentType,
    .string fields.bodyHashHex]

/-- What `buildMacInputBytes` checks beyond the normalizers. -/
structure MacInputFields.Valid (parseUrl : Utf16 → Option Url) (fields : MacInputFields) :
    Prop where
  replayNamespace : validateReplayNamespace fields.replayNamespace = .ok ()
  publicOrigin : validatePublicOrigin parseUrl fields.publicOrigin = .ok ()
  keyId : validateKeyId fields.keyId = .ok ()
  timestamp : assertTimestampMs "timestampMs" fields.timestampMs = .ok ()
  nonce : validateNonceHex fields.nonceHex = .ok ()
  bodyHash : validateBodyHashHex fields.bodyHashHex = .ok ()

theorem buildMacInputBytes_eq_ok {fields : MacInputFields} {bytes : List UInt8} :
    buildMacInputBytes parseUrl fields = .ok bytes ↔
      ∃ method requestTarget contentType, fields.Valid parseUrl ∧
        normalizeMethod fields.method = .ok method ∧
        canonicalizeRequestTarget fields.requestTarget = .ok requestTarget ∧
        normalizeContentType fields.contentType = .ok contentType ∧
        bytes = canonicalJsonBytes (.array (fields.tuple method requestTarget contentType)) := by
  constructor
  · intro built
    obtain ⟨_, namespaced, built⟩ := bind_eq_ok built
    obtain ⟨_, origin, built⟩ := bind_eq_ok built
    obtain ⟨_, key, built⟩ := bind_eq_ok built
    obtain ⟨_, timestamp, built⟩ := bind_eq_ok built
    obtain ⟨_, nonce, built⟩ := bind_eq_ok built
    obtain ⟨method, upper, built⟩ := bind_eq_ok built
    obtain ⟨requestTarget, target, built⟩ := bind_eq_ok built
    obtain ⟨contentType, content, built⟩ := bind_eq_ok built
    obtain ⟨_, body, same⟩ := bind_eq_ok built
    cases same
    exact ⟨method, requestTarget, contentType,
      ⟨namespaced, origin, key, timestamp, nonce, body⟩, upper, target, content, rfl⟩
  · rintro ⟨method, requestTarget, contentType, valid, upper, target, content, rfl⟩
    rw [buildMacInputBytes, valid.replayNamespace, valid.publicOrigin, valid.keyId,
      valid.timestamp, valid.nonce, upper, target, content, valid.bodyHash]
    rfl

theorem tuple_atoms {fields : MacInputFields} (valid : fields.Valid parseUrl)
    (method requestTarget contentType : Utf16) :
    ∀ item ∈ fields.tuple method requestTarget contentType, IsAtom item := by
  intro item member
  simp only [MacInputFields.tuple, List.mem_cons, List.not_mem_nil, or_false] at member
  rcases member with rfl | rfl | rfl | rfl | rfl | rfl | rfl | rfl | rfl | rfl | rfl
  · exact .text _
  · exact .count protocolVersion (by decide)
  · exact .text _
  · exact .text _
  · exact .text _
  · exact isAtom_integer valid.timestamp
  · exact .text _
  · exact .text _
  · exact .text _
  · exact .text _
  · exact .text _

/-- Bytes to be signed tell the fields that they were made from, and fields that are normalized
already give the same bytes. -/
theorem buildMacInputBytes_binds (parseUrl : Utf16 → Option Url) :
    (∀ (first second : MacInputFields) bytes,
      buildMacInputBytes parseUrl first = .ok bytes →
      buildMacInputBytes parseUrl second = .ok bytes →
        first.replayNamespace = second.replayNamespace ∧
        first.publicOrigin = second.publicOrigin ∧ first.keyId = second.keyId ∧
        first.timestampMs = second.timestampMs ∧ first.nonceHex = second.nonceHex ∧
        first.bodyHashHex = second.bodyHashHex ∧
        normalizeMethod first.method = normalizeMethod second.method ∧
        canonicalizeRequestTarget first.requestTarget =
          canonicalizeRequestTarget second.requestTarget ∧
        normalizeContentType first.contentType = normalizeContentType second.contentType) ∧
    (∀ target result, canonicalizeRequestTarget target = .ok result →
      canonicalizeRequestTarget result = .ok result) ∧
    (∀ contentType result, normalizeContentType contentType = .ok result →
      normalizeContentType (some result) = .ok result) ∧
    (∀ method result, normalizeMethod method = .ok result → normalizeMethod result = .ok result) ∧
    ∀ (fields : MacInputFields) method requestTarget contentType,
      normalizeMethod fields.method = .ok method →
      canonicalizeRequestTarget fields.requestTarget = .ok requestTarget →
      normalizeContentType fields.contentType = .ok contentType →
        buildMacInputBytes parseUrl { fields with method, requestTarget, contentType } =
          buildMacInputBytes parseUrl fields := by
  refine ⟨?_, fun _ _ => canonicalizeRequestTarget_idem, fun _ _ => normalizeContentType_idem,
    fun _ _ => normalizeMethod_idem, ?_⟩
  · intro first second bytes built built'
    obtain ⟨method, target, content, valid, upper, canonical, trimmed, rfl⟩ :=
      buildMacInputBytes_eq_ok.mp built
    obtain ⟨method', target', content', valid', upper', canonical', trimmed', same⟩ :=
      buildMacInputBytes_eq_ok.mp built'
    have atoms := tuple_atoms valid method target content
    have atoms' := tuple_atoms valid' method' target' content'
    have equal := canonicalJsonBytes_inj (atoms _ List.mem_cons_self)
      (fun item member => atoms item (List.mem_cons_of_mem _ member))
      (atoms' _ List.mem_cons_self)
      (fun item member => atoms' item (List.mem_cons_of_mem _ member)) same
    simp only [List.cons.injEq, JsonValue.string.injEq, integer, JsonValue.number.injEq,
      Number.finite.injEq, Int.cast_inj, and_true, true_and] at equal
    obtain ⟨namespaced, origin, key, timestamp, nonce, methods, targets, contents, body⟩ := equal
    refine ⟨namespaced, origin, key, timestamp, nonce, body, ?_, ?_, ?_⟩
    · rw [upper, upper', methods]
    · rw [canonical, canonical', targets]
    · rw [trimmed, trimmed', contents]
  · intro fields method requestTarget contentType upper target content
    have upper' := normalizeMethod_idem upper
    have target' := canonicalizeRequestTarget_idem target
    have content' := normalizeContentType_idem content
    rw [buildMacInputBytes, buildMacInputBytes]
    simp only [upper, target, content, upper', target', content']

end MacInput

end WebTsToolkit.RequestAttestation.Codec
