import WebTsToolkit.RequestAttestation.Codec

set_option autoImplicit false

namespace WebTsToolkit.RequestAttestation.Codec

open Js Library JsonValue

variable {result : Unit}

theorem require_eq_ok {holds : Bool} {message : String} :
    require holds message = .ok result ↔ holds = true := by
  cases holds <;> simp [require]

theorem nonneg_of_assertTimestampMs {name : String} {value : Int}
    (valid : assertTimestampMs name value = .ok result) :
    ∃ count : Nat, value = count ∧ count < 2 ^ 53 := by
  unfold assertTimestampMs at valid
  split at valid
  · next inside =>
    rw [Bool.and_eq_true, isSafeInteger_iff, decide_eq_true_eq] at inside
    exact ⟨value.toNat, by omega, by omega⟩
  · cases valid

theorem isAtom_integer {name : String} {value : Int}
    (valid : assertTimestampMs name value = .ok result) : IsAtom (integer value) := by
  obtain ⟨count, rfl, small⟩ := nonneg_of_assertTimestampMs valid
  exact .count count small

/-- Equal bytes of two arrays of strings and safe integers come from equal arrays. -/
theorem canonicalJsonBytes_inj {first second : JsonValue} {rest others : List JsonValue}
    (firstAtom : IsAtom first) (restAtoms : ∀ item ∈ rest, IsAtom item)
    (secondAtom : IsAtom second) (otherAtoms : ∀ item ∈ others, IsAtom item)
    (same : canonicalJsonBytes (.array (first :: rest)) =
      canonicalJsonBytes (.array (second :: others))) : first :: rest = second :: others := by
  have text := utf8Encode_injective same
  have parsed := parse_stringify firstAtom restAtoms
  rw [text, parse_stringify secondAtom otherAtoms] at parsed
  cases parsed
  rfl

section Lengths

/-- A printable ASCII character that JSON does not escape. -/
def IsPlain (other : UInt16) : Prop :=
  0x20 ≤ other.toNat ∧ other.toNat < 0x80 ∧ other.toNat ≠ 0x22 ∧ other.toNat ≠ 0x5C

variable {other : UInt16} {text : Utf16}

theorem between_iff {low high : Char} :
    between low high other = true ↔
      (unit low).toNat ≤ other.toNat ∧ other.toNat ≤ (unit high).toNat := by
  simp [between, UInt16.le_iff_toNat_le]

theorem isPlain_of_between {low high : Char} (inside : between low high other = true)
    (bounds : 0x20 ≤ (unit low).toNat ∧ (unit high).toNat < 0x80 ∧
      ((unit high).toNat < 0x5C ∧ 0x22 < (unit low).toNat ∨ 0x5C < (unit low).toNat)) :
    IsPlain other := by
  rw [between_iff] at inside
  rw [IsPlain]
  omega

theorem isPlain_of_isWordUnit (word : isWordUnit other = true) : IsPlain other := by
  simp only [isWordUnit, Bool.or_eq_true, decide_eq_true_eq] at word
  rcases word with (((upper | lower) | digit) | rfl) | rfl
  · exact isPlain_of_between upper (by decide)
  · exact isPlain_of_between lower (by decide)
  · exact isPlain_of_between digit (by decide)
  · rw [IsPlain]
    decide
  · rw [IsPlain]
    decide

theorem isPlain_of_isLowerHex (hex : isLowerHex other = true) : IsPlain other := by
  rw [isLowerHex, Bool.or_eq_true] at hex
  rcases hex with digit | lower
  · exact isPlain_of_between digit (by decide)
  · exact isPlain_of_between lower (by decide)

theorem isPlain_of_mem_base64url {bytes : List UInt8} (member : other ∈ base64urlEncode bytes) :
    IsPlain other := by
  have letters : ∀ bits < 64, IsPlain (letter bits) := by
    simp only [IsPlain]
    decide +kernel
  rw [base64urlEncode_eq] at member
  obtain ⟨value, listed, rfl⟩ := List.mem_map.mp member
  exact letters value (sextets_lt listed)

theorem codePoints_plain (plain : ∀ other ∈ text, IsPlain other) :
    codePoints text = text.map fun other => .scalar (Char.ofNat other.toNat) := by
  have low {other : UInt16} (ascii : IsPlain other) :
      isHighSurrogate other = false ∧ isLowSurrogate other = false := by
    rw [IsPlain] at ascii
    simp only [isHighSurrogate, isLowSurrogate, Bool.and_eq_false_iff, decide_eq_false_iff_not]
    omega
  have single {other : UInt16} (ascii : IsPlain other) :
      CodePoint.single other = .scalar (Char.ofNat other.toNat) := by
    rw [CodePoint.single, (low ascii).1, (low ascii).2]
    rfl
  induction text using codePoints.induct with
  | case1 => rfl
  | case2 other => rw [codePoints, single (plain other List.mem_cons_self)]; rfl
  | case3 first next rest both ih =>
    rw [(low (plain first List.mem_cons_self)).1] at both
    cases both
  | case4 first next rest apart ih =>
    rw [codePoints, if_neg apart, single (plain first List.mem_cons_self),
      ih fun other member => plain other (List.mem_cons_of_mem first member)]
    rfl

theorem escape_plain : ∀ value < 0x80, 0x20 ≤ value → value ≠ 0x22 → value ≠ 0x5C →
    (utf8Encode (escape (.scalar (Char.ofNat value)))).length = 1 := by
  decide

theorem length_utf8_escape (plain : ∀ other ∈ text, IsPlain other) :
    (utf8Encode ((codePoints text).flatMap escape)).length = text.length := by
  rw [codePoints_plain plain]
  induction text with
  | nil => rfl
  | cons other text ih =>
    obtain ⟨printable, ascii, quote, slash⟩ := plain other List.mem_cons_self
    have one := escape_plain other.toNat ascii printable quote slash
    have rest := ih fun other member => plain other (List.mem_cons_of_mem _ member)
    simp only [utf8Encode, List.map_cons, List.flatMap_cons, List.flatMap_append,
      List.length_append, List.length_cons] at one rest ⊢
    omega

theorem length_utf8_quote (plain : ∀ other ∈ text, IsPlain other) :
    (utf8Encode (quote text)).length = text.length + 2 := by
  have inner := length_utf8_escape plain
  have mark : (String.utf8EncodeChar '"').length = 1 := by decide
  simp only [utf8Encode, quote, List.flatMap_cons, List.flatMap_append, List.length_append,
    List.flatMap_nil, List.length_nil] at inner ⊢
  omega

theorem length_utf8_count {count : Nat} (small : count < 2 ^ 53) :
    (utf8Encode (stringify (.number (.finite count)))).length ≤ 16 := by
  have digits : (Nat.toDigits 10 count).length ≤ 16 := by
    rw [Nat.length_toDigits_le_iff (by omega) (by omega)]
    omega
  have bytes : ∀ text : List Char, (∀ c ∈ text, Js.isDigit c = true) →
      (utf8Encode text).length = text.length := by
    intro text digits
    induction text with
    | nil => rfl
    | cons c text ih =>
      have rest := ih fun other member => digits other (List.mem_cons_of_mem c member)
      have digit := digits c List.mem_cons_self
      rw [Js.isDigit, Bool.and_eq_true, decide_eq_true_eq, decide_eq_true_eq] at digit
      have below : c.val ≤ '9'.val := digit.2
      have one : (String.utf8EncodeChar c).length = 1 := by
        rw [String.length_utf8EncodeChar, Char.utf8Size_eq_one_iff]
        exact UInt32.le_trans below (by decide)
      simp only [utf8Encode, List.flatMap_cons, List.length_append, List.length_cons] at rest ⊢
      omega
  rw [stringify_count small, bytes _ fun c member => toDigits_isDigit member]
  exact digits

theorem length_base64urlEncode (bytes : List UInt8) :
    (base64urlEncode bytes).length ≤ 2 * bytes.length := by
  induction bytes using base64urlEncode.induct with
  | case1 | case2 first | case3 first second => simp [base64urlEncode]
  | case4 first second third rest ih =>
    simp only [base64urlEncode, List.length_cons]
    omega

end Lengths

section TransactionId

variable {fields : TransactionIdFields}

/-- What the checks of a record tell. -/
structure TransactionIdFields.Valid (fields : TransactionIdFields) : Prop where
  keyId : consistsOf isWordUnit 1 maxKeyIdLength fields.keyId = true
  timestamp : assertTimestampMs "timestampMs" fields.timestampMs = .ok ()
  nonce : consistsOf isLowerHex 32 32 fields.nonceHex = true
  mac : validateMac fields.mac = .ok ()

theorem TransactionIdFields.validate_eq_ok : fields.validate = .ok () ↔ fields.Valid := by
  constructor
  · intro valid
    obtain ⟨_, keyId, valid⟩ := bind_eq_ok valid
    obtain ⟨_, timestamp, valid⟩ := bind_eq_ok valid
    obtain ⟨_, nonce, mac⟩ := bind_eq_ok valid
    exact ⟨require_eq_ok.mp keyId, timestamp, require_eq_ok.mp nonce, mac⟩
  · intro valid
    have keyId : validateKeyId fields.keyId = .ok () := require_eq_ok.mpr valid.keyId
    have nonce : validateNonceHex fields.nonceHex = .ok () := require_eq_ok.mpr valid.nonce
    rw [validate, keyId, nonce, valid.timestamp, valid.mac]
    rfl

theorem envelope_atoms (valid : fields.Valid) : ∀ item ∈ fields.envelope, IsAtom item := by
  intro item member
  simp only [TransactionIdFields.envelope, List.mem_cons, List.not_mem_nil, or_false] at member
  rcases member with rfl | rfl | rfl | rfl | rfl
  · exact .count protocolVersion (by decide)
  · exact .text fields.keyId
  · exact isAtom_integer valid.timestamp
  · exact .text fields.nonceHex
  · exact .text fields.mac

theorem plain_of_consistsOf {class' : UInt16 → Bool} {least most : Nat} {text : Utf16}
    (consists : consistsOf class' least most text = true)
    (plain : ∀ other, class' other = true → IsPlain other) :
    (∀ other ∈ text, IsPlain other) ∧ text.length ≤ most := by
  simp only [consistsOf, Bool.and_eq_true, List.all_eq_true, decide_eq_true_eq] at consists
  exact ⟨fun other member => plain other (consists.1.1 other member), consists.2⟩

theorem mac_plain {mac : Utf16} (valid : validateMac mac = .ok ()) :
    (∀ other ∈ mac, IsPlain other) ∧ mac.length = 43 := by
  obtain ⟨_, length, valid⟩ := bind_eq_ok valid
  obtain ⟨bytes, decoded, _⟩ := bind_eq_ok valid
  have spelled := base64urlEncode_of_decode decoded
  constructor
  · intro other member
    rw [← spelled] at member
    exact isPlain_of_mem_base64url member
  · exact decide_eq_true_eq.mp (require_eq_ok.mp length)

/-- A valid record is far from the bound. -/
theorem length_envelope (valid : fields.Valid) :
    (canonicalJsonBytes (.array fields.envelope)).length ≤ 200 := by
  obtain ⟨keyPlain, keyLength⟩ := plain_of_consistsOf valid.keyId fun _ => isPlain_of_isWordUnit
  obtain ⟨noncePlain, nonceLength⟩ := plain_of_consistsOf valid.nonce fun _ => isPlain_of_isLowerHex
  obtain ⟨macPlain, macLength⟩ := mac_plain valid.mac
  obtain ⟨count, same, small⟩ := nonneg_of_assertTimestampMs valid.timestamp
  have version := length_utf8_count (show protocolVersion < 2 ^ 53 by decide)
  have timestamp := length_utf8_count small
  have key := length_utf8_quote keyPlain
  have nonce := length_utf8_quote noncePlain
  have mac := length_utf8_quote macPlain
  have marks : (String.utf8EncodeChar '[').length = 1 ∧ (String.utf8EncodeChar ']').length = 1 ∧
      (String.utf8EncodeChar ',').length = 1 := by decide
  have whole : (canonicalJsonBytes (.array fields.envelope)).length =
      (utf8Encode (stringify (integer protocolVersion))).length +
        (utf8Encode (quote fields.keyId)).length +
        (utf8Encode (stringify (integer fields.timestampMs))).length +
        (utf8Encode (quote fields.nonceHex)).length + (utf8Encode (quote fields.mac)).length + 6 := by
    simp only [canonicalJsonBytes, TransactionIdFields.envelope, stringify, stringifyItems,
      utf8Encode, List.flatMap_cons, List.flatMap_append, List.length_append, List.flatMap_nil,
      List.length_nil, marks]
    omega
  rw [same] at whole
  have limits : maxKeyIdLength = 64 := rfl
  change _ = (utf8Encode (stringify (.number (.finite (protocolVersion : Nat))))).length + _ +
    (utf8Encode (stringify (.number (.finite (count : Nat))))).length + _ + _ + 6 at whole
  omega

theorem safeInteger_eq_some {value : Number} {count : Int} (same : value.safeInteger = some count) :
    value = .finite count := by
  cases value with
  | finite value =>
    simp only [Number.safeInteger, Option.ite_none_right_eq_some, Bool.and_eq_true,
      decide_eq_true_eq, Option.some.injEq] at same
    obtain ⟨⟨whole, _⟩, rfl⟩ := same
    rw [Rat.den_eq_one_iff] at whole
    rw [whole]
  | infinite negative | nan => cases same

theorem timestampMember_integer {value : Int}
    (valid : assertTimestampMs "timestampMs" value = .ok ()) :
    timestampMember (integer value) = .ok value := by
  have safe : isSafeInteger value = true := by
    obtain ⟨count, rfl, small⟩ := nonneg_of_assertTimestampMs valid
    rw [isSafeInteger_iff]
    omega
  have integral : (Number.finite (value : ℚ)).safeInteger = some value := by
    simp [Number.safeInteger, safe]
  rw [integer, timestampMember, integral]
  simp only [valid]
  rfl

variable {item : JsonValue} {items : List JsonValue}

theorem timestampMember_eq_ok {value : Int} (read : timestampMember item = .ok value) :
    item = integer value ∧ assertTimestampMs "timestampMs" value = .ok () := by
  cases item with
  | number number =>
    cases integral : number.safeInteger with
    | none => rw [timestampMember, integral] at read; cases read
    | some count =>
      rw [timestampMember, integral] at read
      obtain ⟨_, valid, same⟩ := bind_eq_ok read
      cases same
      exact ⟨by rw [integer, safeInteger_eq_some integral], valid⟩
  | _ => cases read

theorem stringMember_eq_ok {validate : Utf16 → Except AttestationProtocolError Unit}
    {message : String} {text : Utf16} (read : stringMember validate message item = .ok text) :
    item = .string text ∧ validate text = .ok () := by
  cases item with
  | string other =>
    obtain ⟨_, valid, same⟩ := bind_eq_ok read
    cases same
    exact ⟨rfl, valid⟩
  | _ => cases read

theorem isProtocolVersion_eq_true (version : isProtocolVersion item = true) :
    item = integer protocolVersion := by
  cases item with
  | number value =>
    rw [isProtocolVersion, decide_eq_true_eq] at version
    rw [version]
    rfl
  | _ => cases version

theorem readEnvelope_envelope (valid : fields.Valid) :
    readEnvelope fields.envelope = .ok fields := by
  have version : isProtocolVersion (integer protocolVersion) = true := by
    simp [integer, isProtocolVersion]
  have keyId : validateKeyId fields.keyId = .ok () := require_eq_ok.mpr valid.keyId
  have nonce : validateNonceHex fields.nonceHex = .ok () := require_eq_ok.mpr valid.nonce
  simp only [TransactionIdFields.envelope, readEnvelope, version, require, if_true, stringMember,
    keyId, nonce, valid.mac, timestampMember_integer valid.timestamp]
  rfl

/-- A record is read from its own envelope only. -/
theorem readEnvelope_eq_ok (read : readEnvelope items = .ok fields) :
    items = fields.envelope ∧ fields.Valid := by
  unfold readEnvelope at read
  split at read
  · obtain ⟨_, version, read⟩ := bind_eq_ok read
    obtain ⟨keyId, key, read⟩ := bind_eq_ok read
    obtain ⟨timestampMs, timestamp, read⟩ := bind_eq_ok read
    obtain ⟨nonceHex, nonce, read⟩ := bind_eq_ok read
    obtain ⟨mac, macRead, same⟩ := bind_eq_ok read
    cases same
    obtain ⟨rfl, keyValid⟩ := stringMember_eq_ok key
    obtain ⟨rfl, timestampValid⟩ := timestampMember_eq_ok timestamp
    obtain ⟨rfl, nonceValid⟩ := stringMember_eq_ok nonce
    obtain ⟨rfl, macValid⟩ := stringMember_eq_ok macRead
    rw [isProtocolVersion_eq_true (require_eq_ok.mp version)]
    exact ⟨rfl, require_eq_ok.mp keyValid, timestampValid, require_eq_ok.mp nonceValid, macValid⟩
  · cases read

theorem parseCanonicalJsonArray_eq_ok {text : List Char} {length : Nat}
    (parsed : parseCanonicalJsonArray text length = .ok items) :
    (JsonValue.array items).stringify = text := by
  unfold parseCanonicalJsonArray at parsed
  split at parsed
  · cases parsed
  · split at parsed
    · cases parsed
    · next same =>
      split at parsed
      · cases parsed
      · cases parsed
        simpa using same
  · cases parsed

/-- The bytes of an array start with a bracket. -/
theorem canonicalJsonBytes_array (items : List JsonValue) :
    ∃ rest, canonicalJsonBytes (.array items) = 0x5B :: rest := by
  have bracket : String.utf8EncodeChar '[' = [0x5B] := by decide
  cases items with
  | nil => exact ⟨_, rfl⟩
  | cons item items =>
    rw [canonicalJsonBytes, stringify, utf8Encode, List.flatMap_cons, bracket]
    exact ⟨_, rfl⟩

theorem utf8Decode_canonicalJsonBytes (items : List JsonValue) :
    (canonicalJsonBytes (.array items)).take 3 ≠ [0xEF, 0xBB, 0xBF] ∧
      utf8Decode (canonicalJsonBytes (.array items)) = some (JsonValue.array items).stringify := by
  have unmarked : (canonicalJsonBytes (.array items)).take 3 ≠ [0xEF, 0xBB, 0xBF] := by
    obtain ⟨rest, same⟩ := canonicalJsonBytes_array items
    rw [same]
    simp
  exact ⟨unmarked, utf8Decode_utf8Encode unmarked⟩

theorem parseCanonicalJsonArray_stringify (atoms : ∀ other ∈ item :: items, IsAtom other) :
    parseCanonicalJsonArray (JsonValue.array (item :: items)).stringify (items.length + 1) =
      .ok (item :: items) := by
  have parsed := parse_stringify (atoms item List.mem_cons_self)
    fun other member => atoms other (List.mem_cons_of_mem item member)
  rw [parseCanonicalJsonArray, parsed]
  simp

theorem decode_of_encode (valid : fields.Valid) :
    ∃ header, encodeTransactionId fields = .ok header ∧
      decodeTransactionId header = .ok fields := by
  have long := length_base64urlEncode (canonicalJsonBytes (.array fields.envelope))
  have short := length_envelope valid
  have bound : assertEncodedTransactionIdBound
      (base64urlEncode (canonicalJsonBytes (.array fields.envelope))) = .ok () := by
    apply require_eq_ok.mpr
    have limit : maxEncodedTransactionIdBytes = 1024 := rfl
    rw [decide_eq_true_eq]
    omega
  obtain ⟨unmarked, text⟩ := utf8Decode_canonicalJsonBytes fields.envelope
  have nonempty : canonicalJsonBytes (.array fields.envelope) ≠ [] := by
    obtain ⟨rest, same⟩ := canonicalJsonBytes_array fields.envelope
    rw [same]
    exact List.cons_ne_nil _ _
  have parsed : parseCanonicalJsonArray (JsonValue.array fields.envelope).stringify 5 =
      .ok fields.envelope := parseCanonicalJsonArray_stringify (envelope_atoms valid)
  have present : require (!(base64urlEncode (canonicalJsonBytes (.array fields.envelope))).isEmpty)
      "transactionId must be a non-empty string" = .ok () := by
    rw [require_eq_ok, Bool.not_eq_true', List.isEmpty_eq_false_iff]
    exact base64urlEncode_ne_nil nonempty
  have plain : require ((canonicalJsonBytes (.array fields.envelope)).take 3 != [0xEF, 0xBB, 0xBF])
      "transactionId must not contain a UTF-8 BOM" = .ok () := by
    rw [require_eq_ok]
    exact bne_iff_ne.mpr unmarked
  refine ⟨base64urlEncode (canonicalJsonBytes (.array fields.envelope)), ?_, ?_⟩
  · rw [encodeTransactionId, TransactionIdFields.validate_eq_ok.mpr valid]
    show (assertEncodedTransactionIdBound _ >>= _) = _
    rw [bound]
    rfl
  · rw [decodeTransactionId, present, bound, base64urlDecode_encode nonempty]
    simp only [bind, Except.bind]
    rw [plain]
    simp only [text, parsed]
    exact readEnvelope_envelope valid

/-- What is decoded was spelled as it is encoded. -/
theorem encode_of_decode {header : Utf16} (decoded : decodeTransactionId header = .ok fields) :
    encodeTransactionId fields = .ok header := by
  obtain ⟨_, present, decoded⟩ := bind_eq_ok decoded
  obtain ⟨_, bound, decoded⟩ := bind_eq_ok decoded
  obtain ⟨bytes, raw, decoded⟩ := bind_eq_ok decoded
  obtain ⟨_, plain, decoded⟩ := bind_eq_ok decoded
  have unmarked := bne_iff_ne.mp (require_eq_ok.mp plain)
  split at decoded
  · cases decoded
  · next text found =>
    obtain ⟨items, parsed, read⟩ := bind_eq_ok decoded
    obtain ⟨rfl, valid⟩ := readEnvelope_eq_ok read
    have bytes' : canonicalJsonBytes (.array fields.envelope) = bytes := by
      rw [canonicalJsonBytes, parseCanonicalJsonArray_eq_ok parsed]
      exact utf8Encode_of_utf8Decode unmarked found
    rw [encodeTransactionId, TransactionIdFields.validate_eq_ok.mpr valid, bytes',
      base64urlEncode_of_decode raw]
    show (assertEncodedTransactionIdBound header >>= _) = _
    rw [bound]
    rfl

/-- Every valid record comes back from its header, and a header has the one spelling that its record
is encoded to. -/
theorem transactionId_codec :
    (∀ fields : TransactionIdFields, fields.validate = .ok () →
      ∃ header, encodeTransactionId fields = .ok header ∧
        decodeTransactionId header = .ok fields) ∧
    (∀ header fields, decodeTransactionId header = .ok fields →
      encodeTransactionId fields = .ok header) ∧
    ∀ header other fields, decodeTransactionId header = .ok fields →
      decodeTransactionId other = .ok fields → header = other := by
  refine ⟨?_, fun _ _ decoded => encode_of_decode decoded, ?_⟩
  · intro fields valid
    exact decode_of_encode (TransactionIdFields.validate_eq_ok.mp valid)
  · intro header other fields decoded decoded'
    have same := encode_of_decode decoded
    rw [encode_of_decode decoded'] at same
    cases same
    rfl

end TransactionId

end WebTsToolkit.RequestAttestation.Codec
