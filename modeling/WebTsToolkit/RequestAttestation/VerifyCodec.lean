import WebTsToolkit.RequestAttestation.Codec
import WebTsToolkit.RequestAttestation.Verify

set_option autoImplicit false

/- The guard with the stages that the codec has: its texts without lone surrogates are those of
the codec. -/
namespace WebTsToolkit.RequestAttestation

open Js

/-- The code units of a text. -/
def textUnits (text : String) : Utf16 :=
  text.toList.flatMap unitsOf

/-- A class of ASCII characters and the class of their code units. -/
structure SameClass (chars : Char → Bool) (class' : UInt16 → Bool) : Prop where
  chars_ascii : ∀ c, chars c = true → c.toNat < 0x80
  units_ascii : ∀ other, class' other = true → other.toNat < 0x80
  same : ∀ value < 0x80, class' value.toUInt16 = chars (Char.ofNat value)

variable {chars : Char → Bool} {class' : UInt16 → Bool}

/-- A character is of the class when all its code units are. -/
theorem SameClass.all_unitsOf (classes : SameClass chars class') (c : Char) :
    (unitsOf c).all class' = chars c := by
  by_cases ascii : c.toNat < 0x80
  · rw [unitsOf, if_pos (by omega), List.all_cons, List.all_nil, Bool.and_true,
      classes.same c.toNat ascii, Char.ofNat_toNat]
  · have other : chars c = false :=
      Bool.eq_false_iff.mpr fun holds => ascii (classes.chars_ascii c holds)
    have beyond {value : Nat} (bounds : 0x80 ≤ value ∧ value < 0x10000) :
        class' value.toUInt16 = false := by
      rw [Bool.eq_false_iff]
      intro holds
      have small := classes.units_ascii _ holds
      rw [UInt16.toNat_ofNat'] at small
      omega
    have valid : c.toNat.isValidChar := c.valid
    rw [Nat.isValidChar] at valid
    rw [unitsOf, other]
    split
    · rw [List.all_cons, beyond (by omega), Bool.false_and]
    · rw [List.all_cons, beyond (by omega), Bool.false_and]

theorem SameClass.consistsOf (classes : SameClass chars class') (least most : Nat)
    (text : String) : Codec.consistsOf class' least most (textUnits text) =
      (text.toList.all chars && least ≤ text.toList.length && text.toList.length ≤ most) := by
  have units : (textUnits text).all class' = text.toList.all chars := by
    rw [textUnits, List.all_flatMap]
    simp only [classes.all_unitsOf]
  rw [Codec.consistsOf, units]
  cases within : text.toList.all chars with
  | false => rfl
  | true =>
    have length : (textUnits text).length = text.toList.length := by
      rw [List.all_eq_true] at within
      rw [textUnits, List.length_flatMap, List.map_congr_left (g := fun _ => 1) ?_]
      · simp
      · intro c member
        have ascii := classes.chars_ascii c (within c member)
        rw [unitsOf, if_pos (by omega)]
        rfl
    rw [length]

theorem ascii_of_between {low high : Char} {other : UInt16}
    (inside : Codec.between low high other = true) (small : high.toNat < 0x80) :
    other.toNat < 0x80 := by
  rw [Codec.between, Bool.and_eq_true, decide_eq_true_eq, decide_eq_true_eq] at inside
  have bound := UInt16.le_iff_toNat_le.mp inside.2
  rw [Codec.unit, UInt16.toNat_ofNat'] at bound
  omega

theorem ascii_of_le {c high : Char} (below : c ≤ high) (small : high.toNat < 0x80) :
    c.toNat < 0x80 :=
  Nat.lt_of_le_of_lt (UInt32.le_iff_toNat_le.mp below) small

theorem wordClass : SameClass (fun c => isLetter c || isDigit c || c == '_' || c == '-')
    Codec.isWordUnit where
  chars_ascii := by
    intro c
    simp only [isLetter, isDigit, Bool.or_eq_true, Bool.and_eq_true, decide_eq_true_eq, beq_iff_eq]
    rintro ((((upper | lower) | digit) | rfl) | rfl)
    · exact ascii_of_le upper.2 (by decide)
    · exact ascii_of_le lower.2 (by decide)
    · exact ascii_of_le digit.2 (by decide)
    · decide
    · decide
  units_ascii := by
    intro other
    simp only [Codec.isWordUnit, Bool.or_eq_true, decide_eq_true_eq]
    rintro ((((upper | lower) | digit) | rfl) | rfl)
    · exact ascii_of_between upper (by decide)
    · exact ascii_of_between lower (by decide)
    · exact ascii_of_between digit (by decide)
    · decide
    · decide
  same := by decide +kernel

theorem lowerHexClass : SameClass (fun c => isDigit c || ('a' ≤ c && c ≤ 'f'))
    Codec.isLowerHex where
  chars_ascii := by
    intro c
    simp only [isDigit, Bool.or_eq_true, Bool.and_eq_true, decide_eq_true_eq]
    rintro (digit | lower)
    · exact ascii_of_le digit.2 (by decide)
    · exact ascii_of_le lower.2 (by decide)
  units_ascii := by
    intro other
    simp only [Codec.isLowerHex, Bool.or_eq_true]
    rintro (digit | lower)
    · exact ascii_of_between digit (by decide)
    · exact ascii_of_between lower (by decide)
  same := by decide +kernel

/-- A key id or a namespace that the guard takes is one that the codec takes. -/
theorem isToken_eq (limit : Nat) (text : String) :
    isToken limit text = Codec.consistsOf Codec.isWordUnit 1 limit (textUnits text) :=
  (wordClass.consistsOf 1 limit text).symm

theorem isNonceHex_eq (text : String) :
    isNonceHex text = Codec.consistsOf Codec.isLowerHex 32 32 (textUnits text) := by
  rw [lowerHexClass.consistsOf 32 32 text, isNonceHex, Bool.and_assoc]
  congr 1
  rw [Bool.eq_iff_iff, beq_iff_eq, Bool.and_eq_true, decide_eq_true_eq, decide_eq_true_eq]
  omega

/-- The fields as the codec reads them. -/
def MacInputFields.units (fields : MacInputFields) : Codec.MacInputFields where
  replayNamespace := textUnits fields.replayNamespace
  publicOrigin := textUnits fields.publicOrigin
  keyId := textUnits fields.keyId
  timestampMs := fields.timestampMs
  nonceHex := textUnits fields.nonceHex
  method := textUnits fields.method
  requestTarget := textUnits fields.requestTarget
  contentType := some (textUnits fields.contentType)
  bodyHashHex := textUnits fields.bodyHashHex

variable {Request : Type}

/-- The stages, with the codec's own functions in them. -/
def Stages.withCodec (stages : Stages Request) (parseUrl : Utf16 → Option Codec.Url) :
    Stages Request :=
  { stages with
    base64urlDecode := fun mac => (Codec.base64urlDecode (textUnits mac)).toOption
    validatePublicOrigin := fun origin => Codec.validatePublicOrigin parseUrl (textUnits origin)
    buildMacInputBytes := fun fields =>
      (Codec.buildMacInputBytes parseUrl fields.units).mapError fun _ => .internalError }

/-- With the codec's stages, the mac of a verified proof is that of the bytes which the codec
builds of the proof and the request. -/
theorem verified_signed {stages : Stages Request} {parseUrl : Utf16 → Option Codec.Url}
    {input : AttestationVerifyInput Request} {envelope : TransactionIdFields}
    {proof : AttestationVerifiedProof}
    (verified : verifyDecodedAttestationProof (stages.withCodec parseUrl) input envelope =
      .ok proof) :
    ∃ bytes, Codec.buildMacInputBytes parseUrl
        (MacInputFields.units
          { replayNamespace := input.replayNamespace
            publicOrigin := input.publicOrigin
            keyId := proof.keyId
            timestampMs := proof.timestampMs
            nonceHex := proof.nonceHex
            method := proof.method
            requestTarget := proof.requestTarget
            contentType := proof.contentType
            bodyHashHex := proof.bodyHashHex }) = .ok bytes ∧
      Codec.base64urlDecode (textUnits envelope.mac) =
        .ok (stages.hmacSha256 proof.keyEntry.key bytes) := by
  obtain ⟨bytes, built, signed⟩ := (verifyDecodedAttestationProof_ok verified).signed
  refine ⟨bytes, Library.mapError_eq_ok built, ?_⟩
  unfold verifyMac Stages.withCodec at signed
  dsimp only at signed
  cases decoded : Codec.base64urlDecode (textUnits envelope.mac) with
  | error failure =>
    rw [decoded] at signed
    contradiction
  | ok presented =>
    rw [decoded] at signed
    dsimp only [Except.toOption] at signed
    split at signed
    · contradiction
    · split at signed
      · next same => rw [same]
      · contradiction

end WebTsToolkit.RequestAttestation
