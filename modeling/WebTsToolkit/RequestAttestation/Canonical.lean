import WebTsToolkit.Js.JsonValue
import WebTsToolkit.RequestAttestation.TimePolicy

set_option autoImplicit false

namespace WebTsToolkit.RequestAttestation.Codec

open Js

def base64urlAlphabet : Utf16 :=
  "ABCDEFGHIJKLMNOPQRSTUVWXYZabcdefghijklmnopqrstuvwxyz0123456789-_".toList.map
    fun c => c.toNat.toUInt16

/-- The letter of the low six bits. -/
def letter (bits : Nat) : UInt16 :=
  base64urlAlphabet.getD (bits % 64) 0

def base64urlEncode : List UInt8 → Utf16
  | [] => []
  | [first] =>
    let triplet := first.toNat * 2 ^ 16
    [letter (triplet / 2 ^ 18), letter (triplet / 2 ^ 12)]
  | [first, second] =>
    let triplet := first.toNat * 2 ^ 16 + second.toNat * 2 ^ 8
    [letter (triplet / 2 ^ 18), letter (triplet / 2 ^ 12), letter (triplet / 2 ^ 6)]
  | first :: second :: third :: rest =>
    let triplet := first.toNat * 2 ^ 16 + second.toNat * 2 ^ 8 + third.toNat
    letter (triplet / 2 ^ 18) :: letter (triplet / 2 ^ 12) :: letter (triplet / 2 ^ 6) ::
      letter triplet :: base64urlEncode rest

/-- The loop over the letters' values: the bytes, and the buffer with the number of its bits that
are left over. The buffer is a signed 32-bit integer, here without its sign. -/
def decodeLoop : List Nat → Nat → Nat → List UInt8 × Nat × Nat
  | [], buffer, bits => ([], buffer, bits)
  | value :: rest, buffer, bits =>
    let buffer := (buffer * 2 ^ 6 + value) % 2 ^ 32
    let bits := bits + 6
    if 8 ≤ bits then
      let (out, final) := decodeLoop rest buffer (bits - 8)
      ((buffer / 2 ^ (bits - 8)).toUInt8 :: out, final)
    else decodeLoop rest buffer bits

def base64urlDecode (input : Utf16) : Except AttestationProtocolError (List UInt8) :=
  if input.isEmpty then
    .error (protocolError "base64url input must be a non-empty string")
  else
    match input.mapM fun unit => base64urlAlphabet.idxOf? unit with
    | none =>
      .error (protocolError "base64url input uses a non-canonical alphabet or padding")
    | some values =>
      if input.length % 4 = 1 then
        .error (protocolError "base64url input has an impossible length")
      else
        let (out, buffer, bits) := decodeLoop values 0 0
        if 0 < bits && buffer % 2 ^ bits != 0 then
          .error (protocolError "base64url input has non-canonical trailing bits")
        else if base64urlEncode out != input then
          .error (protocolError "base64url input is not canonical")
        else .ok out

def canonicalJsonBytes (value : JsonValue) : List UInt8 :=
  utf8Encode value.stringify

def parseCanonicalJsonArray (text : List Char) (expectedLength : Nat) :
    Except AttestationProtocolError (List JsonValue) :=
  match JsonValue.parse text with
  | none => .error (protocolError "input is not valid JSON")
  | some (.array items) =>
    if (JsonValue.array items).stringify != text then
      .error (protocolError "JSON input is not in canonical form")
    else if items.length != expectedLength then
      .error (protocolError ("canonical JSON array must have exactly " ++
        expectedLength.repr ++ " elements"))
    else .ok items
  | some _ => .error (protocolError "canonical JSON input must be an array")

/-- The values of the letters of some bytes. -/
def sextets : List UInt8 → List Nat
  | [] => []
  | [first] => [first.toNat / 4, first.toNat % 4 * 16]
  | [first, second] =>
    [first.toNat / 4, first.toNat % 4 * 16 + second.toNat / 16, second.toNat % 16 * 4]
  | first :: second :: third :: rest =>
    (first.toNat / 4) :: (first.toNat % 4 * 16 + second.toNat / 16) ::
      (second.toNat % 16 * 4 + third.toNat / 64) :: (third.toNat % 64) :: sextets rest

theorem letter_congr {first second : Nat} (same : first % 64 = second % 64) :
    letter first = letter second := by
  rw [letter, letter, same]

theorem base64urlEncode_eq (bytes : List UInt8) :
    base64urlEncode bytes = (sextets bytes).map letter := by
  induction bytes using base64urlEncode.induct with
  | case1 => rfl
  | case2 first =>
    have bound := first.toNat_lt
    simp only [base64urlEncode, sextets, List.map_cons, List.map_nil, List.cons.injEq, and_true]
    constructor <;> apply letter_congr <;> omega
  | case3 first second =>
    have bound := first.toNat_lt
    have bound' := second.toNat_lt
    simp only [base64urlEncode, sextets, List.map_cons, List.map_nil, List.cons.injEq, and_true]
    refine ⟨?_, ?_, ?_⟩ <;> apply letter_congr <;> omega
  | case4 first second third rest ih =>
    have bound := first.toNat_lt
    have bound' := second.toNat_lt
    have bound'' := third.toNat_lt
    simp only [base64urlEncode, sextets, List.map_cons, List.cons.injEq, ih, and_true]
    refine ⟨?_, ?_, ?_, ?_⟩ <;> apply letter_congr <;> omega

variable {bytes : List UInt8}

theorem sextets_lt {value : Nat} (member : value ∈ sextets bytes) : value < 64 := by
  induction bytes using sextets.induct with
  | case1 => cases member
  | case2 first =>
    have bound := first.toNat_lt
    simp only [sextets, List.mem_cons, List.not_mem_nil, or_false] at member
    omega
  | case3 first second =>
    have bound := first.toNat_lt
    have bound' := second.toNat_lt
    simp only [sextets, List.mem_cons, List.not_mem_nil, or_false] at member
    omega
  | case4 first second third rest ih =>
    have bound := first.toNat_lt
    have bound' := second.toNat_lt
    have bound'' := third.toNat_lt
    simp only [sextets, List.mem_cons] at member
    rcases member with same | same | same | same | later
    · omega
    · omega
    · omega
    · omega
    · exact ih later

theorem length_sextets (bytes : List UInt8) : (sextets bytes).length % 4 ≠ 1 := by
  induction bytes using sextets.induct with
  | case1 | case2 first | case3 first second => simp [sextets]
  | case4 first second third rest ih =>
    simp only [sextets, List.length_cons]
    omega

theorem idxOf_letter {value : Nat} (small : value < 64) :
    base64urlAlphabet.idxOf? (letter value) = some value := by
  revert value
  decide

theorem mapM_letters {values : List Nat} (small : ∀ value ∈ values, value < 64) :
    (values.map letter).mapM (fun unit => base64urlAlphabet.idxOf? unit) = some values := by
  induction values with
  | nil => rfl
  | cons value values ih =>
    have later := ih fun other member => small other (List.mem_cons_of_mem value member)
    rw [List.map_cons, List.mapM_cons, idxOf_letter (small value List.mem_cons_self), later]
    rfl

/-- The buffer with six more bits. -/
def shifted (buffer value : Nat) : Nat :=
  (buffer * 2 ^ 6 + value) % 2 ^ 32

theorem decodeLoop_first (value buffer : Nat) (rest : List Nat) :
    decodeLoop (value :: rest) buffer 0 = decodeLoop rest (shifted buffer value) 6 := rfl

/-- The next six bits complete a byte. -/
theorem decodeLoop_byte (left : Nat) (byte : UInt8) {value buffer bits : Nat} {rest : List Nat}
    (enough : bits + 6 = left + 8) (same : shifted buffer value / 2 ^ left % 2 ^ 8 = byte.toNat) :
    decodeLoop (value :: rest) buffer bits =
      (byte :: (decodeLoop rest (shifted buffer value) left).1,
        (decodeLoop rest (shifted buffer value) left).2) := by
  have whole : (shifted buffer value / 2 ^ left).toUInt8 = byte := UInt8.toNat_inj.mp same
  have less : bits + 6 - 8 = left := by omega
  rw [decodeLoop]
  simp only [less]
  rw [if_pos (by omega)]
  show ((shifted buffer value / 2 ^ left).toUInt8 :: _, _) = _
  rw [whole]
  rfl

/-- The bytes come back, and no bits are left over that were set. -/
theorem decodeLoop_sextets (bytes : List UInt8) (buffer : Nat) :
    ∃ final bits, decodeLoop (sextets bytes) buffer 0 = (bytes, final, bits) ∧
      final % 2 ^ bits = 0 := by
  induction bytes using sextets.induct generalizing buffer with
  | case1 => exact ⟨buffer, 0, rfl, Nat.mod_one buffer⟩
  | case2 first =>
    have bound := first.toNat_lt
    rw [sextets, decodeLoop_first, decodeLoop_byte 4 first rfl]
    · refine ⟨_, 4, rfl, ?_⟩
      simp only [shifted]
      omega
    · simp only [shifted]
      omega
  | case3 first second =>
    have bound := first.toNat_lt
    have bound' := second.toNat_lt
    rw [sextets, decodeLoop_first, decodeLoop_byte 4 first rfl, decodeLoop_byte 2 second rfl]
    · refine ⟨_, 2, rfl, ?_⟩
      simp only [shifted]
      omega
    · simp only [shifted]
      omega
    · simp only [shifted]
      omega
  | case4 first second third rest ih =>
    have bound := first.toNat_lt
    have bound' := second.toNat_lt
    have bound'' := third.toNat_lt
    rw [sextets, decodeLoop_first, decodeLoop_byte 4 first rfl, decodeLoop_byte 2 second rfl,
      decodeLoop_byte 0 third rfl]
    · obtain ⟨final, bits, decoded, clear⟩ := ih _
      exact ⟨final, bits, by rw [decoded], clear⟩
    · simp only [shifted]
      omega
    · simp only [shifted]
      omega
    · simp only [shifted]
      omega

theorem base64urlEncode_ne_nil (nonempty : bytes ≠ []) : base64urlEncode bytes ≠ [] := by
  rw [base64urlEncode_eq]
  intro empty
  rw [List.map_eq_nil_iff] at empty
  match bytes with
  | [] => exact nonempty rfl
  | [first] => cases empty
  | [first, second] => cases empty
  | first :: second :: third :: rest => cases empty

/-- `base64urlDecode` undoes `base64urlEncode`. -/
theorem base64urlDecode_encode (nonempty : bytes ≠ []) :
    base64urlDecode (base64urlEncode bytes) = .ok bytes := by
  obtain ⟨final, bits, decoded, clear⟩ := decodeLoop_sextets bytes 0
  have inside : (base64urlEncode bytes).isEmpty = false := by
    rw [List.isEmpty_eq_false_iff]
    exact base64urlEncode_ne_nil nonempty
  have values : (base64urlEncode bytes).mapM (fun unit => base64urlAlphabet.idxOf? unit) =
      some (sextets bytes) := by
    rw [base64urlEncode_eq]
    exact mapM_letters fun value member => sextets_lt member
  have length : (base64urlEncode bytes).length % 4 ≠ 1 := by
    rw [base64urlEncode_eq, List.length_map]
    exact length_sextets bytes
  rw [base64urlDecode, inside, values]
  simp [length, decoded, clear]

/-- What `base64urlDecode` accepts is spelled as `base64urlEncode` spells it. -/
theorem base64urlEncode_of_decode {input : Utf16} (decoded : base64urlDecode input = .ok bytes) :
    base64urlEncode bytes = input := by
  unfold base64urlDecode at decoded
  split at decoded
  · cases decoded
  · split at decoded
    · cases decoded
    · split at decoded
      · cases decoded
      · dsimp only at decoded
        split at decoded
        · cases decoded
        · split at decoded
          · cases decoded
          · next same =>
            cases decoded
            simpa using same

end WebTsToolkit.RequestAttestation.Codec
