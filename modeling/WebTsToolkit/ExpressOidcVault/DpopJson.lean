import WebTsToolkit.Js.JsonText

set_option autoImplicit false

namespace WebTsToolkit.ExpressOidcVault

open Js JsonText

/-- Why a text is refused, the cause of the one error that callers see. -/
inductive ParseCause where
  | encoding
  | syntaxError
  | notObject
  | duplicateNames
  deriving DecidableEq

structure InvalidProof where
  message : String
  cause : ParseCause

def utf16 (c : Char) : CodeUnits :=
  if c.toNat < 0x10000 then [c.toNat]
  else [0xD800 + (c.toNat - 0x10000) / 0x400, 0xDC00 + (c.toNat - 0x10000) % 0x400]

/-- `new TextDecoder('utf-8', { fatal: true }).decode(bytes)`, which drops a byte order mark. -/
def decodeUtf8 (bytes : ByteArray) : Option CodeUnits :=
  (String.fromUTF8? bytes).map fun text =>
    match text.toList.flatMap utf16 with
    | 0xFEFF :: units => units
    | units => units

/-- An open object with the names it had so far, or an open array, which has none. -/
structure Container where
  keys : Option (List CodeUnits)
  expectsKey : Bool

/-- The rest of a string literal, up to and with its closing quote, and what follows it. -/
def closeString : CodeUnits → CodeUnits × CodeUnits
  | [] => ([], [])
  | unit :: rest =>
    if unit = code '\\' then
      match rest with
      | [] => ([unit], [])
      | skipped :: rest =>
        (unit :: skipped :: (closeString rest).1, (closeString rest).2)
    else if unit = code '"' then ([unit], rest)
    else (unit :: (closeString rest).1, (closeString rest).2)

theorem closeString_length (units : CodeUnits) :
    (closeString units).2.length ≤ units.length := by
  fun_induction closeString units with
  | case1 => exact Nat.le_refl _
  | case2 => exact Nat.zero_le _
  | case3 skipped rest ih | case5 unit rest plain open_ ih =>
    simp only [List.length_cons]
    omega
  | case4 => exact Nat.le_succ _

/-- A string literal is a name where its object expects one. -/
def readKey (stack : List Container) (literal : CodeUnits) : Except ParseCause (List Container) :=
  match stack with
  | ⟨some keys, true⟩ :: below =>
    match parseString literal with
    | none => .error .syntaxError
    | some key =>
      if key ∈ keys then .error .duplicateNames
      else .ok (⟨some (key :: keys), false⟩ :: below)
  | stack => .ok stack

def expectKey : List Container → List Container
  | ⟨some keys, _⟩ :: below => ⟨some keys, true⟩ :: below
  | stack => stack

/-- The loop over the text. -/
def scan (stack : List Container) (units : CodeUnits) : Except ParseCause Unit :=
  match units with
  | [] => .ok ()
  | unit :: rest =>
    if unit = code '{' then scan (⟨some [], true⟩ :: stack) rest
    else if unit = code '[' then scan (⟨none, false⟩ :: stack) rest
    else if unit = code '}' ∨ unit = code ']' then scan stack.tail rest
    else if unit = code ',' then scan (expectKey stack) rest
    else if unit = code '"' then
      match readKey stack (unit :: (closeString rest).1) with
      | .error cause => .error cause
      | .ok stack => scan stack (closeString rest).2
    else scan stack rest
termination_by units.length
decreasing_by
  all_goals simp only [List.length_cons]
  case _ => exact Nat.lt_succ_self _
  case _ => exact Nat.lt_succ_self _
  case _ => exact Nat.lt_succ_self _
  case _ => exact Nat.lt_succ_self _
  case _ => exact Nat.lt_succ_of_le (closeString_length rest)
  case _ => exact Nat.lt_succ_self _

/-- `JSON.parse` on whole texts and what the language tells of its values, the first of it by
`typeof`. -/
structure JsonParse (Parsed : Type) where
  parse : CodeUnits → Option Parsed
  isObjectType : Parsed → Bool
  isNull : Parsed → Bool
  isArray : Parsed → Bool
  hasObjectPrototype : Parsed → Bool

def JsonParse.isPlainObject {Parsed : Type} (json : JsonParse Parsed) (value : Parsed) : Bool :=
  json.isObjectType value && !json.isNull value && !json.isArray value &&
    json.hasObjectPrototype value

/-- `parseObject`. -/
def parseObject {Parsed : Type} (json : JsonParse Parsed) (bytes : ByteArray) :
    Except InvalidProof Parsed :=
  let checked : Except ParseCause Parsed :=
    match decodeUtf8 bytes with
    | none => .error .encoding
    | some units =>
      match json.parse units with
      | none => .error .syntaxError
      | some value =>
        if json.isPlainObject value then (scan [] units).map fun _ => value
        else .error .notObject
  checked.mapError fun cause =>
    { message := "DPoP JSON encoding or object shape is invalid.", cause := cause }

/-- The code units that the scan does something at. -/
def marks : CodeUnits :=
  [code '{', code '[', code '}', code ']', code ',', code '"']

def Inert (units : CodeUnits) : Prop :=
  ∀ unit ∈ units, unit ∉ marks

instance (units : CodeUnits) : Decidable (Inert units) :=
  inferInstanceAs (Decidable (∀ unit ∈ units, unit ∉ marks))

theorem Inert.append {first second : CodeUnits} (one : Inert first) (two : Inert second) :
    Inert (first ++ second) := by
  intro unit member
  exact (List.mem_append.mp member).elim (one unit) (two unit)

variable {units : CodeUnits} {unit : Nat}

theorem Inert.cons (first : unit ∉ marks) (rest : Inert units) : Inert (unit :: units) := by
  intro other member
  rcases List.mem_cons.mp member with rfl | later
  · exact first
  · exact rest other later

theorem inert_nil : Inert [] := by
  intro unit member
  exact absurd member List.not_mem_nil

theorem inert_map {α : Type} {unit : α → Nat} (each : ∀ item, unit item ∉ marks)
    (items : List α) : Inert (items.map unit) := by
  intro other member
  obtain ⟨item, _, rfl⟩ := List.mem_map.mp member
  exact each item

theorem scan_inert_cons (stack : List Container) (inert : unit ∉ marks) (rest : CodeUnits) :
    scan stack (unit :: rest) = scan stack rest := by
  simp only [marks, List.mem_cons, List.not_mem_nil, or_false, not_or] at inert
  obtain ⟨brace, bracket, closeBrace, closeBracket, comma, quote⟩ := inert
  rw [scan, if_neg brace, if_neg bracket, if_neg (not_or.mpr ⟨closeBrace, closeBracket⟩),
    if_neg comma, if_neg quote]

theorem scan_inert (stack : List Container) (inert : Inert units) (rest : CodeUnits) :
    scan stack (units ++ rest) = scan stack rest := by
  induction units with
  | nil => rfl
  | cons unit units ih =>
    rw [List.cons_append, scan_inert_cons stack (inert unit List.mem_cons_self)]
    exact ih fun other member => inert other (List.mem_cons_of_mem _ member)

theorem inert_blanks (list : Blanks) : Inert (blanks list) := by
  apply inert_map
  intro blank
  cases blank <;> decide

theorem inert_null : Inert (literalUnits "null") := by decide

theorem inert_true : Inert (literalUnits "true") := by decide

theorem inert_false : Inert (literalUnits "false") := by decide

theorem digit_not_mark (digit : Digit) : digit.unit ∉ marks := by
  cases digit with
  | zero => decide
  | nonzero less => revert less; decide

theorem inert_integer (integer : IntegerPart) : Inert integer.units := by
  cases integer with
  | zero => exact Inert.cons (by decide) inert_nil
  | digits first rest =>
    refine Inert.cons ?_ (inert_map digit_not_mark rest)
    revert first
    decide

theorem inert_fraction (fraction : Fraction) : Inert fraction.units :=
  Inert.cons (by decide)
    (Inert.cons (digit_not_mark fraction.first) (inert_map digit_not_mark fraction.rest))

theorem inert_exponent (exponent : Exponent) : Inert exponent.units := by
  rw [Exponent.units]
  refine Inert.cons ?_ (Inert.append ?_ ?_)
  · cases exponent.capital <;> decide
  · cases exponent.sign with
    | none => exact inert_nil
    | plus | minus => exact Inert.cons (by decide) inert_nil
  · exact Inert.cons (digit_not_mark exponent.first) (inert_map digit_not_mark exponent.rest)

theorem inert_numeral (numeral : Numeral) : Inert numeral.units := by
  rw [Numeral.units]
  refine Inert.append (Inert.append (Inert.append ?_ (inert_integer _)) ?_) ?_
  · cases numeral.negative with
    | true => exact Inert.cons (by decide) inert_nil
    | false => exact inert_nil
  · cases numeral.fraction with
    | none => exact inert_nil
    | some fraction => exact inert_fraction fraction
  · cases numeral.exponent with
    | none => exact inert_nil
    | some exponent => exact inert_exponent exponent

section Strings

theorem closeString_plain {unit : Nat} (quote : unit ≠ code '"') (backslash : unit ≠ code '\\')
    (rest : CodeUnits) :
    closeString (unit :: rest) = (unit :: (closeString rest).1, (closeString rest).2) := by
  rw [closeString.eq_def]
  dsimp only
  rw [if_neg backslash, if_neg quote]

theorem closeString_escape (mark : Nat) (rest : CodeUnits) :
    closeString (code '\\' :: mark :: rest) =
      (code '\\' :: mark :: (closeString rest).1, (closeString rest).2) := by
  rw [closeString.eq_def]
  dsimp only
  rw [if_pos rfl]

theorem hex_unit_plain (digit : HexDigit) :
    digit.unit ≠ code '"' ∧ digit.unit ≠ code '\\' := by
  cases digit with
  | digit value => revert value; decide
  | small above | capital above => revert above; decide

theorem closeString_piece (piece : Piece) (rest : CodeUnits) :
    closeString (piece.units ++ rest) =
      (piece.units ++ (closeString rest).1, (closeString rest).2) := by
  cases piece with
  | plain unit => exact closeString_plain unit.quote unit.backslash rest
  | escaped escape => exact closeString_escape escape.mark rest
  | hex first second third fourth =>
    have one := hex_unit_plain first
    have two := hex_unit_plain second
    have three := hex_unit_plain third
    have four := hex_unit_plain fourth
    show closeString (code '\\' :: code 'u' :: first.unit :: second.unit :: third.unit ::
      fourth.unit :: rest) = _
    rw [closeString_escape, closeString_plain one.1 one.2, closeString_plain two.1 two.2,
      closeString_plain three.1 three.2, closeString_plain four.1 four.2]
    rfl

/-- The inner loop stops at the quote that closes the literal. -/
theorem closeString_tail (literal : Literal) (rest : CodeUnits) :
    closeString (Literal.tail literal ++ rest) = (Literal.tail literal, rest) := by
  induction literal with
  | nil =>
    show closeString (code '"' :: rest) = _
    rw [closeString.eq_def]
    dsimp only
    rw [if_neg (by decide), if_pos rfl]
    rfl
  | cons piece literal ih =>
    have tail : Literal.tail (piece :: literal) = piece.units ++ Literal.tail literal := by
      rw [Literal.tail, List.flatMap_cons, List.append_assoc]
      rfl
    rw [tail, List.append_assoc, closeString_piece, ih]

theorem scan_literal (stack : List Container) (literal : Literal) (rest : CodeUnits) :
    scan stack (Literal.units literal ++ rest) =
      match readKey stack (Literal.units literal) with
      | .error cause => .error cause
      | .ok stack => scan stack rest := by
  have marks : code '"' ≠ code '{' ∧ code '"' ≠ code '[' ∧
      ¬(code '"' = code '}' ∨ code '"' = code ']') ∧ code '"' ≠ code ',' := by decide
  obtain ⟨brace, bracket, close, comma⟩ := marks
  rw [Literal.units, List.cons_append, scan, if_neg brace, if_neg bracket, if_neg close,
    if_neg comma, if_pos rfl]
  simp only [closeString_tail]

/-- A string is no name where no object expects one. -/
def Quiet : List Container → Prop
  | ⟨some _, true⟩ :: _ => False
  | _ => True

theorem readKey_quiet {stack : List Container} (quiet : Quiet stack) (literal : CodeUnits) :
    readKey stack literal = .ok stack := by
  unfold readKey
  split
  · exact absurd quiet id
  · rfl

theorem scan_string {stack : List Container} (quiet : Quiet stack) (literal : Literal)
    (rest : CodeUnits) : scan stack (Literal.units literal ++ rest) = scan stack rest := by
  rw [scan_literal, readKey_quiet quiet]

theorem scan_name_again {keys : List CodeUnits} {literal : Literal}
    (known : Literal.decoded literal ∈ keys) (stack : List Container) (rest : CodeUnits) :
    scan (⟨some keys, true⟩ :: stack) (Literal.units literal ++ rest) =
      .error .duplicateNames := by
  rw [scan_literal, readKey, parseString_units]
  dsimp only
  rw [if_pos known]

theorem scan_name {keys : List CodeUnits} {literal : Literal}
    (fresh : Literal.decoded literal ∉ keys) (stack : List Container) (rest : CodeUnits) :
    scan (⟨some keys, true⟩ :: stack) (Literal.units literal ++ rest) =
      scan (⟨some (Literal.decoded literal :: keys), false⟩ :: stack) rest := by
  rw [scan_literal, readKey, parseString_units]
  dsimp only
  rw [if_neg fresh]

end Strings

section Containers

variable (stack : List Container) (rest : CodeUnits)

theorem scan_brace : scan stack (code '{' :: rest) = scan (⟨some [], true⟩ :: stack) rest := by
  rw [scan, if_pos rfl]

theorem scan_bracket : scan stack (code '[' :: rest) = scan (⟨none, false⟩ :: stack) rest := by
  rw [scan, if_neg (by decide), if_pos rfl]

theorem scan_closeBrace : scan stack (code '}' :: rest) = scan stack.tail rest := by
  rw [scan, if_neg (by decide), if_neg (by decide), if_pos (Or.inl rfl)]

theorem scan_closeBracket : scan stack (code ']' :: rest) = scan stack.tail rest := by
  rw [scan, if_neg (by decide), if_neg (by decide), if_pos (Or.inr rfl)]

theorem scan_comma : scan stack (code ',' :: rest) = scan (expectKey stack) rest := by
  rw [scan, if_neg (by decide), if_neg (by decide), if_neg (by decide), if_pos rfl]

end Containers

/-- Names that occur twice, or that the object had before. -/
def Repeats (names keys : List CodeUnits) : Prop :=
  ¬(names.Nodup ∧ ∀ name ∈ names, name ∉ keys)

theorem not_repeats_nil (keys : List CodeUnits) : ¬Repeats [] keys := by
  intro repeats
  exact repeats ⟨List.nodup_nil, fun name member => absurd member List.not_mem_nil⟩

theorem repeats_cons_known {name : CodeUnits} {names keys : List CodeUnits}
    (known : name ∈ keys) : Repeats (name :: names) keys := by
  rintro ⟨_, fresh⟩
  exact fresh name List.mem_cons_self known

theorem repeats_cons_fresh {name : CodeUnits} {names keys : List CodeUnits}
    (fresh : name ∉ keys) : Repeats (name :: names) keys ↔ Repeats names (name :: keys) := by
  apply not_congr
  rw [List.nodup_cons, List.forall_mem_cons]
  constructor
  · rintro ⟨⟨once, distinct⟩, _, others⟩
    refine ⟨distinct, ?_⟩
    intro other member again
    rcases List.mem_cons.mp again with rfl | known
    · exact once member
    · exact others other member known
  · rintro ⟨distinct, others⟩
    refine ⟨⟨?_, distinct⟩, fresh, ?_⟩
    · intro member
      exact others name member List.mem_cons_self
    · intro other member known
      exact others other member (List.mem_cons_of_mem _ known)

theorem repeats_nil_iff {names : List CodeUnits} : Repeats names [] ↔ ¬names.Nodup := by
  apply not_congr
  constructor
  · exact fun held => held.1
  · exact fun distinct => ⟨distinct, fun name _ known => absurd known List.not_mem_nil⟩

/-- The scan of a part of a text: it stops at a duplicate in the part, or goes on behind it. -/
structure Scans (duplicate : Prop) (here after : Except ParseCause Unit) : Prop where
  stops : duplicate → here = .error .duplicateNames
  passes : ¬duplicate → here = after

theorem Scans.of_eq {here after : Except ParseCause Unit} (same : here = after) :
    Scans False here after where
  stops impossible := absurd impossible id
  passes _ := same

/-- One part after another. -/
theorem Scans.trans {first second : Prop} {here between after : Except ParseCause Unit}
    (one : Scans first here between) (two : Scans second between after) :
    Scans (first ∨ second) here after where
  stops := by
    intro either
    by_cases early : first
    · exact one.stops early
    · rw [one.passes early]
      exact two.stops (either.resolve_left early)
  passes := by
    intro neither
    rw [not_or] at neither
    rw [one.passes neither.1, two.passes neither.2]

theorem Scans.congr {first second : Prop} {here after : Except ParseCause Unit}
    (scans : Scans first here after) (same : second ↔ first) : Scans second here after where
  stops duplicate := scans.stops (same.mp duplicate)
  passes clean := scans.passes (mt same.mpr clean)

mutual

theorem scan_node (node : Node) {stack : List Container} (quiet : Quiet stack)
    (rest : CodeUnits) :
    Scans node.HasDuplicate (scan stack (node.units ++ rest)) (scan stack rest) := by
  cases node with
  | null => exact .of_eq (scan_inert stack inert_null rest)
  | bool value =>
    apply Scans.of_eq
    cases value with
    | true => exact scan_inert stack inert_true rest
    | false => exact scan_inert stack inert_false rest
  | number numeral => exact .of_eq (scan_inert stack (inert_numeral numeral) rest)
  | string literal => exact .of_eq (scan_string quiet literal rest)
  | array inner items =>
    have inside := scan_items items stack rest
    simp only [Node.units, List.cons_append, List.append_assoc, List.nil_append]
    rw [scan_bracket, scan_inert _ (inert_blanks inner)]
    exact inside
  | object inner members =>
    have inside := scan_members members [] stack rest
    simp only [Node.units, List.cons_append, List.append_assoc, List.nil_append]
    rw [scan_brace, scan_inert _ (inert_blanks inner)]
    exact inside.congr (or_congr repeats_nil_iff.symm Iff.rfl)

theorem scan_items (items : Items) (stack : List Container) (rest : CodeUnits) :
    Scans items.HasDuplicate (scan (⟨none, false⟩ :: stack) (items.units ++ code ']' :: rest))
      (scan stack rest) := by
  cases items with
  | nil => exact .of_eq (scan_closeBracket _ rest)
  | cons before value after others =>
    have here := scan_node value (show Quiet (⟨none, false⟩ :: stack) from trivial)
      (blanks after ++ (others.separator ++ (others.units ++ code ']' :: rest)))
    have later := scan_items others stack rest
    simp only [Items.units, List.append_assoc]
    rw [scan_inert _ (inert_blanks before)]
    refine here.trans ?_
    rw [scan_inert _ (inert_blanks after)]
    cases others with
    | nil => exact later
    | cons before value after others =>
      show Scans _ (scan _ (code ',' :: _)) _
      rw [scan_comma]
      exact later

theorem scan_members (members : Members) (keys : List CodeUnits) (stack : List Container)
    (rest : CodeUnits) :
    Scans (Repeats members.names keys ∨ members.HasDuplicate)
      (scan (⟨some keys, true⟩ :: stack) (members.units ++ code '}' :: rest))
      (scan stack rest) := by
  cases members with
  | nil =>
    apply (Scans.of_eq (scan_closeBrace _ rest)).congr
    exact or_iff_right (not_repeats_nil keys)
  | cons before name afterName beforeValue value after others =>
    have later := scan_members others (Literal.decoded name :: keys) stack rest
    simp only [Members.units, List.append_assoc, List.cons_append]
    rw [scan_inert _ (inert_blanks before)]
    by_cases known : Literal.decoded name ∈ keys
    · have repeats : Repeats (Members.cons before name afterName beforeValue value after
          others).names keys := repeats_cons_known known
      rw [scan_name_again known]
      exact { stops := fun _ => rfl, passes := fun clean => absurd (Or.inl repeats) clean }
    · rw [scan_name known, scan_inert _ (inert_blanks afterName),
        scan_inert_cons _ (by decide), scan_inert _ (inert_blanks beforeValue)]
      have quiet : Quiet (⟨some (Literal.decoded name :: keys), false⟩ :: stack) := trivial
      have here := scan_node value quiet
        (blanks after ++ (others.separator ++ (others.units ++ code '}' :: rest)))
      rw [scan_inert _ (inert_blanks after)] at here
      have tail : Scans (Repeats others.names (Literal.decoded name :: keys) ∨
          others.HasDuplicate)
          (scan (⟨some (Literal.decoded name :: keys), false⟩ :: stack)
            (others.separator ++ (others.units ++ code '}' :: rest)))
          (scan stack rest) := by
        cases others with
        | nil =>
          apply (Scans.of_eq (scan_closeBrace _ rest)).congr
          exact or_iff_right (not_repeats_nil _)
        | cons before name afterName beforeValue value after others =>
          show Scans _ (scan _ (code ',' :: _)) _
          rw [scan_comma]
          exact later
      refine (here.trans tail).congr ?_
      have names : Repeats (Literal.decoded name :: others.names) keys ↔
          Repeats others.names (Literal.decoded name :: keys) := repeats_cons_fresh known
      show Repeats (Literal.decoded name :: others.names) keys ∨
        (value.HasDuplicate ∨ others.HasDuplicate) ↔ _
      rw [names]
      exact or_left_comm

end

theorem scan_text (text : Text) :
    Scans text.node.HasDuplicate (scan [] text.units) (.ok ()) := by
  have inside := scan_node text.node (show Quiet [] from trivial) (blanks text.after ++ [])
  rw [scan_inert _ (inert_blanks text.after), scan] at inside
  rw [Text.units, List.append_assoc, scan_inert _ (inert_blanks text.before)]
  rwa [List.append_nil] at inside

/-- `JSON.parse` accepts every JSON text, and tells the objects among them. -/
def JsonParse.Accepts {Parsed : Type} (json : JsonParse Parsed) : Prop :=
  ∀ text : Text, ∃ value, json.parse text.units = some value ∧
    json.isPlainObject value = text.node.isObject

theorem parseObject_object {Parsed : Type} {json : JsonParse Parsed} {bytes : ByteArray}
    {value : Parsed} (decoded : decodeUtf8 bytes = some units)
    (parsed : json.parse units = some value) (object : json.isPlainObject value = true) :
    parseObject json bytes = ((scan [] units).map fun _ => value).mapError fun cause =>
      { message := "DPoP JSON encoding or object shape is invalid.", cause := cause } := by
  rw [parseObject]
  simp only [decoded, parsed, object, if_true]

/-- An object text is refused when some object in it has two members of one name, and gives its
value otherwise. -/
theorem parseObject_exact {Parsed : Type} (json : JsonParse Parsed) (bytes : ByteArray)
    (text : Text) (accepts : json.Accepts) (decoded : decodeUtf8 bytes = some text.units)
    (object : text.node.isObject = true) :
    ((∃ error, parseObject json bytes = .error error) ↔ text.node.HasDuplicate) ∧
      (¬text.node.HasDuplicate →
        ∃ value, json.parse text.units = some value ∧ parseObject json bytes = .ok value) := by
  obtain ⟨value, parsed, plain⟩ := accepts text
  have result := parseObject_object decoded parsed (plain.trans object)
  have scans := scan_text text
  have returned (clean : ¬text.node.HasDuplicate) : parseObject json bytes = .ok value := by
    rw [result, scans.passes clean]
    rfl
  refine ⟨⟨?_, ?_⟩, fun clean => ⟨value, parsed, returned clean⟩⟩
  · rintro ⟨error, refused⟩
    by_contra clean
    rw [returned clean] at refused
    contradiction
  · intro duplicate
    rw [result, scans.stops duplicate]
    exact ⟨_, rfl⟩

/-- Tells an object text by its first token. -/
def firstToken : CodeUnits → Option Nat
  | [] => none
  | unit :: rest =>
    if unit = code '\t' ∨ unit = code '\n' ∨ unit = code '\r' ∨ unit = code ' ' then
      firstToken rest
    else some unit

def tokenParse : JsonParse (Option Nat) where
  parse units := some (firstToken units)
  isObjectType token := token ∈ [some (code '{'), some (code '['), some (code 'n')]
  isNull token := token == some (code 'n')
  isArray token := token == some (code '[')
  hasObjectPrototype token := token == some (code '{')

theorem isPlainObject_tokenParse (token : Option Nat) :
    tokenParse.isPlainObject token = (token == some (code '{')) := by
  by_cases brace : token = some (code '{')
  · rw [brace]
    rfl
  · simp [JsonParse.isPlainObject, tokenParse, brace]

theorem firstToken_blanks (list : Blanks) (rest : CodeUnits) :
    firstToken (blanks list ++ rest) = firstToken rest := by
  induction list with
  | nil => rfl
  | cons blank list ih =>
    have skipped : firstToken (blank.unit :: (blanks list ++ rest)) =
        firstToken (blanks list ++ rest) := by
      rw [firstToken]
      cases blank <;> exact if_pos (by decide)
    exact skipped.trans ih

def IsBlank (unit : Nat) : Prop :=
  unit = code '\t' ∨ unit = code '\n' ∨ unit = code '\r' ∨ unit = code ' '

instance (unit : Nat) : Decidable (IsBlank unit) :=
  inferInstanceAs (Decidable (_ ∨ _ ∨ _ ∨ _))

theorem firstToken_cons (token : ¬IsBlank unit) (rest : CodeUnits) :
    firstToken (unit :: rest) = some unit :=
  if_neg token

theorem numeral_first (numeral : Numeral) :
    ∃ unit rest, numeral.units = unit :: rest ∧ ¬IsBlank unit ∧ unit ≠ code '{' := by
  rw [Numeral.units]
  cases numeral.negative with
  | true => exact ⟨code '-', _, rfl, by decide, by decide⟩
  | false =>
    cases numeral.integer with
    | zero => exact ⟨code '0', _, rfl, by decide, by decide⟩
    | digits first rest =>
      refine ⟨code '1' + first, _, rfl, ?_, ?_⟩
      · revert first
        decide
      · revert first
        decide

theorem tokenParse_accepts : tokenParse.Accepts := by
  intro text
  refine ⟨_, rfl, ?_⟩
  rw [isPlainObject_tokenParse, Text.units, List.append_assoc, firstToken_blanks]
  cases text.node with
  | null => rfl
  | bool value => cases value <;> rfl
  | number numeral =>
    obtain ⟨unit, rest, units, token, apart⟩ := numeral_first numeral
    rw [Node.units, units, List.cons_append, firstToken_cons token]
    exact beq_false_of_ne (mt Option.some.inj apart)
  | string literal | array inner items | object inner members => rfl

/-- `{"k":{"a":1,"\u0061":2}}`. -/
def nestedDuplicate : Text where
  before := []
  node :=
    .object []
      (.cons [] [.plain ⟨code 'k', by decide, by decide, by decide⟩] [] []
        (.object []
          (.cons [] [.plain ⟨code 'a', by decide, by decide, by decide⟩] [] []
            (.number ⟨false, .digits 0 [], none, none⟩) []
            (.cons [] [.hex (.digit 0) (.digit 0) (.digit 6) (.digit 1)] [] []
              (.number ⟨false, .digits 1 [], none, none⟩) [] .nil))) [] .nil)
  after := []

theorem parseObject_exact_nestedDuplicate :
    ∃ error, parseObject tokenParse
      "\x7b\"k\":\x7b\"a\":1,\"\\u0061\":2\x7d\x7d".toUTF8 = .error error :=
  (parseObject_exact tokenParse _ nestedDuplicate tokenParse_accepts rfl rfl).1.mpr
    (Or.inr (Or.inl (Or.inl (by decide))))

end WebTsToolkit.ExpressOidcVault
