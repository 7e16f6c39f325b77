import WebTsToolkit.Js.Map
import WebTsToolkit.Js.Text

set_option autoImplicit false

namespace WebTsToolkit.OidcVaultDpopClient

open Js

abbrev Chars := List Char

def isTokenChar (c : Char) : Bool :=
  isLetter c || isDigit c || "!#$%&'*+.^_`|~-".toList.contains c

def isToken68Char (c : Char) : Bool :=
  isLetter c || isDigit c || "._~+/-".toList.contains c

/-- SP and HTAB. -/
def isOws (c : Char) : Bool :=
  c == ' ' || c == '\t'

/-- What a dot of a pattern stands for: no line terminator. -/
def isDot (c : Char) : Bool :=
  !(['\n', '\r', '\u2028', '\u2029'].contains c)

/-- `TOKEN.test(raw)`. -/
def isToken (raw : Chars) : Bool :=
  !raw.isEmpty && raw.all isTokenChar

/-- `TOKEN68.test(raw)`. -/
def isToken68 (raw : Chars) : Bool :=
  !(raw.takeWhile isToken68Char).isEmpty && (raw.dropWhile isToken68Char).all (· == '=')

/-- `PARAMETER.exec(part)`: a name and what follows the equals sign. -/
def matchParameter (part : Chars) : Option (Chars × Chars) :=
  match (part.dropWhile isTokenChar).dropWhile isOws with
  | '=' :: rest =>
    let raw := rest.dropWhile isOws
    if (part.takeWhile isTokenChar).isEmpty || !raw.all isDot then none
    else some (part.takeWhile isTokenChar, raw)
  | _ => none

/-- `CHALLENGE.exec(part)`: a scheme and its credentials. -/
def matchChallenge (part : Chars) : Option (Chars × Option Chars) :=
  let scheme := part.takeWhile isTokenChar
  let rest := part.dropWhile isTokenChar
  if scheme.isEmpty then none
  else if rest.isEmpty then some (scheme, none)
  else
    let credentials := rest.dropWhile (· == ' ')
    if !(rest.takeWhile (· == ' ')).isEmpty && !credentials.isEmpty && credentials.all isDot then
      some (scheme, some credentials)
    else if credentials.isEmpty && 2 ≤ rest.length then some (scheme, some [' '])
    else none

/-- Without the white space at both ends. -/
def trimOws (text : Chars) : Chars :=
  ((text.dropWhile isOws).reverse.dropWhile isOws).reverse

/-- The loop of `partsOf`, with the piece that it is in. -/
def pieces (quoted escaped : Bool) (piece : Chars) : Chars → Option (List Chars)
  | [] => if quoted || escaped then none else some [piece]
  | c :: rest =>
    if escaped then pieces quoted false (piece ++ [c]) rest
    else if quoted && c == '\\' then pieces quoted true (piece ++ [c]) rest
    else if c == '"' then pieces (!quoted) false (piece ++ [c]) rest
    else if !quoted && c == ',' then (pieces false false [] rest).map (piece :: ·)
    else pieces quoted false (piece ++ [c]) rest

/-- `partsOf`. -/
def partsOf (header : Chars) : Option (List Chars) :=
  (pieces false false [] header).map (List.map trimOws)

/-- The text of a quoted string behind its opening quote, which must end with its closing one. -/
def unquote : Chars → Option Chars
  | [] => none
  | c :: rest =>
    if c == '"' then if rest.isEmpty then some [] else none
    else if c == '\\' then
      match rest with
      | [] => none
      | escaped :: rest => (unquote rest).map (escaped :: ·)
    else (unquote rest).map (c :: ·)

/-- `toLowerCase` of a token, which is ASCII. -/
def lowerCase (token : Chars) : String :=
  String.ofList (token.map Char.toLower)

/-- `parameterOf`. -/
def parameterOf (part : Chars) : Option (String × String) :=
  match matchParameter part with
  | none => none
  | some (name, raw) =>
    if isToken raw then some (lowerCase name, String.ofList raw)
    else
      match raw with
      | '"' :: rest => (unquote rest).map fun value => (lowerCase name, String.ofList value)
      | _ => none

inductive Scheme where
  | dpop
  | bearer
  deriving DecidableEq

def Scheme.text : Scheme → String
  | .dpop => "dpop"
  | .bearer => "bearer"

/-- `selectedParameters`, which is the same map as `parameters` for as long as the selected
challenge is the current one. -/
inductive Selected where
  | unset
  | current
  | earlier (parameters : Option (Map String))

structure ReadState where
  parameters : Option (Map String)
  selected : Selected
  seenSelected : Bool

def ReadState.start : ReadState where
  parameters := none
  selected := .unset
  seenSelected := false

/-- What `selectedParameters` holds on when `parameters` gets a new value. -/
def ReadState.leave (state : ReadState) : Selected :=
  match state.selected with
  | .current => .earlier state.parameters
  | other => other

def ReadState.selectedParameters (state : ReadState) : Option (Map String) :=
  match state.selected with
  | .unset => none
  | .current => state.parameters
  | .earlier parameters => parameters

/-- The parameters that a challenge starts with, if its credentials are well formed. -/
def readCredentials : Option Chars → Option (Option (Map String))
  | none => some none
  | some credentials =>
    match parameterOf credentials with
    | some (name, value) => some (some ((∅ : Map String).set name value))
    | none => if isToken68 credentials then some none else none

/-- One turn of the loop over the parts. -/
def readPart (scheme : Scheme) (state : ReadState) (part : Chars) : Option ReadState :=
  match parameterOf part with
  | some (name, value) =>
    match state.parameters with
    | none => none
    | some parameters =>
      if (parameters.lookup name).isSome then none
      else some { state with parameters := some (parameters.set name value) }
  | none =>
    match matchChallenge part with
    | none => none
    | some (name, credentials) =>
      let isSelected := lowerCase name == scheme.text
      if isSelected && state.seenSelected then none
      else
        (readCredentials credentials).map fun parameters =>
          { parameters := parameters
            selected := if isSelected then .current else state.leave
            seenSelected := state.seenSelected || isSelected }

def isHeaderChar (c : Char) : Bool :=
  c == '\t' || (0x20 ≤ c.toNat && c.toNat ≤ 0x7e) || (0x80 ≤ c.toNat && c.toNat ≤ 0xff)

/-- `readChallengeError`. -/
def readChallengeError (header : Option String) (scheme : Scheme) : Option String :=
  match header with
  | none => none
  | some header =>
    if 8192 < utf16Length header || !header.toList.all isHeaderChar then none
    else do
      let parts ← partsOf header.toList
      let state ← parts.foldlM (readPart scheme) ReadState.start
      let parameters ← state.selectedParameters
      parameters.lookup "error"

/-- The grammar of a challenge field: texts are the renderings of these trees. -/
structure Token where
  chars : Chars
  nonempty : chars ≠ []
  token : ∀ c ∈ chars, isTokenChar c = true

structure Ows where
  chars : Chars
  blank : ∀ c ∈ chars, isOws c = true

inductive QuotedPiece where
  | plain (c : Char) (quote : c ≠ '"') (backslash : c ≠ '\\')
  | pair (c : Char)

def QuotedPiece.text : QuotedPiece → Chars
  | .plain c _ _ => [c]
  | .pair c => ['\\', c]

def QuotedPiece.decoded : QuotedPiece → Char
  | .plain c _ _ => c
  | .pair c => c

inductive ParameterValue where
  | token (bare : Token)
  | quoted (content : List QuotedPiece)

def ParameterValue.text : ParameterValue → Chars
  | .token bare => bare.chars
  | .quoted content => '"' :: (content.flatMap QuotedPiece.text ++ ['"'])

def ParameterValue.decoded : ParameterValue → Chars
  | .token bare => bare.chars
  | .quoted content => content.map QuotedPiece.decoded

structure Parameter where
  name : Token
  before : Ows
  after : Ows
  value : ParameterValue

def Parameter.text (parameter : Parameter) : Chars :=
  parameter.name.chars ++ (parameter.before.chars ++
    '=' :: (parameter.after.chars ++ parameter.value.text))

/-- The name in lower case with the decoded value. -/
def Parameter.entry (parameter : Parameter) : String × String :=
  (lowerCase parameter.name.chars, String.ofList parameter.value.decoded)

structure Token68 where
  chars : Chars
  padding : Nat
  nonempty : chars ≠ []
  token : ∀ c ∈ chars, isToken68Char c = true

def Token68.text (token : Token68) : Chars :=
  token.chars ++ List.replicate token.padding '='

/-- A member of the list that is a parameter, with the white space around it. -/
structure ParameterMember where
  before : Ows
  parameter : Parameter
  after : Ows

/-- What follows a scheme behind at least one space. Further parameters are members of their
own. -/
inductive Credentials where
  | none
  | token68 (more : Nat) (token : Token68)
  | parameters (more : Nat) (first : Parameter) (rest : List ParameterMember)

def spaces (more : Nat) : Chars :=
  List.replicate (more + 1) ' '

/-- The text of the credentials in the member of the scheme. -/
def Credentials.head : Credentials → Chars
  | .none => []
  | .token68 more token => spaces more ++ token.text
  | .parameters more first _ => spaces more ++ first.text

def Credentials.rest : Credentials → List ParameterMember
  | .parameters _ _ rest => rest
  | _ => []

/-- A challenge, with the white space around the member of its scheme. -/
structure Challenge where
  before : Ows
  scheme : Token
  credentials : Credentials
  after : Ows

/-- A member of the list without the white space around it. -/
def Challenge.head (challenge : Challenge) : Chars :=
  challenge.scheme.chars ++ challenge.credentials.head

/-- A member between its white space. -/
structure Member where
  before : Ows
  text : Chars
  after : Ows

def Member.padded (member : Member) : Chars :=
  member.before.chars ++ (member.text ++ member.after.chars)

def ParameterMember.member (member : ParameterMember) : Member where
  before := member.before
  text := member.parameter.text
  after := member.after

def Challenge.members (challenge : Challenge) : List Member :=
  { before := challenge.before, text := challenge.head, after := challenge.after } ::
    challenge.credentials.rest.map ParameterMember.member

/-- A list of challenges, whose members stand between commas. -/
def render (challenges : List Challenge) : Chars :=
  [','].intercalate ((challenges.flatMap Challenge.members).map Member.padded)

/-- All parameters of a challenge. -/
def Credentials.entries : Credentials → List (String × String)
  | .parameters _ first rest => first.entry :: rest.map fun member => member.parameter.entry
  | _ => []

def Challenge.hasScheme (challenge : Challenge) (scheme : Scheme) : Bool :=
  lowerCase challenge.scheme.chars == scheme.text

def Challenge.uniqueNames (challenge : Challenge) : Prop :=
  (challenge.credentials.entries.map Prod.fst).Nodup

/-- The field is a list of challenges with unique names each, exactly one of them has the scheme,
and its error parameter has the value. -/
def Grants (header : Chars) (scheme : Scheme) (value : String) : Prop :=
  ∃ challenges, header = render challenges ∧
    (∀ challenge ∈ challenges, challenge.uniqueNames) ∧
    challenges.countP (·.hasScheme scheme) = 1 ∧
    ∃ challenge ∈ challenges, challenge.hasScheme scheme = true ∧
      ("error", value) ∈ challenge.credentials.entries

end WebTsToolkit.OidcVaultDpopClient
