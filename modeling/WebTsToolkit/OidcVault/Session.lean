import WebTsToolkit.Js.Value
import WebTsToolkit.Js.Double

set_option autoImplicit false

namespace WebTsToolkit.OidcVault

open Js

structure OidcVaultProviderMetadata where
  issuer : Option String
  clientId : Option String
  deriving DecidableEq, Repr

/-- What a session has both as an input and in a store; `rest` is the fields that no store reads.
A device binding is any value, and `undefined` where it is absent. -/
structure SessionFields where
  sessionId : String
  logicalSessionId : Option String
  subject : String
  providerSessionId : Option String
  provider : Option OidcVaultProviderMetadata
  deviceBinding : Value
  refreshToken : String
  idToken : String
  expiresAt : Option Number
  rest : Entries

structure OidcVaultSessionInput extends SessionFields where
  createdAt : Option Number
  updatedAt : Option Number

structure OidcVaultSession extends SessionFields where
  createdAt : Number
  updatedAt : Number

/-- `session.logicalSessionId ?? session.sessionId`. -/
def SessionFields.lineage (session : SessionFields) : String :=
  session.logicalSessionId.getD session.sessionId

/-- What an authorization transaction and an exchange code have in common, with `rest` again the
fields that no store reads. -/
structure OneTimeFields where
  deviceBinding : Value
  browserBindingHash : Value
  createdAt : Number
  expiresAt : Number
  rest : Entries

structure AuthorizationTransaction extends OneTimeFields where
  state : String
  nonce : String
  pkceVerifier : String
  codeChallenge : String

structure ExchangeCodeRecord extends OneTimeFields where
  code : String
  sessionId : String

/-- `typeof value.expiresAt === 'number' && value.expiresAt <= now`. -/
def isExpiredRecord (expiresAt : Option Number) (now : Number) : Bool :=
  expiresAt.any (·.le now)

theorem isExpiredRecord_mono {expiresAt : Option Number} {now later : Number}
    (ordered : now.le later = true) (expired : isExpiredRecord expiresAt now = true) :
    isExpiredRecord expiresAt later = true := by
  cases expiresAt with
  | none => contradiction
  | some expiry => exact Number.le_trans expired ordered

inductive StoreError where
  /-- `structuredClone` throws a DataCloneError. -/
  | dataClone
  | typeError (message : String)
  | conflict (message : String)
  deriving DecidableEq, Repr

end WebTsToolkit.OidcVault
