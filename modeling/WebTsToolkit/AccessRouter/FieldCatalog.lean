import WebTsToolkit.Js.Text

set_option autoImplicit false

namespace WebTsToolkit.AccessRouter

open Js

/-- Persisted paths default to all paths; the other lists default to none. `$*` in a path of
the catalog stands for any one segment. -/
structure AuthorizationFieldCatalog where
  paths : List String
  persistedPaths : Option (List String)
  arrayPaths : List String
  schemaVirtualPaths : List String
  metadataPaths : List String
  dynamicPaths : List String
  containerPaths : List String
  virtualPaths : List String
  virtualScopePaths : List String
  opaquePaths : List String
  referencePaths : List String
  protectedPaths : List String

inductive FieldAuthorization where
  | request
  | grant (paths : List String)
  | unrestricted

/-- Exact or subtree authority only. -/
def hasExplicitFieldGrant (policy : FieldAuthorization) (path : String) : Bool :=
  match policy with
  | .unrestricted => true
  | .grant paths => paths.any fun grant => path == grant || startsWith path (grant ++ ".")
  | .request => false

namespace FieldCatalog

def isControlCharacter (c : Char) : Bool :=
  c.toNat < 32 || c.toNat == 127

def safeSegment (part : String) : Bool :=
  part != "" && part != "sub" &&
    !(["__proto__", "constructor", "prototype", "_doc", "__v"].contains part) &&
    !(part.toList.head?.any fun c => c == '+' || c == '$' || c == '-') &&
    !(part.toList.any fun c => isSpace c || c == '*') &&
    !part.toList.contains '[' && !part.toList.contains ']' &&
    !part.toList.all isDigit &&
    !part.toList.any isControlCharacter

def isSafeOutputPath (path : String) : Bool :=
  (segments path).all safeSegment

def inputControlSegments : List String :=
  ["_permissions", "_view", "_edit", "documentAuthorization", "documentAuthorizationStage",
    "resolvedAuthorization", "execution", "executionContext", "serviceExecutionContext",
    "preparedQuery", "preparedFilter", "preparedModelQuery", "resolvedIdentifier", "skipParsing",
    "skipAuthorization", "alreadyAuthorized"]

/-- Identity is not elevatable. -/
def isSafeInputPath (path : String) (requestIdentity : Bool) : Bool :=
  isSafeOutputPath path &&
    (segments path).all fun part =>
      !inputControlSegments.contains part && (requestIdentity || part != "_id")

/-- Pieces of a pattern against pieces of a path. -/
def matchesSegments (expected actual : List String) (descendants : Bool) : Bool :=
  match expected, actual with
  | [], [] => true
  | [], _ :: _ => descendants
  | _ :: _, [] => false
  | part :: expected, segment :: actual =>
    (part == "$*" || part == segment) && matchesSegments expected actual descendants

/-- `pattern.includes('$*')`. -/
def hasWildcard (pattern : String) : Bool :=
  pattern.toList.tails.any (['$', '*'].isPrefixOf ·)

/-- Literal patterns are compared as texts. -/
def matchesCatalogPattern (pattern path : String) (descendants : Bool) : Bool :=
  if hasWildcard pattern then matchesSegments (segments pattern) (segments path) descendants
  else
    pattern == path ||
      (descendants && startsWith path pattern && path.toList[pattern.length]? == some '.')

def isCatalogOutputPath (catalog : AuthorizationFieldCatalog) (path : String) : Bool :=
  isSafeOutputPath path &&
    !(catalog.protectedPaths.any fun entry => matchesCatalogPattern entry path true) &&
    !(catalog.referencePaths.any fun entry =>
      matchesCatalogPattern entry path true && !matchesCatalogPattern entry path false) &&
    !(catalog.virtualPaths.any fun entry =>
      matchesCatalogPattern entry path true && !matchesCatalogPattern entry path false) &&
    (catalog.paths.contains path ||
      catalog.dynamicPaths.any (matchesCatalogPattern · path false) ||
      catalog.opaquePaths.any (matchesCatalogPattern · path true))

/-- The virtual scope that the segments enter, and whether a virtual path is met. -/
def meetsVirtual (catalog : AuthorizationFieldCatalog) (scope : String) : List String → Bool
  | [] => false
  | part :: rest =>
    let scopedPart := if scope = "" then part else scope ++ "." ++ part
    catalog.virtualPaths.contains scopedPart ||
      meetsVirtual catalog
        (if catalog.virtualScopePaths.contains scopedPart then scopedPart else scope) rest

def isInputVirtualPath (catalog : AuthorizationFieldCatalog) (path : String) : Bool :=
  meetsVirtual catalog "" (segments path)

/-- Persisted-only view: output registries never manufacture writable containers. -/
def isCatalogInputPath (catalog : AuthorizationFieldCatalog) (path : String) : Bool :=
  isSafeInputPath path false && isCatalogOutputPath catalog path &&
    !isInputVirtualPath catalog path &&
    !(catalog.metadataPaths.any fun entry => matchesCatalogPattern path entry true) &&
    !((catalog.virtualPaths ++ catalog.schemaVirtualPaths).any fun entry =>
      matchesCatalogPattern entry path true) &&
    ((catalog.persistedPaths.getD catalog.paths).any (matchesCatalogPattern · path false) ||
      catalog.opaquePaths.any (matchesCatalogPattern · path true))

end FieldCatalog

end WebTsToolkit.AccessRouter
