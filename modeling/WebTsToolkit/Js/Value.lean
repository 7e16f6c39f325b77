import Mathlib.Data.List.Basic

set_option autoImplicit false

namespace WebTsToolkit.Js

/-- Classes of objects that are neither plain objects nor arrays. `native` covers the
values a database driver stores as one leaf (BSON values, buffers and their views). An
instance holds fields under string keys: the entries of a Map, the paths of a document, the
own properties of a custom object. -/
inductive Class where
  | map
  | set
  | document
  | native (name : String)
  | custom (name : String)
  deriving DecidableEq, Repr

/-- A JavaScript value as pure code can tell values apart. Sharing and cycles are not
represented. A number is its `String` text, which is one-to-one but for negative zero,
kept apart as "-0". A hole only occurs as an array item. -/
inductive Value where
  | undefined
  | null
  | bool (value : Bool)
  | number (text : String)
  | bigint (value : Int)
  | string (value : String)
  | symbol (id : Nat)
  | callable (id : Nat)
  | date (time : Option Int)
  | regexp (source flags : String)
  | hole
  | array (items : List Value)
  | object (entries : List (String × Value))
  | classed (kind : Class) (fields : List (String × Value))

/-- Own enumerable string keys with their values, in property order. -/
abbrev Entries := List (String × Value)

namespace Value

/-- Neither an array nor an object of any class. -/
def isLeaf : Value → Bool
  | .array _ | .object _ | .classed _ _ => false
  | _ => true

/-- Children of a container come with the induction hypothesis for each member. -/
@[elab_as_elim]
theorem induction {P : Value → Prop}
    (array : ∀ items, (∀ item ∈ items, P item) → P (.array items))
    (object : ∀ entries : Entries, (∀ entry ∈ entries, P entry.2) → P (.object entries))
    (classed : ∀ kind, ∀ fields : Entries, (∀ entry ∈ fields, P entry.2) →
      P (.classed kind fields))
    (leaf : ∀ value, value.isLeaf → P value)
    (value : Value) : P value := by
  refine @Value.rec P (fun items => ∀ item ∈ items, P item)
    (fun entries => ∀ entry ∈ entries, P entry.2) (fun entry => P entry.2) ?_ ?_ ?_ ?_ ?_ ?_ ?_ ?_ ?_ ?_ ?_
    array object classed ?_ ?_ ?_ ?_ ?_ value
  case refine_12 => simp
  case refine_13 =>
    intro head tail first rest item member
    rcases List.mem_cons.mp member with rfl | member
    · exact first
    · exact rest item member
  case refine_14 => simp
  case refine_15 =>
    intro head tail first rest entry member
    rcases List.mem_cons.mp member with rfl | member
    · exact first
    · exact rest entry member
  case refine_16 => exact fun _ _ held => held
  all_goals intros; exact leaf _ rfl

def isPlainObject : Value → Bool
  | .object _ => true
  | _ => false

def isArray : Value → Bool
  | .array _ => true
  | _ => false

def isNullish : Value → Bool
  | .undefined | .null => true
  | _ => false

end Value

mutual

/-- `structuredClone`, `none` where it throws. Functions and symbols cannot be cloned, and only
the classes of the language survive. -/
def structuredClone : Value → Option Value
  | .symbol _ | .callable _ => none
  | .array items => (structuredCloneItems items).map .array
  | .object entries => (structuredCloneEntries entries).map .object
  | .classed .map fields => (structuredCloneEntries fields).map (.classed .map)
  | .classed .set fields => (structuredCloneEntries fields).map (.classed .set)
  | .classed (.native name) fields =>
    (structuredCloneEntries fields).map (.classed (.native name))
  | .classed _ fields => (structuredCloneEntries fields).map .object
  | leaf => some leaf

def structuredCloneItems : List Value → Option (List Value)
  | [] => some []
  | item :: rest => do
    let item ← structuredClone item
    let rest ← structuredCloneItems rest
    return item :: rest

def structuredCloneEntries : List (String × Value) → Option (List (String × Value))
  | [] => some []
  | (key, value) :: rest => do
    let value ← structuredClone value
    let rest ← structuredCloneEntries rest
    return (key, value) :: rest

end

end WebTsToolkit.Js
