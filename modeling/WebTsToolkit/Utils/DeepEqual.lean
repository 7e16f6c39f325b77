import Mathlib.Data.Fintype.Basic
import WebTsToolkit.Js.Text

set_option autoImplicit false

namespace WebTsToolkit.Utils.DeepEqual

open Js

/-- A number is its `String` text, with negative zero kept apart as "-0". -/
inductive Primitive where
  | undefined
  | null
  | bool (value : Bool)
  | number (text : String)
  | bigint (value : Int)
  | string (value : String)
  | symbol (id : Nat)
  deriving DecidableEq

inductive PropertyKey where
  | string (text : String)
  | symbol (id : Nat)
  deriving DecidableEq

/-- An object is a reference into its graph. -/
inductive Value (size : Nat) where
  | primitive (value : Primitive)
  | object (ref : Fin size)
  deriving DecidableEq

/-- Own properties with their values, in the order of `ownEnumerableKeys`. -/
abbrev Entries (size : Nat) := List (PropertyKey × Value size)

/-- What an object is. The items of an array are entries under their indices, a hole is an
index without an entry. An exotic object, such as a function or a map, has only its identity. -/
inductive Content (size : Nat) where
  | plain (entries : Entries size)
  | array (length : Nat) (entries : Entries size)
  | date (time : Option Int)
  | regExp (source flags : String)
  | exotic

def Content.entries {size : Nat} : Content size → Entries size
  | .plain entries | .array _ entries => entries
  | _ => []

abbrev keys {size : Nat} (entries : Entries size) : List PropertyKey :=
  entries.map Prod.fst

/-- A finite graph of objects. Every own property is an enumerable data property. -/
structure ObjectGraph where
  size : Nat
  content : Fin size → Content size
  distinct : ∀ ref, (keys (content ref).entries).Nodup

/-- The pairs on the comparison stack, the last one first. -/
abbrev EqualPairs (size : Nat) := List (Fin size × Fin size)

def isZero (text : String) : Bool :=
  text == "0" || text == "-0"

/-- `left === right`. -/
def Primitive.strictEquals : Primitive → Primitive → Bool
  | .number text, .number other =>
    text != "NaN" && (text == other || isZero text && isZero other)
  | left, right => left == right

def Value.strictEquals {size : Nat} : Value size → Value size → Bool
  | .primitive left, .primitive right => left.strictEquals right
  | .object left, .object right => left == right
  | _, _ => false

def sameValueZero {size : Nat} (left right : Value size) : Bool :=
  left.strictEquals right || (!left.strictEquals left && !right.strictEquals right)

/-- The property key of an index. -/
def indexKey (index : Nat) : PropertyKey :=
  .string index.repr

def isExtraArrayKey (key : PropertyKey) (length : Nat) : Bool :=
  match key with
  | .symbol _ => true
  | .string text =>
    match arrayIndex text with
    | some numeric => !decide (numeric < length)
    | none => true

variable {size : Nat}

/-- Checks keys in turn, up to the first one that fails. -/
def everyKey {α : Type} (check : α → EqualPairs size → Option (Bool × EqualPairs size)) :
    List α → EqualPairs size → Option (Bool × EqualPairs size)
  | [], pairs => some (true, pairs)
  | key :: rest, pairs =>
    match check key pairs with
    | some (true, pairs) => everyKey check rest pairs
    | result => result

section

variable (compare : Value size → Value size → EqualPairs size →
  Option (Bool × EqualPairs size)) (left right : Entries size)

/-- One round of the loop over the indices of two arrays. -/
def checkIndex (index : Nat) (pairs : EqualPairs size) : Option (Bool × EqualPairs size) :=
  match left.lookup (indexKey index), right.lookup (indexKey index) with
  | some child, some other => compare child other pairs
  | none, none => some (true, pairs)
  | _, _ => some (false, pairs)

/-- One round of the loop over the keys of the left side, which has each of them. -/
def checkKey (entry : PropertyKey × Value size) (pairs : EqualPairs size) :
    Option (Bool × EqualPairs size) :=
  match right.lookup entry.1 with
  | some other => compare entry.2 other pairs
  | none => some (false, pairs)

def comparePlain (pairs : EqualPairs size) : Option (Bool × EqualPairs size) :=
  if left.length ≠ right.length then some (false, pairs)
  else everyKey (checkKey compare right) left pairs

def extras (length : Nat) (entries : Entries size) : Entries size :=
  entries.filter fun entry => isExtraArrayKey entry.1 length

/-- Two arrays of one length. -/
def compareArrays (length : Nat) (pairs : EqualPairs size) : Option (Bool × EqualPairs size) :=
  match everyKey (checkIndex compare left right) (List.range length) pairs with
  | some (true, pairs) =>
    if (extras length left).length ≠ (extras length right).length then some (false, pairs)
    else everyKey (checkKey compare right) (extras length left) pairs
  | result => result

end

/-- A pair on the stack is taken for equal. Another one is on the stack while its members are
compared, and is taken off at the end. -/
def whileOnStack (pairs : EqualPairs size) (pair : Fin size × Fin size)
    (compare : EqualPairs size → Option (Bool × EqualPairs size)) :
    Option (Bool × EqualPairs size) :=
  if pair ∈ pairs then some (true, pairs)
  else (compare (pair :: pairs)).map fun result => (result.1, result.2.erase pair)

/-- The cases of two values that are not `sameValueZero`. -/
def compareContents (graph : ObjectGraph)
    (compare : Value graph.size → Value graph.size → EqualPairs graph.size →
      Option (Bool × EqualPairs graph.size))
    (left right : Value graph.size) (pairs : EqualPairs graph.size) :
    Option (Bool × EqualPairs graph.size) :=
  match left, right with
  | .object ref, .object other =>
    match graph.content ref, graph.content other with
    | .date time, .date time' => some (time == time', pairs)
    | .regExp source flags, .regExp source' flags' =>
      some (source == source' && flags == flags', pairs)
    | .array length entries, .array length' entries' =>
      if length ≠ length' then some (false, pairs)
      else whileOnStack pairs (ref, other) (compareArrays compare entries entries' length)
    | .plain entries, .plain entries' =>
      whileOnStack pairs (ref, other) (comparePlain compare entries entries')
    | _, _ => some (false, pairs)
  | _, _ => some (false, pairs)

/-- `fuel` bounds the depth of the calls. -/
def deepEqualInner (graph : ObjectGraph) :
    Nat → Value graph.size → Value graph.size → EqualPairs graph.size →
      Option (Bool × EqualPairs graph.size)
  | 0, _, _, _ => none
  | fuel + 1, left, right, pairs =>
    if sameValueZero left right then some (true, pairs)
    else compareContents graph (deepEqualInner graph fuel) left right pairs

/-- The answer, if the calls do not go deeper than the fuel. -/
def deepEqual (graph : ObjectGraph) (fuel : Nat) (left right : Value graph.size) : Option Bool :=
  (deepEqualInner graph fuel left right []).map Prod.fst

/-- The same own keys, with related values. -/
structure SameMembers (related : Value size → Value size → Prop) (left right : Entries size) :
    Prop where
  keys : ∀ key, key ∈ keys left ↔ key ∈ keys right
  children : ∀ key child other, (key, child) ∈ left → (key, other) ∈ right → related child other

/-- What a relation has to say of the values that it relates. Arrays that have the same own keys
have the same holes. -/
inductive Agree (graph : ObjectGraph) (related : Value graph.size → Value graph.size → Prop) :
    Value graph.size → Value graph.size → Prop where
  | primitive (left right : Primitive)
      (same : sameValueZero (.primitive left : Value graph.size) (.primitive right) = true) :
      Agree graph related (.primitive left) (.primitive right)
  | plain (ref other : Fin graph.size) (left right : Entries graph.size)
      (here : graph.content ref = .plain left) (there : graph.content other = .plain right)
      (members : SameMembers related left right) :
      Agree graph related (.object ref) (.object other)
  | array (ref other : Fin graph.size) (length : Nat) (left right : Entries graph.size)
      (here : graph.content ref = .array length left)
      (there : graph.content other = .array length right)
      (members : SameMembers related left right) :
      Agree graph related (.object ref) (.object other)
  | date (ref other : Fin graph.size) (time : Option Int)
      (here : graph.content ref = .date time) (there : graph.content other = .date time) :
      Agree graph related (.object ref) (.object other)
  | regExp (ref other : Fin graph.size) (source flags : String)
      (here : graph.content ref = .regExp source flags)
      (there : graph.content other = .regExp source flags) :
      Agree graph related (.object ref) (.object other)
  | exotic (ref : Fin graph.size) (here : graph.content ref = .exotic) :
      Agree graph related (.object ref) (.object ref)

/-- Related by some relation whose related values agree. -/
def Bisimilar (graph : ObjectGraph) (left right : Value graph.size) : Prop :=
  ∃ related : Value graph.size → Value graph.size → Prop, related left right ∧
    ∀ one other, related one other → Agree graph related one other

end WebTsToolkit.Utils.DeepEqual
