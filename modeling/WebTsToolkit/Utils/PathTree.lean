import WebTsToolkit.Utils.ObjectPath

set_option autoImplicit false

namespace WebTsToolkit.Utils.PathTree

open Js

/-- Plain objects and arrays, the latter with their `length`. -/
inductive Kind where
  | plain
  | array (length : Nat)
  deriving DecidableEq

/-- Values whose containers are plain objects and arrays, without sharing. The items of an array
are members under their indices, a hole is an index without a member. A leaf is anything else. -/
inductive DataTree (Leaf : Type) where
  | undefined
  | null
  | leaf (value : Leaf)
  | object (kind : Kind) (members : List (String × DataTree Leaf))

/-- Own enumerable properties in their order. -/
abbrev Members (Leaf : Type) := List (String × DataTree Leaf)

variable {Leaf : Type}

section Members

def replaceMember (members : Members Leaf) (key : String) (value : DataTree Leaf) : Members Leaf :=
  match members with
  | [] => []
  | member :: rest =>
    if member.1 = key then (key, value) :: rest else member :: replaceMember rest key value

/-- A numeric key goes before the greater ones and before all other keys, any other new key
goes last. -/
def insertMember (members : Members Leaf) (key : String) (value : DataTree Leaf) : Members Leaf :=
  let before : String × DataTree Leaf → Bool := fun member =>
    isArrayIndexKey member.1 && (arrayIndex member.1).getD 0 < (arrayIndex key).getD 0
  if isArrayIndexKey key then
    members.takeWhile before ++ (key, value) :: members.dropWhile before
  else members ++ [(key, value)]

def defineMember (members : Members Leaf) (key : String) (value : DataTree Leaf) : Members Leaf :=
  if (members.lookup key).isSome then replaceMember members key value
  else insertMember members key value

/-- `delete`. -/
def deleteMember (members : Members Leaf) (key : String) : Members Leaf :=
  members.filter fun member => member.1 ≠ key

variable {members : Members Leaf} {key : String} {value : DataTree Leaf}

theorem lookup_cons (member : String × DataTree Leaf) (rest : Members Leaf) (key : String) :
    (member :: rest : Members Leaf).lookup key =
      if key = member.1 then some member.2 else rest.lookup key := by
  by_cases here : key = member.1
  · rw [if_pos here, here, List.lookup_cons_self]
  · rw [if_neg here, List.lookup_cons, beq_eq_false_iff_ne.mpr here]

theorem lookup_replaceMember (members : Members Leaf) (key other : String) (value : DataTree Leaf) :
    (replaceMember members key value).lookup other =
      if other = key then (members.lookup key).map fun _ => value else members.lookup other := by
  induction members with
  | nil => simp [replaceMember]
  | cons member rest ih =>
    rw [replaceMember]
    by_cases here : member.1 = key
    · rw [if_pos here, lookup_cons, lookup_cons, lookup_cons, here]
      by_cases asked : other = key <;> simp [asked]
    · rw [if_neg here, lookup_cons, lookup_cons, lookup_cons, ih]
      by_cases asked : other = key
      · simp [asked, Ne.symm here]
      · simp [asked]

theorem lookup_insertMember (absent : members.lookup key = none) (other : String) :
    (insertMember members key value).lookup other =
      if other = key then some value else members.lookup other := by
  have middle (first last : Members Leaf) (same : first ++ last = members) :
      (first ++ (key, value) :: last).lookup other =
        if other = key then some value else members.lookup other := by
    rw [List.lookup_append, lookup_cons, ← same, List.lookup_append]
    by_cases asked : other = key
    · subst asked
      have earlier : first.lookup other = none := by
        rw [← same, List.lookup_append, Option.or_eq_none_iff] at absent
        exact absent.1
      simp [earlier]
    · simp [asked]
  rw [insertMember]
  split
  · exact middle _ _ List.takeWhile_append_dropWhile
  · exact middle members [] (List.append_nil members)

theorem lookup_defineMember (members : Members Leaf) (key other : String) (value : DataTree Leaf) :
    (defineMember members key value).lookup other =
      if other = key then some value else members.lookup other := by
  rw [defineMember]
  split
  · rename_i present
    obtain ⟨stored, found⟩ := Option.isSome_iff_exists.mp present
    rw [lookup_replaceMember, found]
    rfl
  · rename_i absent
    exact lookup_insertMember (Option.not_isSome_iff_eq_none.mp absent) other

theorem replaceMember_self (found : members.lookup key = some value) :
    replaceMember members key value = members := by
  induction members with
  | nil => rfl
  | cons member rest ih =>
    rw [lookup_cons] at found
    rw [replaceMember]
    by_cases here : member.1 = key
    · rw [if_pos here.symm] at found
      rw [if_pos here, ← here, ← Option.some.inj found]
    · rw [if_neg (Ne.symm here)] at found
      rw [if_neg here, ih found]

theorem replaceMember_replaceMember (members : Members Leaf) (key : String)
    (value later : DataTree Leaf) :
    replaceMember (replaceMember members key value) key later =
      replaceMember members key later := by
  induction members with
  | nil => rfl
  | cons member rest ih =>
    by_cases here : member.1 = key
    · simp [replaceMember, here]
    · simp [replaceMember, here, ih]

theorem replaceMember_append (first last : Members Leaf) (absent : first.lookup key = none)
    (value later : DataTree Leaf) :
    replaceMember (first ++ (key, value) :: last) key later = first ++ (key, later) :: last := by
  induction first with
  | nil => simp [replaceMember]
  | cons member rest ih =>
    have apart : member.1 ≠ key := by
      intro same
      rw [lookup_cons, if_pos same.symm] at absent
      cases absent
    rw [lookup_cons, if_neg (Ne.symm apart)] at absent
    rw [List.cons_append, replaceMember, if_neg apart, ih absent, List.cons_append]

theorem replaceMember_insertMember (absent : members.lookup key = none)
    (value later : DataTree Leaf) :
    replaceMember (insertMember members key value) key later = insertMember members key later := by
  rw [insertMember, insertMember]
  split
  · apply replaceMember_append
    rw [List.lookup_eq_none_iff] at absent ⊢
    intro member listed
    exact absent member (List.takeWhile_subset _ listed)
  · exact replaceMember_append members [] absent value later

/-- What is replaced after it was defined might as well be defined at once. -/
theorem replaceMember_defineMember (members : Members Leaf) (key : String)
    (value later : DataTree Leaf) :
    replaceMember (defineMember members key value) key later = defineMember members key later := by
  rw [defineMember, defineMember]
  split
  · exact replaceMember_replaceMember members key value later
  · rename_i absent
    exact replaceMember_insertMember (Option.not_isSome_iff_eq_none.mp absent) value later

theorem defineMember_defineMember (members : Members Leaf) (key : String)
    (value later : DataTree Leaf) :
    defineMember (defineMember members key value) key later = defineMember members key later := by
  have present : ((defineMember members key value).lookup key).isSome = true := by
    rw [lookup_defineMember, if_pos rfl]
    rfl
  rw [defineMember, if_pos present, replaceMember_defineMember]

theorem lookup_deleteMember (members : Members Leaf) (key other : String) :
    (deleteMember members key).lookup other =
      if other = key then none else members.lookup other := by
  induction members with
  | nil => simp [deleteMember]
  | cons member rest ih =>
    rw [deleteMember] at ih ⊢
    by_cases here : member.1 = key
    · rw [List.filter_cons_of_neg (by simpa using here), ih, lookup_cons, here]
      by_cases asked : other = key <;> simp [asked]
    · rw [List.filter_cons_of_pos (by simpa using here), lookup_cons, lookup_cons, ih]
      by_cases asked : other = key
      · simp [asked, Ne.symm here]
      · simp [asked]

end Members

namespace DataTree

def isObject : DataTree Leaf → Bool
  | .object _ _ => true
  | _ => false

def isPlainObject : DataTree Leaf → Bool
  | .object .plain _ => true
  | _ => false

/-- An own property other than the `length` of an array. -/
def own (tree : DataTree Leaf) (key : String) : Option (DataTree Leaf) :=
  match tree with
  | .object .plain members => members.lookup key
  | .object (.array _) members => if key = "length" then none else members.lookup key
  | _ => none

/-- What a path of own properties leads to. -/
def ownPath (tree : DataTree Leaf) : List String → Option (DataTree Leaf)
  | [] => some tree
  | key :: rest => (tree.own key).bind (ownPath · rest)

/-- An object that is reached under a key has changed. -/
def put (tree : DataTree Leaf) (key : String) (value : DataTree Leaf) : DataTree Leaf :=
  match tree with
  | .object kind members => .object kind (replaceMember members key value)
  | _ => tree

/-- The `length` of an array after a property was defined. A new item may be past the end. -/
def lengthWith (length : Nat) (members : Members Leaf) (key : String) : Nat :=
  if isArrayIndexKey key && (members.lookup key).isNone then
    max length ((arrayIndex key).getD 0 + 1)
  else length

/-- To define the `length` of an array as an enumerable property is a `TypeError`. -/
def defineOwnValue (tree : DataTree Leaf) (key : String) (value : DataTree Leaf) :
    Option (DataTree Leaf) :=
  match tree with
  | .object .plain members => some (.object .plain (defineMember members key value))
  | .object (.array length) members =>
    if key = "length" then none
    else some (.object (.array (lengthWith length members key)) (defineMember members key value))
  | _ => some tree

def newContainer (nextKey : String) : DataTree Leaf :=
  if isArrayIndexKey nextKey then .object (.array 0) [] else .object .plain []

/-- The loop of `setPath`, for parts that are property keys. -/
def setParts (current : DataTree Leaf) (parts : List String) (value : DataTree Leaf) :
    Option (DataTree Leaf) :=
  match parts with
  | [] => some current
  | [key] => current.defineOwnValue key value
  | key :: nextKey :: rest =>
    match current.own key with
    | some (.object kind members) =>
      (setParts (.object kind members) (nextKey :: rest) value).map (current.put key ·)
    | _ =>
      (setParts (newContainer nextKey) (nextKey :: rest) value).bind
        (current.defineOwnValue key ·)

variable {tree : DataTree Leaf}

theorem own_put (tree : DataTree Leaf) (key other : String) (value : DataTree Leaf) :
    (tree.put key value).own other =
      if other = key then (tree.own key).map fun _ => value else tree.own other := by
  rcases tree with _ | _ | _ | ⟨_ | length, members⟩
  · simp [put, own]
  · simp [put, own]
  · simp [put, own]
  · exact lookup_replaceMember members key other value
  · simp only [put, own, lookup_replaceMember]
    by_cases asked : other = key
    · subst asked
      by_cases length : other = "length" <;> simp [length]
    · simp [asked]

theorem own_defineOwnValue {next : DataTree Leaf} {key : String} {value : DataTree Leaf}
    (object : tree.isObject = true) (defined : tree.defineOwnValue key value = some next)
    (other : String) : next.own other = if other = key then some value else tree.own other := by
  rcases tree with _ | _ | _ | ⟨_ | length, members⟩
  · cases object
  · cases object
  · cases object
  · rw [← Option.some.inj defined]
    exact lookup_defineMember members key other value
  · rw [defineOwnValue] at defined
    split at defined
    · cases defined
    · rename_i name
      rw [← Option.some.inj defined]
      simp only [own, lookup_defineMember]
      by_cases asked : other = key
      · subst asked
        simp [name]
      · simp [asked]

end DataTree

/-- A segment of a path. A number is its `String` text, with negative zero kept apart as "-0". -/
inductive Segment where
  | text (part : String)
  | number (numeral : String)

/-- The property that a segment names. -/
def Segment.key : Segment → String
  | .text part => part
  | .number numeral => if numeral = "-0" then "0" else numeral

inductive PropertyPath where
  | text (path : String)
  | number (numeral : String)
  | segments (parts : List Segment)

/-- A path text is split by the grammar of paths. -/
def PropertyPath.parts : PropertyPath → List Segment
  | .text path => (Utils.toPath path).map .text
  | .number numeral => (Utils.toPath (Segment.number numeral).key).map .text
  | .segments parts => parts

abbrev PropertyPath.keys (path : PropertyPath) : List String :=
  path.parts.map Segment.key

def hasUnsafePathPart (parts : List Segment) : Bool :=
  parts.any fun
    | .text part => unsafePathParts.contains part
    | .number _ => false

/-- Nothing where a definition throws. -/
def setPath (target : DataTree Leaf) (path : PropertyPath) (value : DataTree Leaf) :
    Option (DataTree Leaf) :=
  if !target.isObject || path.parts.isEmpty || hasUnsafePathPart path.parts then some target
  else target.setParts path.keys value

/-- What reads find that is no own member: the `length` of arrays, the members of leaves, and
those that objects and arrays inherit. -/
structure Surroundings (Leaf : Type) where
  length : Nat → DataTree Leaf
  ofLeaf : Leaf → String → DataTree Leaf
  ofObject : String → DataTree Leaf
  ofArray : String → DataTree Leaf

/-- `current[key]`. -/
def Surroundings.read (around : Surroundings Leaf) (current : DataTree Leaf) (key : String) :
    DataTree Leaf :=
  match current with
  | .undefined | .null => .undefined
  | .leaf value => around.ofLeaf value key
  | .object .plain members => (members.lookup key).getD (around.ofObject key)
  | .object (.array length) members =>
    if key = "length" then around.length length
    else (members.lookup key).getD (around.ofArray key)

/-- The loop of `getPath` without a default. It stops at `undefined` and `null`, of which
`read` makes the same. -/
def getPath (around : Surroundings Leaf) (value : DataTree Leaf) (path : PropertyPath) :
    DataTree Leaf :=
  path.keys.foldl around.read value

end WebTsToolkit.Utils.PathTree
