import WebTsToolkit.Utils.PathTree

set_option autoImplicit false

namespace WebTsToolkit.Utils.PathTree

open Js

variable {Leaf : Type}

namespace DataTree

variable {tree next : DataTree Leaf} {key nextKey : String} {value later : DataTree Leaf}

theorem put_put (tree : DataTree Leaf) (key : String) (value later : DataTree Leaf) :
    (tree.put key value).put key later = tree.put key later := by
  rcases tree with _ | _ | _ | ⟨kind, members⟩ <;> try rfl
  simp only [put, replaceMember_replaceMember]

theorem put_self (found : tree.own key = some value) : tree.put key value = tree := by
  rcases tree with _ | _ | _ | ⟨_ | length, members⟩ <;> try rfl
  · simp only [put, replaceMember_self found]
  · have listed : members.lookup key = some value := by
      simp only [own] at found
      split at found
      · cases found
      · exact found
    simp only [put, replaceMember_self listed]

theorem isObject_put (tree : DataTree Leaf) (key : String) (value : DataTree Leaf) :
    (tree.put key value).isObject = tree.isObject := by
  rcases tree with _ | _ | _ | ⟨kind, members⟩ <;> rfl

theorem isObject_defineOwnValue (defined : tree.defineOwnValue key value = some next) :
    next.isObject = tree.isObject := by
  rcases tree with _ | _ | _ | ⟨_ | length, members⟩
  · rw [← Option.some.inj defined]
  · rw [← Option.some.inj defined]
  · rw [← Option.some.inj defined]
  · rw [← Option.some.inj defined]
    rfl
  · rw [defineOwnValue] at defined
    split at defined
    · cases defined
    · rw [← Option.some.inj defined]
      rfl

theorem lengthWith_defineMember (length : Nat) (members : Members Leaf) (key : String)
    (value : DataTree Leaf) : lengthWith length (defineMember members key value) key = length := by
  simp [lengthWith, lookup_defineMember]

/-- What is put after it was defined might as well be defined at once. -/
theorem put_defineOwnValue (object : tree.isObject = true)
    (defined : tree.defineOwnValue key value = some next) :
    some (next.put key later) = tree.defineOwnValue key later := by
  rcases tree with _ | _ | _ | ⟨_ | length, members⟩
  · cases object
  · cases object
  · cases object
  · rw [← Option.some.inj defined]
    simp only [put, replaceMember_defineMember, defineOwnValue]
  · rw [defineOwnValue] at defined
    split at defined
    · cases defined
    · rename_i name
      rw [← Option.some.inj defined]
      simp only [put, replaceMember_defineMember, defineOwnValue, if_neg name]

theorem defineOwnValue_defineOwnValue (object : tree.isObject = true)
    (defined : tree.defineOwnValue key value = some next) :
    next.defineOwnValue key later = tree.defineOwnValue key later := by
  rcases tree with _ | _ | _ | ⟨_ | length, members⟩
  · cases object
  · cases object
  · cases object
  · rw [← Option.some.inj defined]
    simp only [defineOwnValue, defineMember_defineMember]
  · rw [defineOwnValue] at defined
    split at defined
    · cases defined
    · rename_i name
      rw [← Option.some.inj defined]
      simp only [defineOwnValue, if_neg name, defineMember_defineMember, lengthWith_defineMember]

/-- A part that leads to an own object is entered. -/
theorem setParts_held {child : DataTree Leaf} (found : tree.own key = some child)
    (object : child.isObject = true) (rest : List String) (value : DataTree Leaf) :
    tree.setParts (key :: nextKey :: rest) value =
      (child.setParts (nextKey :: rest) value).map (tree.put key ·) := by
  rcases child with _ | _ | _ | ⟨kind, members⟩
  · cases object
  · cases object
  · cases object
  · rw [setParts, found]

/-- Any other part leads to a container that is made for it. -/
theorem setParts_made (missing : ∀ child, tree.own key = some child → child.isObject = false)
    (rest : List String) (value : DataTree Leaf) :
    tree.setParts (key :: nextKey :: rest) value =
      ((newContainer nextKey).setParts (nextKey :: rest) value).bind
        (tree.defineOwnValue key ·) := by
  rw [setParts]
  split
  · rename_i kind members found
    cases missing _ found
  · rfl

/-- Both kinds of a part that is not the last one. -/
theorem held_or_made (tree : DataTree Leaf) (key : String) :
    (∃ child, tree.own key = some child ∧ child.isObject = true) ∨
      ∀ child, tree.own key = some child → child.isObject = false := by
  by_cases held : ∃ child, tree.own key = some child ∧ child.isObject = true
  · exact Or.inl held
  · right
    intro child found
    by_contra object
    exact held ⟨child, found, by simpa using object⟩

theorem isObject_newContainer (nextKey : String) :
    (newContainer nextKey : DataTree Leaf).isObject = true := by
  unfold newContainer
  split <;> rfl

theorem own_newContainer (nextKey key : String) :
    (newContainer nextKey : DataTree Leaf).own key = none := by
  unfold newContainer
  split
  · simp [own]
  · rfl

variable {parts : List String}

theorem isObject_setParts (set : tree.setParts parts value = some next) :
    next.isObject = tree.isObject := by
  rcases parts with _ | ⟨key, _ | ⟨nextKey, rest⟩⟩
  · rw [← Option.some.inj set]
  · exact isObject_defineOwnValue set
  · rcases held_or_made tree key with ⟨child, found, object⟩ | missing
    · rw [setParts_held found object] at set
      obtain ⟨child', -, rfl⟩ := Option.map_eq_some_iff.mp set
      exact isObject_put tree key child'
    · rw [setParts_made missing] at set
      obtain ⟨child', -, defined⟩ := Option.bind_eq_some_iff.mp set
      exact isObject_defineOwnValue defined

/-- The key names the `length` of an array. -/
def namesLength (tree : DataTree Leaf) (key : String) : Bool :=
  match tree with
  | .object (.array _) _ => key == "length"
  | _ => false

/-- The parts do not name the `length` of an array that they reach. -/
def avoidsLength (tree : DataTree Leaf) : List String → Bool
  | [] => true
  | key :: rest => !tree.namesLength key && (tree.own key).all (avoidsLength · rest)

theorem defineOwnValue_isSome (avoids : tree.namesLength key = false) (value : DataTree Leaf) :
    ∃ next, tree.defineOwnValue key value = some next := by
  rcases tree with _ | _ | _ | ⟨_ | length, members⟩
  · exact ⟨_, rfl⟩
  · exact ⟨_, rfl⟩
  · exact ⟨_, rfl⟩
  · exact ⟨_, rfl⟩
  · have name : key ≠ "length" := by simpa [namesLength] using avoids
    exact ⟨_, if_neg name⟩

theorem avoidsLength_newContainer (nextKey : String) (rest : List String) :
    (newContainer nextKey : DataTree Leaf).avoidsLength (nextKey :: rest) = true := by
  rw [avoidsLength, own_newContainer]
  unfold newContainer
  split
  · rename_i index
    have name : nextKey ≠ "length" := by
      rintro rfl
      exact absurd index (by decide)
    simp [namesLength, name]
  · rfl

/-- The parts lead to the value that was set. -/
theorem ownPath_setParts (nonempty : parts ≠ []) (object : tree.isObject = true)
    (set : tree.setParts parts value = some next) : next.ownPath parts = some value := by
  induction parts generalizing tree next with
  | nil => contradiction
  | cons key rest ih =>
    rcases rest with _ | ⟨nextKey, rest⟩
    · simp [ownPath, own_defineOwnValue object set key]
    · rcases held_or_made tree key with ⟨child, found, held⟩ | missing
      · rw [setParts_held found held] at set
        obtain ⟨child', below, rfl⟩ := Option.map_eq_some_iff.mp set
        rw [ownPath, own_put, if_pos rfl, found]
        exact ih (by simp) held below
      · rw [setParts_made missing] at set
        obtain ⟨child', below, defined⟩ := Option.bind_eq_some_iff.mp set
        rw [ownPath, own_defineOwnValue object defined key, if_pos rfl]
        exact ih (by simp) (isObject_newContainer nextKey) below

theorem setParts_isSome (avoids : tree.avoidsLength parts = true) (value : DataTree Leaf) :
    ∃ next, tree.setParts parts value = some next := by
  induction parts generalizing tree with
  | nil => exact ⟨tree, rfl⟩
  | cons key rest ih =>
    rw [avoidsLength, Bool.and_eq_true, Bool.not_eq_true'] at avoids
    obtain ⟨here, below⟩ := avoids
    rcases rest with _ | ⟨nextKey, rest⟩
    · exact defineOwnValue_isSome here value
    · rcases held_or_made tree key with ⟨child, found, held⟩ | missing
      · rw [found] at below
        obtain ⟨child', set⟩ := ih below
        exact ⟨tree.put key child', by rw [setParts_held found held, set]; rfl⟩
      · obtain ⟨child', set⟩ := ih (avoidsLength_newContainer nextKey rest)
        obtain ⟨next, defined⟩ := defineOwnValue_isSome here child'
        exact ⟨next, by rw [setParts_made missing, set]; exact defined⟩

/-- Nothing changes where the parts lead to the value already. -/
theorem setParts_same (nonempty : parts ≠ []) (found : tree.ownPath parts = some value) :
    tree.setParts parts value = some tree := by
  induction parts generalizing tree with
  | nil => contradiction
  | cons key rest ih =>
    obtain ⟨child, here, below⟩ := Option.bind_eq_some_iff.mp found
    rcases rest with _ | ⟨nextKey, rest⟩
    · rw [← Option.some.inj below]
      rcases tree with _ | _ | _ | ⟨_ | length, members⟩
      · rfl
      · rfl
      · rfl
      · have listed : members.lookup key = some child := here
        simp [setParts, defineOwnValue, defineMember, listed, replaceMember_self]
      · simp only [own] at here
        split at here
        · cases here
        · rename_i name
          simp [setParts, defineOwnValue, defineMember, lengthWith, here, name,
            replaceMember_self]
    · have held : child.isObject = true := by
        rcases child with _ | _ | _ | ⟨kind, members⟩
        · cases below
        · cases below
        · cases below
        · rfl
      rw [setParts_held here held, ih (by simp) below]
      simp only [Option.map_some, put_self here]

/-- The last of two values that are set under the same parts. -/
theorem setParts_setParts (object : tree.isObject = true)
    (set : tree.setParts parts value = some next) (later : DataTree Leaf) :
    next.setParts parts later = tree.setParts parts later := by
  induction parts generalizing tree next with
  | nil =>
    rw [← Option.some.inj set]
  | cons key rest ih =>
    rcases rest with _ | ⟨nextKey, rest⟩
    · exact defineOwnValue_defineOwnValue object set
    · rcases held_or_made tree key with ⟨child, found, held⟩ | missing
      · rw [setParts_held found held] at set ⊢
        obtain ⟨child', below, rfl⟩ := Option.map_eq_some_iff.mp set
        have held' := (isObject_setParts below).trans held
        have found' : (tree.put key child').own key = some child' := by
          rw [own_put, if_pos rfl, found]
          rfl
        rw [setParts_held found' held', ih held below]
        simp only [put_put]
      · rw [setParts_made missing] at set ⊢
        obtain ⟨child', below, defined⟩ := Option.bind_eq_some_iff.mp set
        have made : (newContainer nextKey : DataTree Leaf).isObject = true :=
          isObject_newContainer nextKey
        have held' := (isObject_setParts below).trans made
        have found' : next.own key = some child' := by
          rw [own_defineOwnValue object defined key, if_pos rfl]
        rw [setParts_held found' held', ih made below]
        rcases (newContainer nextKey).setParts (nextKey :: rest) later with _ | child''
        · rfl
        · exact put_defineOwnValue object defined

/-- Nothing but one key of an object has changed, and perhaps the length of an array. -/
structure ChangedAt (key : String) (before after : DataTree Leaf) : Prop where
  own : ∀ other, other ≠ key → after.own other = before.own other
  kind : ∃ kind kind' members members', before = .object kind members ∧
    after = .object kind' members' ∧
      (kind' = kind ∨
        ∃ length, kind = .array length ∧ kind' = .array (lengthWith length members key))

theorem changedAt_put (object : tree.isObject = true) (key : String) (value : DataTree Leaf) :
    ChangedAt key tree (tree.put key value) := by
  refine ⟨?_, ?_⟩
  · intro other apart
    rw [own_put, if_neg apart]
  · rcases tree with _ | _ | _ | ⟨kind, members⟩
    · cases object
    · cases object
    · cases object
    · exact ⟨kind, kind, members, _, rfl, rfl, Or.inl rfl⟩

theorem changedAt_defineOwnValue (object : tree.isObject = true)
    (defined : tree.defineOwnValue key value = some next) : ChangedAt key tree next := by
  refine ⟨?_, ?_⟩
  · intro other apart
    rw [own_defineOwnValue object defined, if_neg apart]
  · rcases tree with _ | _ | _ | ⟨_ | length, members⟩
    · cases object
    · cases object
    · cases object
    · rw [← Option.some.inj defined]
      exact ⟨_, _, _, _, rfl, rfl, Or.inl rfl⟩
    · rw [defineOwnValue] at defined
      split at defined
      · cases defined
      · rw [← Option.some.inj defined]
        exact ⟨_, _, _, _, rfl, rfl, Or.inr ⟨length, rfl, rfl⟩⟩

/-- A write changes its object at the first part only. -/
theorem changedAt_setParts (object : tree.isObject = true) {rest : List String}
    (set : tree.setParts (key :: rest) value = some next) : ChangedAt key tree next := by
  rcases rest with _ | ⟨nextKey, rest⟩
  · exact changedAt_defineOwnValue object set
  · rcases held_or_made tree key with ⟨child, found, held⟩ | missing
    · rw [setParts_held found held] at set
      obtain ⟨child', -, rfl⟩ := Option.map_eq_some_iff.mp set
      exact changedAt_put object key child'
    · rw [setParts_made missing] at set
      obtain ⟨child', -, defined⟩ := Option.bind_eq_some_iff.mp set
      exact changedAt_defineOwnValue object defined

/-- The array gets longer when a property of this key is defined. -/
def Extends (tree : DataTree Leaf) (key : String) : Prop :=
  ∃ length members, tree = .object (.array length) members ∧
    lengthWith length members key ≠ length

theorem isObject_of_ownPath {path : List String} {below : DataTree Leaf}
    (found : tree.ownPath path = some below) (object : below.isObject = true) :
    tree.isObject = true := by
  rcases path with _ | ⟨key, rest⟩
  · rw [Option.some.inj found]
    exact object
  · rcases tree with _ | _ | _ | ⟨kind, members⟩
    · cases found
    · cases found
    · cases found
    · rfl

end DataTree

variable {tree next : DataTree Leaf} {around : Surroundings Leaf} {key : String}
  {value : DataTree Leaf}

open DataTree

theorem read_of_own (found : tree.own key = some value) : around.read tree key = value := by
  rcases tree with _ | _ | _ | ⟨_ | length, members⟩
  · cases found
  · cases found
  · cases found
  · have listed : members.lookup key = some value := found
    simp only [Surroundings.read, listed, Option.getD_some]
  · simp only [own] at found
    split at found
    · cases found
    · rename_i name
      simp only [Surroundings.read, if_neg name, found, Option.getD_some]

theorem read_of_ownPath {path : List String} (found : tree.ownPath path = some value) :
    path.foldl around.read tree = value := by
  induction path generalizing tree with
  | nil => exact Option.some.inj found
  | cons key rest ih =>
    obtain ⟨child, here, below⟩ := Option.bind_eq_some_iff.mp found
    rw [List.foldl_cons, read_of_own here]
    exact ih below

/-- Another key reads as before, unless it is the length of an array that got longer. -/
theorem read_of_changedAt (changed : ChangedAt key tree next) {other : String}
    (apart : other ≠ key) (kept : ¬ (other = "length" ∧ tree.Extends key)) :
    around.read next other = around.read tree other := by
  obtain ⟨kind, kind', members, members', rfl, rfl, kinds⟩ := changed.kind
  have same := changed.own other apart
  rcases kinds with rfl | ⟨length, rfl, rfl⟩
  · rcases kind' with _ | length
    · have listed : members'.lookup other = members.lookup other := same
      simp only [Surroundings.read, listed]
    · simp only [own] at same
      simp only [Surroundings.read]
      split
      · rfl
      · rename_i name
        rw [if_neg name, if_neg name] at same
        rw [same]
  · simp only [own] at same
    simp only [Surroundings.read]
    split
    · rename_i name
      have unextended : lengthWith length members key = length := by
        by_contra longer
        exact kept ⟨name, length, members, rfl, longer⟩
      rw [unextended]
    · rename_i name
      rw [if_neg name, if_neg name] at same
      rw [same]

/-- A read that leaves the written path in a container that was there before. -/
theorem read_setParts_frame {shared below below' : List String} {first second : String}
    (apart : second ≠ first) {container : DataTree Leaf}
    (held : tree.ownPath shared = some container) (object : container.isObject = true)
    (kept : ¬ (second = "length" ∧ container.Extends first))
    (set : tree.setParts (shared ++ first :: below) value = some next) :
    (shared ++ second :: below').foldl around.read next =
      (shared ++ second :: below').foldl around.read tree := by
  induction shared generalizing tree next with
  | nil =>
    have same := Option.some.inj held
    subst same
    have changed := changedAt_setParts object set
    rw [List.nil_append, List.foldl_cons, List.foldl_cons, read_of_changedAt changed apart kept]
  | cons key shared ih =>
    obtain ⟨child, here, there⟩ := Option.bind_eq_some_iff.mp held
    have inner := isObject_of_ownPath there object
    obtain ⟨nextKey, rest, split⟩ : ∃ nextKey rest, shared ++ first :: below = nextKey :: rest :=
      List.exists_cons_of_ne_nil (by simp)
    rw [List.cons_append, split, setParts_held here inner, ← split] at set
    obtain ⟨child', lower, rfl⟩ := Option.map_eq_some_iff.mp set
    have found : (tree.put key child').own key = some child' := by
      rw [own_put, if_pos rfl, here]
      rfl
    rw [List.cons_append, List.foldl_cons, List.foldl_cons, read_of_own found, read_of_own here]
    exact ih there lower

/-- What `setPath` and `getPath` do with one another. Two paths diverge at the segments `first`
and `second`, which name different properties, after the segments that they share; up to there
the written path leads through own objects, the last of which is `container`. -/
structure Lens (around : Surroundings Leaf) (target : DataTree Leaf) (path : PropertyPath)
    (value result : DataTree Leaf) : Prop where
  get : getPath around result path = value
  twice : ∀ later, setPath result path later = setPath target path later
  frame : ∀ (other : PropertyPath) (shared below below' : List String) (first second : String)
    (container : DataTree Leaf), path.keys = shared ++ first :: below →
      other.keys = shared ++ second :: below' → second ≠ first →
        target.ownPath shared = some container → container.isObject = true →
          ¬ (second = "length" ∧ container.Extends first) →
            getPath around result other = getPath around target other

theorem setPath_eq {target : DataTree Leaf} {path : PropertyPath} (object : target.isObject = true)
    (nonempty : path.parts ≠ []) (safe : hasUnsafePathPart path.parts = false)
    (value : DataTree Leaf) : setPath target path value = target.setParts path.keys value := by
  simp [setPath, object, nonempty, safe]

/-- For every tree, every path but those that address the length of an array, and every value. -/
theorem setPath_lens (around : Surroundings Leaf) {target : DataTree Leaf} {path : PropertyPath}
    (object : target.isObject = true) (nonempty : path.parts ≠ [])
    (safe : hasUnsafePathPart path.parts = false)
    (avoids : target.avoidsLength path.keys = true) (value : DataTree Leaf) :
    ∃ result, setPath target path value = some result ∧
      Lens around target path value result := by
  have some : path.keys ≠ [] := by simpa using nonempty
  obtain ⟨result, set⟩ := setParts_isSome avoids value
  have object' := (DataTree.isObject_setParts set).trans object
  refine ⟨result, (setPath_eq object nonempty safe value).trans set, ?_, ?_, ?_⟩
  · exact read_of_ownPath (ownPath_setParts some object set)
  · intro later
    rw [setPath_eq object nonempty safe, setPath_eq object' nonempty safe]
    exact setParts_setParts object set later
  · intro other shared below below' first second container here there apart held inner kept
    rw [here] at set
    rw [getPath, getPath, there]
    exact read_setParts_frame apart held inner kept set

def emptyList : DataTree String :=
  .object .plain [("list", .object (.array 0) [])]

/-- Numbers are leaves under their texts. -/
def numerals : Surroundings String where
  length count := .leaf count.repr
  ofLeaf _ _ := .undefined
  ofObject _ := .undefined
  ofArray _ := .undefined

theorem setPath_lens_emptyList :
    ∃ result, setPath emptyList (.text "list[5]") (.leaf "7") = some result ∧
      Lens numerals emptyList (.text "list[5]") (.leaf "7") result :=
  setPath_lens numerals rfl (by decide) (by decide) (by decide) (.leaf "7")

/-- The paths `list[5]` and `list.length` diverge below an array that is there, and the second
one reads something else after a write at the first one. -/
theorem setPath_extends_length :
    (PropertyPath.text "list[5]").keys = ["list", "5"] ∧
      (PropertyPath.text "list.length").keys = ["list", "length"] ∧
      hasUnsafePathPart (PropertyPath.text "list[5]").parts = false ∧
      emptyList.avoidsLength ["list", "5"] = true ∧
      emptyList.ownPath ["list"] = some (.object (.array 0) []) ∧
      ∃ result, setPath emptyList (.text "list[5]") (.leaf "7") = some result ∧
        getPath numerals emptyList (.text "list.length") = .leaf "0" ∧
        getPath numerals result (.text "list.length") = .leaf "6" := by
  refine ⟨by decide, by decide, by decide, by decide, rfl, ?_⟩
  exact ⟨.object .plain [("list", .object (.array 6) [("5", .leaf "7")])], rfl, rfl, rfl⟩

end WebTsToolkit.Utils.PathTree
