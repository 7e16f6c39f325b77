import WebTsToolkit.AccessRouter.LeafParents

set_option autoImplicit false

namespace WebTsToolkit.AccessRouter.Processors

open Js Library Utils Utils.PathTree Utils.PathTree.DataTree

variable {Leaf : Type}

/-- `delete` of an own property. -/
def deleteOwn (tree : DataTree Leaf) (key : String) : DataTree Leaf :=
  match tree with
  | .object kind members => .object kind (deleteMember members key)
  | _ => tree

structure ProcessCopy where
  src : String
  dest : String

/-- The destination is the leaf, or starts with it and a dot. -/
def isSelfNested (leaf dest : String) : Bool :=
  dest == leaf || startsWith dest (leaf ++ ".")

/-- A value without sharing is its own clone. -/
def moveParent (leaf dest : String) (parent : DataTree Leaf) : Option (DataTree Leaf) :=
  match parent.own leaf with
  | none => some parent
  | some value =>
    (PathTree.setPath parent (.text dest) value).map fun moved =>
      if isSelfNested leaf dest then moved else deleteOwn moved leaf

/-- One round of the loop of `movePaths`. Nothing where it throws. -/
def moveOperation (doc : DataTree Leaf) (op : ProcessCopy) : Option (DataTree Leaf) :=
  if op.src = "" ∨ op.dest = "" then some doc
  else if assertSafePath op.src && assertSafePath op.dest then
    if op.src = op.dest then some doc
    else forEachParent doc (resolveLeafParents doc op.src) (moveParent (leafOf op.src) op.dest)
  else none

def movePaths (doc : DataTree Leaf) (operations : List ProcessCopy) : Option (DataTree Leaf) :=
  operations.foldlM moveOperation doc

/-- Leaves are deeply equal to themselves only, containers to those of their kind with deeply
equal properties under the same keys. -/
inductive DeepEqual : DataTree Leaf → DataTree Leaf → Prop where
  | undefined : DeepEqual .undefined .undefined
  | null : DeepEqual .null .null
  | leaf (value : Leaf) : DeepEqual (.leaf value) (.leaf value)
  | object {kind : Kind} {members members' : Members Leaf}
      (keys : ∀ key, ((DataTree.object kind members).own key).isSome =
        ((DataTree.object kind members').own key).isSome)
      (each : ∀ key value value', (DataTree.object kind members).own key = some value →
        (DataTree.object kind members').own key = some value' → DeepEqual value value') :
      DeepEqual (.object kind members) (.object kind members')

/-- What was under the leaf is where the destination leads, and the leaf is gone unless the
destination is at the leaf or below it. -/
structure MovedWithin (leaf : String) (parts : List String) (value changed : DataTree Leaf) :
    Prop where
  kept : ∃ moved, changed.ownPath parts = some moved ∧ DeepEqual moved value
  gone : ¬[leaf] <+: parts → changed.own leaf = none

/-- Every object that owned the leaf is still there, with the leaf moved. -/
def Moved (doc : DataTree Leaf) (src dest : String) (result : DataTree Leaf) : Prop :=
  ∀ parent value, Owner doc src parent → parent.value.own (leafOf src) = some value →
    ∃ changed, result.ownPath parent.position = some changed ∧
      MovedWithin (leafOf src) (toPath dest) value changed

/-- When the leaf of an object is moved as it should be. A move onto itself is ignored, which is
right where the destination is the leaf. Where the write is rejected because of an unsafe part, the
value must be at the destination already, and the destination not within the leaf that is then
deleted. Otherwise the comparison of texts must agree with the parts of the path. -/
def Movable (src dest : String) (parent : DataTree Leaf) : Prop :=
  if src = dest then toPath dest = [leafOf src]
  else if (toPath dest).any unsafePathParts.contains = true then
    isSelfNested (leafOf src) dest = false ∧ (toPath dest).head? ≠ some (leafOf src) ∧
      ∃ value moved, parent.own (leafOf src) = some value ∧
        parent.ownPath (toPath dest) = some moved ∧ DeepEqual moved value
  else isSelfNested (leafOf src) dest = true ↔ (toPath dest).head? = some (leafOf src)

section Equality

variable {tree value moved : DataTree Leaf} {key : String}

theorem sizeOf_own {child : DataTree Leaf} (found : tree.own key = some child) :
    sizeOf child < sizeOf tree := by
  have listed (kind : Kind) (members : Members Leaf) (found : members.lookup key = some child) :
      sizeOf child < sizeOf (DataTree.object kind members) := by
    obtain ⟨before, after, rfl, -⟩ := List.lookup_eq_some_iff.mp found
    have member : (key, child) ∈ before ++ (key, child) :: after := by simp
    have bound := List.sizeOf_lt_of_mem member
    have pair : sizeOf (key, child) = 1 + sizeOf key + sizeOf child := rfl
    rw [DataTree.object.sizeOf_spec]
    omega
  rcases tree with _ | _ | _ | ⟨_ | length, members⟩
  · cases found
  · cases found
  · cases found
  · exact listed _ _ found
  · rw [own] at found
    split at found
    · cases found
    · exact listed _ _ found

variable {path : List String}

theorem sizeOf_ownPath (nonempty : path ≠ []) (found : tree.ownPath path = some value) :
    sizeOf value < sizeOf tree := by
  induction path generalizing tree with
  | nil => contradiction
  | cons key rest ih =>
    obtain ⟨child, here, below⟩ := Option.bind_eq_some_iff.mp found
    have first := sizeOf_own here
    rcases rest with _ | ⟨next, rest⟩
    · rw [← Option.some.inj below]
      exact first
    · have further := ih (by simp) below
      omega

theorem DeepEqual.refl (tree : DataTree Leaf) : DeepEqual tree tree := by
  match tree with
  | .undefined => exact DeepEqual.undefined
  | .null => exact DeepEqual.null
  | .leaf value => exact DeepEqual.leaf value
  | .object kind members =>
    refine DeepEqual.object (fun _ => rfl) ?_
    intro key value value' found found'
    rw [← Option.some.inj (found.symm.trans found')]
    exact DeepEqual.refl value
termination_by sizeOf tree
decreasing_by exact sizeOf_own (by assumption)

/-- Deeply equal values have deeply equal properties along every path. -/
theorem DeepEqual.ownPath (same : DeepEqual moved value) {below : DataTree Leaf}
    (found : value.ownPath path = some below) :
    ∃ below', moved.ownPath path = some below' ∧ DeepEqual below' below := by
  induction path generalizing moved value with
  | nil =>
    rw [← Option.some.inj found]
    exact ⟨moved, rfl, same⟩
  | cons key rest ih =>
    obtain ⟨child, here, lower⟩ := Option.bind_eq_some_iff.mp found
    cases same with
    | undefined | null | leaf _ => cases here
    | object keys each =>
      have present := keys key
      rw [here, Option.isSome_some, Option.isSome_iff_exists] at present
      obtain ⟨child', here'⟩ := present
      obtain ⟨below', reads, equal⟩ := ih (each key child' child here' here) lower
      exact ⟨below', by rw [DataTree.ownPath, here']; exact reads, equal⟩

/-- No value is deeply equal to what it is a part of: its own part would be one of that part. -/
theorem not_deepEqual_part (nonempty : path ≠ []) {whole part : DataTree Leaf}
    (found : whole.ownPath path = some part) : ¬DeepEqual part whole := by
  intro same
  have smaller := sizeOf_ownPath nonempty found
  obtain ⟨below, found', same'⟩ := same.ownPath found
  exact not_deepEqual_part nonempty found' same'
termination_by sizeOf whole

end Equality

section Parent

variable {parent changed value : DataTree Leaf} {leaf dest : String} {parts : List String}

theorem own_deleteOwn (tree : DataTree Leaf) (key other : String) :
    (deleteOwn tree key).own other = if other = key then none else tree.own other := by
  rcases tree with _ | _ | _ | ⟨_ | length, members⟩
  · simp [deleteOwn, own]
  · simp [deleteOwn, own]
  · simp [deleteOwn, own]
  · exact lookup_deleteMember members key other
  · simp only [deleteOwn, own, lookup_deleteMember]
    by_cases asked : other = key <;> by_cases name : other = "length" <;> simp [asked, name]

theorem singleton_prefix_iff : [leaf] <+: parts ↔ parts.head? = some leaf := by
  rcases parts with _ | ⟨first, rest⟩
  · simp
  · rw [List.cons_prefix_cons]
    simp [eq_comm]

/-- Where the leaf keeps its value, it is the only destination. -/
theorem movedWithin_held (found : changed.own leaf = some value) :
    MovedWithin leaf parts value changed ↔ parts = [leaf] := by
  constructor
  · intro within
    have inside : [leaf] <+: parts := by
      by_contra outside
      rw [within.gone outside] at found
      cases found
    obtain ⟨rest, rfl⟩ := inside
    obtain ⟨moved, reads, same⟩ := within.kept
    rw [List.cons_append, List.nil_append, ownPath, found] at reads
    by_contra nested
    have nonempty : rest ≠ [] := by
      rintro rfl
      exact nested rfl
    exact not_deepEqual_part nonempty reads same
  · rintro rfl
    constructor
    · exact ⟨value, by simp [ownPath, found], DeepEqual.refl value⟩
    · intro outside
      exact absurd (List.prefix_refl _) outside

/-- Where the leaf is deleted, the value must be outside of it. -/
theorem movedWithin_deleteOwn (nonempty : parts ≠ []) :
    MovedWithin leaf parts value (deleteOwn changed leaf) ↔
      parts.head? ≠ some leaf ∧
        ∃ moved, changed.ownPath parts = some moved ∧ DeepEqual moved value := by
  obtain ⟨first, rest, rfl⟩ := List.exists_cons_of_ne_nil nonempty
  have gone : (deleteOwn changed leaf).own leaf = none := by
    rw [own_deleteOwn, if_pos rfl]
  by_cases inside : first = leaf
  · subst inside
    constructor
    · intro within
      obtain ⟨moved, reads, -⟩ := within.kept
      rw [ownPath, gone] at reads
      cases reads
    · intro outside
      exact absurd rfl outside.1
  · have reads : (deleteOwn changed leaf).ownPath (first :: rest) =
        changed.ownPath (first :: rest) := by
      rw [ownPath, ownPath, own_deleteOwn, if_neg inside]
    constructor
    · intro within
      exact ⟨by simpa using inside, reads ▸ within.kept⟩
    · intro outside
      exact ⟨reads.symm ▸ outside.2, fun _ => gone⟩

/-- Where the value was written and the leaf is not deleted, it must be within the leaf. -/
theorem movedWithin_setParts (nonempty : parts ≠ []) (object : parent.isObject = true)
    (found : parent.own leaf = some value) (set : parent.setParts parts value = some changed) :
    MovedWithin leaf parts value changed ↔ parts.head? = some leaf := by
  have reads := ownPath_setParts nonempty object set
  rw [← singleton_prefix_iff]
  constructor
  · intro within
    by_contra outside
    obtain ⟨first, rest, rfl⟩ := List.exists_cons_of_ne_nil nonempty
    have apart : leaf ≠ first := by
      rintro rfl
      exact outside (List.prefix_append [leaf] rest)
    have still := (changedAt_setParts object set).own leaf apart
    rw [within.gone outside, found] at still
    cases still
  · intro inside
    exact ⟨⟨value, reads, DeepEqual.refl value⟩, fun outside => absurd inside outside⟩

/-- What happens to one object that owns the leaf, in a move that is no move onto itself. -/
theorem moveParent_iff {src : String} (apart : src ≠ dest) (nonempty : toPath dest ≠ [])
    (safe : unsafePathParts.contains (leafOf src) = false) (object : parent.isObject = true)
    (found : parent.own (leafOf src) = some value)
    (ran : moveParent (leafOf src) dest parent = some changed) :
    MovedWithin (leafOf src) (toPath dest) value changed ↔ Movable src dest parent := by
  simp only [moveParent, found, setPath_text object] at ran
  obtain ⟨moved, set, rfl⟩ := Option.map_eq_some_iff.mp ran
  rw [Movable, if_neg apart]
  by_cases rejected : (toPath dest).any unsafePathParts.contains = true
  · rw [if_pos (Or.inr rejected)] at set
    rw [if_pos rejected, ← Option.some.inj set, found]
    rcases nested : isSelfNested (leafOf src) dest with _ | _
    · rw [if_neg (by simp), movedWithin_deleteOwn nonempty]
      simp
    · rw [if_pos rfl, movedWithin_held found]
      constructor
      · intro alone
        rw [alone, List.any_cons, List.any_nil, Bool.or_false, safe] at rejected
        cases rejected
      · intro outside
        cases outside.1
  · have accepted : ¬(toPath dest = [] ∨ (toPath dest).any unsafePathParts.contains = true) := by
      tauto
    rw [if_neg accepted] at set
    rw [if_neg rejected]
    rcases nested : isSelfNested (leafOf src) dest with _ | _
    · rw [if_neg (by simp), movedWithin_deleteOwn nonempty]
      have reads := ownPath_setParts nonempty object set
      constructor
      · intro outside
        simpa using outside.1
      · intro outside
        exact ⟨by simpa using outside, value, reads, DeepEqual.refl value⟩
    · rw [if_pos rfl, movedWithin_setParts nonempty object found set]
      simp

end Parent

section Document

variable {doc result : DataTree Leaf}

/-- For every document and every operation with two paths that is accepted. -/
theorem movePaths_moved_iff {op : ProcessCopy} (source : op.src ≠ "") (destination : op.dest ≠ "")
    (ran : movePaths doc [op] = some result) :
    Moved doc op.src op.dest result ↔
      ∀ parent, Owner doc op.src parent → Movable op.src op.dest parent.value := by
  have nonempty := toPath_ne_nil destination
  have one : moveOperation doc op = some result := by simpa [movePaths] using ran
  have paths : ¬(op.src = "" ∨ op.dest = "") := by tauto
  rw [moveOperation, if_neg paths] at one
  split at one
  · rename_i safe
    have leaf := leafOf_safe (Bool.and_eq_true_iff.mp safe).1
    split at one
    · rename_i same
      rw [← Option.some.inj one]
      have still (parent : Target Leaf) (owner : Owner doc op.src parent) :
          doc.ownPath parent.position = some parent.value := by
        simpa [ownPath] using ownPath_owner owner []
      constructor
      · intro moved parent owner
        obtain ⟨value, found⟩ := Option.isSome_iff_exists.mp owner.owns
        obtain ⟨changed, there, within⟩ := moved parent value owner found
        rw [← Option.some.inj ((still parent owner).symm.trans there)] at within
        rw [Movable, if_pos same]
        exact (movedWithin_held found).mp within
      · intro movable parent value owner found
        have alone := movable parent owner
        rw [Movable, if_pos same] at alone
        exact ⟨parent.value, still parent owner, (movedWithin_held found).mpr alone⟩
    · rename_i apart
      have idle (parent : DataTree Leaf) (missing : parent.own (leafOf op.src) = none) :
          moveParent (leafOf op.src) op.dest parent = some parent := by
        simp [moveParent, missing]
      obtain ⟨changes, -⟩ := (forEachOwner_spec idle).2 result one
      have each (parent : Target Leaf) (owner : Owner doc op.src parent)
          {value changed : DataTree Leaf}
          (found : parent.value.own (leafOf op.src) = some value)
          (made : moveParent (leafOf op.src) op.dest parent.value = some changed) :=
        moveParent_iff apart nonempty leaf (isObject_of_isPlainObject owner.plain) found made
      constructor
      · intro moved parent owner
        obtain ⟨value, found⟩ := Option.isSome_iff_exists.mp owner.owns
        obtain ⟨changed, made, there⟩ := changes parent owner
        obtain ⟨changed', there', within⟩ := moved parent value owner found
        rw [← Option.some.inj (there.symm.trans there')] at within
        exact (each parent owner found made).mp within
      · intro movable parent value owner found
        obtain ⟨changed, made, there⟩ := changes parent owner
        exact ⟨changed, there, (each parent owner found made).mpr (movable parent owner)⟩
  · cases one

end Document

/-- A key with an object that is to be moved into another one. -/
def profile : DataTree String :=
  .object .plain [("user", .object .plain [("name", .leaf "n"), ("age", .leaf "7")])]

def moveName : ProcessCopy where
  src := "user.name"
  dest := "about.name"

theorem movePaths_profile :
    ∃ result, movePaths profile [moveName] = some result ∧
      (Moved profile "user.name" "about.name" result ↔
        ∀ parent, Owner profile "user.name" parent →
          Movable "user.name" "about.name" parent.value) :=
  ⟨.object .plain [("user", .object .plain [("age", .leaf "7"),
      ("about", .object .plain [("name", .leaf "n")])])], rfl,
    movePaths_moved_iff (show moveName.src ≠ "" by decide) (show moveName.dest ≠ "" by decide) rfl⟩

def single : DataTree String :=
  .object .plain [("a", .leaf "1")]

/-- The destination `[a]` is the leaf in another spelling, and the value is deleted. -/
def moveRespelled : ProcessCopy where
  src := "a"
  dest := "[a]"

theorem movePaths_respelled :
    Owner single "a" { position := [], value := single } ∧
      movePaths single [moveRespelled] = some (.object .plain []) ∧
        ¬ Moved single "a" "[a]" (.object .plain []) := by
  have owner : Owner single "a" { position := [], value := single } := ⟨rfl, rfl, rfl⟩
  refine ⟨owner, rfl, ?_⟩
  intro moved
  obtain ⟨changed, there, within⟩ := moved _ (.leaf "1") owner rfl
  obtain ⟨value, reads, -⟩ := within.kept
  rw [← Option.some.inj there] at reads
  cases reads

end WebTsToolkit.AccessRouter.Processors
