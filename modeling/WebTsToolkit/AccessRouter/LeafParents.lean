import Mathlib.Data.List.Pairwise
import WebTsToolkit.Library.PathWrites
import WebTsToolkit.Utils.PathLens

set_option autoImplicit false

namespace WebTsToolkit.AccessRouter.Processors

open Js Library Utils.PathTree

variable {Leaf : Type}

/-- A target of a path, and where in the document it is. -/
structure Target (Leaf : Type) where
  position : List String
  value : DataTree Leaf

def assertSafePath (path : String) : Bool :=
  (segments path).all fun seg => !Utils.unsafePathParts.contains seg

/-- The values that a segment leads to. A plain object inherits functions only, which are no
targets that a later segment or a leaf is looked up in. -/
def advance (seg : String) (target : Target Leaf) : List (Target Leaf) :=
  if target.value.isPlainObject then
    match target.value.own seg with
    | some (.object (.array length) members) =>
      (List.range length).map fun index =>
        { position := target.position ++ [seg, index.repr]
          value := ((DataTree.object (.array length) members).own index.repr).getD .undefined }
    | none | some .undefined | some .null => []
    | some next => [{ position := target.position ++ [seg], value := next }]
  else []

def leafOf (src : String) : String :=
  (segments src).getLastD ""

def resolveLeafParents (obj : DataTree Leaf) (src : String) : List (Target Leaf) :=
  ((segments src).dropLast.foldl (fun targets seg => targets.flatMap (advance seg))
    [{ position := [], value := obj }]).filter fun target => target.value.isPlainObject

/-- What happens to an object below a document, as far as the document sees it. -/
def updateAt (change : DataTree Leaf → Option (DataTree Leaf)) (doc : DataTree Leaf) :
    List String → Option (DataTree Leaf)
  | [] => change doc
  | key :: rest =>
    match doc.own key with
    | some child => (updateAt change child rest).map (doc.put key ·)
    | none => some doc

/-- Each parent is changed where it is in the document. Nothing where one change throws. -/
def forEachParent (doc : DataTree Leaf) (parents : List (Target Leaf))
    (change : DataTree Leaf → Option (DataTree Leaf)) : Option (DataTree Leaf) :=
  parents.foldlM (fun doc parent => updateAt change doc parent.position) doc

/-- Targets that are where they are said to be, none of them inside another one. -/
structure Placed (doc : DataTree Leaf) (targets : List (Target Leaf)) : Prop where
  found : ∀ target ∈ targets, target.value.isPlainObject = true →
    doc.ownPath target.position = some target.value
  apart : targets.Pairwise fun first second => Unrelated first.position second.position

section Texts

theorem toPath_ne_nil {path : String} (nonempty : path ≠ "") : Utils.toPath path ≠ [] := by
  rw [Utils.toPath, if_neg nonempty]
  split
  · exact List.cons_ne_nil _ _
  · assumption

theorem leafOf_mem (src : String) : leafOf src ∈ segments src := by
  obtain ⟨first, rest, parts⟩ := List.exists_cons_of_ne_nil (segments_ne_nil src)
  rw [leafOf, parts, List.getLastD_cons]
  exact List.getLastD_mem_cons

theorem leafOf_safe {src : String} (safe : assertSafePath src = true) :
    Utils.unsafePathParts.contains (leafOf src) = false := by
  have each := List.all_eq_true.mp safe (leafOf src) (leafOf_mem src)
  simpa using each

end Texts

section Resolve

variable {doc : DataTree Leaf} {target : Target Leaf} {seg : String}

theorem ownPath_append (tree : DataTree Leaf) (first second : List String) :
    tree.ownPath (first ++ second) = (tree.ownPath first).bind (·.ownPath second) := by
  induction first generalizing tree with
  | nil => rfl
  | cons key first ih =>
    rw [List.cons_append, DataTree.ownPath, DataTree.ownPath, Option.bind_assoc]
    congr
    funext child
    exact ih child

theorem mem_advance {next : Target Leaf} (member : next ∈ advance seg target) :
    target.value.isPlainObject = true ∧
      ∃ steps, next.position = target.position ++ steps ∧
        (next.value.isPlainObject = true → target.value.ownPath steps = some next.value) := by
  unfold advance at member
  split at member
  · rename_i plain
    refine ⟨plain, ?_⟩
    split at member
    · rename_i length members found
      obtain ⟨index, -, rfl⟩ := List.mem_map.mp member
      refine ⟨[seg, index.repr], rfl, ?_⟩
      intro object
      rcases here : (DataTree.object (.array length) members).own index.repr with _ | item
      · simp [here, DataTree.isPlainObject] at object
      · simp [DataTree.ownPath, found, here]
    · simp at member
    · simp at member
    · simp at member
    · rename_i value _ _ _ found
      rw [List.mem_singleton.mp member]
      refine ⟨[seg], rfl, ?_⟩
      intro object
      simp [DataTree.ownPath, found]
  · simp at member

/-- Two items of one array are at different indices. -/
theorem advance_apart (seg : String) (target : Target Leaf) :
    (advance seg target).Pairwise fun first second =>
      Unrelated first.position second.position := by
  unfold advance
  split
  · split
    · rw [List.pairwise_map]
      apply List.nodup_range.imp
      intro first second differ
      apply unrelated_append
      rw [unrelated_cons_iff]
      apply unrelated_of_ne
      intro same
      exact differ (repr_injective same)
    · exact List.Pairwise.nil
    · exact List.Pairwise.nil
    · exact List.Pairwise.nil
    · exact List.pairwise_singleton _ _
  · exact List.Pairwise.nil

theorem Placed.advance {targets : List (Target Leaf)} (placed : Placed doc targets)
    (seg : String) : Placed doc (targets.flatMap (Processors.advance seg)) := by
  constructor
  · intro next member object
    obtain ⟨target, listed, reached⟩ := List.mem_flatMap.mp member
    obtain ⟨plain, steps, position, below⟩ := mem_advance reached
    rw [position, ownPath_append, placed.found target listed plain]
    exact below object
  · rw [List.pairwise_flatMap]
    refine ⟨fun target _ => advance_apart seg target, ?_⟩
    apply placed.apart.imp
    intro first second apart next reached other reached'
    obtain ⟨-, steps, position, -⟩ := mem_advance reached
    obtain ⟨-, steps', position', -⟩ := mem_advance reached'
    rw [position, position']
    exact apart.below (List.prefix_append _ _) (List.prefix_append _ _)

theorem Placed.filter {targets : List (Target Leaf)} (placed : Placed doc targets)
    (keep : Target Leaf → Bool) : Placed doc (targets.filter keep) where
  found := fun target member => placed.found target (List.mem_of_mem_filter member)
  apart := placed.apart.filter keep

theorem placed_resolveLeafParents (obj : DataTree Leaf) (src : String) :
    Placed obj (resolveLeafParents obj src) := by
  apply Placed.filter
  have start : Placed obj [{ position := [], value := obj }] := by
    constructor
    · intro target member _
      rw [List.mem_singleton.mp member]
      rfl
    · exact List.pairwise_singleton _ _
  generalize [({ position := [], value := obj } : Target Leaf)] = targets at start
  induction (segments src).dropLast generalizing targets with
  | nil => exact start
  | cons seg rest ih => exact ih _ (start.advance seg)

theorem isPlainObject_of_mem {obj : DataTree Leaf} {src : String}
    (member : target ∈ resolveLeafParents obj src) : target.value.isPlainObject = true :=
  (List.mem_filter.mp member).2

/-- What the segments lead to from a target, with a choice of one item wherever they lead to an
array. -/
def Reaches : List String → Target Leaf → Target Leaf → Prop
  | [], start, target => target = start
  | seg :: rest, start, target =>
    start.value.isPlainObject = true ∧
      ((∃ child, start.value.own seg = some child ∧
          Reaches rest { position := start.position ++ [seg], value := child } target) ∨
        ∃ length members index item,
          start.value.own seg = some (.object (.array length) members) ∧ index < length ∧
            (DataTree.object (.array length) members).own index.repr = some item ∧
              Reaches rest { position := start.position ++ [seg, index.repr], value := item }
                target)

theorem Reaches.plain {segs : List String} {start : Target Leaf}
    (reaches : Reaches segs start target) (plain : target.value.isPlainObject = true) :
    start.value.isPlainObject = true := by
  cases segs with
  | nil =>
    have same : target = start := reaches
    exact same ▸ plain
  | cons seg rest => exact reaches.1

theorem reaches_cons {rest : List String} {start : Target Leaf}
    (plain : target.value.isPlainObject = true) :
    (∃ next ∈ advance seg start, Reaches rest next target) ↔ Reaches (seg :: rest) start target := by
  constructor
  · rintro ⟨next, member, further⟩
    have object := further.plain plain
    unfold advance at member
    split at member
    · rename_i plain'
      refine ⟨plain', ?_⟩
      split at member
      · rename_i length members found
        obtain ⟨index, within, rfl⟩ := List.mem_map.mp member
        right
        rcases here : (DataTree.object (.array length) members).own index.repr with _ | item
        · simp [here, DataTree.isPlainObject] at object
        · rw [here] at further
          exact ⟨length, members, index, item, found, List.mem_range.mp within, here, further⟩
      · simp at member
      · simp at member
      · simp at member
      · rename_i value _ _ _ found
        rw [List.mem_singleton.mp member] at further
        exact Or.inl ⟨value, found, further⟩
    · simp at member
  · rintro ⟨plain', ⟨child, found, further⟩ | ⟨length, members, index, item, found, within, here,
      further⟩⟩
    · have object := further.plain plain
      rcases child with _ | _ | _ | ⟨_ | _, members⟩
      · cases object
      · cases object
      · cases object
      · refine ⟨_, ?_, further⟩
        simp [advance, plain', found]
      · cases object
    · refine ⟨_, ?_, further⟩
      rw [advance, if_pos plain', found]
      apply List.mem_map.mpr
      exact ⟨index, List.mem_range.mpr within, by rw [here]; rfl⟩

/-- The parents that are resolved are the objects that the segments before the leaf lead to. -/
theorem mem_resolveLeafParents {obj : DataTree Leaf} {src : String} :
    target ∈ resolveLeafParents obj src ↔
      Reaches (segments src).dropLast { position := [], value := obj } target ∧
        target.value.isPlainObject = true := by
  rw [resolveLeafParents, List.mem_filter]
  apply and_congr_left
  intro plain
  have walk (segs : List String) (targets : List (Target Leaf)) :
      target ∈ segs.foldl (fun targets seg => targets.flatMap (advance seg)) targets ↔
        ∃ start ∈ targets, Reaches segs start target := by
    induction segs generalizing targets with
    | nil => simp [Reaches]
    | cons seg rest ih =>
      rw [List.foldl_cons, ih]
      simp only [List.mem_flatMap, ← reaches_cons plain]
      constructor
      · rintro ⟨next, ⟨start, listed, member⟩, further⟩
        exact ⟨start, listed, next, member, further⟩
      · rintro ⟨start, listed, next, member, further⟩
        exact ⟨next, ⟨start, listed, member⟩, further⟩
  rw [walk]
  simp

end Resolve

section Update

variable {doc next : DataTree Leaf} {change : DataTree Leaf → Option (DataTree Leaf)}

theorem own_of_found {child value : DataTree Leaf} {key : String}
    (found : doc.own key = some child) :
    (doc.put key value).own key = some value := by
  rw [DataTree.own_put, if_pos rfl, found]
  rfl

/-- The object at the position is changed, if it can be. -/
theorem updateAt_found (change : DataTree Leaf → Option (DataTree Leaf)) {position : List String}
    {parent : DataTree Leaf} (found : doc.ownPath position = some parent) :
    (∀ changed, change parent = some changed → ∃ next, updateAt change doc position = some next) ∧
      ∀ next, updateAt change doc position = some next →
        ∃ changed, change parent = some changed ∧ next.ownPath position = some changed := by
  induction position generalizing doc with
  | nil =>
    cases found
    exact ⟨fun changed ran => ⟨changed, ran⟩, fun next ran => ⟨next, ran, rfl⟩⟩
  | cons key rest ih =>
    obtain ⟨child, here, below⟩ := Option.bind_eq_some_iff.mp found
    obtain ⟨runs, sound⟩ := ih below
    simp only [updateAt, here]
    constructor
    · intro changed ran
      obtain ⟨child', lower⟩ := runs changed ran
      exact ⟨_, by rw [lower]; rfl⟩
    · intro next ran
      obtain ⟨child', lower, rfl⟩ := Option.map_eq_some_iff.mp ran
      obtain ⟨changed, same, reads⟩ := sound child' lower
      refine ⟨changed, same, ?_⟩
      rw [DataTree.ownPath, own_of_found here]
      exact reads

/-- Nothing happens where the object stays as it is. -/
theorem updateAt_same {position : List String} {parent : DataTree Leaf}
    (found : doc.ownPath position = some parent) (same : change parent = some parent) :
    updateAt change doc position = some doc := by
  induction position generalizing doc with
  | nil =>
    cases found
    exact same
  | cons key rest ih =>
    obtain ⟨child, here, below⟩ := Option.bind_eq_some_iff.mp found
    simp only [updateAt, here, ih below, Option.map_some, DataTree.put_self here]

theorem ownPath_updateAt {position path : List String} (apart : Unrelated position path)
    (ran : updateAt change doc position = some next) : next.ownPath path = doc.ownPath path := by
  induction position generalizing doc next path with
  | nil => exact absurd rfl apart.ne_nil
  | cons key rest ih =>
    rw [updateAt] at ran
    split at ran
    · rename_i child here
      obtain ⟨child', lower, rfl⟩ := Option.map_eq_some_iff.mp ran
      cases path with
      | nil => exact absurd rfl apart.symm.ne_nil
      | cons other path =>
        by_cases same : other = key
        · subst same
          rw [DataTree.ownPath, DataTree.ownPath, own_of_found here, here]
          exact ih ((unrelated_cons_iff _ _ _).mp apart) lower
        · rw [DataTree.ownPath, DataTree.ownPath, DataTree.own_put, if_neg same]
    · rw [← Option.some.inj ran]

theorem forEachParent_cons (doc : DataTree Leaf) (parent : Target Leaf) (rest : List (Target Leaf))
    (change : DataTree Leaf → Option (DataTree Leaf)) :
    forEachParent doc (parent :: rest) change =
      (updateAt change doc parent.position).bind (forEachParent · rest change) :=
  List.foldlM_cons

/-- What parents outside of each other become does not depend on the other ones. -/
theorem forEachParent_spec {parents : List (Target Leaf)}
    (found : ∀ parent ∈ parents, doc.ownPath parent.position = some parent.value)
    (apart : parents.Pairwise fun first second => Unrelated first.position second.position) :
    ((∀ parent ∈ parents, ∃ changed, change parent.value = some changed) →
        ∃ next, forEachParent doc parents change = some next) ∧
      ∀ next, forEachParent doc parents change = some next →
        (∀ parent ∈ parents, ∃ changed, change parent.value = some changed ∧
            next.ownPath parent.position = some changed) ∧
          ∀ path, (∀ parent ∈ parents, Unrelated parent.position path) →
            next.ownPath path = doc.ownPath path := by
  induction parents generalizing doc with
  | nil =>
    refine ⟨fun _ => ⟨doc, rfl⟩, ?_⟩
    intro next ran
    have same : doc = next := Option.some.inj ran
    subst same
    exact ⟨by simp, fun _ _ => rfl⟩
  | cons parent rest ih =>
    obtain ⟨here, there⟩ := List.forall_mem_cons.mp found
    obtain ⟨outside, later⟩ := List.pairwise_cons.mp apart
    obtain ⟨runs, sound⟩ := updateAt_found change here
    have still (middle : DataTree Leaf)
        (ran : updateAt change doc parent.position = some middle) :
        ∀ other ∈ rest, middle.ownPath other.position = some other.value := by
      intro other member
      rw [ownPath_updateAt (outside other member) ran]
      exact there other member
    constructor
    · intro each
      obtain ⟨⟨changed, possible⟩, others⟩ := List.forall_mem_cons.mp each
      obtain ⟨middle, ran⟩ := runs changed possible
      obtain ⟨next, done⟩ := (ih (still middle ran) later).1 others
      exact ⟨next, by rw [forEachParent_cons, ran]; exact done⟩
    · intro next ran
      rw [forEachParent_cons] at ran
      obtain ⟨middle, first, done⟩ := Option.bind_eq_some_iff.mp ran
      obtain ⟨changed, possible, reads⟩ := sound middle first
      obtain ⟨others, frame⟩ := (ih (still middle first) later).2 next done
      constructor
      · rw [List.forall_mem_cons]
        refine ⟨⟨changed, possible, ?_⟩, others⟩
        rw [frame parent.position fun other member => (outside other member).symm]
        exact reads
      · intro path unrelated
        obtain ⟨elsewhere, elsewhere'⟩ := List.forall_mem_cons.mp unrelated
        rw [frame path elsewhere', ownPath_updateAt elsewhere first]

/-- Parents that stay as they are need not be visited. -/
theorem forEachParent_filter {parents : List (Target Leaf)} (acts : Target Leaf → Bool)
    (found : ∀ parent ∈ parents, doc.ownPath parent.position = some parent.value)
    (apart : parents.Pairwise fun first second => Unrelated first.position second.position)
    (idle : ∀ parent ∈ parents, acts parent = false → change parent.value = some parent.value) :
    forEachParent doc parents change = forEachParent doc (parents.filter acts) change := by
  induction parents generalizing doc with
  | nil => rfl
  | cons parent rest ih =>
    obtain ⟨here, there⟩ := List.forall_mem_cons.mp found
    obtain ⟨outside, later⟩ := List.pairwise_cons.mp apart
    obtain ⟨first, others⟩ := List.forall_mem_cons.mp idle
    have still (middle : DataTree Leaf)
        (ran : updateAt change doc parent.position = some middle) :
        forEachParent middle rest change = forEachParent middle (rest.filter acts) change := by
      apply ih _ later others
      intro other member
      rw [ownPath_updateAt (outside other member) ran]
      exact there other member
    rcases acting : acts parent with _ | _
    · have same := updateAt_same here (first acting)
      rw [List.filter_cons_of_neg (by simp [acting]), forEachParent_cons, same, Option.bind_some]
      exact still doc same
    · rw [List.filter_cons_of_pos acting, forEachParent_cons, forEachParent_cons]
      rcases ran : updateAt change doc parent.position with _ | middle
      · rfl
      · exact still middle ran

end Update

section Write

variable {parent : DataTree Leaf}

theorem setPath_text (object : parent.isObject = true) (path : String) (value : DataTree Leaf) :
    setPath parent (.text path) value =
      if Utils.toPath path = [] ∨ (Utils.toPath path).any Utils.unsafePathParts.contains = true then
        some parent
      else parent.setParts (Utils.toPath path) value := by
  have keys : (PropertyPath.text path).keys = Utils.toPath path := by
    simp [PropertyPath.keys, PropertyPath.parts, Segment.key, Function.comp_def]
  have unsafe' : hasUnsafePathPart (PropertyPath.text path).parts =
      (Utils.toPath path).any Utils.unsafePathParts.contains := by
    simp only [PropertyPath.parts, hasUnsafePathPart, List.any_map]
    rfl
  have empty : (PropertyPath.text path).parts.isEmpty = true ↔ Utils.toPath path = [] := by
    simp [PropertyPath.parts]
  rw [setPath, keys, unsafe', object]
  simp [empty]

theorem isObject_of_isPlainObject (plain : parent.isPlainObject = true) :
    parent.isObject = true := by
  rcases parent with _ | _ | _ | ⟨_ | length, members⟩
  · cases plain
  · cases plain
  · cases plain
  · rfl
  · cases plain

end Write

/-- An object that the source leads to and that owns the leaf. -/
structure Owner (doc : DataTree Leaf) (src : String) (parent : Target Leaf) : Prop where
  reached : Reaches (segments src).dropLast { position := [], value := doc } parent
  plain : parent.value.isPlainObject = true
  owns : (parent.value.own (leafOf src)).isSome = true

/-- The parents that own the leaf. -/
def owners (doc : DataTree Leaf) (src : String) : List (Target Leaf) :=
  (resolveLeafParents doc src).filter fun parent => (parent.value.own (leafOf src)).isSome

theorem mem_owners {doc : DataTree Leaf} {src : String} {parent : Target Leaf} :
    parent ∈ owners doc src ↔ Owner doc src parent := by
  rw [owners, List.mem_filter, mem_resolveLeafParents]
  constructor
  · rintro ⟨⟨reached, plain⟩, owns⟩
    exact ⟨reached, plain, owns⟩
  · rintro ⟨reached, plain, owns⟩
    exact ⟨⟨reached, plain⟩, owns⟩

section Owners

variable {doc : DataTree Leaf} {src : String} {parent other : Target Leaf}

theorem ownPath_owner (owner : Owner doc src parent) (path : List String) :
    doc.ownPath (parent.position ++ path) = parent.value.ownPath path := by
  have member := mem_resolveLeafParents.mpr ⟨owner.reached, owner.plain⟩
  have found := (placed_resolveLeafParents doc src).found parent member owner.plain
  rw [ownPath_append, found, Option.bind_some]

theorem unrelated_owners (owner : Owner doc src parent) (owner' : Owner doc src other)
    (differ : other ≠ parent) : Unrelated other.position parent.position := by
  have symmetric : Std.Symm fun first second : Target Leaf =>
      Unrelated first.position second.position := ⟨fun _ _ => Unrelated.symm⟩
  have apart : (owners doc src).Pairwise fun first second =>
      Unrelated first.position second.position :=
    (placed_resolveLeafParents doc src).apart.filter _
  exact apart.forall (mem_owners.mpr owner') (mem_owners.mpr owner) differ

/-- A change that leaves alone what does not own the leaf is made to the owners, each apart from
the others. -/
theorem forEachOwner_spec {change : DataTree Leaf → Option (DataTree Leaf)}
    (idle : ∀ parent : DataTree Leaf, parent.own (leafOf src) = none →
      change parent = some parent) :
    ((∀ parent, Owner doc src parent → ∃ changed, change parent.value = some changed) →
        ∃ next, forEachParent doc (resolveLeafParents doc src) change = some next) ∧
      ∀ next, forEachParent doc (resolveLeafParents doc src) change = some next →
        (∀ parent, Owner doc src parent → ∃ changed, change parent.value = some changed ∧
            next.ownPath parent.position = some changed) ∧
          ∀ path, (∀ parent, Owner doc src parent → Unrelated parent.position path) →
            next.ownPath path = doc.ownPath path := by
  have placed := placed_resolveLeafParents doc src
  have found : ∀ parent ∈ resolveLeafParents doc src,
      doc.ownPath parent.position = some parent.value :=
    fun parent member => placed.found parent member (isPlainObject_of_mem member)
  have filtered : forEachParent doc (resolveLeafParents doc src) change =
      forEachParent doc (owners doc src) change :=
    forEachParent_filter _ found placed.apart fun parent _ missing =>
      idle parent.value (by simpa using missing)
  rw [filtered]
  simp only [← mem_owners]
  exact forEachParent_spec (fun parent member => found parent (List.mem_of_mem_filter member))
    (placed.apart.filter _)

end Owners

end WebTsToolkit.AccessRouter.Processors
