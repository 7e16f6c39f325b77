import WebTsToolkit.Utils.PathFrame
import WebTsToolkit.Utils.ObjectEntries

set_option autoImplicit false

namespace WebTsToolkit.AccessRouter.ApplyUpdate

open Js Utils Library

/-- A policy boundary: a field that is written whole, or a container on the way to one. -/
inductive Boundary where
  | whole (path : String)
  | partialContainer (path : String)
  deriving DecidableEq, Repr

def childPath (base key : String) : String :=
  if base = "" then key else base ++ "." ++ key

mutual

/-- What a shape of nested containers with `true` at its leaves marks, in visiting order. -/
def collectBoundary (base : String) : Value → List Boundary
  | .object entries => collectEntries base entries
  | .array items => collectItems base 0 items
  | _ => []

def collectEntries (base : String) : List (String × Value) → List Boundary
  | [] => []
  | (key, value) :: rest =>
    let path := childPath base key
    let nested := collectBoundary path value
    (match value with
      | .bool true => [.whole path]
      | _ => .partialContainer path :: nested) ++ collectEntries base rest

def collectItems (base : String) (index : Nat) : List Value → List Boundary
  | [] => []
  | value :: rest =>
    let path := childPath base index.repr
    let nested := collectBoundary path value
    (match value with
      | .hole => []
      | .bool true => [.whole path]
      | _ => .partialContainer path :: nested) ++ collectItems base (index + 1) rest

end

/-- The boundaries of one field, through the same path grammar as the writes. -/
def fieldBoundaries (field : String) : List Boundary :=
  collectBoundary "" (setPath (.object []) field (.bool true))

def boundaries (fields : List String) : List Boundary :=
  fields.flatMap fieldBoundaries

/-- Whether the update goes on below a path, rather than writing the value there. -/
def descends (marks : List Boundary) (path : String) (value : Value) : Bool :=
  marks.contains (.partialContainer path) && !marks.contains (.whole path) &&
    (value.isPlainObject || value.isArray)

mutual

def applyAt (marks : List Boundary) (target : Value) (path : String) (value : Value) : Value :=
  match value with
  | .object entries =>
    if descends marks path value then applyEntries marks target path entries
    else setPath target path value
  | .array items =>
    if descends marks path value then applyItems marks target path 0 items
    else setPath target path value
  | _ => setPath target path value

def applyEntries (marks : List Boundary) (target : Value) (base : String) :
    List (String × Value) → Value
  | [] => target
  | (key, value) :: rest =>
    applyEntries marks (applyAt marks target (childPath base key) value) base rest

def applyItems (marks : List Boundary) (target : Value) (base : String) (index : Nat) :
    List Value → Value
  | [] => target
  | value :: rest =>
    let next := applyAt marks target (childPath base index.repr) value
    match value with
    | .hole => applyItems marks target base (index + 1) rest
    | _ => applyItems marks next base (index + 1) rest

end

/-- `applyUpdate` on a plain target. -/
def applyUpdate (target data : Value) (allowedFields : List String) : Value :=
  match data with
  | .object entries => applyEntries (boundaries allowedFields) target "" entries
  | .array items => applyItems (boundaries allowedFields) target "" 0 items
  | _ => target

theorem childPath_joinDots {base : List String} (plain : ∀ part ∈ base, part ≠ "")
    (key : String) : childPath (joinDots base) key = joinDots (base ++ [key]) := by
  cases base with
  | nil =>
    have empty : joinDots [] = "" := rfl
    rw [empty, childPath, if_pos rfl, List.nil_append, joinDots, List.map_singleton,
      List.intercalate_singleton, String.ofList_toList]
  | cons first rest =>
    have written : joinDots (first :: rest) ≠ "" := by
      intro empty
      have chars := congrArg String.toList empty
      rw [joinDots, String.toList_ofList, List.map_cons] at chars
      apply plain first List.mem_cons_self
      apply String.toList_eq_nil_iff.mp
      by_cases last : rest = []
      · rwa [last, List.map_nil, List.intercalate_singleton] at chars
      · rw [intercalate_cons '.' first.toList (by simpa using last)] at chars
        simp at chars
    rw [childPath, if_neg written]
    apply String.toList_inj.mp
    have dot : ".".toList = ['.'] := rfl
    rw [String.toList_append, String.toList_append, dot, joinDots, joinDots,
      String.toList_ofList, String.toList_ofList, List.map_append,
      intercalate_append '.' (by simp) (by simp), List.map_singleton,
      List.intercalate_singleton, List.append_assoc, List.singleton_append]

/-- The boundary of one member of a shape, with the boundaries below it. -/
def markAt (path : String) (value : Value) : List Boundary :=
  match value with
  | .bool true => [.whole path]
  | _ => .partialContainer path :: collectBoundary path value

theorem collectEntries_eq (base : String) (entries : Entries) :
    collectEntries base entries =
      entries.flatMap fun entry => markAt (childPath base entry.1) entry.2 := by
  induction entries with
  | nil => rfl
  | cons entry rest ih =>
    rw [List.flatMap_cons, ← ih]
    exact collectEntries.eq_def base (entry :: rest)

theorem collectItems_eq (base : String) (index : Nat) (items : List Value) :
    collectItems base index items =
      (itemEntries index items).flatMap fun entry => markAt (childPath base entry.1) entry.2 := by
  induction items generalizing index with
  | nil => rfl
  | cons item rest ih =>
    have unfolded := collectItems.eq_def base index (item :: rest)
    by_cases hole : item = .hole
    · subst hole
      rw [itemEntries, ← ih]
      exact unfolded
    · rw [itemEntries, List.flatMap_cons, ← ih]
      · cases item with
        | hole => contradiction
        | bool flag => cases flag <;> exact unfolded
        | _ => exact unfolded
      · exact hole

theorem collectBoundary_eq (base : String) (value : Value)
    (container : value.isPlainObject = true ∨ value.isArray = true) :
    collectBoundary base value =
      (entriesOf value).flatMap fun entry => markAt (childPath base entry.1) entry.2 := by
  cases value with
  | array items => exact collectItems_eq base 0 items
  | object entries => exact collectEntries_eq base entries
  | _ => simp [Value.isPlainObject, Value.isArray] at container

/-- A container without members that takes a name as its only one. -/
structure Fresh (container : Value) (name : String) : Prop where
  absent : ownProperty container name = none
  single : ∀ value, value ≠ .hole → entriesOf (defineOwnValue container name value) = [(name, value)]
  kind : ∀ value, (defineOwnValue container name value).isPlainObject = true ∨
    (defineOwnValue container name value).isArray = true

theorem fresh_object (name : String) : Fresh (.object []) name where
  absent := rfl
  single := by
    intro value _
    have only : insertEntry [] name value = [(name, value)] := by
      rw [insertEntry]
      split <;> rfl
    exact only
  kind := fun _ => Or.inl rfl

theorem itemEntries_holes (start count : Nat) {value : Value} (present : value ≠ .hole) :
    itemEntries start (List.replicate count .hole ++ [value]) = [((start + count).repr, value)] := by
  induction count generalizing start with
  | zero => cases value <;> first | rfl | contradiction
  | succ count ih =>
    rw [List.replicate_succ, List.cons_append, itemEntries, ih]
    have same : start + 1 + count = start + (count + 1) := by omega
    rw [same]

theorem fresh_newContainer (name : String) : Fresh (newContainer name) name := by
  by_cases index : isArrayIndexKey name = true
  · have shape : newContainer name = .array [] := if_pos index
    cases spelled : arrayIndex name with
    | none => rw [isArrayIndexKey, spelled] at index; contradiction
    | some position =>
      rw [shape]
      have defined : ∀ value, defineOwnValue (.array []) name value =
          .array (List.replicate position .hole ++ [value]) := by
        intro value
        rw [defineOwnValue, if_pos index, spelled]
        rfl
      refine ⟨?_, ?_, ?_⟩
      · rw [← repr_of_arrayIndex spelled, ownProperty, ownItem,
          if_neg (repr_ne_length position), arrayIndex_repr]
        rfl
      · intro value present
        rw [defined, entriesOf, itemEntries_holes 0 position present, Nat.zero_add,
          repr_of_arrayIndex spelled]
      · intro value
        rw [defined]
        exact Or.inr rfl
  · have shape : newContainer name = .object [] := if_neg index
    rw [shape]
    exact fresh_object name

/-- The boundaries of a path of names. -/
def chainMarks (base : String) : List String → List Boundary
  | [] => []
  | [name] => [.whole (childPath base name)]
  | name :: nextName :: rest =>
    .partialContainer (childPath base name) ::
      chainMarks (childPath base name) (nextName :: rest)

theorem collectBoundary_setParts (base name : String) (rest : List String) {container : Value}
    (fresh : Fresh container name) :
    collectBoundary base (setParts container (name :: rest) (.bool true)) =
      chainMarks base (name :: rest) := by
  induction rest generalizing base name container with
  | nil =>
    rw [setParts, collectBoundary_eq base _ (fresh.kind _), fresh.single _ (by rintro ⟨⟩)]
    rfl
  | cons nextName rest ih =>
    have made : enter container name nextName = newContainer nextName := by
      rw [enter, fresh.absent]
    have next := fresh_newContainer nextName
    have below := ih (childPath base name) nextName next
    have inner : ∃ value, setParts (newContainer nextName) (nextName :: rest) (.bool true) =
        defineOwnValue (newContainer nextName) nextName value := by
      cases rest with
      | nil | cons third rest => exact ⟨_, rfl⟩
    obtain ⟨value, shape⟩ := inner
    have kind := next.kind value
    rw [← shape] at kind
    rw [setParts, made, collectBoundary_eq base _ (fresh.kind _)]
    generalize setParts (newContainer nextName) (nextName :: rest) (.bool true) = child at *
    have present : child ≠ .hole := by
      rintro rfl
      simp [Value.isPlainObject, Value.isArray] at kind
    rw [fresh.single child present, List.flatMap_cons, List.flatMap_nil, List.append_nil]
    rw [chainMarks, ← below]
    cases child <;> first | rfl | simp [Value.isPlainObject, Value.isArray] at kind

/-- A part of a path that `set` takes as it stands. -/
structure SafeName (part : String) : Prop extends IsName part where
  safe : unsafePathParts.contains part = false

variable {names : List String}

theorem setPath_joinDots (nonempty : names ≠ []) (plain : ∀ part ∈ names, SafeName part)
    (target value : Value) :
    setPath target (joinDots names) value = setParts target names value := by
  have tokens := toPath_joinDots nonempty fun part member => (plain part member).toIsName
  have allowed : ¬names.any unsafePathParts.contains = true := by
    intro found
    obtain ⟨part, member, listed⟩ := List.any_eq_true.mp found
    rw [(plain part member).safe] at listed
    contradiction
  rw [setPath, tokens, if_neg allowed]

theorem fieldBoundaries_joinDots (nonempty : names ≠ []) (plain : ∀ part ∈ names, SafeName part) :
    fieldBoundaries (joinDots names) = chainMarks "" names := by
  obtain ⟨name, rest, rfl⟩ := List.exists_cons_of_ne_nil nonempty
  rw [fieldBoundaries, setPath_joinDots nonempty plain]
  exact collectBoundary_setParts "" name rest (fresh_object name)

theorem joinDots_injective {first second : List String} (nonempty : first ≠ [])
    (nonempty' : second ≠ []) (plain : ∀ part ∈ first, SafeName part)
    (plain' : ∀ part ∈ second, SafeName part) (same : joinDots first = joinDots second) :
    first = second := by
  have tokens := toPath_joinDots nonempty fun part member => (plain part member).toIsName
  have tokens' := toPath_joinDots nonempty' fun part member => (plain' part member).toIsName
  rw [← tokens, same, tokens']

/-- The whole path is a field, each strict ancestor a partial container. -/
theorem mem_chainMarks (base : List String) (plain : ∀ part ∈ base, part ≠ "")
    (plain' : ∀ part ∈ names, part ≠ "") (mark : Boundary) :
    mark ∈ chainMarks (joinDots base) names ↔
      (names ≠ [] ∧ mark = .whole (joinDots (base ++ names))) ∨
        ∃ above rest, names = above ++ rest ∧ above ≠ [] ∧ rest ≠ [] ∧
          mark = .partialContainer (joinDots (base ++ above)) := by
  induction names generalizing base with
  | nil =>
    constructor
    · intro member
      cases member
    · rintro (⟨some, _⟩ | ⟨above, rest, split, some, _⟩)
      · contradiction
      · exact absurd (List.append_eq_nil_iff.mp split.symm).1 some
  | cons name rest ih =>
    have child := childPath_joinDots plain name
    have below : ∀ part ∈ base ++ [name], part ≠ "" := by
      intro part member
      rcases List.mem_append.mp member with member | member
      · exact plain part member
      · rw [List.mem_singleton.mp member]
        exact plain' name List.mem_cons_self
    cases rest with
    | nil =>
      rw [chainMarks, child, List.mem_singleton]
      constructor
      · intro same
        exact Or.inl ⟨by simp, same⟩
      · rintro (⟨_, same⟩ | ⟨above, rest, split, some, some', _⟩)
        · exact same
        · have sizes := congrArg List.length split
          have size := List.length_pos_iff.mpr some
          have size' := List.length_pos_iff.mpr some'
          rw [List.length_append, List.length_singleton] at sizes
          omega
    | cons next rest =>
      have inner := ih (base ++ [name]) below fun part member =>
        plain' part (List.mem_cons_of_mem _ member)
      rw [chainMarks, child, List.mem_cons, inner]
      constructor
      · rintro (same | ⟨_, same⟩ | ⟨above, rest', split, some, some', same⟩)
        · exact Or.inr ⟨[name], next :: rest, rfl, by simp, by simp, same⟩
        · refine Or.inl ⟨by simp, ?_⟩
          rw [same, List.append_assoc, List.singleton_append]
        · refine Or.inr ⟨name :: above, rest', by rw [split, List.cons_append], by simp,
            some', ?_⟩
          rw [same, List.append_assoc, List.singleton_append]
      · rintro (⟨_, same⟩ | ⟨above, rest', split, some, some', same⟩)
        · refine Or.inr (Or.inl ⟨by simp, ?_⟩)
          rw [same, List.append_assoc, List.singleton_append]
        · obtain ⟨first, above, rfl⟩ := List.exists_cons_of_ne_nil some
          rw [List.cons_append] at split
          obtain ⟨rfl, split'⟩ := List.cons.inj split
          by_cases last : above = []
          · subst last
            exact Or.inl same
          · refine Or.inr (Or.inr ⟨above, rest', split', last, some', ?_⟩)
            rw [same, List.append_assoc, List.singleton_append]

section Update

variable (fields : List (List String))

/-- A container that some field lies below. -/
def Open (base : List String) : Prop :=
  base = [] ∨ ∃ rest, rest ≠ [] ∧ base ++ rest ∈ fields

/-- Data in which every value lies at a field, or in containers above fields. -/
inductive Covered : List String → Value → Prop where
  | whole {base : List String} (value : Value) (listed : base ∈ fields) : Covered base value
  | container {base : List String} {value : Value}
      (kind : value.isPlainObject = true ∨ value.isArray = true) (entered : Open fields base)
      (distinct : ((entriesOf value).map Prod.fst).Nodup)
      (members : ∀ entry ∈ entriesOf value, Covered (base ++ [entry.1]) entry.2) :
      Covered base value

variable {fields}

/-- Parts of every field are names that `set` takes as they stand. -/
def SafeFields (fields : List (List String)) : Prop :=
  ∀ field ∈ fields, field ≠ [] ∧ ∀ part ∈ field, SafeName part

variable {base : List String} {value : Value}

theorem Covered.extends (covered : Covered fields base value) (nonempty : base ≠ []) :
    ∃ rest, base ++ rest ∈ fields := by
  cases covered with
  | whole _ listed => exact ⟨[], by rwa [List.append_nil]⟩
  | container _ entered =>
    rcases entered with empty | ⟨rest, _, listed⟩
    · contradiction
    · exact ⟨rest, listed⟩

theorem Covered.safe (covered : Covered fields base value) (plain : SafeFields fields) :
    ∀ part ∈ base, SafeName part := by
  intro part member
  obtain ⟨rest, listed⟩ := covered.extends (List.ne_nil_of_mem member)
  exact (plain _ listed).2 part (List.mem_append_left rest member)

theorem mem_boundaries_whole (plain : SafeFields fields) (nonempty : base ≠ [])
    (safe : ∀ part ∈ base, SafeName part) :
    Boundary.whole (joinDots base) ∈ boundaries (fields.map joinDots) ↔ base ∈ fields := by
  rw [boundaries, List.mem_flatMap]
  constructor
  · rintro ⟨text, member, marked⟩
    obtain ⟨field, listed, rfl⟩ := List.mem_map.mp member
    obtain ⟨some, names⟩ := plain field listed
    rw [fieldBoundaries_joinDots some names] at marked
    rcases (mem_chainMarks [] (by simp)
      (fun part member => (names part member).nonempty) _).mp marked with
      ⟨_, same⟩ | ⟨above, rest, _, _, _, same⟩
    · have whole := joinDots_injective nonempty some safe names (Boundary.whole.inj same)
      rwa [whole]
    · cases same
  · intro listed
    refine ⟨joinDots base, List.mem_map_of_mem listed, ?_⟩
    rw [fieldBoundaries_joinDots nonempty safe]
    exact (mem_chainMarks [] (by simp)
      (fun part member => (safe part member).nonempty) _).mpr (Or.inl ⟨nonempty, rfl⟩)

theorem mem_boundaries_partial (plain : SafeFields fields) {base rest : List String}
    (nonempty : base ≠ []) (further : rest ≠ []) (listed : base ++ rest ∈ fields) :
    Boundary.partialContainer (joinDots base) ∈ boundaries (fields.map joinDots) := by
  obtain ⟨some, names⟩ := plain _ listed
  rw [boundaries, List.mem_flatMap]
  refine ⟨joinDots (base ++ rest), List.mem_map_of_mem listed, ?_⟩
  rw [fieldBoundaries_joinDots some names]
  exact (mem_chainMarks [] (by simp) (fun part member => (names part member).nonempty)
    _).mpr (Or.inr ⟨base, rest, rfl, nonempty, further, rfl⟩)

/-- One member after the other. -/
def applyMembers (marks : List Boundary) (target : Value) (base : String) (members : Entries) :
    Value :=
  members.foldl (fun target entry => applyAt marks target (childPath base entry.1) entry.2) target

theorem applyEntries_eq (marks : List Boundary) (target : Value) (base : String)
    (entries : Entries) :
    applyEntries marks target base entries = applyMembers marks target base entries := by
  induction entries generalizing target with
  | nil => rfl
  | cons entry rest ih =>
    rw [applyMembers, List.foldl_cons, ← applyMembers, ← ih]
    exact applyEntries.eq_def marks target base (entry :: rest)

theorem applyItems_eq (marks : List Boundary) (target : Value) (base : String) (index : Nat)
    (items : List Value) : applyItems marks target base index items =
      applyMembers marks target base (itemEntries index items) := by
  induction items generalizing target index with
  | nil => rfl
  | cons item rest ih =>
    have unfolded := applyItems.eq_def marks target base index (item :: rest)
    by_cases hole : item = .hole
    · subst hole
      rw [itemEntries, ← ih]
      exact unfolded
    · rw [itemEntries, applyMembers, List.foldl_cons, ← applyMembers, ← ih]
      · cases item <;> first | exact unfolded | contradiction
      · exact hole

theorem applyAt_set {marks : List Boundary} {path : String}
    (ends : descends marks path value = false) (target : Value) :
    applyAt marks target path value = setPath target path value := by
  have same : ¬descends marks path value = true := by simp [ends]
  cases value <;> first | rfl | exact if_neg same

theorem applyAt_members {marks : List Boundary} {path : String}
    (goes : descends marks path value = true) (target : Value) :
    applyAt marks target path value = applyMembers marks target path (entriesOf value) := by
  cases value with
  | array items => exact (if_pos goes).trans (applyItems_eq marks target path 0 items)
  | object entries => exact (if_pos goes).trans (applyEntries_eq marks target path entries)
  | _ => simp [descends, Value.isPlainObject, Value.isArray] at goes

/-- Writes at fields at or below a path. -/
abbrev WrittenBelow (fields : List (List String)) (base : List String) : Value → Value → Prop :=
  Written setParts Admits fun path => path ∈ fields ∧ base <+: path

theorem WrittenBelow.admits {base path : List String} {target target' : Value}
    (run : WrittenBelow fields base target target') (apart : Unrelated base path)
    (admitted : Admits target path) : Admits target' path :=
  run.stillAdmits (fun _ _ _ value first second apart => first.setParts value second apart)
    (fun _ eligible => apart.below eligible.2 (List.prefix_refl path)) admitted

theorem writtenBelow_members (marks : List Boundary) (base : List String) {members : Entries}
    (distinct : (members.map Prod.fst).Nodup) (safe : ∀ part ∈ base, SafeName part)
    (one : ∀ entry ∈ members, ∀ target,
      (∀ field ∈ fields, base ++ [entry.1] <+: field → Admits target field) →
      WrittenBelow fields (base ++ [entry.1]) target
        (applyAt marks target (joinDots (base ++ [entry.1])) entry.2)) (target : Value)
    (admitted : ∀ field ∈ fields, base <+: field → Admits target field) :
    WrittenBelow fields base target (applyMembers marks target (joinDots base) members) := by
  have child (key : String) : childPath (joinDots base) key = joinDots (base ++ [key]) :=
    childPath_joinDots (fun part member => (safe part member).nonempty) key
  -- the fields below members that are still to come stay admissible
  suffices general : ∀ target, (∀ entry ∈ members, ∀ field ∈ fields,
      base ++ [entry.1] <+: field → Admits target field) →
      WrittenBelow fields base target (applyMembers marks target (joinDots base) members) by
    apply general
    intro entry _ field listed below
    exact admitted field listed ((List.prefix_append base [entry.1]).trans below)
  clear admitted target
  induction members with
  | nil =>
    intro target _
    exact Written.done target
  | cons entry rest ih =>
    intro target admitted
    rw [List.map_cons, List.nodup_cons] at distinct
    have first := one entry List.mem_cons_self target (admitted entry List.mem_cons_self)
    have widened : WrittenBelow fields base target
        (applyAt marks target (joinDots (base ++ [entry.1])) entry.2) :=
      first.mono fun path eligible =>
        ⟨eligible.1, (List.prefix_append base [entry.1]).trans eligible.2⟩
    rw [applyMembers, List.foldl_cons, ← applyMembers, child]
    refine widened.trans (ih distinct.2 (fun other member => one other
      (List.mem_cons_of_mem _ member)) _ ?_)
    intro other member field listed below
    have held := admitted other (List.mem_cons_of_mem _ member) field listed below
    have keys : entry.1 ≠ other.1 := by
      intro same
      apply distinct.1
      rw [same]
      exact List.mem_map_of_mem member
    have apart : Unrelated (base ++ [entry.1]) field :=
      (unrelated_append base (unrelated_of_ne keys [] [])).below (List.prefix_refl _) below
    exact first.admits apart held

/-- At a field of its own the update replaces the value. -/
theorem writtenBelow_whole (plain : SafeFields fields) (nonempty : base ≠ [])
    (listed : base ∈ fields) (target : Value)
    (admitted : ∀ field ∈ fields, base <+: field → Admits target field) :
    WrittenBelow fields base target
      (applyAt (boundaries (fields.map joinDots)) target (joinDots base) value) := by
  have safe := (plain base listed).2
  have marked := (mem_boundaries_whole plain nonempty safe).mpr listed
  have ends : descends (boundaries (fields.map joinDots)) (joinDots base) value = false := by
    simp [descends, marked]
  rw [applyAt_set ends, setPath_joinDots nonempty safe]
  exact Written.single value (admitted base listed (List.prefix_refl base))
    ⟨listed, List.prefix_refl base⟩

/-- An update by covered data writes at fields only. -/
theorem Covered.written (plain : SafeFields fields) (covered : Covered fields base value)
    (nonempty : base ≠ []) (target : Value)
    (admitted : ∀ field ∈ fields, base <+: field → Admits target field) :
    WrittenBelow fields base target
      (applyAt (boundaries (fields.map joinDots)) target (joinDots base) value) := by
  induction covered generalizing target with
  | @whole base value listed =>
    exact writtenBelow_whole plain nonempty listed target admitted
  | @container base value kind entered distinct members ih =>
    have safe := (Covered.container kind entered distinct members).safe plain
    by_cases listed : base ∈ fields
    · exact writtenBelow_whole plain nonempty listed target admitted
    · have notWhole : Boundary.whole (joinDots base) ∉ boundaries (fields.map joinDots) :=
        fun marked => listed ((mem_boundaries_whole plain nonempty safe).mp marked)
      obtain ⟨rest, further, extended⟩ := entered.resolve_left nonempty
      have marked := mem_boundaries_partial plain nonempty further extended
      have goes : descends (boundaries (fields.map joinDots)) (joinDots base) value = true := by
        simp [descends, marked, notWhole, kind]
      rw [applyAt_members goes]
      exact writtenBelow_members _ base distinct safe
        (fun entry member target held => ih entry member (by simp) target held) target admitted

/-- An update by covered data writes at fields only. -/
theorem written_applyUpdate (plain : SafeFields fields) {entries : Entries} {target : Value}
    (covered : Covered fields [] (.object entries))
    (admitted : ∀ field ∈ fields, Admits target field) :
    Written setParts Admits (· ∈ fields) target
      (applyUpdate target (.object entries) (fields.map joinDots)) := by
  cases covered with
  | whole _ listed => exact absurd rfl (plain [] listed).1
  | container kind entered distinct members =>
    rw [applyUpdate, applyEntries_eq]
    have run := writtenBelow_members (boundaries (fields.map joinDots)) [] distinct (by simp)
      (fun entry member target held => (members entry member).written plain (by simp) target held)
      target (fun field listed _ => admitted field listed)
    exact run.mono fun path eligible => eligible.1

theorem open_of_listed {base rest : List String} {part : String}
    (listed : base ++ part :: rest ∈ fields) : Open fields base :=
  Or.inr ⟨part :: rest, by simp, listed⟩

theorem covered_newContainer (entered : Open fields base) (name : String) :
    Covered fields base (newContainer name) := by
  by_cases index : isArrayIndexKey name = true
  · have shape : newContainer name = .array [] := if_pos index
    rw [shape]
    exact Covered.container (Or.inr rfl) entered List.nodup_nil (by simp [entriesOf, itemEntries])
  · have shape : newContainer name = .object [] := if_neg index
    rw [shape]
    exact Covered.container (Or.inl rfl) entered List.nodup_nil (by simp [entriesOf])

theorem Covered.define {container : Value}
    (kind : container.isPlainObject = true ∨ container.isArray = true)
    (entered : Open fields base) (distinct : ((entriesOf container).map Prod.fst).Nodup)
    (members : ∀ entry ∈ entriesOf container, Covered fields (base ++ [entry.1]) entry.2)
    {key : String} (covered : Covered fields (base ++ [key]) value) :
    Covered fields base (defineOwnValue container key value) := by
  refine Covered.container (defineOwnValue_kind key value kind) entered
    (defineOwnValue_distinct key value kind distinct) ?_
  intro entry member
  rcases mem_entriesOf_defineOwnValue kind member with rfl | stored
  · exact covered
  · exact members entry stored

/-- Writing a field keeps data covered. -/
theorem Covered.setParts {base parts : List String} {container : Value}
    (covered : Covered fields base container) (nonempty : parts ≠ [])
    (listed : base ++ parts ∈ fields) (value : Value) :
    Covered fields base (setParts container parts value) := by
  induction parts generalizing base container with
  | nil => contradiction
  | cons key rest ih =>
    cases covered with
    | whole _ listed' => exact Covered.whole _ listed'
    | container kind entered distinct members =>
      cases rest with
      | nil => exact Covered.define kind entered distinct members (Covered.whole value listed)
      | cons nextKey rest =>
        rw [Utils.setParts]
        have listed' : (base ++ [key]) ++ nextKey :: rest ∈ fields := by
          rwa [List.append_assoc, List.singleton_append]
        apply Covered.define kind entered distinct members
        refine ih ?_ (by simp) listed'
        rcases enter_cases container key nextKey with
          ⟨existing, found, object, same⟩ | same
        · rw [same]
          exact members _ (mem_entriesOf_of_own kind found object)
        · rw [same]
          exact covered_newContainer (open_of_listed listed') nextKey

theorem covered_empty : Covered fields [] (.object []) :=
  Covered.container (Or.inl rfl) (Or.inl rfl) List.nodup_nil (by simp [entriesOf])

end Update

end WebTsToolkit.AccessRouter.ApplyUpdate
