import WebTsToolkit.AccessRouter.InputAdmission
import WebTsToolkit.Library.Outcome

set_option autoImplicit false

namespace WebTsToolkit.AccessRouter.InputAdmission

open Js Utils Library FieldCatalog ApplyUpdate

mutual

/-- Plain stored data: no container but arrays, plain objects and native leaves. -/
def Plain : Value → Prop
  | .array items => PlainItems items
  | .object entries => PlainEntries entries
  | .classed (.native _) _ => True
  | .classed _ _ => False
  | _ => True

def PlainItems : List Value → Prop
  | [] => True
  | item :: rest => Plain item ∧ PlainItems rest

def PlainEntries : List (String × Value) → Prop
  | [] => True
  | (_, value) :: rest => Plain value ∧ PlainEntries rest

end

theorem plainItems_iff (items : List Value) : PlainItems items ↔ ∀ item ∈ items, Plain item := by
  induction items with
  | nil => simp [PlainItems]
  | cons item rest ih => simp [PlainItems, ih]

theorem plainEntries_iff (entries : Entries) :
    PlainEntries entries ↔ ∀ entry ∈ entries, Plain entry.2 := by
  induction entries with
  | nil => simp [PlainEntries]
  | cons entry rest ih => simp [PlainEntries, ih]

theorem storedValue_plain {value : Value} (plain : Plain value) : storedValue value = value := by
  cases value with
  | classed kind fields => cases kind <;> first | rfl | exact plain.elim
  | _ => rfl

theorem plain_storedChild {current : Value} (plain : Plain current) (key : String) :
    Plain (storedChild current key) := by
  cases current with
  | object entries =>
    rw [Plain, plainEntries_iff] at plain
    rw [storedChild]
    cases found : getOwn entries key with
    | some value => exact plain _ (mem_of_getOwn found)
    | none =>
      rw [Option.getD_none, inheritedProperty]
      split
      · trivial
      · split <;> trivial
  | _ => trivial

/-- A part of a grant: a name that `set` takes as it stands, and no array index. -/
structure GrantName (part : String) : Prop extends SafeName part where
  notIndex : isArrayIndexKey part = false

theorem grantName_of_safeSegment {part : String} (safe : safeSegment part = true)
    (piece : IsSegment part) : GrantName part := by
  simp only [safeSegment, Bool.and_eq_true, Bool.not_eq_true', bne_iff_ne] at safe
  obtain ⟨⟨⟨⟨⟨⟨⟨⟨nonempty, _⟩, reserved⟩, _⟩, _⟩, noOpen⟩, noClose⟩, digits⟩, _⟩ := safe
  refine ⟨⟨⟨nonempty, ?_⟩, ?_⟩, ?_⟩
  · intro c member
    have notDot : c ≠ '.' := by
      rintro rfl
      exact piece member
    have notOpen : c ≠ '[' := by
      rintro rfl
      simp [member] at noOpen
    have notClose : c ≠ ']' := by
      rintro rfl
      simp [member] at noClose
    simp [isBareChar, isBracket, notDot, notOpen, notClose]
  · simp only [List.contains_eq_mem, List.mem_cons, List.not_mem_nil, or_false,
      decide_eq_false_iff_not, not_or] at reserved
    simp [unsafePathParts, reserved]
  · rw [isArrayIndexKey]
    cases spelled : arrayIndex part with
    | none => rfl
    | some index =>
      have same := repr_of_arrayIndex spelled
      have all : part.toList.all isDigit = true := by
        rw [← same, List.all_eq_true]
        intro c member
        exact isDigit_of_mem_repr member
      rw [all] at digits
      contradiction

theorem safeName_repr (index : Nat) : SafeName index.repr where
  toIsName := isName_repr index
  safe := by
    have start : ∀ c ∈ index.repr.toList, isDigit c = true := fun c member =>
      isDigit_of_mem_repr member
    by_contra listed
    have member : index.repr ∈ unsafePathParts := by simpa using listed
    simp only [unsafePathParts, List.mem_cons, List.not_mem_nil, or_false] at member
    rcases member with same | same | same
    · rw [same] at start
      exact absurd (start '_' (by decide)) (by decide)
    · rw [same] at start
      exact absurd (start 'c' (by decide)) (by decide)
    · rw [same] at start
      exact absurd (start 'p' (by decide)) (by decide)

/-- The stored containers let a path through that is not empty, or let it start where there is
no value yet. -/
def Reaches (current : Value) (path : List String) : Prop :=
  match current with
  | .array _ | .object _ => Admits current path
  | .undefined | .null =>
    Admits (.object []) path ∧ ∀ name ∈ path.head?, isArrayIndexKey name = false
  | _ => False

/-- Paths that go on from a point of the stored document. -/
structure Continues (current : Value) (tail : List String) : Prop where
  names : ∀ part ∈ tail, SafeName part
  reaches : tail ≠ [] → Reaches current tail

theorem inheritedProperty_cases {key : String} (safe : unsafePathParts.contains key = false) :
    inheritedProperty key = .undefined ∨ inheritedProperty key = .callable 0 := by
  have notProto : key ≠ "__proto__" := by
    rintro rfl
    exact absurd safe (by decide)
  rw [inheritedProperty, if_neg notProto]
  split
  · exact Or.inr rfl
  · exact Or.inl rfl

theorem newContainer_named {nextKey : String} (notIndex : isArrayIndexKey nextKey = false) :
    newContainer nextKey = .object [] := by
  rw [newContainer, notIndex]
  rfl

variable {entries : Entries} {catalog : AuthorizationFieldCatalog}

/-- Where no value is stored yet, the write makes a record. -/
theorem admits_made {key nextKey : String} {rest : List String}
    (missing : ∀ existing, getOwn entries key = some existing → isObject existing = false)
    (below : Admits (.object []) (nextKey :: rest)) (notIndex : isArrayIndexKey nextKey = false) :
    Admits (.object entries) (key :: nextKey :: rest) := by
  apply Admits.field
  · intro _
    exact notIndex
  · rcases enter_cases (.object entries) key nextKey with ⟨existing, found, object, _⟩ | same
    · rw [missing existing found] at object
      contradiction
    · rwa [same, newContainer_named notIndex]

theorem admits_stored {key nextKey : String} {rest : List String} {existing : Value}
    (found : getOwn entries key = some existing) (below : Admits existing (nextKey :: rest)) :
    Admits (.object entries) (key :: nextKey :: rest) := by
  apply Admits.field
  · intro missing
    have object := missing existing found
    rw [below.isObject] at object
    contradiction
  · have entered : enter (.object entries) key nextKey = existing := by
      rw [enter, ownProperty, found]
      exact if_pos below.isObject
    rwa [entered]

/-- A member of a record, or of a record still to be made, is entered under its name. -/
theorem reaches_member {current : Value} {key : String} {tail : List String}
    (name : GrantName key) (kind : current.isNullish = true ∨ current.isPlainObject = true)
    (below : Continues (storedChild current key) tail) : Reaches current (key :: tail) := by
  have notIndex : ∀ first ∈ (key :: tail).head?, isArrayIndexKey first = false := by
    intro first same
    rw [List.head?_cons, Option.mem_some_iff] at same
    rw [← same]
    exact name.notIndex
  cases tail with
  | nil =>
    cases current with
    | object entries => exact Admits.last entries key
    | undefined | null => exact ⟨Admits.last [] key, notIndex⟩
    | _ => simp [Value.isNullish, Value.isPlainObject] at kind
  | cons nextKey rest =>
    have reached := below.reaches (by simp)
    cases current with
    | object entries =>
      rw [storedChild] at reached
      cases found : getOwn entries key with
      | none =>
        rw [found, Option.getD_none] at reached
        rcases inheritedProperty_cases name.safe with same | same
        · rw [same] at reached
          exact admits_made (by simp [found]) reached.1 (reached.2 nextKey rfl)
        · rw [same] at reached
          exact reached.elim
      | some existing =>
        rw [found, Option.getD_some] at reached
        cases existing with
        | array items | object fields => exact admits_stored found reached
        | undefined | null =>
          exact admits_made (by simp [found, isObject]) reached.1 (reached.2 nextKey rfl)
        | _ => exact reached.elim
    | undefined | null =>
      exact ⟨admits_made (by simp [getOwn]) reached.1 (reached.2 nextKey rfl), notIndex⟩
    | _ => simp [Value.isNullish, Value.isPlainObject] at kind

section Expand

variable {descend : Value → Value → List String → Expansion} {key : String}

/-- What the expansion of a node may produce. -/
def Sound (current : Value) (concrete : List String) (paths : List (List String)) : Prop :=
  ∀ path ∈ paths, ∃ tail, path = concrete ++ tail ∧ tail ≠ [] ∧ Continues current tail

theorem expandItems_hole (current : Value) (stored : List Value) (index : Nat)
    (concrete : List String) (rest : List Value) :
    expandItems descend key (current :: stored) index concrete (.hole :: rest) =
      expandItems descend key stored (index + 1) concrete rest :=
  expandItems.eq_def descend key (current :: stored) index concrete (.hole :: rest)

theorem expandItems_cons (current : Value) (stored : List Value) (index : Nat)
    (concrete : List String) {item : Value} (present : item ≠ .hole) (rest : List Value) :
    expandItems descend key (current :: stored) index concrete (item :: rest) =
      if current.isPlainObject || current.isArray then do
        let paths ← expandNode descend key false current (concrete ++ [index.repr]) item
        let others ← expandItems descend key stored (index + 1) concrete rest
        return paths ++ others
      else expandItems descend key stored (index + 1) concrete rest := by
  have unfolded := expandItems.eq_def descend key (current :: stored) index concrete (item :: rest)
  cases item <;> first | exact unfolded | contradiction

variable {current : Value} {paths : List (List String)} {concrete : List String}

theorem admits_of_reaches {path : List String} (reaches : Reaches current path)
    (kind : (current.isPlainObject || current.isArray) = true) : Admits current path := by
  cases current <;> first | exact reaches | simp [Value.isPlainObject, Value.isArray] at kind

theorem expandItems_sound {items : List Value}
    (nodes : ∀ item ∈ items, ∀ (schemaArray : Bool) (current : Value) (concrete : List String)
      (paths : List (List String)), expandNode descend key schemaArray current concrete item =
        .ok paths → Plain current → Sound current concrete paths) {stored : List Value}
    {index : Nat} (plain : ∀ item ∈ stored, Plain item)
    (expanded : expandItems descend key stored index concrete items = .ok paths) :
    ∀ path ∈ paths, ∃ (position : Nat) (current : Value) (tail : List String),
      stored[position]? = some current ∧ path = concrete ++ (index + position).repr :: tail ∧
        tail ≠ [] ∧ (∀ part ∈ tail, SafeName part) ∧ Admits current tail := by
  induction items generalizing stored index paths with
  | nil =>
    rw [expandItems] at expanded
    cases expanded
    simp
  | cons item rest ih =>
    cases stored with
    | nil =>
      rw [expandItems] at expanded
      cases expanded
      simp
    | cons current stored =>
      have later : ∀ others, expandItems descend key stored (index + 1) concrete rest =
          .ok others → ∀ path ∈ others, ∃ (position : Nat) (found : Value)
            (tail : List String), (current :: stored)[position]? = some found ∧
            path = concrete ++ (index + position).repr :: tail ∧ tail ≠ [] ∧
            (∀ part ∈ tail, SafeName part) ∧ Admits found tail := by
        intro others same path member
        obtain ⟨position, found, tail, listed, shape, some, names, admits⟩ :=
          ih (fun item member => nodes item (List.mem_cons_of_mem _ member))
            (fun item member => plain item (List.mem_cons_of_mem _ member)) same path member
        refine ⟨position + 1, found, tail, listed, ?_, some, names, admits⟩
        have offset : index + 1 + position = index + (position + 1) := by omega
        rw [shape, offset]
      by_cases hole : item = .hole
      · subst hole
        rw [expandItems_hole] at expanded
        exact later paths expanded
      · rw [expandItems_cons current stored index concrete hole] at expanded
        split at expanded
        · next kind =>
          obtain ⟨entered, here, expanded⟩ := bind_eq_ok expanded
          obtain ⟨others, there, expanded⟩ := bind_eq_ok expanded
          cases expanded
          intro path member
          rcases List.mem_append.mp member with member | member
          · obtain ⟨tail, shape, some, below⟩ := nodes item List.mem_cons_self false current
              (concrete ++ [index.repr]) entered here (plain current List.mem_cons_self)
              path member
            refine ⟨0, current, tail, rfl, ?_, some, below.names,
              admits_of_reaches (below.reaches some) kind⟩
            rw [shape, List.append_assoc, List.singleton_append, Nat.add_zero]
          · exact later others there path member
        · exact later paths expanded

/-- A node that is no array is a record with the named member, or yields nothing. -/
theorem expandNode_record {schemaArray : Bool} {value : Value} (plain : Plain current)
    (notArray : ∀ items, value ≠ .array items)
    (expanded : expandNode descend key schemaArray current concrete value = .ok paths) :
    paths = [] ∨ (current.isNullish = true ∨ current.isPlainObject = true) ∧
      ∃ child, descend child (storedChild current key) (concrete ++ [key]) = .ok paths := by
  rw [expandNode_of_not_array notArray] at expanded
  obtain ⟨value, _, expanded⟩ := bind_eq_ok expanded
  rw [storedValue_plain plain] at expanded
  dsimp only at expanded
  split at expanded
  · cases expanded
    exact Or.inl rfl
  · split at expanded
    · split at expanded
      · cases expanded
        exact Or.inl rfl
      · next kind =>
        have kind : current.isNullish = true ∨ current.isPlainObject = true := by
          simpa [Classical.or_iff_not_imp_left] using kind
        split at expanded
        · next child _ => exact Or.inr ⟨kind, child, expanded⟩
        · cases expanded
          exact Or.inl rfl
    · cases expanded
      exact Or.inl rfl

theorem expandRecord_sound (name : GrantName key)
    (below : ∀ child current concrete paths, descend child current concrete = .ok paths →
      Plain current → ∀ path ∈ paths, ∃ tail, path = concrete ++ tail ∧ Continues current tail)
    {value : Value} {schemaArray : Bool} (notArray : ∀ items, value ≠ .array items)
    (expanded : expandNode descend key schemaArray current concrete value = .ok paths)
    (plain : Plain current) : Sound current concrete paths := by
  intro path member
  rcases expandNode_record plain notArray expanded with none | ⟨kind, child, entered⟩
  · rw [none] at member
    cases member
  · obtain ⟨tail, shape, continues⟩ := below child (storedChild current key) (concrete ++ [key])
      paths entered (plain_storedChild plain key) path member
    refine ⟨key :: tail, ?_, by simp, ?_, ?_⟩
    · rw [shape, List.append_assoc, List.singleton_append]
    · intro part within
      rcases List.mem_cons.mp within with rfl | within
      · exact name.toSafeName
      · exact continues.names part within
    · intro _
      exact reaches_member name kind continues

/-- The paths of a node lead through stored containers. -/
theorem expandNode_sound (name : GrantName key)
    (below : ∀ child current concrete paths, descend child current concrete = .ok paths →
      Plain current → ∀ path ∈ paths, ∃ tail, path = concrete ++ tail ∧ Continues current tail)
    (value : Value) (schemaArray : Bool) (current : Value) (concrete : List String)
    (paths : List (List String)) (expanded : expandNode descend key schemaArray current concrete
      value = .ok paths) (plain : Plain current) : Sound current concrete paths := by
  induction value using Value.induction generalizing schemaArray current concrete paths with
  | array items ih =>
    have unfolded := expandNode.eq_def descend key schemaArray current concrete (.array items)
    rw [expanded] at unfolded
    dsimp only at unfolded
    rw [storedValue_plain plain] at unfolded
    split at unfolded
    · next stored =>
      rw [Plain, plainItems_iff] at plain
      intro path member
      obtain ⟨position, found, tail, listed, shape, some, names, admits⟩ :=
        expandItems_sound ih plain unfolded.symm path member
      rw [Nat.zero_add] at shape
      refine ⟨position.repr :: tail, shape, by simp, ?_, ?_⟩
      · intro part within
        rcases List.mem_cons.mp within with rfl | within
        · exact safeName_repr position
        · exact names part within
      · intro _
        obtain ⟨first, rest, rfl⟩ := List.exists_cons_of_ne_nil some
        exact Admits.item listed admits
    · cases unfolded
      intro path member
      cases member
  | object entries _ => exact expandRecord_sound name below (by simp) expanded plain
  | classed kind fields _ => exact expandRecord_sound name below (by simp) expanded plain
  | leaf value isLeaf =>
    refine expandRecord_sound name below ?_ expanded plain
    rintro items rfl
    cases isLeaf

end Expand

theorem expand_sound {scope : String} {parts : List String}
    (names : ∀ part ∈ parts, GrantName part) (logical : List String) (value current : Value)
    (concrete : List String) (paths : List (List String))
    (expanded : expand catalog scope parts logical value current concrete = .ok paths)
    (plain : Plain current) :
    ∀ path ∈ paths, ∃ tail, path = concrete ++ tail ∧ Continues current tail ∧
      (parts ≠ [] → tail ≠ []) := by
  induction parts generalizing logical value current concrete paths with
  | nil =>
    rw [expand] at expanded
    obtain ⟨_, _, expanded⟩ := bind_eq_ok expanded
    cases expanded
    intro path member
    refine ⟨[], ?_, ⟨by simp, by simp⟩, by simp⟩
    rw [List.append_nil, List.mem_singleton.mp member]
  | cons key rest ih =>
    rw [expand] at expanded
    have sound := expandNode_sound (names key List.mem_cons_self)
      (fun child current concrete paths entered plain path member => by
        obtain ⟨tail, shape, continues, _⟩ := ih
          (fun part member => names part (List.mem_cons_of_mem _ member)) _ child current concrete
          paths entered plain path member
        exact ⟨tail, shape, continues⟩)
      value _ current concrete paths expanded plain
    intro path member
    obtain ⟨tail, shape, some, continues⟩ := sound path member
    exact ⟨tail, shape, continues, fun _ => some⟩

theorem segments_relative {path scope : String}
    (below : startsWith path (scope ++ ".") = true) :
    segments (sliceFrom path (scope.toList.length + 1)) ⊆ segments path := by
  rw [startsWith, List.isPrefixOf_iff_prefix, String.toList_append] at below
  obtain ⟨rest, same⟩ := below
  have dot : ".".toList = ['.'] := rfl
  rw [dot] at same
  have sliced : path.toList.drop (scope.toList.length + 1) = rest := by
    rw [← same]
    have size : (scope.toList ++ ['.']).length = scope.toList.length + 1 := by
      rw [List.length_append, List.length_singleton]
    rw [← size, List.drop_left]
  intro part member
  rw [segments, sliceFrom, String.toList_ofList, sliced] at member
  rw [segments, ← same, List.append_assoc, List.singleton_append,
    splitOn_append_separator, List.map_append]
  exact List.mem_append_right _ member

theorem grantName_of_mem {path : String} (granted : isCatalogInputPath catalog path = true) :
    ∀ part ∈ segments path, GrantName part := by
  intro part member
  simp only [isCatalogInputPath, isSafeInputPath, isSafeOutputPath, Bool.and_eq_true] at granted
  have safe := List.all_eq_true.mp granted.1.1.1.1.1.1 part member
  exact grantName_of_safeSegment safe (isSegment_of_mem member)

/-- A field that the grants lead to in the stored document. -/
structure Elevated (existing : Value) (field : String) : Prop where
  names : ∀ part ∈ segments field, SafeName part
  admits : Admits existing (segments field)

theorem elevated_of_sound {tail : List String} (some : tail ≠ [])
    (continues : Continues (.object entries) tail) :
    Elevated (.object entries) (joinDots tail) := by
  have whole : segments (joinDots tail) = tail :=
    segments_joinDots some fun part member => (continues.names part member).isSegment
  refine ⟨?_, ?_⟩
  · rw [whole]
    exact continues.names
  · rw [whole]
    exact continues.reaches some

theorem expandGrants_elevated {scope : String} {data : Value} {existing : Entries}
    (plain : Plain (.object existing)) {grants : List String}
    (granted : ∀ path ∈ grants, isCatalogInputPath catalog path = true) {elevated : List String}
    (expanded : expandGrants catalog scope data (.object existing) grants = .ok elevated) :
    ∀ field ∈ elevated, Elevated (.object existing) field := by
  induction grants generalizing elevated with
  | nil =>
    rw [expandGrants] at expanded
    cases expanded
    simp
  | cons path rest ih =>
    have others : ∀ {later : List String},
        expandGrants catalog scope data (.object existing) rest = .ok later →
          ∀ field ∈ later, Elevated (.object existing) field :=
      ih fun path member => granted path (List.mem_cons_of_mem _ member)
    rw [expandGrants] at expanded
    split at expanded
    · exact others expanded
    · next within =>
      obtain ⟨paths, here, expanded⟩ := bind_eq_ok expanded
      obtain ⟨later, there, expanded⟩ := bind_eq_ok expanded
      cases expanded
      have names : ∀ part ∈ segments
          (if scope = "" then path else sliceFrom path (scope.toList.length + 1)),
          GrantName part := by
        intro part member
        apply grantName_of_mem (granted path List.mem_cons_self)
        split at member
        · exact member
        · next outer =>
          apply segments_relative _ member
          simpa [outer] using within
      intro field member
      rcases List.mem_append.mp member with member | member
      · obtain ⟨tail, listed, rfl⟩ := List.mem_map.mp member
        obtain ⟨tail', shape, continues, some⟩ := expand_sound names [] data _ [] paths here
          plain tail listed
        rw [List.nil_append] at shape
        subst shape
        exact elevated_of_sound (some (segments_ne_nil _)) continues
      · exact others there field member

/-- Data for the selected fields is covered by the allowed ones. -/
theorem selectFields_covered {args : AdmissionArgs} {data : Value} {requestPaths : List String}
    {allowed : List (List String)} (plain : SafeFields allowed) {fields : List String}
    (listed : ∀ field ∈ fields, segments field ∈ allowed)
    (covered : Covered allowed [] (.object entries)) {selected : List String} {result : Value}
    (selects : selectFields args data requestPaths (.object entries) selected fields =
      .ok result) :
    ∃ entries', result = .object entries' ∧ Covered allowed [] (.object entries') := by
  induction fields generalizing entries selected with
  | nil =>
    rw [selectFields] at selects
    cases selects
    exact ⟨entries, rfl, covered⟩
  | cons field rest ih =>
    have others : ∀ {entries : Entries} {selected : List String},
        Covered allowed [] (.object entries) →
        selectFields args data requestPaths (.object entries) selected rest = .ok result →
        ∃ entries', result = .object entries' ∧ Covered allowed [] (.object entries') :=
      fun covered selects => ih (fun field member => listed field
        (List.mem_cons_of_mem _ member)) covered selects
    rw [selectFields] at selects
    split at selects
    · exact others covered selects
    · dsimp only at selects
      split at selects
      · exact others covered selects
      · obtain ⟨supplied, _, selects⟩ := bind_eq_ok selects
        split at selects
        · exact others covered selects
        · obtain ⟨copied, _, selects⟩ := bind_eq_ok selects
          have here := listed field List.mem_cons_self
          obtain ⟨some, names⟩ := plain _ here
          have written : setPath (.object entries) field copied =
              setParts (.object entries) (segments field) copied := by
            have whole := setPath_joinDots some names (.object entries) copied
            rwa [joinDots_segments] at whole
          rw [written] at selects
          have kept := covered.setParts some (by rwa [List.nil_append]) copied
          have shape : ∃ entries', setParts (.object entries) (segments field) copied =
              .object entries' := by
            cases segments field with
            | nil => exact ⟨entries, rfl⟩
            | cons key rest =>
              cases rest with
              | nil | cons nextKey rest => exact ⟨_, rfl⟩
          obtain ⟨entries', same⟩ := shape
          rw [same] at selects kept
          exact others kept selects

/-- A grant of the mode is an input path of the catalog, as policies are normalized. -/
def Normalized (inputFields : FieldAuthorization) (catalog : AuthorizationFieldCatalog) : Prop :=
  ∀ paths, inputFields = .grant paths → ∀ path ∈ paths, isCatalogInputPath catalog path = true

theorem inputGrants_normalized {inputFields : FieldAuthorization}
    (normalized : Normalized inputFields catalog) (scope : String) :
    ∀ path ∈ inputGrants inputFields catalog scope, isCatalogInputPath catalog path = true := by
  intro path member
  cases inputFields with
  | grant paths => exact normalized paths rfl path member
  | unrestricted =>
    have kept := (List.mem_filter.mp member).2
    rw [Bool.and_eq_true] at kept
    exact kept.2
  | request => cases member

/-- Admission without request fields: the fields lead through stored containers, and the
data lies at the fields. -/
theorem admitModelInput_sound {args : AdmissionArgs} {existing : Entries}
    (stored : args.existing = .object existing) (plain : Plain (.object existing))
    (normalized : Normalized args.inputFields args.catalog) (noRequests : args.requestFields = [])
    {admitted : Admitted} (admits : admitModelInput args = .ok admitted) :
    (∀ field ∈ admitted.allowedFields, Elevated (.object existing) field) ∧
      ∃ entries, admitted.allowedData = .object entries ∧
        Covered (admitted.allowedFields.map segments) [] (.object entries) := by
  rw [admitModelInput] at admits
  obtain ⟨data, _, admits⟩ := bind_eq_ok admits
  dsimp only at admits
  obtain ⟨elevated, expanded, admits⟩ := bind_eq_ok admits
  obtain ⟨allowedData, selects, admits⟩ := bind_eq_ok admits
  cases admits
  have none : requestBoundaries args.requestFields = [] := by
    rw [noRequests]
    rfl
  rw [none, List.nil_append] at selects ⊢
  rw [stored] at expanded
  have sound := expandGrants_elevated plain
    (inputGrants_normalized normalized args.scopePath) expanded
  have fields : ∀ field ∈ elevated.eraseDups, Elevated (.object existing) field := by
    intro field member
    exact sound field (List.mem_eraseDups.mp member)
  refine ⟨fields, ?_⟩
  have safe : SafeFields (elevated.eraseDups.map segments) := by
    intro names member
    obtain ⟨field, listed, rfl⟩ := List.mem_map.mp member
    exact ⟨segments_ne_nil field, (fields field listed).names⟩
  refine selectFields_covered safe ?_ covered_empty selects
  intro field member
  rw [List.mem_insertionSort] at member
  exact List.mem_map_of_mem member

/-- What an admitted update does to the stored document: paths unrelated to all allowed fields
read as before, and an array that no field was granted at or above keeps its length and every
item that is neither a record nor an array. -/
theorem admitted_update_frame (args : AdmissionArgs) (existing : Entries) (admitted : Admitted)
    (stored : args.existing = .object existing) (plain : Plain (.object existing))
    (normalized : Normalized args.inputFields args.catalog) (noRequests : args.requestFields = [])
    (admits : admitModelInput args = .ok admitted) :
    let updated := applyUpdate (.object existing) admitted.allowedData admitted.allowedFields
    (∀ path, (∀ field ∈ admitted.allowedFields, Unrelated (segments field) path) →
      readOwn updated path = readOwn (.object existing) path) ∧
    ∀ path items, readOwn (.object existing) path = some (.array items) →
      (∀ field ∈ admitted.allowedFields, ¬segments field <+: path) →
      ∃ items', readOwn updated path = some (.array items') ∧ KeepsItems items items' := by
  obtain ⟨fields, entries, shape, covered⟩ :=
    admitModelInput_sound stored plain normalized noRequests admits
  have safe : SafeFields (admitted.allowedFields.map segments) := by
    intro names member
    obtain ⟨field, listed, rfl⟩ := List.mem_map.mp member
    exact ⟨segments_ne_nil field, (fields field listed).names⟩
  have admissible : ∀ names ∈ admitted.allowedFields.map segments,
      Admits (.object existing) names := by
    intro names member
    obtain ⟨field, listed, rfl⟩ := List.mem_map.mp member
    exact (fields field listed).admits
  have texts : (admitted.allowedFields.map segments).map joinDots = admitted.allowedFields := by
    rw [List.map_map]
    have same : joinDots ∘ segments = id := by
      funext path
      exact joinDots_segments path
    rw [same, List.map_id]
  have run := written_applyUpdate safe covered admissible
  rw [texts, ← shape] at run
  refine ⟨?_, ?_⟩
  · intro path apart
    refine Written.keeps (fun store store' => readOwn store' path = readOwn store path)
      (fun _ => rfl) (fun _ _ _ first second => second.trans first) ?_ run
    intro store names value admits listed
    obtain ⟨field, member, rfl⟩ := List.mem_map.mp listed
    exact readOwn_setParts admits value (apart field member)
  · intro path items found outside
    refine Written.keeps (KeepsArray path) (KeepsArray.refl path)
      (fun _ _ _ first second => first.trans second) ?_ run items found
    intro store names value admits listed
    obtain ⟨field, member, rfl⟩ := List.mem_map.mp listed
    exact keepsArray_setParts admits value (outside field member)

def contactsCatalog : AuthorizationFieldCatalog where
  paths := ["contacts", "contacts.email", "contacts.note", "profile", "profile.city"]
  persistedPaths := none
  arrayPaths := ["contacts"]
  schemaVirtualPaths := []
  metadataPaths := []
  dynamicPaths := []
  containerPaths := []
  virtualPaths := []
  virtualScopePaths := []
  opaquePaths := []
  referencePaths := []
  protectedPaths := []

def contactsDocument : Entries :=
  [("contacts", .array [.object [("email", .string "a@x"), ("note", .string "n")], .null])]

/-- The payload writes a note that is not granted, and an item over the stored `null`. -/
def contactsArgs : AdmissionArgs where
  data := .object [("contacts", .array
    [.object [("email", .string "b@x"), ("note", .string "m")], .object [("email", .string "c@x")],
      .object [("email", .string "d@x")]]), ("profile", .object [("city", .string "Oslo")])]
  existing := .object contactsDocument
  requestFields := []
  inputFields := .grant ["contacts.email", "profile.city"]
  catalog := contactsCatalog
  scopePath := ""

theorem admitted_update_frame_contacts : ∃ admitted, admitModelInput contactsArgs = .ok admitted ∧
    admitted.allowedFields = ["contacts.0.email", "profile.city"] ∧
    readOwn (applyUpdate (.object contactsDocument) admitted.allowedData admitted.allowedFields)
      ["contacts", "0", "note"] = some (.string "n") ∧
    ∃ items, readOwn (applyUpdate (.object contactsDocument) admitted.allowedData
        admitted.allowedFields) ["contacts"] = some (.array items) ∧
      items.length = 2 ∧ items[1]? = some .null := by
  have fields : (admitModelInput contactsArgs).map Admitted.allowedFields =
      .ok ["contacts.0.email", "profile.city"] := by decide +kernel
  obtain ⟨admitted, admits, same⟩ := map_eq_ok fields
  have normalized : Normalized contactsArgs.inputFields contactsArgs.catalog := by
    intro paths granted
    rw [← FieldAuthorization.grant.inj granted]
    decide +kernel
  have frame := admitted_update_frame contactsArgs contactsDocument admitted rfl
    (by simp [Plain, contactsDocument, PlainEntries, PlainItems]) normalized rfl admits
  have note := frame.1 ["contacts", "0", "note"] (by rw [same]; unfold Unrelated; decide +kernel)
  obtain ⟨items, found, keeps⟩ := frame.2 ["contacts"] _ rfl (by rw [same]; decide +kernel)
  exact ⟨admitted, admits, same, note, items, found, keeps.length, keeps.leaf 1 .null rfl rfl rfl⟩

end WebTsToolkit.AccessRouter.InputAdmission
