import WebTsToolkit.JsonFrame.Rebuild

set_option autoImplicit false

namespace WebTsToolkit.JsonFrame

open Js Utils DataFrame

namespace Roles

variable {state final : FrameState} {index : Option TableSchemaField}
  {data : List TableSchemaField}

/-- Fields in the order of their roles. -/
theorem of_canonical {schema : TableSchema}
    (names : data.map TableSchemaField.name = final.columns.1)
    (indexName : index.map TableSchemaField.name = final.tableIndexField)
    (tableSchema : final.tableSchema = some schema)
    (canonical : schema.fields = index.toList ++ data) : Roles final index data :=
  ⟨names, indexName, schema, tableSchema, by rw [canonical], fun _ => canonical⟩

theorem indexFields_eq (roles : Roles state index data) :
    (if state.tableIndexField.isSome then
      (partitionSchemaFields state).indexTemplate.toList else []) = index.toList := by
  rw [roles.partition.1]
  split
  · rfl
  · next absent =>
    have names := roles.indexName
    cases index with
    | none => rfl
    | some field => rw [← names] at absent; exact absurd rfl absent

variable {labels : List IndexLabel} {positions : List Nat} {columns : UniqueLabels}

/-- Filtered and sorted frames keep the schema. -/
theorem pick (roles : Roles state index data)
    (rebuilt : Rebuilt state state.columns state.columns.1 positions labels state.indexKind
      (keptSchema state) final) : Roles final index data where
  names := by rw [rebuilt.columns, roles.names]
  indexName := by rw [rebuilt.tableIndexField, roles.indexName]; rfl
  schema := by rw [rebuilt.tableSchema]; exact roles.schema

theorem select (roles : Roles state index data)
    (known : ∀ column ∈ columns.1, column ∈ state.columns.1)
    (rebuilt : Rebuilt state columns columns.1 positions labels state.indexKind
      (selectSchema state columns.1) final) :
    Roles final index (columns.1.filterMap (fieldNamed data)) := by
  obtain ⟨current, schema, _⟩ := roles.schema
  have lookups : (partitionSchemaFields state).dataByColumn.lookup = fieldNamed data := by
    funext column
    rw [roles.partition.2.2, lookup_fieldsByName roles.data_distinct]
  have transformed : selectSchema state columns.1 =
      { tableSchema := some (current.cloned
          (index.toList ++ columns.1.filterMap (fieldNamed data)) current.primaryKey)
        tableIndexField := state.tableIndexField } := by
    unfold selectSchema
    rw [schema]
    dsimp only
    rw [roles.indexFields_eq, lookups]
  have tableSchema := rebuilt.tableSchema
  have tableIndexField := rebuilt.tableIndexField
  rw [transformed] at tableSchema tableIndexField
  refine of_canonical ?_ ?_ tableSchema rfl
  · rw [rebuilt.columns, List.map_filterMap]
    have named : ∀ column ∈ columns.1,
        (fieldNamed data column).map TableSchemaField.name = some column := by
      intro column member
      have listed := known column member
      rw [← roles.names] at listed
      obtain ⟨field, held, same⟩ := List.mem_map.mp listed
      rw [(fieldNamed_iff roles.data_distinct).mpr ⟨held, same⟩, Option.map_some, same]
    rw [List.filterMap_eq_map_iff_forall_eq_some.mpr named]
    exact List.map_id _
  · rw [tableIndexField, roles.indexName]

/-- The field of a column under its new name. -/
def renamedField (mapping : Entries) (field : TableSchemaField) : TableSchemaField :=
  field.rename (renamed mapping field.name)

theorem names_renamed (roles : Roles state index data) {mapping : Entries}
    (renames : columns.1 = state.columns.1.map (renamed mapping)) :
    (data.map (renamedField mapping)).map TableSchemaField.name = columns.1 := by
  rw [renames, ← roles.names, List.map_map, List.map_map]
  rfl

theorem rename {mapping : Entries} (roles : Roles state index data)
    (renames : columns.1 = state.columns.1.map (renamed mapping))
    (rebuilt : Rebuilt state columns state.columns.1 positions labels state.indexKind
      (renameSchema state mapping columns.1) final) :
    Roles final index (data.map (renamedField mapping)) := by
  obtain ⟨current, schema, perm, canonical⟩ := roles.schema
  have tableSchema := rebuilt.tableSchema
  have tableIndexField := rebuilt.tableIndexField
  have names : (data.map (renamedField mapping)).map TableSchemaField.name = final.columns.1 := by
    rw [rebuilt.columns]
    exact roles.names_renamed renames
  unfold renameSchema at tableSchema tableIndexField
  rw [schema] at tableSchema tableIndexField
  dsimp only at tableSchema tableIndexField
  by_cases direct : (hasUniqueNames current.fields &&
      !state.tableIndexField.any columns.1.contains) = true
  · -- Names stay distinct, so the fields keep their places.
    rw [if_pos direct] at tableSchema tableIndexField
    rw [Bool.and_eq_true, Bool.not_eq_true'] at direct
    obtain ⟨unique, apart⟩ := direct
    have distinct := (hasUniqueNames_iff _).mp unique
    have indexName : index.map TableSchemaField.name = final.tableIndexField := by
      rw [tableIndexField, roles.indexName]
    have indexApart : ∀ field ∈ index.toList, field.name ∉ state.columns.1 := by
      intro field member listed
      rw [← roles.names] at listed
      have perm := perm.map TableSchemaField.name
      have distinct := perm.nodup_iff.mp distinct
      rw [List.map_append, List.nodup_append] at distinct
      exact distinct.2.2 field.name (List.mem_map_of_mem member) field.name listed rfl
    have indexSame : (index.toList.map fun field =>
        if state.columns.1.contains field.name then
          field.rename (renamed mapping field.name) else field) = index.toList := by
      rw [List.map_congr_left (g := id)]
      · exact List.map_id _
      · intro field member
        rw [if_neg]
        · rfl
        · rw [List.contains_iff_mem]
          exact indexApart field member
    have dataRenamed : (data.map fun field =>
        if state.columns.1.contains field.name then
          field.rename (renamed mapping field.name) else field) =
        data.map (renamedField mapping) := by
      apply List.map_congr_left
      intro field member
      rw [if_pos]
      · rfl
      · rw [List.contains_iff_mem, ← roles.names]
        exact List.mem_map_of_mem member
    have moved := perm.map fun field =>
      if state.columns.1.contains field.name then
        field.rename (renamed mapping field.name) else field
    rw [List.map_append, indexSame, dataRenamed] at moved
    refine ⟨names, indexName, _, tableSchema, moved, fun repeated => ?_⟩
    have stays : hasUniqueNames (current.fields.map fun field =>
        if state.columns.1.contains field.name then
          field.rename (renamed mapping field.name) else field) = true := by
      rw [hasUniqueNames_iff, (moved.map TableSchemaField.name).nodup_iff, List.map_append,
        List.nodup_append, names]
      refine ⟨?_, final.columns.2, ?_⟩
      · cases index <;> simp
      · intro first member second listed same
        obtain ⟨field, role, rfl⟩ := List.mem_map.mp member
        have role : index = some field := by simpa using role
        have field_ : state.tableIndexField = some field.name := by rw [← roles.indexName, role]; rfl
        rw [field_, Option.any_some, ← Bool.not_eq_true, List.contains_iff_mem] at apart
        rw [rebuilt.columns] at listed
        exact apart (same ▸ listed)
    have repeated : hasUniqueNames (current.fields.map fun field =>
        if state.columns.1.contains field.name then
          field.rename (renamed mapping field.name) else field) = false := repeated
    rw [stays] at repeated
    contradiction
  · -- Otherwise the roles of before decide the order.
    rw [if_neg direct] at tableSchema tableIndexField
    have zipped : (state.columns.1.zip (partitionSchemaFields state).dataInColumnOrder).map
        (fun pair => pair.2.rename (renamed mapping pair.1)) =
        data.map (renamedField mapping) := by
      rw [roles.partition.2.1, ← roles.names, zip_names, List.map_map]
      rfl
    refine of_canonical names ?_ tableSchema ?_
    · rw [tableIndexField, roles.indexName]
    · show _ ++ (state.columns.1.zip (partitionSchemaFields state).dataInColumnOrder).map
        (fun pair => pair.2.rename (renamed mapping pair.1)) = _
      rw [zipped, roles.indexFields_eq]

/-- A reset index leaves its field behind. -/
theorem resetIndex (roles : Roles state index data)
    (rebuilt : Rebuilt state state.columns state.columns.1 positions labels .synthetic
      (resetIndexSchema state) final) : Roles final none data := by
  obtain ⟨current, schema, perm, canonical⟩ := roles.schema
  have tableSchema := rebuilt.tableSchema
  have tableIndexField := rebuilt.tableIndexField
  have names : data.map TableSchemaField.name = final.columns.1 := by
    rw [rebuilt.columns, roles.names]
  unfold resetIndexSchema at tableSchema tableIndexField
  rw [schema] at tableSchema tableIndexField
  dsimp only at tableSchema tableIndexField
  have indexName := roles.indexName
  cases field : state.tableIndexField with
  | none =>
    rw [field] at tableSchema tableIndexField indexName
    obtain rfl := Option.map_eq_none_iff.mp indexName
    exact ⟨names, tableIndexField.symm, _, tableSchema, perm, canonical⟩
  | some indexField =>
    rw [field] at tableSchema tableIndexField
    dsimp only at tableSchema tableIndexField
    rw [roles.partition.2.1, if_pos roles.length_data] at tableSchema
    exact of_canonical names tableIndexField.symm tableSchema rfl

end Roles

/-- The columns of a frame, each with the column of the imported frame that it descends from. -/
abbrev Descent := List (String × String)

namespace Descent

def start (columns : List String) : Descent :=
  columns.map fun column => (column, column)

def after (descent : Descent) : Transform → Descent
  | .select columns => columns.filterMap fun column => descent.find? (·.1 == column)
  | .rename mapping => descent.map fun (column, source) => (renamed mapping column, source)
  | .filter _ | .sort _ | .resetIndex => descent

end Descent

/-- The descent of the columns after a sequence of transforms. -/
def descentOf (columns : List String) (sequence : List Transform) : Descent :=
  sequence.foldl Descent.after (Descent.start columns)

def Transform.resets : Transform → Bool
  | .resetIndex => true
  | _ => false

/-- No transform of the sequence resets the index. -/
def keepsIndex (sequence : List Transform) : Bool :=
  !sequence.any Transform.resets

/-- The field of a column comes from the field of its source. -/
def Carries (source : TableSchema) (pair : String × String) (field : TableSchemaField) : Prop :=
  field.name = pair.1 ∧ ∃ original ∈ source.fields, original.name = pair.2 ∧
    SameButName field original

/-- After some transforms of an imported table every field stands for what it stood for. -/
structure Follows (source : TableSchema) (sourceIndex : Option TableSchemaField)
    (columns : List String) (sequence : List Transform) (state : FrameState) : Prop where
  roles : ∃ data, Roles state (if keepsIndex sequence then sourceIndex else none) data ∧
    List.Forall₂ (Carries source) (descentOf columns sequence) data
  indexKind : state.indexKind = .source ↔
    (if keepsIndex sequence then sourceIndex else none).isSome = true
  only : ∀ column, column ∉ state.columns.1 → state.data.lookup column = none
  metadata : state.tableSchema.map TableSchema.metadata = some source.metadata

namespace Follows

variable {source : TableSchema} {sourceIndex : Option TableSchemaField} {columns : List String}
  {sequence : List Transform} {state final : FrameState}

theorem descent_append (transform : Transform) :
    descentOf columns (sequence ++ [transform]) =
      (descentOf columns sequence).after transform := by
  rw [descentOf, List.foldl_append]
  rfl

theorem keepsIndex_append (transform : Transform) :
    keepsIndex (sequence ++ [transform]) =
      (keepsIndex sequence && !transform.resets) := by
  rw [keepsIndex, List.any_append, Bool.not_or, keepsIndex, List.any_cons, List.any_nil,
    Bool.or_false]

variable {data : List TableSchemaField} {transform : Transform}

/-- The field of a selected column is carried along. -/
theorem carries_select {descent : Descent} (carried : List.Forall₂ (Carries source) descent data)
    (selected : List String) :
    List.Forall₂ (Carries source)
      (selected.filterMap fun column => descent.find? (·.1 == column))
      (selected.filterMap (fieldNamed data)) := by
  have one : ∀ column, Option.Rel (Carries source) (descent.find? (·.1 == column))
      (fieldNamed data column) := by
    intro column
    induction carried with
    | nil => exact .none
    | cons here rest ih =>
      rename_i pair field _ _
      rw [fieldNamed, List.find?_cons, List.find?_cons, here.1]
      cases pair.1 == column with
      | true => exact .some here
      | false => exact ih
  induction selected with
  | nil => exact .nil
  | cons column selected ih =>
    have here := one column
    rw [List.filterMap_cons, List.filterMap_cons]
    generalize descent.find? (·.1 == column) = first at here ⊢
    generalize fieldNamed data column = second at here ⊢
    cases here with
    | none => exact ih
    | some here => exact .cons here ih

theorem carries_rename {descent : Descent} (carried : List.Forall₂ (Carries source) descent data)
    (mapping : Entries) :
    List.Forall₂ (Carries source)
      (descent.map fun pair => (renamed mapping pair.1, pair.2))
      (data.map (Roles.renamedField mapping)) := by
  induction carried with
  | nil => exact .nil
  | cons here rest ih =>
    obtain ⟨name, original, listed, same, alike⟩ := here
    refine .cons ⟨?_, original, listed, same, ?_⟩ ih
    · rw [Roles.renamedField, TableSchemaField.name_rename, name]
    · exact (sameButName_rename _ _).trans alike

/-- Transforms keep the metadata of the schema. -/
theorem metadata_step (transformed : Transformed state transform final) :
    final.tableSchema.map TableSchema.metadata = state.tableSchema.map TableSchema.metadata := by
  cases transformed with
  | filter predicate picked _ valid rebuilt => rw [rebuilt.tableSchema]; rfl
  | sort compare picked _ valid rebuilt => rw [rebuilt.tableSchema]; rfl
  | select selected _ held rebuilt =>
    rw [rebuilt.tableSchema, selectSchema]
    cases state.tableSchema with
    | none | some schema => rfl
  | rename mapping renamedColumns _ names rebuilt =>
    rw [rebuilt.tableSchema, renameSchema]
    cases state.tableSchema with
    | none => rfl
    | some schema =>
      dsimp only
      split
      · rfl
      · rfl
  | resetIndex _ rebuilt =>
    rw [rebuilt.tableSchema, resetIndexSchema]
    cases state.tableSchema with
    | none => rfl
    | some schema =>
      cases state.tableIndexField with
      | none | some indexField => rfl

/-- A transform that does not reset the index and keeps its field. -/
theorem keeps (follows : Follows source sourceIndex columns sequence state)
    (kept : keepsIndex (sequence ++ [transform]) = keepsIndex sequence)
    (roles : Roles final (if keepsIndex sequence then sourceIndex else none) data)
    (carried : List.Forall₂ (Carries source)
      ((descentOf columns sequence).after transform) data)
    (indexKind : final.indexKind = state.indexKind)
    (only : ∀ column, column ∉ final.columns.1 → final.data.lookup column = none)
    (metadata : final.tableSchema.map TableSchema.metadata = some source.metadata) :
    Follows source sourceIndex columns (sequence ++ [transform]) final := by
  refine ⟨⟨data, ?_, ?_⟩, ?_, only, metadata⟩
  · rw [kept]
    exact roles
  · rw [descent_append]
    exact carried
  · rw [kept, indexKind]
    exact follows.indexKind

theorem step (follows : Follows source sourceIndex columns sequence state)
    (transformed : Transformed state transform final) :
    Follows source sourceIndex columns (sequence ++ [transform]) final := by
  obtain ⟨data, roles, carried⟩ := follows.roles
  have kept : transform.resets = false →
      keepsIndex (sequence ++ [transform]) = keepsIndex sequence := by
    intro other
    rw [keepsIndex_append, other]
    exact Bool.and_true _
  have metadata := (metadata_step transformed).trans follows.metadata
  cases transformed with
  | filter predicate picked _ valid rebuilt | sort compare picked _ valid rebuilt =>
    refine follows.keeps (kept rfl) (roles.pick rebuilt) carried rebuilt.indexKind ?_ metadata
    rw [rebuilt.columns]
    exact rebuilt.only
  | select selected _ held rebuilt =>
    have known : ∀ column ∈ selected.1, column ∈ state.columns.1 := by
      intro column member
      by_contra absent
      have present := held column member
      rw [follows.only column absent] at present
      contradiction
    refine follows.keeps (kept rfl) (roles.select known rebuilt)
      (carries_select carried selected.1) rebuilt.indexKind ?_ metadata
    rw [rebuilt.columns]
    exact rebuilt.only
  | rename mapping renamedColumns _ names rebuilt =>
    refine follows.keeps (kept rfl) (roles.rename names rebuilt)
      (carries_rename carried mapping) rebuilt.indexKind ?_ metadata
    rw [rebuilt.columns]
    exact rebuilt.only
  | resetIndex _ rebuilt =>
    have reset : keepsIndex (sequence ++ [.resetIndex]) = false := by
      rw [keepsIndex_append]
      exact Bool.and_false _
    refine ⟨⟨data, ?_, ?_⟩, ?_, ?_, metadata⟩
    · rw [reset]
      exact roles.resetIndex rebuilt
    · rw [descent_append]
      exact carried
    · rw [reset, rebuilt.indexKind]
      simp
    · rw [rebuilt.columns]
      exact rebuilt.only

end Follows

end WebTsToolkit.JsonFrame
