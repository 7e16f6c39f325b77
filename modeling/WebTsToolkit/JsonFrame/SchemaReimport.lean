import WebTsToolkit.JsonFrame.RoundTrip

set_option autoImplicit false

namespace WebTsToolkit.JsonFrame

open Js Utils DataFrame

theorem checkOptionalString_transfer {path path' key : String} {entries entries' : Entries}
    (same : getOwn entries' key = getOwn entries key)
    (accepted : checkOptionalString path entries key = .ok ()) :
    checkOptionalString path' entries' key = .ok () := by
  unfold checkOptionalString at accepted ⊢
  rw [same]
  split at accepted
  · rfl
  · rfl
  · contradiction

variable {path path' : String} {value : Value} {field : TableSchemaField} {source : TableSchema}
  {state : FrameState}

theorem checkEnumValue_transfer {entry : Value × Nat}
    (accepted : checkEnumValue path entry = .ok ()) : checkEnumValue path' entry = .ok () := by
  obtain ⟨value, position⟩ := entry
  unfold checkEnumValue at accepted ⊢
  dsimp only at accepted ⊢
  cases value with
  | number text =>
    dsimp only at accepted ⊢
    split at accepted
    · next finite => rw [if_pos finite]
    · contradiction
  | null | string | bool => rfl
  | _ => contradiction

theorem checkConstraints_transfer (accepted : checkConstraints path value = .ok ()) :
    checkConstraints path' value = .ok () := by
  unfold checkConstraints at accepted ⊢
  split at accepted
  · next entries =>
    split at accepted
    · rfl
    · next items found =>
      rw [Library.forM_eq_ok] at accepted ⊢
      exact fun entry member => checkEnumValue_transfer (accepted entry member)
    · contradiction
  · contradiction

/-- The checks read no name and use the path in errors only. -/
theorem checkFieldEntries_transfer {entries entries' : Entries}
    (same : ∀ key, key ≠ "name" → getOwn entries' key = getOwn entries key)
    (accepted : checkFieldEntries path entries = .ok ()) :
    checkFieldEntries path' entries' = .ok () := by
  have sameType := same "type" (by decide)
  have sameOrdered := same "ordered" (by decide)
  have sameConstraints := same "constraints" (by decide)
  unfold checkFieldEntries at accepted ⊢
  rw [sameType, sameOrdered, sameConstraints]
  dsimp only at accepted ⊢
  split at accepted
  · split at accepted
    case h_3 => contradiction
    all_goals
      obtain ⟨_, optional, constraints⟩ := Library.bind_eq_ok accepted
      rw [Library.forM_eq_ok] at optional
      have optional' : ["format", "extDtype", "tz", "freq"].forM
          (checkOptionalString path' entries') = .ok () := by
        rw [Library.forM_eq_ok]
        intro key member
        apply checkOptionalString_transfer (same key _) (optional key member)
        rintro rfl
        simp at member
      rw [optional']
      cases found : getOwn entries "constraints" with
      | none => rfl
      | some value =>
        rw [found] at constraints
        exact checkConstraints_transfer constraints
  · contradiction

/-- A field that is accepted wherever it stands. -/
structure AcceptedField (field : TableSchemaField) : Prop where
  checked : ∀ path, checkFieldEntries path field.entries = .ok ()
  json : ∀ entry ∈ field.entries, isJsonAt 4 entry.2 = true

theorem getOwn_rename (field : TableSchemaField) (name : String) {key : String}
    (apart : key ≠ "name") : getOwn (field.rename name).entries key = getOwn field.entries key := by
  show getOwn (field.entries.map fun entry => if entry.1 = "name" then ("name", .string name)
    else entry) key = _
  rw [getOwn_replace, if_neg apart]

theorem AcceptedField.rename (accepted : AcceptedField field) (name : String) :
    AcceptedField (field.rename name) where
  checked := fun path => checkFieldEntries_transfer (fun _ apart => getOwn_rename field name apart)
    (accepted.checked path)
  json := by
    intro entry member
    obtain ⟨source, listed, rfl⟩ := List.mem_map.mp member
    by_cases named : source.1 = "name"
    · rw [if_pos named]
      rfl
    · rw [if_neg named]
      exact accepted.json source listed

theorem acceptedField_new (name type : String) {others : Entries}
    (others_ : others = [] ∨ others = [("extDtype", .string "category")]) :
    AcceptedField (newField name type others) := by
  constructor
  · intro path
    rcases others_ with rfl | rfl
    · rfl
    · rfl
  · intro entry member
    have member : entry ∈ ("name", Value.string name) :: ("type", Value.string type) :: others :=
      member
    rcases List.mem_cons.mp member with rfl | member
    · rfl
    · rcases List.mem_cons.mp member with rfl | member
      · rfl
      · rcases others_ with rfl | rfl
        · exact absurd member List.not_mem_nil
        · rw [List.mem_singleton.mp member]
          rfl

theorem acceptedField_column (name : String) (info : ColumnInfo) :
    AcceptedField (mapColumnTypeToSchemaField name info) := by
  apply acceptedField_new
  split
  · exact Or.inr rfl
  · exact Or.inl rfl

/-- The fields of a payload that were accepted. -/
theorem cloneTableField_eq_ok {index : Nat} (json : isJsonAt 3 value = true)
    (accepted : cloneTableField value index = .ok field) : AcceptedField field := by
  unfold cloneTableField at accepted
  dsimp only at accepted
  split at accepted
  · next entries =>
    split at accepted
    · next name named =>
      obtain ⟨_, checked, same⟩ := Library.bind_eq_ok accepted
      rw [← Except.ok.inj same]
      exact ⟨fun path => checkFieldEntries_transfer (fun _ _ => rfl) checked,
        ((isJsonAt_object _ _).mp json).2⟩
    · contradiction
  · contradiction

/-- A field is read from its own entries. -/
theorem cloneTableField_of_accepted (accepted : AcceptedField field) (index : Nat) :
    cloneTableField (.object field.entries) index = .ok field := by
  unfold cloneTableField
  dsimp only
  split
  · next name named =>
    have name_ : name = field.name := by
      have same := named.symm.trans field.named
      exact Value.string.inj (Option.some.inj same)
    subst name_
    rw [accepted.checked]
    rfl
  · next other =>
    exact absurd field.named (other field.name)

/-- What a schema holds besides its fields and its primary key. -/
structure AcceptedMetadata (metadata : Entries) : Prop where
  apart : ∀ entry ∈ metadata, entry.1 ≠ "fields" ∧ entry.1 ≠ "primaryKey"
  json : ∀ entry ∈ metadata, isJsonAt 2 entry.2 = true
  version : cloneTableSchema.checkVersion (getOwn metadata "pandas_version") = .ok ()

structure AcceptedSchema (schema : TableSchema) : Prop where
  fields : ∀ field ∈ schema.fields, AcceptedField field
  metadata : AcceptedMetadata schema.metadata

theorem getOwn_filter {entries : Entries} {kept : String × Value → Bool} {key : String}
    (keeps : ∀ value, kept (key, value) = true) :
    getOwn (entries.filter kept) key = getOwn entries key := by
  induction entries with
  | nil => rfl
  | cons entry entries ih =>
    obtain ⟨name, value⟩ := entry
    rw [List.filter_cons]
    by_cases here : key = name
    · subst here
      rw [if_pos (keeps value), getOwn_cons, getOwn_cons, if_pos rfl, if_pos rfl]
    · rw [getOwn_cons (name, value) entries, if_neg here, ← ih]
      split
      · rw [getOwn_cons, if_neg here]
      · rfl

theorem cloneTableSchema_accepted {schema : TableSchema} {names : UniqueLabels}
    (json : isJsonAt 1 value = true) (read : cloneTableSchema value = .ok (schema, names)) :
    AcceptedSchema schema := by
  have apart := (cloneTableSchema_eq_ok read).metadata
  unfold cloneTableSchema at read
  split at read
  · next entries =>
    have inner := ((isJsonAt_object _ _).mp json).2
    split at read
    · next items found =>
      have items_ := ((isJsonAt_array _ _).mp (inner _ (mem_of_getOwn found))).2
      obtain ⟨fields, cloned, read⟩ := Library.bind_eq_ok read
      obtain ⟨accepted, _, read⟩ := Library.bind_eq_ok read
      obtain ⟨primaryKey, _, read⟩ := Library.bind_eq_ok read
      split at read
      · contradiction
      · obtain ⟨_, version, same⟩ := Library.bind_eq_ok read
        have same := Except.ok.inj same
        rw [Prod.mk.injEq] at same
        obtain ⟨rfl, rfl⟩ := same
        refine ⟨fun field member => ?_, apart, fun entry member => ?_, ?_⟩
        · obtain ⟨⟨item, position⟩, listed, done⟩ := Library.mem_of_mapM cloned member
          exact cloneTableField_eq_ok (items_ item (List.fst_mem_of_mem_zipIdx listed)) done
        · exact inner entry (List.mem_filter.mp member).1
        · dsimp only
          rw [getOwn_filter fun _ => rfl]
          exact version
    · contradiction
  · contradiction

theorem parseTable_accepted {parsed : ParsedFrame} (json : isJsonAt 0 value = true)
    (accepted : parseTable value = .ok parsed) (schema : parsed.tableSchema = some source) :
    AcceptedSchema source := by
  unfold parseTable at accepted
  split at accepted
  · next entries =>
    obtain ⟨⟨read, names⟩, cloned, accepted⟩ := Library.bind_eq_ok accepted
    have inner : isJsonAt 1 ((getOwn entries "schema").getD .undefined) = true := by
      cases found : getOwn entries "schema" with
      | none =>
        rw [found] at cloned
        contradiction
      | some value => exact ((isJsonAt_object _ _).mp json).2 _ (mem_of_getOwn found)
    dsimp only at accepted
    split at accepted
    · split at accepted
      · contradiction
      · obtain ⟨⟨index, data⟩, _, accepted⟩ := Library.bind_eq_ok accepted
        obtain ⟨data, rfl⟩ := finalizeFrame_keeps accepted
        rw [← Option.some.inj schema]
        exact cloneTableSchema_accepted inner cloned
    · contradiction
  · contradiction

/-- The schema of an imported frame. -/
theorem fromOrient_accepted {jsonParse : String → Option Value} {input options : Value}
    {frame : DataFrame} (imported : fromOrient jsonParse input options = .ok frame)
    (schema : frame.state.tableSchema = some source) : AcceptedSchema source := by
  obtain ⟨normalized, parsed, _, accepted, created⟩ := fromOrient_eq_ok imported
  rw [created.tableSchema] at schema
  obtain ⟨value, json, read⟩ := parseInput_tableSchema accepted schema
  exact parseTable_accepted json read schema

/-- A frame whose exported schema is one that imports accept. -/
structure ExportableSchema (state : FrameState) : Prop where
  fields : ∀ indexField, ∀ field ∈ exportedFields state indexField, AcceptedField field
  metadata : AcceptedMetadata ((state.tableSchema.map TableSchema.metadata).getD [])

/-- A frame that has no schema of its own. -/
theorem exportable_of_plain (plain : state.tableSchema = none) : ExportableSchema state := by
  constructor
  · intro indexField field member
    rcases List.mem_append.mp member with index | column
    · obtain ⟨name, _, rfl⟩ := List.mem_map.mp index
      rw [indexFieldOf, getIndexFieldTemplate, plain]
      exact acceptedField_new _ _ (Or.inl rfl)
    · obtain ⟨position, _, rfl⟩ := List.mem_map.mp column
      have absent : (getDataFieldTemplates state)[position.2]? = none := by
        rw [getDataFieldTemplates, plain]
        rfl
      rw [absent]
      exact acceptedField_column _ _
  · rw [plain]
    exact ⟨fun _ member => absurd member List.not_mem_nil,
      fun _ member => absurd member List.not_mem_nil, rfl⟩

theorem carries_of_mem {descent : Descent} {data : List TableSchemaField}
    (carried : List.Forall₂ (Carries source) descent data) (member : field ∈ data) :
    ∃ pair, Carries source pair field := by
  induction carried with
  | nil => exact absurd member List.not_mem_nil
  | cons here rest ih =>
    rcases List.mem_cons.mp member with rfl | later
    · exact ⟨_, here⟩
    · exact ih later

/-- A frame whose fields follow those of an imported table. -/
theorem exportable_of_follows (accepted : AcceptedSchema source) {columns : List String}
    {sequence : List Transform}
    (follows : Follows source (sourceIndexField source) columns sequence state) :
    ExportableSchema state := by
  obtain ⟨data, roles, carried⟩ := follows.roles
  constructor
  · intro indexField field member
    rcases List.mem_append.mp member with index | column
    · obtain ⟨name, _, rfl⟩ := List.mem_map.mp index
      rw [indexFieldOf, roles.templates.1]
      split
      · next template role =>
        have found : sourceIndexField source = some template := by
          split at role
          · exact role
          · contradiction
        obtain ⟨key, _, named⟩ := Option.bind_eq_some_iff.mp found
        exact (accepted.fields template (fieldNamed_eq_some named).1).rename name
      · exact acceptedField_new _ _ (Or.inl rfl)
    · obtain ⟨position, _, rfl⟩ := List.mem_map.mp column
      rw [roles.templates.2]
      cases found : data[position.2]? with
      | some template =>
        obtain ⟨pair, _, original, listed, _, alike⟩ :=
          carries_of_mem carried (List.mem_of_getElem? found)
        show AcceptedField (template.rename position.1)
        rw [alike]
        exact (accepted.fields original listed).rename _
      | none => exact acceptedField_column _ _
  · rw [follows.metadata]
    exact accepted.metadata

/-- Every frame that a run of transforms makes of an import. -/
theorem exportable_of_run {jsonParse : String → Option Value} {input options : Value}
    {frame : DataFrame} (imported : fromOrient jsonParse input options = .ok frame)
    {arraySort : ArraySort} {sequence : List Transform} {final : DataFrame}
    (done : frame.transforms arraySort sequence = .ok final) : ExportableSchema final.state := by
  cases schema : frame.state.tableSchema with
  | none =>
    have plain : final.state.tableSchema.map TableSchema.metadata = none := by
      refine transforms_invariant arraySort
        (fun _ state => state.tableSchema.map TableSchema.metadata = none)
        (fun _ _ _ _ held transformed => (Follows.metadata_step transformed).trans held)
        ?_ done
      rw [schema]
      rfl
    exact exportable_of_plain (Option.map_eq_none_iff.mp plain)
  | some source =>
    have follows : Follows source (sourceIndexField source) frame.state.columns.1 sequence
        final.state :=
      transforms_invariant arraySort
        (Follows source (sourceIndexField source) frame.state.columns.1)
        (fun _ _ _ _ held transformed => held.step transformed) (follows_start imported schema).1 done
    exact exportable_of_follows (fromOrient_accepted imported schema) follows

theorem names_exportedFields (state : FrameState) (indexField : Option String) :
    (exportedFields state indexField).map TableSchemaField.name =
      indexField.toList ++ state.columns.1 := by
  rw [exportedFields, List.map_append, List.map_map, List.map_map]
  have index : ∀ name, (indexFieldOf state name).name = name := by
    intro name
    unfold indexFieldOf
    split
    · rfl
    · rfl
  have column : ∀ (template : Option TableSchemaField) column,
      (columnField state template column).name = column := by
    intro template column
    unfold columnField
    split
    · rfl
    · rfl
  have first : indexField.toList.map (TableSchemaField.name ∘ indexFieldOf state) =
      indexField.toList :=
    (List.map_congr_left fun name _ => index name).trans (List.map_id _)
  have second : (state.columns.1.zipIdx.map (TableSchemaField.name ∘ fun position =>
      columnField state (getDataFieldTemplates state)[position.2]? position.1)) =
      state.columns.1 :=
    (List.map_congr_left fun position _ => column _ _).trans (List.zipIdx_map_fst _ _)
  rw [first, second]

theorem fieldNames_done {fields : List TableSchemaField} {names : UniqueLabels}
    (distinct : (names.1 ++ fields.map TableSchemaField.name).Nodup) :
    ∃ final, fieldNames names fields = .ok final ∧
      final.1 = names.1 ++ fields.map TableSchemaField.name := by
  induction fields generalizing names with
  | nil => exact ⟨names, rfl, (List.append_nil _).symm⟩
  | cons field fields ih =>
    have fresh : field.name ∉ names.1 := fun member =>
      (List.nodup_append.mp distinct).2.2 _ member _ List.mem_cons_self rfl
    have moved : names.1 ++ (field :: fields).map TableSchemaField.name =
        (names.push field.name fresh).1 ++ fields.map TableSchemaField.name := by
      show _ = (names.1 ++ [field.name]) ++ _
      rw [List.append_assoc]
      rfl
    rw [moved] at distinct ⊢
    rw [fieldNames, dif_neg fresh]
    exact ih distinct

theorem cloneFields_done {fields : List TableSchemaField}
    (accepted : ∀ field ∈ fields, AcceptedField field) (start : Nat) :
    ((fields.map fun field => Value.object field.entries).zipIdx start).mapM
      (fun pair => cloneTableField pair.1 pair.2) = .ok fields := by
  induction fields generalizing start with
  | nil => rfl
  | cons field fields ih =>
    rw [List.map_cons, List.zipIdx_cons, List.mapM_cons,
      cloneTableField_of_accepted (accepted field List.mem_cons_self),
      ih fun other member => accepted other (List.mem_cons_of_mem _ member)]
    rfl

theorem clonePrimaryKey_done (indexField : Option String) :
    clonePrimaryKey (indexField.map fun name => .array [.string name]) =
      .ok (indexField.map fun name => [name]) := by
  cases indexField with
  | none | some name => rfl

/-- The schema of an export is read back. -/
theorem cloneTableSchema_exported (exportable : ExportableSchema state)
    {indexField : Option String} (apart : ∀ name, indexField = some name → name ∉ state.columns.1) :
    ∃ schema names, cloneTableSchema (.object (exportedSchema state indexField)) =
      .ok (schema, names) ∧ schema.primaryKey = indexField.map (fun name => [name]) ∧
      names.1 = indexField.toList ++ state.columns.1 := by
  have fields : getOwn (exportedSchema state indexField) "fields" = some (.array
      ((exportedFields state indexField).map fun field => .object field.entries)) := by
    rw [exportedSchema, getOwn_behind fun entry member => (exportable.metadata.apart entry member).1]
    rfl
  have primaryKey : getOwn (exportedSchema state indexField) "primaryKey" =
      indexField.map fun name => .array [.string name] := by
    rw [exportedSchema, getOwn_behind fun entry member => (exportable.metadata.apart entry member).2]
    cases indexField with
    | none | some name => rfl
  have read := @cloneFields_done (exportedFields state indexField) (exportable.fields indexField) 0
  have distinct : (indexField.toList ++ state.columns.1).Nodup := by
    cases indexField with
    | none => exact state.columns.2
    | some name => exact List.nodup_cons.mpr ⟨apart name rfl, state.columns.2⟩
  have unique : (UniqueLabels.empty.1 ++
      (exportedFields state indexField).map TableSchemaField.name).Nodup := by
    rw [names_exportedFields]
    exact distinct
  obtain ⟨names, named, names_⟩ := fieldNames_done unique
  rw [names_exportedFields] at names_
  have version : getOwn (exportedSchema state indexField) "pandas_version" =
      getOwn ((state.tableSchema.map TableSchema.metadata).getD []) "pandas_version" := by
    rw [exportedSchema, getOwn, List.lookup_append]
    cases indexField with
    | none | some name => exact Option.or_none
  have single : ¬1 < ((indexField.map fun name => [name]).getD []).length := by
    cases indexField with
    | none => decide
    | some name => exact Nat.lt_irrefl 1
  refine ⟨⟨exportedFields state indexField, indexField.map fun name => [name],
    (exportedSchema state indexField).filter fun entry =>
      entry.1 != "fields" && entry.1 != "primaryKey"⟩, names, ?_, rfl, names_⟩
  rw [cloneTableSchema, fields]
  show ((((exportedFields state indexField).map fun field =>
    Value.object field.entries).zipIdx.mapM fun pair => cloneTableField pair.1 pair.2) >>= _) = _
  rw [read]
  show (fieldNames _ _ >>= _) = _
  rw [named]
  show (clonePrimaryKey _ >>= _) = _
  rw [primaryKey, clonePrimaryKey_done]
  show (if _ then _ else _) = _
  rw [if_neg single]
  show (cloneTableSchema.checkVersion _ >>= _) = _
  rw [version, exportable.metadata.version]
  rfl

end WebTsToolkit.JsonFrame
