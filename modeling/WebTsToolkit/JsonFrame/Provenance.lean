import WebTsToolkit.JsonFrame.FieldDescent
import WebTsToolkit.JsonFrame.Parsed

set_option autoImplicit false

namespace WebTsToolkit.JsonFrame

open Js Utils DataFrame

theorem cloneSchemaField_eq_ok {field cloned : TableSchemaField} {name path : String}
    (done : cloneSchemaField field name path = .ok cloned) : cloned = field.rename name := by
  obtain ⟨_, _, same⟩ := Library.bind_eq_ok done
  exact (Except.ok.inj same).symm

/-- The field of a column: its template under its name, or one of its logical type. -/
def columnField (state : FrameState) (template : Option TableSchemaField) (column : String) :
    TableSchemaField :=
  match template with
  | some template => template.rename column
  | none => mapColumnTypeToSchemaField column ((state.columnInfo.lookup column).getD ⟨.unknown, false⟩)

/-- The field of the index: its template under the exported name, or one of the labels' type. -/
def indexFieldOf (state : FrameState) (name : String) : TableSchemaField :=
  match getIndexFieldTemplate state with
  | some template => template.rename name
  | none => newField name (inferIndexFieldType state.index) []

variable {state : FrameState} {field : TableSchemaField} {data : List TableSchemaField}

theorem exportField_eq_ok {templates : List TableSchemaField} {before : Nat}
    {position : (String × StoredColumn) × Nat}
    (done : exportField state templates before position = .ok field) :
    field = columnField state templates[position.2]? position.1.1 := by
  obtain ⟨⟨column, stored⟩, columnIndex⟩ := position
  unfold exportField at done
  unfold columnField
  dsimp only at done ⊢
  cases found : templates[columnIndex]? with
  | some template =>
    rw [found] at done
    exact cloneSchemaField_eq_ok done
  | none =>
    rw [found] at done
    obtain ⟨_, _, same⟩ := Library.bind_eq_ok done
    exact (Except.ok.inj same).symm

theorem exportIndexField_eq_ok {name : String} (done : exportIndexField state name = .ok field) :
    field = indexFieldOf state name := by
  unfold exportIndexField at done
  unfold indexFieldOf
  cases found : getIndexFieldTemplate state with
  | some template =>
    rw [found] at done
    exact cloneSchemaField_eq_ok done
  | none =>
    rw [found] at done
    exact (Except.ok.inj done).symm

/-- A renamed field keeps its entries under its own name. -/
theorem entries_rename_self (template : TableSchemaField) (name : String) :
    ((template.rename name).rename (template.rename name).name).entries =
      (template.rename name).entries := by
  rw [TableSchemaField.name_rename, TableSchemaField.rename_rename]

theorem entries_columnField (state : FrameState) (template : Option TableSchemaField)
    (column : String) :
    ((columnField state template column).rename (columnField state template column).name).entries =
      (columnField state template column).entries := by
  cases template with
  | some template => exact entries_rename_self template column
  | none =>
    unfold columnField mapColumnTypeToSchemaField
    dsimp only
    split
    · rfl
    · rfl

theorem entries_indexFieldOf (state : FrameState) (name : String) :
    ((indexFieldOf state name).rename (indexFieldOf state name).name).entries =
      (indexFieldOf state name).entries := by
  unfold indexFieldOf
  cases getIndexFieldTemplate state with
  | some template => exact entries_rename_self template name
  | none => rfl

/-- The fields of a table payload. -/
def exportedFields (state : FrameState) (indexField : Option String) : List TableSchemaField :=
  indexField.toList.map (indexFieldOf state) ++
    state.columns.1.zipIdx.map fun position =>
      columnField state (getDataFieldTemplates state)[position.2]? position.1

/-- The schema of a table payload. -/
def exportedSchema (state : FrameState) (indexField : Option String) : Entries :=
  ((state.tableSchema.map TableSchema.metadata).getD []) ++
    ("fields", .array ((exportedFields state indexField).map fun field => .object field.entries)) ::
      (indexField.toList.map fun name => ("primaryKey", .array [.string name]))

theorem length_of_mapM {ε α β : Type} {convert : α → Except ε β} {items : List α}
    {results : List β} (converted : items.mapM convert = .ok results) :
    results.length = items.length := by
  induction items generalizing results with
  | nil => rw [← Except.ok.inj converted]; rfl
  | cons item items ih =>
    rw [List.mapM_cons] at converted
    obtain ⟨first, _, later⟩ := Library.bind_eq_ok converted
    obtain ⟨rest, there, same⟩ := Library.bind_eq_ok later
    rw [← Except.ok.inj same, List.length_cons, List.length_cons, ih there]

/-- What a successful table export yields. -/
structure TableExport (state : FrameState) (options payload : Value) : Prop where
  shape : ∃ indexField storedColumns,
    resolveIndexFieldName state options = .ok indexField ∧
    (∀ name, indexField = some name → assertUniqueTableIndexLabels name [] state.index = .ok ()) ∧
    resolveStoredColumns state = .ok storedColumns ∧
    payload = .object [("schema", .object (exportedSchema state indexField)),
      ("data", .array (state.index.zipIdx.map (tableRow state storedColumns indexField)))]

theorem exportTable_eq_ok {options payload : Value}
    (exported : exportTable state options = .ok payload) : TableExport state options payload := by
  obtain ⟨indexField, resolved, exported⟩ := Library.bind_eq_ok exported
  obtain ⟨_, unique, exported⟩ := Library.bind_eq_ok exported
  obtain ⟨indexFields, indexed, exported⟩ := Library.bind_eq_ok exported
  obtain ⟨storedColumns, stored, exported⟩ := Library.bind_eq_ok exported
  obtain ⟨dataFields, described, exported⟩ := Library.bind_eq_ok exported
  obtain ⟨schema, cloned, same⟩ := Library.bind_eq_ok exported
  refine ⟨indexField, storedColumns, resolved, ?_, stored, ?_⟩
  · intro name same
    subst same
    obtain ⟨_, checked, _⟩ := Library.bind_eq_ok unique
    exact checked
  · have indexFields_ := Library.mapM_eq_map indexed
      fun name _ field done => exportIndexField_eq_ok done
    have dataFields_ := Library.mapM_eq_map described
      fun position _ field done => exportField_eq_ok done
    obtain ⟨_, _, cloned⟩ := Library.bind_eq_ok cloned
    obtain ⟨fields, copied, made⟩ := Library.bind_eq_ok cloned
    have fields_ := Library.mapM_eq_map copied
      fun position _ field done => cloneSchemaField_eq_ok done
    have widths : state.columns.1.length = storedColumns.length := (length_of_mapM stored).symm
    have data : (state.columns.1.zip storedColumns).zipIdx.map (fun position =>
        columnField state (getDataFieldTemplates state)[position.2]? position.1.1) =
        state.columns.1.zipIdx.map fun position =>
          columnField state (getDataFieldTemplates state)[position.2]? position.1 := by
      have keys : (state.columns.1.zip storedColumns).map Prod.fst = state.columns.1 :=
        List.map_fst_zip (by omega)
      rw [← keys, List.zipIdx_map, List.map_map, keys]
      rfl
    have whole : indexFields ++ dataFields = exportedFields state indexField := by
      rw [indexFields_, dataFields_, data]
      rfl
    have entries : fields.map (fun field => Value.object field.entries) =
        (exportedFields state indexField).map fun field => .object field.entries := by
      rw [fields_, List.map_map, whole]
      have plain : (exportedFields state indexField).zipIdx.map
          ((fun field => Value.object field.entries) ∘ fun position =>
            position.1.rename position.1.name) =
          ((exportedFields state indexField).zipIdx.map Prod.fst).map fun field =>
            Value.object (field.rename field.name).entries := by
        rw [List.map_map]
        rfl
      rw [plain, List.zipIdx_map_fst]
      apply List.map_congr_left
      intro field member
      congr 1
      rcases List.mem_append.mp member with index | column
      · obtain ⟨name, _, rfl⟩ := List.mem_map.mp index
        exact entries_indexFieldOf state name
      · obtain ⟨position, _, rfl⟩ := List.mem_map.mp column
        exact entries_columnField state _ _
    rw [← Except.ok.inj same, ← Except.ok.inj made, entries]
    rfl

theorem finalizeFrame_keeps {frame final : ParsedFrame}
    (finalized : finalizeFrame frame = .ok final) : ∃ data, final = { frame with data } := by
  obtain ⟨data, _, same⟩ := Library.bind_eq_ok finalized
  exact ⟨data, (Except.ok.inj same).symm⟩

/-- The names that `fieldNames` accepts are those of the fields. -/
theorem fieldNames_eq_ok {fields : List TableSchemaField} {names final : UniqueLabels}
    (accepted : fieldNames names fields = .ok final) :
    final.1 = names.1 ++ fields.map TableSchemaField.name := by
  induction fields generalizing names with
  | nil => rw [← Except.ok.inj accepted, List.map_nil, List.append_nil]
  | cons field fields ih =>
    unfold fieldNames at accepted
    split at accepted
    · contradiction
    · rw [ih accepted, List.map_cons]
      exact List.append_assoc _ _ _

/-- A schema with its names, as a payload is accepted with it. -/
structure SchemaRead (schema : TableSchema) (names : UniqueLabels) : Prop where
  names : names.1 = schema.fields.map TableSchemaField.name
  single : (schema.primaryKey.getD []).length ≤ 1
  metadata : ∀ entry ∈ schema.metadata, entry.1 ≠ "fields" ∧ entry.1 ≠ "primaryKey"

theorem cloneTableSchema_eq_ok {value : Value} {schema : TableSchema} {names : UniqueLabels}
    (read : cloneTableSchema value = .ok (schema, names)) : SchemaRead schema names := by
  unfold cloneTableSchema at read
  split at read
  · next entries =>
    split at read
    · obtain ⟨fields, _, read⟩ := Library.bind_eq_ok read
      obtain ⟨accepted, distinct, read⟩ := Library.bind_eq_ok read
      obtain ⟨primaryKey, _, read⟩ := Library.bind_eq_ok read
      split at read
      · contradiction
      · next single =>
        obtain ⟨_, _, same⟩ := Library.bind_eq_ok read
        have same := Except.ok.inj same
        rw [Prod.mk.injEq] at same
        obtain ⟨rfl, rfl⟩ := same
        refine ⟨fieldNames_eq_ok distinct, Nat.le_of_not_lt single, ?_⟩
        intro entry member
        have kept := (List.mem_filter.mp member).2
        rw [Bool.and_eq_true, bne_iff_ne, bne_iff_ne] at kept
        exact kept
    · contradiction
  · contradiction

/-- What a table payload becomes. -/
structure TableRead (source : TableSchema) (parsed : ParsedFrame) : Prop where
  schema : ∃ names, SchemaRead source names ∧
    parsed.columns = names.without (source.primaryKey.getD []).head? ∧
    ∀ name, (source.primaryKey.getD []).head? = some name → name ∈ names.1
  indexKind : parsed.indexKind = .source ↔ (source.primaryKey.getD []).head?.isSome = true
  tableIndexField : parsed.tableIndexField = (source.primaryKey.getD []).head?

theorem parseTable_eq_ok {value : Value} {parsed : ParsedFrame}
    (accepted : parseTable value = .ok parsed) :
    ∃ source, parsed.tableSchema = some source ∧ TableRead source parsed := by
  unfold parseTable at accepted
  split at accepted
  · obtain ⟨⟨schema, names⟩, read, accepted⟩ := Library.bind_eq_ok accepted
    dsimp only at accepted
    split at accepted
    · split at accepted
      · contradiction
      · next declared =>
        obtain ⟨⟨index, data⟩, _, accepted⟩ := Library.bind_eq_ok accepted
        obtain ⟨data, rfl⟩ := finalizeFrame_keeps accepted
        refine ⟨schema, rfl, ⟨names, cloneTableSchema_eq_ok read, rfl, ?_⟩, ?_, rfl⟩
        · intro name head
          rw [head, Option.any_some, Bool.not_eq_true, Bool.not_eq_false',
            List.contains_iff_mem] at declared
          exact declared
        · dsimp only
          cases (schema.primaryKey.getD []).head? with
          | none | some name => simp
    · contradiction
  · contradiction

/-- Only table payloads bring a schema. -/
theorem parseInput_tableSchema {jsonParse : String → Option Value} {input : Value}
    {options : NormalizedFromOrientOptions} {parsed : ParsedFrame} {source : TableSchema}
    (accepted : parseInput jsonParse input options = .ok parsed)
    (schema : parsed.tableSchema = some source) :
    ∃ value, isJsonAt 0 value = true ∧ parseTable value = .ok parsed := by
  have plain : ∀ {frame : ParsedFrame}, frame.tableSchema = none →
      finalizeFrame frame ≠ .ok parsed := by
    intro frame absent finalized
    obtain ⟨data, rfl⟩ := finalizeFrame_keeps finalized
    have absent : frame.tableSchema = none := absent
    rw [absent] at schema
    contradiction
  rw [parseInput_eq] at accepted
  obtain ⟨_, _, accepted⟩ := Library.bind_eq_ok accepted
  obtain ⟨value, cloned, accepted⟩ := Library.bind_eq_ok accepted
  obtain ⟨orient, _, accepted⟩ := Library.bind_eq_ok accepted
  obtain ⟨rfl, json⟩ := cloneJsonCompatible_eq_ok cloned
  cases orient with
  | table => exact ⟨value, json, accepted⟩
  | records =>
    have accepted : parseRecords value = .ok parsed := accepted
    unfold parseRecords at accepted
    split at accepted
    · obtain ⟨_, _, accepted⟩ := Library.bind_eq_ok accepted
      exact absurd accepted (plain rfl)
    · contradiction
  | index =>
    have accepted : parseIndex value = .ok parsed := accepted
    unfold parseIndex at accepted
    split at accepted
    · obtain ⟨_, _, accepted⟩ := Library.bind_eq_ok accepted
      exact absurd accepted (plain rfl)
    · contradiction
  | columns =>
    have accepted : parseColumns value = .ok parsed := accepted
    unfold parseColumns at accepted
    split at accepted
    · obtain ⟨⟨_, _⟩, _, accepted⟩ := Library.bind_eq_ok accepted
      exact absurd accepted (plain rfl)
    · contradiction
  | values =>
    have accepted : parseValues value options.columns = .ok parsed := accepted
    unfold parseValues at accepted
    split at accepted
    · contradiction
    · obtain ⟨_, _, accepted⟩ := Library.bind_eq_ok accepted
      exact absurd accepted (plain rfl)
    · contradiction
  | split =>
    have accepted : parseSplit value = .ok parsed := accepted
    unfold parseSplit at accepted
    dsimp only at accepted
    split at accepted
    · split at accepted
      · obtain ⟨_, _, accepted⟩ := Library.bind_eq_ok accepted
        obtain ⟨_, _, accepted⟩ := Library.bind_eq_ok accepted
        split at accepted
        · contradiction
        · obtain ⟨_, _, accepted⟩ := Library.bind_eq_ok accepted
          exact absurd accepted (plain rfl)
      · contradiction
      · contradiction
    · contradiction

/-- The field of a schema that its primary key names. -/
def sourceIndexField (source : TableSchema) : Option TableSchemaField :=
  (source.primaryKey.getD []).head?.bind (fieldNamed source.fields)

/-- The fields of a schema that describe columns. -/
def sourceDataFields (source : TableSchema) : List TableSchemaField :=
  source.fields.filter fun field => some field.name ≠ (source.primaryKey.getD []).head?

/-- One field has a name of it. -/
theorem filter_name {fields : List TableSchemaField}
    (distinct : (fields.map TableSchemaField.name).Nodup) (member : field ∈ fields) :
    (fields.filter fun other => other.name = field.name) = [field] := by
  induction fields with
  | nil => exact absurd member List.not_mem_nil
  | cons first fields ih =>
    rw [List.map_cons, List.nodup_cons] at distinct
    rw [List.filter_cons]
    rcases List.mem_cons.mp member with same | member
    · subst same
      have others : (fields.filter fun other => other.name = field.name) = [] := by
        rw [List.filter_eq_nil_iff]
        intro other listed same
        apply distinct.1
        rw [← of_decide_eq_true same]
        exact List.mem_map_of_mem listed
      rw [if_pos (decide_eq_true rfl), others]
    · have apart : first.name ≠ field.name := by
        intro same
        apply distinct.1
        rw [same]
        exact List.mem_map_of_mem member
      rw [if_neg (by simpa using apart)]
      exact ih distinct.2 member

namespace TableRead

variable {source : TableSchema} {parsed : ParsedFrame}

theorem distinct (read : TableRead source parsed) :
    (source.fields.map TableSchemaField.name).Nodup := by
  obtain ⟨names, schema, _⟩ := read.schema
  rw [← schema.names]
  exact names.2

theorem columns_eq (read : TableRead source parsed) :
    parsed.columns.1 = (sourceDataFields source).map TableSchemaField.name := by
  obtain ⟨names, schema, columns, _⟩ := read.schema
  have filtered : parsed.columns.1 =
      names.1.filter fun name => some name ≠ (source.primaryKey.getD []).head? := by
    rw [columns]
    rfl
  rw [filtered, schema.names, List.filter_map]
  rfl

/-- The primary key names a field. -/
theorem keyField (read : TableRead source parsed) {name : String}
    (head : (source.primaryKey.getD []).head? = some name) :
    ∃ field, sourceIndexField source = some field ∧ field ∈ source.fields ∧
      field.name = name := by
  obtain ⟨names, schema, _, declared⟩ := read.schema
  have member := declared name head
  rw [schema.names] at member
  obtain ⟨field, listed, same⟩ := List.mem_map.mp member
  refine ⟨field, ?_, listed, same⟩
  rw [sourceIndexField, head, Option.bind_some]
  exact (fieldNamed_iff read.distinct).mpr ⟨listed, same⟩

theorem index_name (read : TableRead source parsed) :
    (sourceIndexField source).map TableSchemaField.name = (source.primaryKey.getD []).head? := by
  cases head : (source.primaryKey.getD []).head? with
  | none => rw [sourceIndexField, head]; rfl
  | some name =>
    obtain ⟨field, found, _, same⟩ := read.keyField head
    rw [found, Option.map_some, same]

/-- Every field describes the index or a column. -/
theorem fields_perm (read : TableRead source parsed) :
    source.fields.Perm ((sourceIndexField source).toList ++ sourceDataFields source) := by
  have kept := List.filter_append_perm
    (fun field : TableSchemaField => decide (some field.name ≠ (source.primaryKey.getD []).head?))
    source.fields
  have key : (source.fields.filter fun field =>
      !decide (some field.name ≠ (source.primaryKey.getD []).head?)) =
      (sourceIndexField source).toList := by
    cases head : (source.primaryKey.getD []).head? with
    | none =>
      rw [sourceIndexField, head]
      simp
    | some name =>
      obtain ⟨field, found, listed, same⟩ := read.keyField head
      rw [found]
      have named : (source.fields.filter fun field =>
          !decide (some field.name ≠ some name)) =
          source.fields.filter fun other => other.name = field.name := by
        apply List.filter_congr
        intro other _
        simp [same]
      rw [named]
      exact filter_name read.distinct listed
  rw [key] at kept
  exact kept.symm.trans List.perm_append_comm

end TableRead

/-- A frame that was imported from a table payload. -/
theorem follows_start {jsonParse : String → Option Value} {input options : Value}
    {frame : DataFrame} {source : TableSchema}
    (imported : fromOrient jsonParse input options = .ok frame)
    (schema : frame.state.tableSchema = some source) :
    Follows source (sourceIndexField source) frame.state.columns.1 [] frame.state ∧
      ∃ names, SchemaRead source names := by
  obtain ⟨normalized, parsed, _, accepted, created⟩ := fromOrient_eq_ok imported
  obtain ⟨value, _, parsedTable⟩ := parseInput_tableSchema accepted
    (by rw [← created.tableSchema, schema])
  obtain ⟨source', same, read⟩ := parseTable_eq_ok parsedTable
  rw [← created.tableSchema, schema] at same
  obtain rfl := Option.some.inj same
  have columns : frame.state.columns.1 =
      (sourceDataFields source).map TableSchemaField.name := by
    rw [created.columns, read.columns_eq]
  have roles : Roles frame.state (sourceIndexField source) (sourceDataFields source) := by
    refine ⟨columns.symm, ?_, source, schema, read.fields_perm, ?_⟩
    · rw [created.tableIndexField, read.tableIndexField, read.index_name]
    · intro repeated
      rw [(hasUniqueNames_iff _).mpr read.distinct] at repeated
      contradiction
  refine ⟨⟨⟨_, roles, ?_⟩, ?_, ?_, ?_⟩, read.schema.imp fun names found => found.1⟩
  · rw [columns]
    show List.Forall₂ _ (Descent.start _) _
    rw [Descent.start, List.map_map, List.forall₂_map_left_iff, List.forall₂_same]
    intro field member
    exact ⟨rfl, field, (List.mem_filter.mp member).1, rfl, fun _ => rfl⟩
  · rw [created.indexKind, read.indexKind]
    show _ ↔ (sourceIndexField source).isSome = true
    rw [← read.index_name, Option.isSome_map]
  · rw [created.columns]
    exact created.only
  · rw [schema]
    rfl

/-- The exported field of a column is the source field of its origin under its own name. -/
def ExportsField (source : TableSchema) (pair : String × String) (exported : Value) : Prop :=
  ∃ original ∈ source.fields, original.name = pair.2 ∧
    exported = .object (original.rename pair.1).entries

/-- The exported index fields and the primary key, where this source field is kept. -/
def ExportsIndex (kept : Option TableSchemaField) (exported : List Value)
    (primaryKey : Option Value) : Prop :=
  match kept with
  | none => exported = [] ∧ primaryKey = none
  | some original => ∃ name, exported = [.object (original.rename name).entries] ∧
      primaryKey = some (.array [.string name])

/-- A table payload whose fields follow their columns. -/
structure FollowsSource (source : TableSchema) (descent : Descent)
    (keptIndex : Option TableSchemaField) (payload : Value) : Prop where
  shape : ∃ schema data indexFields dataFields,
    payload = .object [("schema", .object schema), ("data", data)] ∧
    getOwn schema "fields" = some (.array (indexFields ++ dataFields)) ∧
    List.Forall₂ (ExportsField source) descent dataFields ∧
    ExportsIndex keptIndex indexFields (getOwn schema "primaryKey")

/-- The entries of a schema behind its metadata. -/
theorem getOwn_behind {metadata : Entries} {key : String}
    (apart : ∀ entry ∈ metadata, entry.1 ≠ key) (rest : Entries) :
    getOwn (metadata ++ rest) key = getOwn rest key := by
  have absent : metadata.lookup key = none := by
    rw [List.lookup_eq_none_iff]
    intro entry member
    rw [bne_iff_ne]
    exact (apart entry member).symm
  rw [getOwn, List.lookup_append, absent]
  rfl

theorem names_of_carries {source : TableSchema} {descent : Descent}
    (carried : List.Forall₂ (Carries source) descent data) :
    descent.map Prod.fst = data.map TableSchemaField.name := by
  induction carried with
  | nil => rfl
  | cons here rest ih => rw [List.map_cons, List.map_cons, ih, here.1]

/-- The data fields of a table payload. -/
theorem exports_data {source : TableSchema} {descent : Descent} {index : Option TableSchemaField}
    (roles : Roles state index data) (carried : List.Forall₂ (Carries source) descent data) :
    List.Forall₂ (ExportsField source) descent
      (state.columns.1.zipIdx.map fun position =>
        Value.object (columnField state (getDataFieldTemplates state)[position.2]?
          position.1).entries) := by
  have fields : (state.columns.1.zipIdx.map fun position =>
      Value.object (columnField state (getDataFieldTemplates state)[position.2]?
        position.1).entries) =
      data.map fun field => Value.object (field.rename field.name).entries := by
    rw [roles.templates.2, ← roles.names]
    apply List.ext_getElem
    · rw [List.length_map, List.length_zipIdx, List.length_map, List.length_map]
    · intro position inside inside'
      rw [List.length_map] at inside'
      simp [columnField, inside']
  rw [fields, List.forall₂_map_right_iff]
  apply carried.imp
  intro pair field carries
  obtain ⟨name, original, listed, same, alike⟩ := carries
  exact ⟨original, listed, same, by rw [name, alike]⟩

/-- The index field of a table payload. -/
theorem exports_index {index : Option TableSchemaField} (roles : Roles state index data)
    (indexKind : state.indexKind = .source ↔ index.isSome = true) {options : Value}
    {indexField : Option String} (resolved : resolveIndexFieldName state options = .ok indexField)
    (fields : Value) :
    ExportsIndex index
      (indexField.toList.map fun name => Value.object (indexFieldOf state name).entries)
      (getOwn (("fields", fields) :: indexField.toList.map fun name =>
        ("primaryKey", .array [.string name])) "primaryKey") := by
  obtain ⟨override, _, resolved⟩ := Library.bind_eq_ok resolved
  cases kind : state.indexKind with
  | synthetic =>
    rw [kind] at resolved indexKind
    obtain rfl := Except.ok.inj resolved
    cases index with
    | none => exact ⟨rfl, rfl⟩
    | some field => exact absurd (indexKind.mpr rfl) (by decide)
  | source =>
    rw [kind] at resolved indexKind
    dsimp only at resolved
    split at resolved
    · contradiction
    · obtain rfl := Except.ok.inj resolved
      cases index with
      | none => exact absurd (indexKind.mp rfl) (by decide)
      | some field =>
        refine ⟨_, ?_, rfl⟩
        rw [Option.toList_some, List.map_singleton, indexFieldOf, roles.templates.1]

/-- Through every sequence of transforms a table payload of the frame has the source field of each
column, and of the index while it is kept, with only the name replaced. -/
theorem exported_fields_follow {jsonParse : String → Option Value} {input options : Value}
    {frame : DataFrame} {source : TableSchema}
    (imported : fromOrient jsonParse input options = .ok frame)
    (schema : frame.state.tableSchema = some source) {arraySort : ArraySort}
    {sequence : List Transform} {final : DataFrame}
    (done : frame.transforms arraySort sequence = .ok final) {exportOptions payload : Value}
    (exported : final.toPayload .table exportOptions = .ok payload) :
    (descentOf frame.state.columns.1 sequence).map Prod.fst = final.state.columns.1 ∧
      FollowsSource source (descentOf frame.state.columns.1 sequence)
        (if keepsIndex sequence then sourceIndexField source else none) payload := by
  obtain ⟨start, _, read⟩ := follows_start imported schema
  have follows : Follows source (sourceIndexField source) frame.state.columns.1 sequence
      final.state :=
    transforms_invariant arraySort (Follows source (sourceIndexField source) frame.state.columns.1)
      (fun _ _ _ _ held transformed => held.step transformed) start done
  obtain ⟨data, roles, carried⟩ := follows.roles
  refine ⟨by rw [← roles.names, names_of_carries carried], ?_⟩
  obtain ⟨indexField, storedColumns, resolved, _, _, rfl⟩ := (exportTable_eq_ok exported).shape
  have metadata : (final.state.tableSchema.map TableSchema.metadata).getD [] =
      source.metadata := by
    rw [follows.metadata]
    rfl
  refine ⟨_, _, indexField.toList.map fun name => Value.object (indexFieldOf final.state name).entries,
    _, rfl, ?_, exports_data roles carried, ?_⟩
  · rw [exportedSchema, metadata, getOwn_behind fun entry member => (read.metadata entry member).1,
      exportedFields, List.map_append, List.map_map, List.map_map]
    rfl
  · rw [exportedSchema, metadata,
      getOwn_behind fun entry member => (read.metadata entry member).2]
    exact exports_index roles follows.indexKind resolved _

/-- A table with an index and two columns. -/
def pricesTable : Value :=
  .object [("schema", .object
      [("fields", .array
        [.object [("name", .string "id"), ("type", .string "string"), ("title", .string "key")],
          .object [("name", .string "price"), ("type", .string "number"), ("unit", .string "eur")],
          .object [("name", .string "note"), ("type", .string "string")]]),
        ("primaryKey", .array [.string "id"])]),
    ("data", .array
      [.object [("id", .string "x"), ("price", .number "2"), ("note", .string "new")],
        .object [("id", .string "y"), ("price", .number "3"), ("note", .null)]])]

def tableOptions : Value :=
  .object [("orient", .string "table")]

/-- The price column takes the name of the index field, and then the name of the other column. -/
def renamings : List Transform :=
  [.rename [("price", .string "id")], .rename [("id", .string "note"), ("note", .string "id")]]

def keyOptions : Value :=
  .object [("indexField", .string "key")]

theorem exported_fields_follow_renamings :
    ∃ frame source final payload, fromOrient (fun _ => none) pricesTable tableOptions = .ok frame ∧
      frame.state.tableSchema = some source ∧ frame.transforms .stable renamings = .ok final ∧
      final.toPayload .table keyOptions = .ok payload ∧
      FollowsSource source [("note", "price"), ("id", "note")] (sourceIndexField source) payload := by
  have succeeds : ((fromOrient (fun _ => none) pricesTable tableOptions >>=
      (·.transforms .stable renamings)) >>= (·.toPayload .table keyOptions)).isOk = true := by
    decide +kernel
  obtain ⟨payload, done⟩ := Library.exists_of_isOk succeeds
  obtain ⟨final, transformed, exported⟩ := Library.bind_eq_ok done
  obtain ⟨frame, imported, transformed⟩ := Library.bind_eq_ok transformed
  cases schema : frame.state.tableSchema with
  | none =>
    have tables : ((fromOrient (fun _ => none) pricesTable tableOptions).map fun frame =>
      frame.state.tableSchema.isSome) = .ok true := rfl
    rw [imported] at tables
    have tables : frame.state.tableSchema.isSome = true := Except.ok.inj tables
    rw [schema] at tables
    exact absurd tables Bool.false_ne_true
  | some source =>
    have columns : ((fromOrient (fun _ => none) pricesTable tableOptions).map fun frame =>
      frame.state.columns.1) = .ok ["price", "note"] := rfl
    rw [imported] at columns
    have columns : frame.state.columns.1 = _ := Except.ok.inj columns
    have follows := (exported_fields_follow imported schema transformed exported).2
    rw [columns] at follows
    exact ⟨frame, source, final, payload, imported, schema, transformed, exported, follows⟩

end WebTsToolkit.JsonFrame
