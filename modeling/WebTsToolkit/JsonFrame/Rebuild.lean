import WebTsToolkit.JsonFrame.Payload

set_option autoImplicit false

namespace WebTsToolkit.JsonFrame

open Js Utils

namespace BuiltColumns

variable {ι : Type} {threshold : Nat} {key : ι → String}
  {compute : ι → Except JsonFrameError (List Value × ColumnInfo)}

/-- The stored column that a source gives. -/
def pack (threshold : Nat) (source : List Value × ColumnInfo) : StoredColumn :=
  packColumn source.1 source.2 threshold

/-- Both maps are filled with the sources of the items. -/
theorem collect_eq_ok {items : List ι} {built final : BuiltColumns}
    (collected : collect threshold key compute items built = .ok final) :
    Map.collect key (fun item => (compute item).map (pack threshold)) items built.data =
        .ok final.data ∧
      Map.collect key (fun item => (compute item).map Prod.snd) items built.columnInfo =
        .ok final.columnInfo := by
  induction items generalizing built with
  | nil =>
    rw [← Except.ok.inj collected]
    exact ⟨rfl, rfl⟩
  | cons item items ih =>
    rw [collect, List.foldlM_cons] at collected
    rw [Map.collect, List.foldlM_cons, Map.collect, List.foldlM_cons]
    cases computed : compute item with
    | error reason =>
      rw [computed] at collected
      contradiction
    | ok source =>
      rw [computed] at collected
      exact ih collected

/-- What the maps hold for an item and for any other key. -/
structure Filled (threshold : Nat) (key : ι → String)
    (compute : ι → Except JsonFrameError (List Value × ColumnInfo)) (items : List ι)
    (final : BuiltColumns) : Prop where
  item : ∀ item ∈ items, ∃ source, compute item = .ok source ∧
    final.data.lookup (key item) = some (pack threshold source) ∧
    final.columnInfo.lookup (key item) = some source.2
  other : ∀ column, column ∉ items.map key →
    final.data.lookup column = none ∧ final.columnInfo.lookup column = none

theorem collect_filled {items : List ι} {final : BuiltColumns}
    (collected : collect threshold key compute items {} = .ok final)
    (distinct : (items.map key).Nodup) : Filled threshold key compute items final := by
  obtain ⟨data, columnInfo⟩ := collect_eq_ok collected
  constructor
  · intro item member
    obtain ⟨stored, packed, found⟩ := Map.lookup_collect data distinct member
    obtain ⟨info, described, found'⟩ := Map.lookup_collect columnInfo distinct member
    cases computed : compute item with
    | error reason =>
      rw [computed] at packed
      contradiction
    | ok source =>
      rw [computed] at packed described
      refine ⟨source, rfl, ?_, ?_⟩
      · rw [found, ← Except.ok.inj packed]
      · rw [found', ← Except.ok.inj described]
  · intro column apart
    rw [Map.lookup_collect_other data apart, Map.lookup_collect_other columnInfo apart]
    exact ⟨rfl, rfl⟩

end BuiltColumns

/-- The state that a parsed frame becomes. -/
structure Created (parsed : ParsedFrame) (options : NormalizedFromOrientOptions)
    (state : FrameState) : Prop where
  columns : state.columns = parsed.columns
  index : state.index = parsed.index
  indexKind : state.indexKind = parsed.indexKind
  tableSchema : state.tableSchema = parsed.tableSchema
  tableIndexField : state.tableIndexField = parsed.tableIndexField
  stored : ∀ column ∈ parsed.columns.1, ∃ values stored,
    parsed.data.lookup column = some values ∧ state.data.lookup column = some stored ∧
      stored.values = values
  described : ∀ column ∈ parsed.columns.1, ∃ info, state.columnInfo.lookup column = some info
  only : ∀ column, column ∉ parsed.columns.1 → state.data.lookup column = none

theorem buildColumn_eq_ok {parsed : ParsedFrame} {options : NormalizedFromOrientOptions}
    {position : String × Nat} {source : List Value × ColumnInfo}
    (built : buildColumn parsed options position = .ok source) :
    parsed.data.lookup position.1 = some source.1 := by
  obtain ⟨column, columnIndex⟩ := position
  obtain ⟨values, read, built⟩ := Library.bind_eq_ok built
  have same : source.1 = values := by
    dsimp only at built
    split at built
    · obtain ⟨_, _, same⟩ := Library.bind_eq_ok built
      rw [← Except.ok.inj same]
    · rw [← Except.ok.inj built]
  rw [same]
  unfold parsedColumn at read
  cases found : parsed.data.lookup column with
  | none =>
    rw [found] at read
    contradiction
  | some held =>
    rw [found] at read
    rw [Except.ok.inj read]

theorem createFrameState_eq_ok {parsed : ParsedFrame} {options : NormalizedFromOrientOptions}
    {state : FrameState} (created : createFrameState parsed options = .ok state) :
    Created parsed options state := by
  obtain ⟨_, _, created⟩ := Library.bind_eq_ok created
  obtain ⟨built, collected, same⟩ := Library.bind_eq_ok created
  have same := Except.ok.inj same
  subst same
  have keys : parsed.columns.1.zipIdx.map Prod.fst = parsed.columns.1 :=
    List.zipIdx_map_fst _ _
  have filled := BuiltColumns.collect_filled collected (by rw [keys]; exact parsed.columns.2)
  have found : ∀ column ∈ parsed.columns.1, ∃ source : List Value × ColumnInfo,
      parsed.data.lookup column = some source.1 ∧
        built.data.lookup column = some (BuiltColumns.pack options.packThreshold source) ∧
          built.columnInfo.lookup column = some source.2 := by
    intro column member
    rw [← keys] at member
    obtain ⟨position, listed, rfl⟩ := List.mem_map.mp member
    obtain ⟨source, computed, found⟩ := filled.item position listed
    exact ⟨source, buildColumn_eq_ok computed, found⟩
  refine ⟨rfl, rfl, rfl, rfl, rfl, ?_, ?_, ?_⟩
  · intro column member
    obtain ⟨source, parsedAs, stored, _⟩ := found column member
    exact ⟨source.1, _, parsedAs, stored, values_packColumn _ _ _⟩
  · intro column member
    obtain ⟨source, _, _, described⟩ := found column member
    exact ⟨source.2, described⟩
  · intro column apart
    exact (filled.other column (by rwa [keys])).1

/-- An imported frame comes from a payload that was parsed. -/
theorem fromOrient_eq_ok {jsonParse : String → Option Value} {input options : Value}
    {frame : DataFrame} (imported : fromOrient jsonParse input options = .ok frame) :
    ∃ normalized parsed, normalizeFromOrientOptions options = .ok normalized ∧
      parseInput jsonParse input normalized = .ok parsed ∧ Created parsed normalized frame.state := by
  obtain ⟨normalized, accepted, imported⟩ := Library.bind_eq_ok imported
  obtain ⟨parsed, read, imported⟩ := Library.bind_eq_ok imported
  obtain ⟨state, created, same⟩ := Library.bind_eq_ok imported
  rw [← Except.ok.inj same]
  exact ⟨normalized, parsed, accepted, read, createFrameState_eq_ok created⟩

namespace DataFrame

/-- The frame that `rebuild` makes of a source. -/
structure Rebuilt (source : FrameState) (targets : UniqueLabels) (sourceColumns : List String)
    (positions : List Nat) (labels : List IndexLabel) (kind : IndexKind)
    (schema : TransformSchema) (final : FrameState) : Prop where
  columns : final.columns = targets
  index : final.index = labels
  indexKind : final.indexKind = kind
  tableSchema : final.tableSchema = schema.tableSchema
  tableIndexField : final.tableIndexField = schema.tableIndexField
  stored : ∀ pair ∈ targets.1.zip sourceColumns, ∃ stored stored',
    source.data.lookup pair.2 = some stored ∧ final.data.lookup pair.1 = some stored' ∧
      stored'.values = positions.map fun position => stored.values[position]?.getD .undefined
  described : ∀ column ∈ targets.1, ∃ info, final.columnInfo.lookup column = some info
  only : ∀ column, column ∉ targets.1 → final.data.lookup column = none

variable {frame final : DataFrame} {state : FrameState}

theorem rebuild_eq_ok {columns : UniqueLabels} {sourceColumns : List String}
    {positions : List Nat} {index : List IndexLabel} {indexKind : IndexKind}
    {schema : TransformSchema}
    (rebuilt : frame.rebuild columns sourceColumns positions index indexKind schema = .ok final)
    (paired : sourceColumns.length = columns.1.length) :
    Rebuilt frame.state columns sourceColumns positions index indexKind schema final.state := by
  unfold rebuild at rebuilt
  obtain ⟨columnInfo, _, rebuilt⟩ := Library.bind_eq_ok rebuilt
  obtain ⟨data, cells, rebuilt⟩ := Library.bind_eq_ok rebuilt
  obtain ⟨state, created, same⟩ := Library.bind_eq_ok rebuilt
  have same : DataFrame.mk state frame.packThreshold = final := Except.ok.inj same
  subst same
  obtain ⟨built, collected, made⟩ := Library.bind_eq_ok created
  have made := Except.ok.inj made
  subst made
  have distinct : (columns.1.map id).Nodup := by
    rw [List.map_id]
    exact columns.2
  have filled := BuiltColumns.collect_filled collected distinct
  have keys : (columns.1.zip sourceColumns).map Prod.fst = columns.1 :=
    List.map_fst_zip (by omega)
  refine ⟨rfl, rfl, rfl, rfl, rfl, ?_, ?_, ?_⟩
  · intro pair member
    have listed : pair.1 ∈ columns.1 := by
      rw [← keys]
      exact List.mem_map_of_mem member
    obtain ⟨values, read, put⟩ := Map.lookup_collect cells (by rw [keys]; exact columns.2) member
    obtain ⟨source, computed, found, _⟩ := filled.item pair.1 listed
    unfold rebuildColumn at computed
    rw [put] at computed
    cases described : columnInfo.lookup pair.1 with
    | none =>
      rw [described] at computed
      contradiction
    | some info =>
      rw [described] at computed
      have computed := Except.ok.inj computed
      unfold sourceCells at read
      cases held : frame.state.data.lookup pair.2 with
      | none =>
        rw [held] at read
        contradiction
      | some stored =>
        rw [held] at read
        refine ⟨stored, _, rfl, found, ?_⟩
        rw [BuiltColumns.pack, values_packColumn, ← computed, ← rebuildStoredColumn_eq]
        exact (Except.ok.inj read).symm
  · intro column member
    obtain ⟨source, _, _, found⟩ := filled.item column member
    exact ⟨source.2, found⟩
  · intro column apart
    exact (filled.other column (by rwa [List.map_id])).1

/-- What a transform makes of a frame. Filtering and sorting both pick rows. -/
inductive Transformed (state : FrameState) : Transform → FrameState → Prop where
  | filter (predicate : Row → IndexLabel → Nat → Bool) (picked : List Nat) (final : FrameState)
      (valid : ∀ position ∈ picked, position < state.index.length)
      (rebuilt : Rebuilt state state.columns state.columns.1 picked (labelsAt state picked)
        state.indexKind (keptSchema state) final) : Transformed state (.filter predicate) final
  | sort (compare : Row → Row → IndexLabel → IndexLabel → Nat → Nat → Number)
      (picked : List Nat) (final : FrameState)
      (valid : ∀ position ∈ picked, position < state.index.length)
      (rebuilt : Rebuilt state state.columns state.columns.1 picked (labelsAt state picked)
        state.indexKind (keptSchema state) final) : Transformed state (.sort compare) final
  | select (columns : UniqueLabels) (final : FrameState)
      (held : ∀ column ∈ columns.1, (state.data.lookup column).isSome = true)
      (rebuilt : Rebuilt state columns columns.1 (allPositions state) state.index
        state.indexKind (selectSchema state columns.1) final) :
      Transformed state (.select columns.1) final
  | rename (mapping : Entries) (columns : UniqueLabels) (final : FrameState)
      (names : columns.1 = state.columns.1.map (renamed mapping))
      (rebuilt : Rebuilt state columns state.columns.1 (allPositions state) state.index
        state.indexKind (renameSchema state mapping columns.1) final) :
      Transformed state (.rename mapping) final
  | resetIndex (final : FrameState)
      (rebuilt : Rebuilt state state.columns state.columns.1 (allPositions state)
        (positions state.index.length) .synthetic (resetIndexSchema state) final) :
      Transformed state .resetIndex final

theorem selectedColumns_eq_ok {columns : List String} {selected final : UniqueLabels}
    (accepted : selectedColumns state selected columns = .ok final) :
    final.1 = selected.1 ++ columns ∧
      ∀ column ∈ columns, (state.data.lookup column).isSome = true := by
  induction columns generalizing selected with
  | nil =>
    rw [← Except.ok.inj accepted, List.append_nil]
    exact ⟨rfl, fun _ member => absurd member List.not_mem_nil⟩
  | cons column columns ih =>
    unfold selectedColumns at accepted
    dsimp only at accepted
    split at accepted
    · contradiction
    · next present =>
      split at accepted
      · contradiction
      · next fresh =>
        obtain ⟨same, held⟩ := ih accepted
        refine ⟨by rw [same]; exact List.append_assoc _ _ _, ?_⟩
        refine List.forall_mem_cons.mpr ⟨?_, held⟩
        cases found : state.data.lookup column with
        | none =>
          rw [found] at present
          exact absurd rfl present
        | some stored => rfl

theorem nextColumns_eq_ok {mapping : Entries} {columns next : List String}
    (accepted : nextColumns mapping columns = .ok next) :
    next = columns.map (renamed mapping) := by
  induction columns generalizing next with
  | nil => exact (Except.ok.inj accepted).symm
  | cons column columns ih =>
    unfold nextColumns at accepted
    split at accepted
    · obtain ⟨rest, later, same⟩ := Library.bind_eq_ok accepted
      rw [← Except.ok.inj same, ih later]
      rfl
    · obtain ⟨rest, later, same⟩ := Library.bind_eq_ok accepted
      rw [← Except.ok.inj same, ih later]
      rfl
    · contradiction

theorem assertUniqueRenamed_eq_ok {next : List String} {columns final : UniqueLabels}
    (accepted : assertUniqueRenamed columns next = .ok final) :
    final.1 = columns.1 ++ next := by
  induction next generalizing columns with
  | nil => rw [← Except.ok.inj accepted, List.append_nil]
  | cons column next ih =>
    unfold assertUniqueRenamed at accepted
    split at accepted
    · contradiction
    · rw [ih accepted]
      exact List.append_assoc _ _ _

theorem keptPositions_valid {predicate : Row → IndexLabel → Nat → Bool} {kept : List Nat}
    (filtered : keptPositions state predicate = .ok kept) :
    ∀ position ∈ kept, position < state.index.length := by
  obtain ⟨pairs, filtered, same⟩ := Library.bind_eq_ok filtered
  intro position member
  rw [← Except.ok.inj same] at member
  obtain ⟨pair, passed, rfl⟩ := List.mem_map.mp member
  have listed := Library.mem_of_filterM filtered passed
  rw [List.mem_zipIdx_iff_getElem?] at listed
  exact (List.getElem?_eq_some_iff.mp listed).1

/-- Every row to be sorted carries its own label. -/
theorem orderedRows_labels {rows : List Ordered} (made : orderedRows state = .ok rows) :
    ∀ row ∈ rows, state.index[row.position]? = some row.indexLabel := by
  intro row member
  obtain ⟨pair, listed, converted⟩ := Library.mem_of_mapM made member
  obtain ⟨cells, _, same⟩ := Library.bind_eq_ok converted
  rw [← Except.ok.inj same]
  exact List.mem_zipIdx_iff_getElem?.mp listed

theorem labelsAt_ordered {rows : List Ordered}
    (labels : ∀ row ∈ rows, state.index[row.position]? = some row.indexLabel) :
    labelsAt state (rows.map Ordered.position) = rows.map Ordered.indexLabel := by
  unfold labelsAt
  rw [List.filterMap_map]
  apply List.filterMap_eq_map_iff_forall_eq_some.mpr
  exact labels

theorem transform_eq_ok {arraySort : ArraySort} {transform : Transform}
    (done : frame.transform arraySort transform = .ok final) :
    Transformed frame.state transform final.state := by
  cases transform with
  | filter predicate =>
    obtain ⟨kept, filtered, rebuilt⟩ := Library.bind_eq_ok done
    exact .filter predicate kept _ (keptPositions_valid filtered) (rebuild_eq_ok rebuilt rfl)
  | sort compare =>
    obtain ⟨rows, made, rebuilt⟩ := Library.bind_eq_ok done
    have labels : ∀ row ∈ arraySort.sort (compareRows compare) rows,
        frame.state.index[row.position]? = some row.indexLabel := fun row member =>
      orderedRows_labels made row ((arraySort.perm _ rows).subset member)
    have valid : ∀ position ∈ (arraySort.sort (compareRows compare) rows).map Ordered.position,
        position < frame.state.index.length := by
      intro position member
      obtain ⟨row, listed, rfl⟩ := List.mem_map.mp member
      exact (List.getElem?_eq_some_iff.mp (labels row listed)).1
    have rebuilt := rebuild_eq_ok rebuilt rfl
    rw [← labelsAt_ordered labels] at rebuilt
    exact .sort compare _ _ valid rebuilt
  | select columns =>
    obtain ⟨selected, accepted, rebuilt⟩ := Library.bind_eq_ok done
    obtain ⟨same, held⟩ := selectedColumns_eq_ok accepted
    have same : selected.1 = columns := same
    subst same
    exact .select selected _ held (rebuild_eq_ok rebuilt rfl)
  | rename mapping =>
    obtain ⟨next, accepted, later⟩ := Library.bind_eq_ok done
    obtain ⟨columns, unique, rebuilt⟩ := Library.bind_eq_ok later
    have names : columns.1 = frame.state.columns.1.map (renamed mapping) := by
      rw [assertUniqueRenamed_eq_ok unique, nextColumns_eq_ok accepted]
      rfl
    refine .rename mapping columns _ names (rebuild_eq_ok rebuilt ?_)
    rw [names, List.length_map]
  | resetIndex => exact .resetIndex _ (rebuild_eq_ok done rfl)

/-- What every transform preserves holds after any sequence of them. -/
theorem transforms_invariant (arraySort : ArraySort) (holds : List Transform → FrameState → Prop)
    (keeps : ∀ before state transform final, holds before state →
      Transformed state transform final → holds (before ++ [transform]) final)
    {sequence : List Transform} (start : holds [] frame.state)
    (done : frame.transforms arraySort sequence = .ok final) : holds sequence final.state := by
  have run : ∀ (rest before : List Transform) (frame : DataFrame), holds before frame.state →
      frame.transforms arraySort rest = .ok final → holds (before ++ rest) final.state := by
    intro rest
    induction rest with
    | nil =>
      intro before frame held done
      rw [List.append_nil, ← Except.ok.inj done]
      exact held
    | cons transform rest ih =>
      intro before frame held done
      rw [transforms, List.foldlM_cons] at done
      obtain ⟨next, first, later⟩ := Library.bind_eq_ok done
      have kept := keeps before _ _ _ held (transform_eq_ok first)
      have after := ih _ next kept later
      rwa [List.append_assoc] at after
  exact run sequence [] frame start done

end DataFrame

namespace TableSchemaField

@[simp] theorem name_rename (field : TableSchemaField) (name : String) :
    (field.rename name).name = name :=
  rfl

theorem entries_rename_rename (entries : Entries) (first second : Value) :
    (entries.map fun entry => if entry.1 = "name" then ("name", first) else entry).map
        (fun entry => if entry.1 = "name" then ("name", second) else entry) =
      entries.map fun entry => if entry.1 = "name" then ("name", second) else entry := by
  rw [List.map_map]
  apply List.map_congr_left
  intro entry _
  by_cases named : entry.1 = "name"
  · simp [named]
  · simp [named]

theorem eq_of_entries {first second : TableSchemaField} (name : first.name = second.name)
    (entries : first.entries = second.entries) : first = second := by
  cases first
  cases second
  cases name
  cases entries
  rfl

/-- Only the last name stays. -/
@[simp] theorem rename_rename (field : TableSchemaField) (first second : String) :
    (field.rename first).rename second = field.rename second :=
  eq_of_entries rfl (entries_rename_rename _ _ _)

end TableSchemaField

/-- The same field up to its name. -/
def SameButName (first second : TableSchemaField) : Prop :=
  ∀ name, first.rename name = second.rename name

theorem sameButName_rename (field : TableSchemaField) (name : String) :
    SameButName (field.rename name) field :=
  fun other => field.rename_rename name other

theorem SameButName.trans {first second third : TableSchemaField}
    (same : SameButName first second) (same' : SameButName second third) :
    SameButName first third :=
  fun name => (same name).trans (same' name)

/-- The field of a name. -/
def fieldNamed (fields : List TableSchemaField) (name : String) : Option TableSchemaField :=
  fields.find? (·.name == name)

variable {fields : List TableSchemaField}

theorem fieldNamed_eq_some {name : String} {field : TableSchemaField}
    (found : fieldNamed fields name = some field) : field ∈ fields ∧ field.name = name :=
  ⟨List.mem_of_find?_eq_some found, by simpa using List.find?_some found⟩

theorem fieldNamed_iff (distinct : (fields.map TableSchemaField.name).Nodup) {name : String}
    {field : TableSchemaField} :
    fieldNamed fields name = some field ↔ field ∈ fields ∧ field.name = name := by
  constructor
  · exact fieldNamed_eq_some
  · intro listed
    cases found : fieldNamed fields name with
    | none =>
      have apart := List.find?_eq_none.mp found field listed.1
      simp [listed.2] at apart
    | some other =>
      obtain ⟨member, same⟩ := fieldNamed_eq_some found
      have equal := List.inj_on_of_nodup_map distinct member listed.1 (same.trans listed.2.symm)
      rw [equal]

/-- With distinct names the map finds the field of a name. -/
theorem lookup_fieldsByName (distinct : (fields.map TableSchemaField.name).Nodup) (name : String) :
    (fieldsByName fields).lookup name = fieldNamed fields name := by
  have general : ∀ map : Map TableSchemaField,
      (fields.foldl (fun byName field => byName.set field.name field) map).lookup name =
        (fieldNamed fields name).or (map.lookup name) := by
    induction fields with
    | nil => exact fun map => rfl
    | cons field fields ih =>
      intro map
      rw [List.map_cons, List.nodup_cons] at distinct
      rw [List.foldl_cons, ih distinct.2, Map.lookup_set, fieldNamed, fieldNamed,
        List.find?_cons]
      by_cases here : name = field.name
      · have none : fields.find? (·.name == name) = none := by
          rw [List.find?_eq_none]
          intro other member same
          apply distinct.1
          rw [← here, ← beq_iff_eq.mp same]
          exact List.mem_map_of_mem member
        rw [if_pos here, none, beq_iff_eq.mpr here.symm]
        rfl
      · rw [if_neg here, beq_eq_false_iff_ne.mpr (Ne.symm here)]
  rw [fieldsByName, general]
  exact Option.or_none

theorem hasUniqueNames_iff (fields : List TableSchemaField) :
    hasUniqueNames fields = true ↔ (fields.map TableSchemaField.name).Nodup := by
  rw [hasUniqueNames, beq_iff_eq]
  constructor
  · intro same
    have whole := (List.dedup_sublist (fields.map TableSchemaField.name)).eq_of_length
      (by rw [same, List.length_map])
    rw [← whole]
    exact List.nodup_dedup _
  · intro distinct
    rw [distinct.dedup, List.length_map]

/-- The fields of the columns are the data fields, wherever those stand. -/
theorem orderedFields_eq {fields data : List TableSchemaField}
    (distinct : (fields.map TableSchemaField.name).Nodup) (listed : ∀ field ∈ data, field ∈ fields) :
    orderedFields (data.map TableSchemaField.name) (fieldsByName fields) = data := by
  rw [orderedFields, List.filterMap_map]
  have found : ∀ field ∈ data,
      ((fieldsByName fields).lookup ∘ TableSchemaField.name) field = some field := by
    intro field member
    rw [Function.comp_apply, lookup_fieldsByName distinct]
    exact (fieldNamed_iff distinct).mpr ⟨listed field member, rfl⟩
  rw [List.filterMap_eq_map_iff_forall_eq_some.mpr found]
  exact List.map_id data

theorem zip_names (data : List TableSchemaField) :
    (data.map TableSchemaField.name).zip data = data.map fun field => (field.name, field) := by
  induction data with
  | nil => rfl
  | cons field data ih => rw [List.map_cons, List.zip_cons_cons, ih, List.map_cons]

theorem byColumn_eq (data : List TableSchemaField) :
    byColumn (data.map TableSchemaField.name) data = fieldsByName data := by
  rw [byColumn, zip_names, List.foldl_map]
  rfl

/-- Which fields of a schema describe the index and the columns: in any order while the names are
distinct, else the index first. -/
structure Roles (state : FrameState) (index : Option TableSchemaField)
    (data : List TableSchemaField) : Prop where
  names : data.map TableSchemaField.name = state.columns.1
  indexName : index.map TableSchemaField.name = state.tableIndexField
  schema : ∃ current, state.tableSchema = some current ∧
    current.fields.Perm (index.toList ++ data) ∧
    (hasUniqueNames current.fields = false → current.fields = index.toList ++ data)

namespace Roles

variable {state : FrameState} {index : Option TableSchemaField} {data : List TableSchemaField}

theorem data_distinct (roles : Roles state index data) :
    (data.map TableSchemaField.name).Nodup := by
  rw [roles.names]
  exact state.columns.2

theorem length_data (roles : Roles state index data) : data.length = state.columns.1.length := by
  rw [← roles.names, List.length_map]

theorem orderedFields_data (roles : Roles state index data) :
    orderedFields state.columns.1 (fieldsByName data) = data := by
  rw [← roles.names]
  exact orderedFields_eq roles.data_distinct fun field member => member

/-- Names only repeat where a column has the name of the index field. -/
theorem duplicates (roles : Roles state index data) {current : TableSchema}
    (schema : state.tableSchema = some current) (repeated : hasUniqueNames current.fields = false) :
    ∃ field, index = some field ∧ state.tableIndexField = some field.name ∧
      current.fields = field :: data := by
  obtain ⟨current', same, perm, canonical⟩ := roles.schema
  rw [schema] at same
  obtain rfl := Option.some.inj same
  cases index with
  | none =>
    have distinct := ((perm.map TableSchemaField.name).nodup_iff).mpr roles.data_distinct
    rw [(hasUniqueNames_iff _).mpr distinct] at repeated
    contradiction
  | some field => exact ⟨field, rfl, roles.indexName.symm, canonical repeated⟩

theorem splitDuplicates_eq (roles : Roles state index data) (field : TableSchemaField) :
    splitDuplicates (field :: data) state.columns.1.length field.name = (some field, data) := by
  rw [splitDuplicates, if_pos ⟨roles.length_data, rfl⟩]

/-- With distinct names the fields of both roles are found by name. -/
theorem found (roles : Roles state index data) {current : TableSchema}
    (schema : state.tableSchema = some current) (unique : hasUniqueNames current.fields = true) :
    (∀ field, index = some field → fieldNamed current.fields field.name = some field) ∧
      orderedFields state.columns.1 (fieldsByName current.fields) = data := by
  obtain ⟨current', same, perm, _⟩ := roles.schema
  rw [schema] at same
  obtain rfl := Option.some.inj same
  have distinct := (hasUniqueNames_iff _).mp unique
  constructor
  · intro field role
    apply (fieldNamed_iff distinct).mpr
    rw [perm.mem_iff, role]
    exact ⟨List.mem_append_left _ (List.mem_singleton_self field), rfl⟩
  · rw [← roles.names]
    apply orderedFields_eq distinct
    intro field member
    rw [perm.mem_iff]
    exact List.mem_append_right _ member

/-- Transforms find the fields of both roles. -/
theorem partition (roles : Roles state index data) :
    (partitionSchemaFields state).indexTemplate = index ∧
      (partitionSchemaFields state).dataInColumnOrder = data ∧
      (partitionSchemaFields state).dataByColumn = fieldsByName data := by
  obtain ⟨current, schema, _, _⟩ := roles.schema
  have names := roles.indexName
  have columns : byColumn state.columns.1 data = fieldsByName data := by
    rw [← roles.names]
    exact byColumn_eq data
  unfold partitionSchemaFields
  rw [schema]
  dsimp only
  cases unique : hasUniqueNames current.fields with
  | true =>
    obtain ⟨indexFound, ordered⟩ := roles.found schema unique
    cases field : state.tableIndexField with
    | none =>
      rw [field, Option.map_eq_none_iff] at names
      dsimp only
      rw [ordered, columns]
      exact ⟨names.symm, rfl, rfl⟩
    | some indexField =>
      rw [field] at names
      obtain ⟨template, role, named⟩ := Option.map_eq_some_iff.mp names
      dsimp only
      rw [if_pos rfl, ordered, columns]
      refine ⟨?_, rfl, rfl⟩
      rw [lookup_fieldsByName ((hasUniqueNames_iff _).mp unique), ← named,
        indexFound template role, role]
  | false =>
    obtain ⟨template, role, field, canonical⟩ := roles.duplicates schema unique
    have ordered := roles.orderedFields_data
    rw [field]
    dsimp only
    rw [if_neg Bool.false_ne_true, canonical, roles.splitDuplicates_eq]
    dsimp only
    rw [ordered, if_pos roles.length_data, columns]
    exact ⟨role.symm, rfl, rfl⟩

/-- So does the table export. -/
theorem templates (roles : Roles state index data) :
    getIndexFieldTemplate state = index ∧ getDataFieldTemplates state = data := by
  obtain ⟨current, schema, _, _⟩ := roles.schema
  have names := roles.indexName
  unfold getIndexFieldTemplate getDataFieldTemplates
  rw [schema]
  dsimp only
  cases unique : hasUniqueNames current.fields with
  | true =>
    obtain ⟨indexFound, ordered⟩ := roles.found schema unique
    refine ⟨?_, ?_⟩
    · cases field : state.tableIndexField with
      | none =>
        rw [field, Option.map_eq_none_iff] at names
        exact names.symm
      | some indexField =>
        rw [field] at names
        obtain ⟨template, role, named⟩ := Option.map_eq_some_iff.mp names
        dsimp only
        rw [if_pos unique, role, ← named]
        exact indexFound template role
    · rw [if_pos rfl]
      exact ordered
  | false =>
    obtain ⟨template, role, field, canonical⟩ := roles.duplicates schema unique
    have ordered := roles.orderedFields_data
    rw [field]
    dsimp only
    have repeated : ¬hasUniqueNames current.fields = true := by
      rw [unique]
      exact Bool.false_ne_true
    rw [if_neg repeated, if_neg Bool.false_ne_true, canonical]
    simp only [roles.splitDuplicates_eq, ordered, if_pos roles.length_data]
    exact ⟨role.symm, trivial⟩

end Roles

end WebTsToolkit.JsonFrame
