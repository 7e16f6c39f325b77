import WebTsToolkit.JsonFrame.SchemaReimport

set_option autoImplicit false

namespace WebTsToolkit.JsonFrame

open Js Utils DataFrame

/-- What a row of a table payload has under a name. -/
def FrameState.tableValue (state : FrameState) (indexField : Option String) (label : IndexLabel)
    (position : Nat) (key : String) : Value :=
  if some key = indexField then label.toValue else state.cellAt position key

/-- The names of a table payload: the index field, then the columns. -/
def FrameState.tableNames (state : FrameState) (indexField : Option String) : List String :=
  indexField.toList ++ state.columns.1

/-- One row of a table payload. -/
def FrameState.tableEntries (state : FrameState) (indexField : Option String)
    (position : IndexLabel × Nat) : Entries :=
  entriesWith ((state.tableNames indexField).map fun key =>
    (key, state.tableValue indexField position.1 position.2 key))

section Rows

variable {state : FrameState} {indexField : Option String}

theorem tableNames_distinct (apart : ∀ name, indexField = some name → name ∉ state.columns.1) :
    (state.tableNames indexField).Nodup := by
  cases indexField with
  | none => exact state.columns.2
  | some name => exact List.nodup_cons.mpr ⟨apart name rfl, state.columns.2⟩

theorem tableValue_column (apart : ∀ name, indexField = some name → name ∉ state.columns.1)
    {column : String} (member : column ∈ state.columns.1) (label : IndexLabel) (position : Nat) :
    state.tableValue indexField label position column = state.cellAt position column := by
  rw [FrameState.tableValue, if_neg]
  intro same
  exact apart column same.symm member

theorem tableRow_eq (apart : ∀ name, indexField = some name → name ∉ state.columns.1)
    {storedColumns : List StoredColumn} (cells : ∀ position, rowCells storedColumns position =
      state.columns.1.map (state.cellAt position)) (position : IndexLabel × Nat) :
    tableRow state storedColumns indexField position =
      .object (state.tableEntries indexField position) := by
  rw [tableRow, cells, zip_map_self, objectOf_eq, FrameState.tableEntries, FrameState.tableNames,
    List.map_append]
  have index : indexField.toList.map (fun name => (name, position.1.toValue)) =
      indexField.toList.map fun key =>
        (key, state.tableValue indexField position.1 position.2 key) := by
    apply List.map_congr_left
    intro name member
    rw [FrameState.tableValue, if_pos (Option.mem_toList.mp member).symm]
  have columns : state.columns.1.map (fun column => (column, state.cellAt position.2 column)) =
      state.columns.1.map fun key =>
        (key, state.tableValue indexField position.1 position.2 key) := by
    apply List.map_congr_left
    intro column member
    rw [tableValue_column apart member]
  rw [index, columns]

/-- The labels that the rows of a table payload give. -/
def exportedLabels (indexField : Option String) (start : Nat) (labels : List IndexLabel) :
    List IndexLabel :=
  match indexField with
  | some _ => labels
  | none => (List.range' start labels.length).map fun position => .number position.repr

theorem checkRowKeys_done {names : List String} {row : Entries} (rowIndex : Nat)
    (declared : ∀ entry ∈ row, entry.1 ∈ names) : checkRowKeys names rowIndex row = .ok () := by
  rw [checkRowKeys, Library.forM_eq_ok]
  intro entry member
  obtain ⟨key, value⟩ := entry
  show (if names.contains key then _ else _) = _
  rw [if_pos (List.contains_iff_mem.mpr (declared _ member))]

/-- The first of the labels that rows give. -/
theorem tableLabel_done (apart : ∀ name, indexField = some name → name ∉ state.columns.1)
    {label : IndexLabel} {labels index : List IndexLabel} (supported : label.isSupported = true)
    (unique : ∀ name, indexField = some name →
      assertUniqueTableIndexLabels name index (label :: labels) = .ok ()) :
    ∃ first, tableLabel indexField index index.length
        (state.tableEntries indexField (label, index.length)) = .ok first ∧
      exportedLabels indexField index.length (label :: labels) =
        first :: exportedLabels indexField (index.length + 1) labels ∧
      ∀ name, indexField = some name → first = label ∧
        assertUniqueTableIndexLabels name (index ++ [label]) labels = .ok () := by
  cases indexField with
  | none =>
    refine ⟨.number index.length.repr, rfl, ?_, fun name same => absurd same (by simp)⟩
    rw [exportedLabels, List.length_cons, List.range'_succ]
    rfl
  | some name =>
    have unique := unique name rfl
    unfold assertUniqueTableIndexLabels at unique
    split at unique
    · contradiction
    · next fresh =>
      have value : getOwn (state.tableEntries (some name) (label, index.length)) name =
          some label.toValue := by
        have member : name ∈ state.tableNames (some name) := List.mem_cons_self
        rw [FrameState.tableEntries, getOwn_entriesWith
          (by rw [keys_keyed]; exact tableNames_distinct apart), getOwn_keyed _ member,
          FrameState.tableValue, if_pos rfl]
      refine ⟨label, ?_, rfl, fun other same => ⟨rfl, Option.some.inj same ▸ unique⟩⟩
      rw [tableLabel]
      dsimp only
      rw [value]
      show (assertSupportedIndexLabel label.toValue _ _ >>= _) = _
      rw [assertSupportedIndexLabel_toValue supported]
      show (if _ then _ else _) = _
      rw [if_neg fresh]
      rfl

theorem collectTableRows_done (apart : ∀ name, indexField = some name → name ∉ state.columns.1)
    {names : List String} (declared : ∀ name ∈ state.tableNames indexField, name ∈ names)
    {labels index : List IndexLabel} (supported : ∀ label ∈ labels, label.isSupported = true)
    (unique : ∀ name, indexField = some name →
      assertUniqueTableIndexLabels name index labels = .ok ()) (data : Map (List Value)) :
    ∃ final, collectTableRows names state.columns.1 indexField index data
      (((labels.zipIdx index.length).map (state.tableEntries indexField)).map .object) =
        .ok (index ++ exportedLabels indexField index.length labels, final) := by
  induction labels generalizing index data with
  | nil =>
    refine ⟨data, ?_⟩
    have none_ : exportedLabels indexField index.length [] = [] := by
      cases indexField with
      | none | some name => rfl
    rw [none_, List.append_nil]
    rfl
  | cons label labels ih =>
    obtain ⟨first, labelled, exported, same⟩ :=
      tableLabel_done apart (supported label List.mem_cons_self) unique
    have keys : checkRowKeys names index.length
        (state.tableEntries indexField (label, index.length)) = .ok () := by
      apply checkRowKeys_done
      intro entry member
      obtain ⟨key, listed, rfl⟩ := List.mem_map.mp (mem_entriesWith member)
      exact declared key listed
    have length : (index ++ [first]).length = index.length + 1 := List.length_append
    obtain ⟨final, rest⟩ := @ih (index ++ [first])
      (fun other member => supported other (List.mem_cons_of_mem _ member))
      (by
        intro name named
        obtain ⟨label_, unique⟩ := same name named
        rw [label_]
        exact unique)
      (pushRow state.columns.1 (state.tableEntries indexField (label, index.length)) data)
    rw [length] at rest
    refine ⟨final, ?_⟩
    rw [List.zipIdx_cons, List.map_cons, List.map_cons, collectTableRows, keys]
    show (tableLabel _ _ _ _ >>= _) = _
    rw [labelled]
    show collectTableRows _ _ _ _ _ _ = _
    rw [rest, exported, List.append_assoc]
    rfl

end Rows

/-- A name for the index field is only there for a source index, and no column has it. -/
theorem resolveIndexFieldName_eq_ok {state : FrameState} {options : Value}
    {indexField : Option String} (resolved : resolveIndexFieldName state options = .ok indexField) :
    (indexField.isSome = true ↔ state.indexKind = .source) ∧
      ∀ name, indexField = some name → name ∉ state.columns.1 := by
  obtain ⟨override, _, resolved⟩ := Library.bind_eq_ok resolved
  cases kind : state.indexKind with
  | synthetic =>
    rw [kind] at resolved
    obtain rfl := Except.ok.inj resolved
    exact ⟨by decide, fun name same => absurd same (by simp)⟩
  | source =>
    rw [kind] at resolved
    dsimp only at resolved
    split at resolved
    · contradiction
    · next apart =>
      obtain rfl := Except.ok.inj resolved
      refine ⟨by simp, fun name same => ?_⟩
      rw [← Option.some.inj same, ← List.contains_iff_mem]
      exact apart

/-- A table payload. -/
def FrameState.tablePayload (state : FrameState) (indexField : Option String) : Value :=
  .object [("schema", .object (exportedSchema state indexField)),
    ("data", .array ((state.index.zipIdx.map (state.tableEntries indexField)).map .object))]

section Payload

variable {state : FrameState} {indexField : Option String}

theorem exportedSchema_json (exportable : ExportableSchema state) :
    isJsonAt 1 (.object (exportedSchema state indexField)) = true := by
  rw [isJsonAt_object]
  refine ⟨by decide, fun entry member => ?_⟩
  rcases List.mem_append.mp member with held | member
  · exact exportable.metadata.json entry held
  rcases List.mem_cons.mp member with rfl | member
  · rw [isJsonAt_array]
    refine ⟨by decide, fun item listed => ?_⟩
    obtain ⟨field, there, rfl⟩ := List.mem_map.mp listed
    rw [isJsonAt_object]
    exact ⟨by decide, (exportable.fields indexField field there).json⟩
  · obtain ⟨name, _, rfl⟩ := List.mem_map.mp member
    rfl

/-- Three containers are around the cells of a table payload. -/
theorem tablePayload_json (sound : Sound state) (exportable : ExportableSchema state)
    (apart : ∀ name, indexField = some name → name ∉ state.columns.1) :
    isJsonAt 0 (state.tablePayload indexField) = true ↔ state.FitsAt 3 := by
  rw [sound.fitsAt_iff, FrameState.tablePayload, isJsonAt_object]
  constructor
  · intro json position inside column member
    have data := json.2 _ (List.mem_cons_of_mem _ List.mem_cons_self)
    have listed : state.tableEntries indexField (state.index[position], position) ∈
        state.index.zipIdx.map (state.tableEntries indexField) := by
      apply List.mem_map_of_mem
      rw [List.mem_zipIdx_iff_getElem?]
      exact List.getElem?_eq_getElem inside
    have row := ((isJsonAt_array _ _).mp data).2 _ (List.mem_map_of_mem listed)
    have held : column ∈ state.tableNames indexField := List.mem_append_right _ member
    have cell := ownCell_json ((isJsonAt_object _ _).mp row).2 column
    rw [FrameState.tableEntries, ownCell_keyed (tableNames_distinct apart) _ held,
      tableValue_column apart member] at cell
    exact cell
  · intro fits
    refine ⟨by decide, ?_⟩
    rw [List.forall_mem_cons, List.forall_mem_singleton]
    refine ⟨exportedSchema_json exportable, ?_⟩
    rw [isJsonAt_array]
    refine ⟨by decide, fun item member => ?_⟩
    obtain ⟨entries, made, rfl⟩ := List.mem_map.mp member
    obtain ⟨⟨label, position⟩, paired, rfl⟩ := List.mem_map.mp made
    have found := List.mem_zipIdx_iff_getElem?.mp paired
    refine keyed_json (fun key listed => ?_) (by decide)
    rw [FrameState.tableValue]
    split
    · exact label_json (sound.labels label (List.mem_of_getElem? found)) 3
    · next other =>
      rcases List.mem_append.mp listed with index | column
      · exact absurd (Option.mem_toList.mp index).symm other
      · exact fits position (List.getElem?_eq_some_iff.mp found).1 key column

theorem without_tableNames (apart : ∀ name, indexField = some name → name ∉ state.columns.1)
    {names : UniqueLabels} (same : names.1 = state.tableNames indexField) :
    names.without indexField = state.columns := by
  apply Subtype.ext
  show (names.1.filter fun other => some other ≠ indexField) = state.columns.1
  rw [same, FrameState.tableNames, List.filter_append]
  have index : indexField.toList.filter (fun other => decide (some other ≠ indexField)) = [] := by
    rw [List.filter_eq_nil_iff]
    intro name member
    rw [Option.mem_toList.mp member]
    simp
  have columns : state.columns.1.filter (fun other => decide (some other ≠ indexField)) =
      state.columns.1 := by
    rw [List.filter_eq_self]
    intro column member
    rw [decide_eq_true_eq]
    intro named
    exact apart column named.symm member
  rw [index, columns]
  rfl

/-- What the parser makes of a table payload. -/
theorem parseTable_eq (sound : Sound state) (exportable : ExportableSchema state)
    (apart : ∀ name, indexField = some name → name ∉ state.columns.1)
    (unique : ∀ name, indexField = some name →
      assertUniqueTableIndexLabels name [] state.index = .ok ()) :
    ∃ parsed, parseTable (state.tablePayload indexField) = .ok parsed ∧
      parsed.columns = state.columns ∧
      parsed.index = exportedLabels indexField 0 state.index ∧
      parsed.indexKind = (if indexField.isSome then .source else .synthetic) ∧
      Tabulates parsed.columns parsed.data
        ((state.index.zipIdx.map (state.tableEntries indexField)).map ownCell) := by
  obtain ⟨schema, names, read, primaryKey, names_⟩ := cloneTableSchema_exported exportable apart
  have head : (schema.primaryKey.getD []).head? = indexField := by
    rw [primaryKey]
    cases indexField with
    | none | some name => rfl
  have declared : ¬(indexField.any fun name => !names.1.contains name) = true := by
    cases indexField with
    | none => exact Bool.false_ne_true
    | some name =>
      rw [Option.any_some, Bool.not_eq_true, Bool.not_eq_false', List.contains_iff_mem, names_]
      exact List.mem_cons_self
  obtain ⟨collected, done⟩ := @collectTableRows_done state indexField apart names.1
    (fun name member => by rw [names_]; exact member) state.index [] sound.labels unique
    (initializeData state.columns.1)
  rw [List.length_nil, List.nil_append] at done
  have rows : Tabulates state.columns collected
      ((state.index.zipIdx.map (state.tableEntries indexField)).map ownCell) := by
    obtain ⟨rows, labels, same, _, _, _, table⟩ :=
      (collectTableRows_eq_ok done (tabulates_start state.columns)).rows
    have injective : Function.Injective Value.object := fun _ _ equal => Value.object.inj equal
    rw [← List.map_injective_iff.mpr injective same] at table
    exact table
  obtain ⟨data, finalized, table⟩ := finalizeFrame_of_tabulates
    { orient := .table
      columns := state.columns
      index := exportedLabels indexField 0 state.index
      indexKind := if indexField.isSome then .source else .synthetic
      data := collected
      tableSchema := some schema
      tableIndexField := indexField } rows
  have parsed : parseTable (state.tablePayload indexField) = finalizeFrame
      { orient := .table
        columns := state.columns
        index := exportedLabels indexField 0 state.index
        indexKind := if indexField.isSome then .source else .synthetic
        data := collected
        tableSchema := some schema
        tableIndexField := indexField } := by
    show (cloneTableSchema (.object (exportedSchema state indexField)) >>= _) = _
    rw [read]
    show (if _ then _ else _) = _
    rw [head, if_neg declared, without_tableNames apart names_]
    show (collectTableRows _ _ _ _ _ _ >>= _) = _
    rw [done]
    rfl
  rw [parsed]
  exact ⟨_, finalized, rfl, rfl, rfl, table⟩

end Payload

/-- The same columns, cells and kind of index, with the labels of a source index and positions
for a synthetic one. -/
structure SameTable (first second : FrameState) : Prop where
  columns : first.columns = second.columns
  indexKind : first.indexKind = second.indexKind
  index : first.index =
    if second.indexKind = .source then second.index else positions second.index.length
  values : ∀ column ∈ second.columns.1, first.valuesOf column = second.valuesOf column

/-- A table payload brings back the frame where its cells fit, and else is refused. -/
theorem table_roundTrip (jsonParse : String → Option Value) {state : FrameState}
    (sound : Sound state) (exportable : ExportableSchema state) {options payload : Value}
    (exported : exportTable state options = .ok payload) :
    ((∃ frame, fromOrient jsonParse payload (orientOptions .table) = .ok frame) ↔
      state.FitsAt 3) ∧
    ∀ frame, fromOrient jsonParse payload (orientOptions .table) = .ok frame →
      SameTable frame.state state := by
  obtain ⟨indexField, storedColumns, resolved, unique, stored, rfl⟩ :=
    (exportTable_eq_ok exported).shape
  obtain ⟨kind, apart⟩ := resolveIndexFieldName_eq_ok resolved
  obtain ⟨storedColumns', stored', cells⟩ := sound.resolveStoredColumns_eq
  rw [stored] at stored'
  obtain rfl := Except.ok.inj stored'
  have payload_ : Value.object [("schema", .object (exportedSchema state indexField)),
      ("data", .array (state.index.zipIdx.map (tableRow state storedColumns indexField)))] =
      state.tablePayload indexField := by
    rw [FrameState.tablePayload, List.map_map, List.map_congr_left fun position _ =>
      tableRow_eq apart cells position]
    rfl
  rw [payload_]
  obtain ⟨parsed, read, columns, index, indexKind, table⟩ :=
    parseTable_eq sound exportable apart unique
  have imports : state.FitsAt 3 → ∃ frame,
      fromOrient jsonParse (state.tablePayload indexField) (orientOptions .table) = .ok frame ∧
        SameTable frame.state state := by
    intro fits
    have json := (tablePayload_json sound exportable apart).mpr fits
    obtain ⟨frame, imported, presents⟩ :=
      @fromOrient_of_parsed jsonParse _ .table _ _ rfl json read table
    refine ⟨frame, imported, presents.columns.trans columns, ?_, ?_, ?_⟩
    · rw [presents.indexKind, indexKind]
      cases given : state.indexKind with
      | source => rw [if_pos (kind.mpr given)]
      | synthetic =>
        rw [if_neg]
        intro found
        rw [kind.mp found] at given
        contradiction
    · rw [presents.index, index]
      by_cases given : state.indexKind = .source
      · rw [if_pos given]
        obtain ⟨name, same⟩ := Option.isSome_iff_exists.mp (kind.mpr given)
        rw [same]
        rfl
      · have absent : indexField = none := by
          rw [← Option.not_isSome_iff_eq_none]
          exact fun found => given (kind.mp found)
        rw [if_neg given, absent, positions, List.range_eq_range']
        rfl
    · intro column member
      rw [presents.values column (by rw [presents.columns, columns]; exact member),
        sound.values_eq member, FrameState.grid, List.map_map, List.map_map, List.map_map]
      congr 1
      apply List.ext_getElem
      · rw [List.length_map, List.length_zipIdx, List.length_map, List.length_range]
      · intro position inside inside'
        rw [List.getElem_map, List.getElem_map, List.getElem_zipIdx, List.getElem_range,
          Nat.zero_add]
        have held : column ∈ state.tableNames indexField := List.mem_append_right _ member
        show ownCell (state.tableEntries indexField _) column = state.cellAt position column
        rw [FrameState.tableEntries, ownCell_keyed (tableNames_distinct apart) _ held,
          tableValue_column apart member]
  have fits : ∀ frame, fromOrient jsonParse (state.tablePayload indexField)
      (orientOptions .table) = .ok frame → state.FitsAt 3 := by
    intro frame imported
    exact (tablePayload_json sound exportable apart).mp (json_of_fromOrient rfl imported)
  refine ⟨⟨fun found => ?_, fun fits => ?_⟩, fun frame imported => ?_⟩
  · obtain ⟨frame, imported⟩ := found
    exact fits frame imported
  · obtain ⟨frame, imported, _⟩ := imports fits
    exact ⟨frame, imported⟩
  · obtain ⟨frame', imported', same⟩ := imports (fits frame imported)
    rw [imported] at imported'
    rw [Except.ok.inj imported']
    exact same

/-- What the layouts of a frame bring back when they are imported again. -/
structure RoundTrips (jsonParse : String → Option Value) (options : Value) (frame : DataFrame) :
    Prop where
  split : ∃ payload, frame.toPayload .split options = .ok payload ∧
    ((∃ again, fromOrient jsonParse payload (orientOptions .split) = .ok again) ↔
      frame.state.FitsAt 3) ∧
    ∀ again, fromOrient jsonParse payload (orientOptions .split) = .ok again →
      SameContent again.state frame.state
  table : ∀ payload, frame.toPayload .table options = .ok payload →
    ((∃ again, fromOrient jsonParse payload (orientOptions .table) = .ok again) ↔
      frame.state.FitsAt 3) ∧
    ∀ again, fromOrient jsonParse payload (orientOptions .table) = .ok again →
      SameTable again.state frame.state
  records : ∀ payload, frame.toPayload .records options = .ok payload →
    ∃ again, fromOrient jsonParse payload (orientOptions .records) = .ok again ∧
      again.state.positionTriples = frame.state.positionTriples
  index : ∀ payload, frame.toPayload .index options = .ok payload →
    ∃ again, fromOrient jsonParse payload (orientOptions .index) = .ok again ∧
      again.state.labelTriples = frame.state.labelTriples
  columns : ∀ payload, frame.toPayload .columns options = .ok payload →
    ∃ again, fromOrient jsonParse payload (orientOptions .columns) = .ok again ∧
      again.state.labelTriples = frame.state.labelTriples

/-- Every frame that transforms make of an import comes back from its payloads. -/
theorem payloads_roundTrip (jsonParse : String → Option Value) {input options : Value}
    {frame : DataFrame} (imported : fromOrient jsonParse input options = .ok frame)
    {arraySort : ArraySort} {sequence : List Transform} {final : DataFrame}
    (done : frame.transforms arraySort sequence = .ok final) (exportOptions : Value) :
    RoundTrips jsonParse exportOptions final := by
  have sound := sound_of_run imported done
  have exportable := exportable_of_run imported done
  exact
    { split := ⟨_, sound.exportSplit_eq, split_roundTrip jsonParse sound⟩
      table := fun _ exported => table_roundTrip jsonParse sound exportable exported
      records := fun _ exported => records_roundTrip jsonParse sound exported
      index := fun _ exported => index_roundTrip jsonParse sound exported
      columns := fun _ exported => columns_roundTrip jsonParse sound exported }

/-- Two rows of one column. -/
def twoRows : Value :=
  .array [.object [("a", .number "1")], .object [("a", .number "2")]]

def secondRow : List Transform :=
  [.filter fun _ _ position => position != 0]

theorem payloads_roundTrip_twoRows : ∃ frame final,
    fromOrient (fun _ => none) twoRows (orientOptions .records) = .ok frame ∧
    frame.transforms .stable secondRow = .ok final ∧
    RoundTrips (fun _ => none) .undefined final := by
  refine ⟨_, _, rfl, rfl, ?_⟩
  exact @payloads_roundTrip (fun _ => none) twoRows (orientOptions .records) _ rfl .stable
    secondRow _ rfl .undefined

/-- Arrays in one another. -/
def nested : Nat → Value
  | 0 => .array []
  | depth + 1 => .array [nested depth]

theorem isJsonAt_nested {depth count : Nat} :
    isJsonAt depth (nested count) = true ↔ depth + count ≤ maxDepth := by
  induction count generalizing depth with
  | zero =>
    rw [nested, isJsonAt_array]
    exact ⟨fun fits => fits.1, fun fits => ⟨fits, fun _ member => absurd member List.not_mem_nil⟩⟩
  | succ count ih =>
    rw [nested, isJsonAt_array, List.forall_mem_singleton, ih]
    omega

/-- A row whose cell nests as deep as records may. -/
def deepRow : Entries :=
  [("a", nested 998)]

/-- The labels of a filtered synthetic index do not survive a table payload, and the deepest cells
of records do not survive a split payload. -/
theorem roundTrip_losses :
    (∃ frame final payload again,
      fromOrient (fun _ => none) twoRows (orientOptions .records) = .ok frame ∧
      frame.transforms .stable secondRow = .ok final ∧
      final.toPayload .table .undefined = .ok payload ∧
      fromOrient (fun _ => none) payload (orientOptions .table) = .ok again ∧
      again.state.index ≠ final.state.index) ∧
    ∃ frame payload,
      fromOrient (fun _ => none) (.array [.object deepRow]) (orientOptions .records) = .ok frame ∧
      frame.toPayload .split .undefined = .ok payload ∧
      ∀ again, fromOrient (fun _ => none) payload (orientOptions .split) ≠ .ok again := by
  constructor
  · have run : (do
        let frame ← fromOrient (fun _ => none) twoRows (orientOptions .records)
        let final ← frame.transforms .stable secondRow
        let payload ← final.toPayload .table .undefined
        let again ← fromOrient (fun _ => none) payload (orientOptions .table)
        return decide (again.state.index ≠ final.state.index)) = Except.ok true := by
      decide +kernel
    obtain ⟨frame, imported, run⟩ := Library.bind_eq_ok run
    obtain ⟨final, done, run⟩ := Library.bind_eq_ok run
    obtain ⟨payload, exported, run⟩ := Library.bind_eq_ok run
    obtain ⟨again, reimported, apart⟩ := Library.bind_eq_ok run
    exact ⟨frame, final, payload, again, imported, done, exported, reimported,
      of_decide_eq_true (Except.ok.inj apart)⟩
  · have json : isJsonAt 0 (.array ([deepRow].map .object)) = true := by
      rw [List.map_singleton, isJsonAt_array, List.forall_mem_singleton, isJsonAt_object]
      refine ⟨by decide, by decide, ?_⟩
      exact List.forall_mem_singleton.mpr (isJsonAt_nested.mpr (by decide))
    obtain ⟨parsed, read, objects⟩ := parseRecords_of_rows [deepRow]
    obtain ⟨frame, imported, presents⟩ :=
      @fromOrient_of_parsed (fun _ => none) _ .records _ _ rfl json read objects.table
    have sound := @sound_of_run _ _ _ _ imported .stable [] _ rfl
    refine ⟨frame, _, imported, sound.exportSplit_eq, fun again reimported => ?_⟩
    have fits := (split_roundTrip (fun _ => none) sound).1.mp ⟨again, reimported⟩
    have held : frame.state.read 0 "a" = some (nested 998) := by
      rw [presents.read_iff]
      refine ⟨(objects.columns "a").mpr ⟨deepRow, List.mem_singleton_self _, ?_⟩, ownCell deepRow,
        rfl, rfl⟩
      exact List.mem_singleton_self _
    have deep := isJsonAt_nested.mp (fits 0 "a" _ held)
    exact absurd deep (by decide)

end WebTsToolkit.JsonFrame
