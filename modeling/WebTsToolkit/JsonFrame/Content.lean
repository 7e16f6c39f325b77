import WebTsToolkit.JsonFrame.Provenance

set_option autoImplicit false

namespace WebTsToolkit.JsonFrame

open Js Utils DataFrame

/-- Strings and finite numbers. -/
def IndexLabel.isSupported : IndexLabel → Bool
  | .string _ => true
  | .number text => isFiniteText text

variable {value : Value} {label : IndexLabel} {depth : Nat} {parsed : ParsedFrame}
  {entries : Entries}

theorem assertSupportedIndexLabel_eq_ok {orient : ResolvedOrient} {path : String}
    (accepted : assertSupportedIndexLabel value orient path = .ok label) :
    value = label.toValue ∧ label.isSupported = true := by
  cases value with
  | string text =>
    rw [← Except.ok.inj accepted]
    exact ⟨rfl, rfl⟩
  | number text =>
    unfold assertSupportedIndexLabel at accepted
    dsimp only at accepted
    split at accepted
    · next finite =>
      rw [← Except.ok.inj accepted]
      exact ⟨rfl, finite⟩
    · contradiction
  | _ => contradiction

theorem assertSupportedIndexLabel_toValue (supported : label.isSupported = true)
    (orient : ResolvedOrient) (path : String) :
    assertSupportedIndexLabel label.toValue orient path = .ok label := by
  cases label with
  | string text => rfl
  | number text =>
    have finite : isFiniteText text = true := supported
    show (if isFiniteText text then _ else _) = _
    rw [if_pos finite]

theorem isFiniteText_repr (n : Nat) : isFiniteText n.repr = true := by
  have digits : ∀ text : String, (∃ c ∈ text.toList, isDigit c = false) → n.repr ≠ text := by
    intro text found same
    obtain ⟨c, member, letter⟩ := found
    rw [← same] at member
    rw [isDigit_of_mem_repr member] at letter
    contradiction
  have notNumber : n.repr ≠ "NaN" := digits _ ⟨'N', by decide, by decide⟩
  have finite : n.repr ≠ "Infinity" := digits _ ⟨'I', by decide, by decide⟩
  have finite' : n.repr ≠ "-Infinity" := digits _ ⟨'I', by decide, by decide⟩
  rw [isFiniteText, bne_iff_ne.mpr notNumber, bne_iff_ne.mpr finite, bne_iff_ne.mpr finite']
  rfl

theorem positions_supported {count : Nat} : ∀ label ∈ positions count, label.isSupported = true := by
  intro label member
  obtain ⟨position, _, rfl⟩ := List.mem_map.mp member
  exact isFiniteText_repr position

theorem length_positions (count : Nat) : (positions count).length = count := by
  rw [positions, List.length_map, List.length_range]

/-- The cells of a column. -/
def FrameState.valuesOf (state : FrameState) (column : String) : Option (List Value) :=
  (state.data.lookup column).map StoredColumn.values

/-- Every column holds JSON in every row, two containers down at the least, and the labels are
supported. -/
structure Sound (state : FrameState) : Prop where
  cells : ∀ column ∈ state.columns.1, ∃ values, state.valuesOf column = some values ∧
    values.length = state.index.length ∧ ∀ value ∈ values, isJsonAt 2 value = true
  labels : ∀ label ∈ state.index, label.isSupported = true
  only : ∀ column, column ∉ state.columns.1 → state.data.lookup column = none

namespace Sound

variable {state final : FrameState} {positions : List Nat}

/-- The same for the frame that `rebuild` makes. -/
theorem rebuilt (sound : Sound state) {targets : UniqueLabels} {sourceColumns : List String}
    {labels : List IndexLabel} {kind : IndexKind} {schema : TransformSchema}
    (rebuilt : Rebuilt state targets sourceColumns positions labels kind schema final)
    (paired : sourceColumns.length = targets.1.length)
    (sources : ∀ column ∈ sourceColumns, column ∈ state.columns.1)
    (valid : ∀ position ∈ positions, position < state.index.length)
    (count : labels.length = positions.length)
    (supported : ∀ label ∈ labels, label.isSupported = true) : Sound final := by
  constructor
  · rw [rebuilt.columns]
    intro column member
    have keys : (targets.1.zip sourceColumns).map Prod.fst = targets.1 :=
      List.map_fst_zip (by omega)
    rw [← keys] at member
    obtain ⟨⟨target, source⟩, listed, same⟩ := List.mem_map.mp member
    obtain rfl : target = column := same
    obtain ⟨stored, stored', held, made, values⟩ := rebuilt.stored _ listed
    obtain ⟨cells, read, length, json⟩ := sound.cells source (sources source (List.of_mem_zip listed).2)
    have held : state.valuesOf source = some stored.values := by
      rw [FrameState.valuesOf, held]
      rfl
    rw [held] at read
    obtain rfl := Option.some.inj read
    refine ⟨stored'.values, ?_, ?_, ?_⟩
    · rw [FrameState.valuesOf, made]
      rfl
    · rw [values, List.length_map, rebuilt.index, count]
    · intro value inside
      rw [values] at inside
      obtain ⟨position, picked, rfl⟩ := List.mem_map.mp inside
      have within : position < stored.values.length := by
        rw [length]
        exact valid position picked
      rw [List.getElem?_eq_getElem within]
      exact json _ (List.getElem_mem within)
  · rw [rebuilt.index]
    exact supported
  · rw [rebuilt.columns]
    exact rebuilt.only

theorem labelsAt_supported (sound : Sound state) :
    ∀ label ∈ labelsAt state positions, label.isSupported = true := by
  intro label member
  obtain ⟨position, _, found⟩ := List.mem_filterMap.mp member
  exact sound.labels label (List.mem_of_getElem? found)

theorem length_labelsAt (valid : ∀ position ∈ positions, position < state.index.length) :
    (labelsAt state positions).length = positions.length := by
  have found : ∀ position ∈ positions, (state.index[position]?).isSome = true := by
    intro position member
    rw [List.getElem?_eq_getElem (valid position member)]
    rfl
  exact List.filterMap_length_eq_length.mpr found

theorem allPositions_valid : ∀ position ∈ allPositions state, position < state.index.length :=
  fun _ member => List.mem_range.mp member

theorem length_allPositions : (allPositions state).length = state.index.length :=
  List.length_range

/-- Every transform keeps it. -/
theorem step (sound : Sound state) {transform : Transform}
    (transformed : Transformed state transform final) : Sound final := by
  cases transformed with
  | filter predicate picked _ valid rebuilt | sort compare picked _ valid rebuilt =>
    exact sound.rebuilt rebuilt rfl (fun _ member => member) valid (length_labelsAt valid)
      sound.labelsAt_supported
  | select selected _ held rebuilt =>
    refine sound.rebuilt rebuilt rfl ?_ allPositions_valid length_allPositions.symm sound.labels
    intro column member
    by_contra absent
    have present := held column member
    rw [sound.only column absent] at present
    contradiction
  | rename mapping renamedColumns _ names rebuilt =>
    refine sound.rebuilt rebuilt ?_ (fun _ member => member) allPositions_valid
      length_allPositions.symm sound.labels
    rw [names, List.length_map]
  | resetIndex _ rebuilt =>
    refine sound.rebuilt rebuilt rfl (fun _ member => member) allPositions_valid ?_
      positions_supported
    rw [length_positions, length_allPositions]

end Sound

/-- What every parser ensures. -/
structure ParsedFrame.Sound (parsed : ParsedFrame) : Prop where
  table : ∃ rows, Tabulates parsed.columns parsed.data rows ∧
    rows.length = parsed.index.length ∧
    ∀ row ∈ rows, ∀ column, isJsonAt 2 (row column) = true
  labels : ∀ label ∈ parsed.index, label.isSupported = true

theorem ownCell_json {row : Entries} (json : ∀ entry ∈ row, isJsonAt depth entry.2 = true)
    (column : String) : isJsonAt depth (ownCell row column) = true := by
  unfold ownCell
  cases found : getOwn row column with
  | none => rfl
  | some value => exact json _ (mem_of_getOwn found)

theorem itemCell_json {row : List Value} (json : ∀ item ∈ row, isJsonAt depth item = true)
    (columns : List String) (column : String) :
    isJsonAt depth (itemCell columns row column) = true := by
  unfold itemCell
  cases found : (columns.zip row).lookup column with
  | none => rfl
  | some value =>
    have member : (column, value) ∈ columns.zip row := mem_of_getOwn found
    exact json value (List.of_mem_zip member).2

theorem tabulates_start (columns : UniqueLabels) :
    Tabulates columns (initializeData columns.1) [] :=
  ⟨fun _ member => lookup_initializeData member⟩

/-- Rows that were accepted as parts of a payload. -/
theorem rows_json {rows : List Entries} (json : ∀ row ∈ rows, isJsonAt depth (.object row) = true)
    {column : String} : ∀ row ∈ rows, isJsonAt (depth + 1) (ownCell row column) = true :=
  fun row member => ownCell_json ((isJsonAt_object _ _).mp (json row member)).2 column

theorem parseRecords_sound (json : isJsonAt 0 value = true)
    (accepted : parseRecords value = .ok parsed) : parsed.Sound := by
  unfold parseRecords at accepted
  split at accepted
  · obtain ⟨collected, read, accepted⟩ := Library.bind_eq_ok accepted
    obtain ⟨rows, rfl, discovers⟩ := collectRows_eq read discovers_start
    obtain ⟨data, rfl, table⟩ := finalizeFrame_eq_ok accepted discovers.table
    refine ⟨⟨_, table, ?_, ?_⟩, positions_supported⟩
    · rw [List.length_map, List.nil_append]
      show _ = (positions _).length
      rw [length_positions, List.length_map]
    · intro row member column
      obtain ⟨source, listed, rfl⟩ := List.mem_map.mp member
      refine rows_json (fun row member => ?_) source listed
      exact ((isJsonAt_array _ _).mp json).2 _ (List.mem_map_of_mem member)
  · contradiction

theorem parseIndex_sound (json : isJsonAt 0 value = true)
    (accepted : parseIndex value = .ok parsed) : parsed.Sound := by
  unfold parseIndex at accepted
  split at accepted
  · next entries =>
    obtain ⟨collected, read, accepted⟩ := Library.bind_eq_ok accepted
    obtain ⟨rows, same, discovers⟩ := collectRows_eq read discovers_start
    obtain ⟨data, rfl, table⟩ := finalizeFrame_eq_ok accepted discovers.table
    refine ⟨⟨_, table, ?_, ?_⟩, ?_⟩
    · have lengths := congrArg List.length same
      rw [List.length_map, List.length_map] at lengths
      rw [List.length_map, List.nil_append, List.length_map]
      exact lengths.symm
    · intro row member column
      obtain ⟨source, listed, rfl⟩ := List.mem_map.mp member
      refine rows_json (fun row member => ?_) source listed
      have cell : Value.object row ∈ (UniqueLabels.ofKeys entries).1.map (ownCell entries) := by
        rw [same]
        exact List.mem_map_of_mem member
      obtain ⟨key, _, found⟩ := List.mem_map.mp cell
      rw [← found]
      exact ownCell_json ((isJsonAt_object _ _).mp json).2 key
    · intro label member
      obtain ⟨key, _, rfl⟩ := List.mem_map.mp member
      rfl
  · contradiction

/-- The cells of a column of a columns payload. -/
def columnEntries (entries : Entries) (column : String) : Entries :=
  match ownCell entries column with
  | .object values => values
  | _ => []

/-- The columns that were read agree on their keys. -/
structure ReadColumns (entries : Entries) (columns : List String) (index : Option (List String))
    (data final : Map (List Value)) (finalIndex : Option (List String)) : Prop where
  keeps : ∀ keys, index = some keys → finalIndex = some keys
  cells : ∀ column ∈ columns, ownCell entries column = .object (columnEntries entries column) ∧
    ∃ keys, finalIndex = some keys ∧ (UniqueLabels.ofKeys (columnEntries entries column)).1 = keys ∧
      final.lookup column = some (keys.map (ownCell (columnEntries entries column)))
  other : ∀ column, column ∉ columns → final.lookup column = data.lookup column

theorem collectColumns_eq_ok {columns : List String} (distinct : columns.Nodup)
    {index finalIndex : Option (List String)} {data final : Map (List Value)}
    (collected : collectColumns entries index data columns = .ok (finalIndex, final)) :
    ReadColumns entries columns index data final finalIndex := by
  induction columns generalizing index data with
  | nil =>
    obtain ⟨rfl, rfl⟩ := Prod.mk.inj (Except.ok.inj collected)
    exact ⟨fun _ same => same, fun _ member => absurd member List.not_mem_nil, fun _ _ => rfl⟩
  | cons column columns ih =>
    rw [List.nodup_cons] at distinct
    unfold collectColumns at collected
    dsimp only at collected
    split at collected
    · next values found =>
      have values_ : columnEntries entries column = values := by
        rw [columnEntries, found]
      split at collected
      · next agrees =>
        have rest := ih distinct.2 collected
        have kept := rest.keeps _ rfl
        refine ⟨fun keys same => ?_, ?_, fun other apart => ?_⟩
        · rw [same] at agrees
          rw [kept, ← agrees]
          rfl
        · refine List.forall_mem_cons.mpr ⟨⟨by rw [values_, found], _, kept, by rw [values_],
            ?_⟩, rest.cells⟩
          rw [rest.other column distinct.1, Map.lookup_set, if_pos rfl, values_]
        · rw [List.mem_cons, not_or] at apart
          rw [rest.other other apart.2, Map.lookup_set, if_neg apart.1]
      · contradiction
    · contradiction

/-- The cells of one row of a columns payload. -/
def keyCells (entries : Entries) (key column : String) : Value :=
  ownCell (columnEntries entries column) key

theorem ReadColumns.tabulates {columns : UniqueLabels} {data final : Map (List Value)}
    {finalIndex : Option (List String)}
    (read : ReadColumns entries columns.1 none data final finalIndex) :
    Tabulates columns final ((finalIndex.getD []).map (keyCells entries)) := by
  constructor
  intro column member
  obtain ⟨_, keys, same, _, found⟩ := read.cells column member
  rw [found, same, List.map_map]
  rfl

theorem parseColumns_sound (json : isJsonAt 0 value = true)
    (accepted : parseColumns value = .ok parsed) : parsed.Sound := by
  unfold parseColumns at accepted
  split at accepted
  · next entries =>
    obtain ⟨⟨index, collected⟩, read, accepted⟩ := Library.bind_eq_ok accepted
    have read := collectColumns_eq_ok (Subtype.property _) read
    obtain ⟨data, rfl, table⟩ := finalizeFrame_eq_ok accepted read.tabulates
    refine ⟨⟨_, table, ?_, ?_⟩, ?_⟩
    · rw [List.length_map, List.length_map]
    · intro row member column
      obtain ⟨key, _, rfl⟩ := List.mem_map.mp member
      apply ownCell_json
      have cell := ownCell_json ((isJsonAt_object _ _).mp json).2 column
      unfold columnEntries
      split
      · next values found =>
        rw [found] at cell
        exact ((isJsonAt_object _ _).mp cell).2
      · exact fun _ member => absurd member List.not_mem_nil
    · intro label member
      obtain ⟨key, _, rfl⟩ := List.mem_map.mp member
      rfl
  · contradiction

/-- Rows of arrays that were accepted as parts of a payload. -/
theorem items_json {rows : List (List Value)}
    (json : ∀ row ∈ rows, isJsonAt depth (.array row) = true) (columns : List String) :
    ∀ row ∈ rows.map (itemCell columns), ∀ column, isJsonAt (depth + 1) (row column) = true := by
  intro row member column
  obtain ⟨source, listed, rfl⟩ := List.mem_map.mp member
  exact itemCell_json ((isJsonAt_array _ _).mp (json source listed)).2 columns column

theorem parseValues_sound {columns : Option UniqueLabels} (json : isJsonAt 0 value = true)
    (accepted : parseValues value columns = .ok parsed) : parsed.Sound := by
  unfold parseValues at accepted
  split at accepted
  · contradiction
  · next columns items =>
    obtain ⟨collected, read, accepted⟩ := Library.bind_eq_ok accepted
    obtain ⟨rows, rfl, _, table⟩ := collectItems_eq read (tabulates_start columns)
    obtain ⟨data, rfl, table⟩ := finalizeFrame_eq_ok accepted table
    refine ⟨⟨_, table, ?_, ?_⟩, positions_supported⟩
    · show _ = (positions _).length
      rw [List.nil_append, length_positions, List.length_map, List.length_map]
    · refine items_json (fun row member => ?_) _
      exact ((isJsonAt_array _ _).mp json).2 _ (List.mem_map_of_mem member)
  · contradiction

/-- The labels that a split payload gives. -/
theorem splitIndex_eq_ok {index : Option (List IndexLabel)}
    (accepted : splitIndex entries = .ok index) :
    ∀ labels, index = some labels → ∀ label ∈ labels, label.isSupported = true := by
  unfold splitIndex at accepted
  split at accepted
  · rw [← Except.ok.inj accepted]
    intro labels absent
    contradiction
  · obtain ⟨made, converted, same⟩ := Library.bind_eq_ok accepted
    rw [← Except.ok.inj same]
    intro labels same label member
    obtain rfl := Option.some.inj same
    obtain ⟨_, _, found⟩ := Library.mem_of_mapM converted member
    exact (assertSupportedIndexLabel_eq_ok found).2
  · contradiction

theorem parseSplit_sound (json : isJsonAt 0 value = true)
    (accepted : parseSplit value = .ok parsed) : parsed.Sound := by
  unfold parseSplit at accepted
  dsimp only at accepted
  split at accepted
  · next entries =>
    split at accepted
    · next labels items _ found =>
      obtain ⟨columns, _, accepted⟩ := Library.bind_eq_ok accepted
      obtain ⟨index, indexed, accepted⟩ := Library.bind_eq_ok accepted
      split at accepted
      · contradiction
      · next lengths =>
        obtain ⟨collected, read, accepted⟩ := Library.bind_eq_ok accepted
        obtain ⟨rows, rfl, _, table⟩ := collectItems_eq read (tabulates_start columns)
        obtain ⟨data, rfl, table⟩ := finalizeFrame_eq_ok accepted table
        have inner := ((isJsonAt_object _ _).mp json).2 _ (mem_of_getOwn found)
        have deep : ∀ row ∈ rows, isJsonAt 1 (.array row) = true := fun row member =>
          isJsonAt_mono (((isJsonAt_array _ _).mp inner).2 _ (List.mem_map_of_mem member))
            (by omega)
        refine ⟨⟨_, table, ?_, items_json deep _⟩, ?_⟩
        · rw [not_not, List.length_map] at lengths
          rw [List.nil_append, List.length_map]
          cases index with
          | none => exact (length_positions _).symm ▸ (List.length_map _).symm
          | some labels => exact lengths.symm
        · cases index with
          | none => exact positions_supported
          | some labels => exact splitIndex_eq_ok indexed labels rfl
    · contradiction
    · contradiction
  · contradiction

/-- The rows of a table payload and their labels. -/
structure ReadRows (columns : UniqueLabels) (items : List Value) (index : List IndexLabel)
    (before : List (String → Value)) (finalIndex : List IndexLabel) (final : Map (List Value)) :
    Prop where
  rows : ∃ (rows : List Entries) (labels : List IndexLabel), items = rows.map Value.object ∧
    finalIndex = index ++ labels ∧
    labels.length = rows.length ∧ (∀ label ∈ labels, label.isSupported = true) ∧
    Tabulates columns final (before ++ rows.map ownCell)

theorem tableLabel_eq_ok {primaryKey : Option String} {index : List IndexLabel} {rowIndex : Nat}
    {row : Entries} (accepted : tableLabel primaryKey index rowIndex row = .ok label) :
    label.isSupported = true := by
  unfold tableLabel at accepted
  dsimp only at accepted
  split at accepted
  · rw [← Except.ok.inj accepted]
    exact isFiniteText_repr rowIndex
  · split at accepted
    · contradiction
    · obtain ⟨checked, supported, accepted⟩ := Library.bind_eq_ok accepted
      split at accepted
      · contradiction
      · rw [← Except.ok.inj accepted]
        exact (assertSupportedIndexLabel_eq_ok supported).2

theorem collectTableRows_eq_ok {names : List String} {columns : UniqueLabels}
    {primaryKey : Option String} {items : List Value} {index finalIndex : List IndexLabel}
    {data final : Map (List Value)} {before : List (String → Value)}
    (collected : collectTableRows names columns.1 primaryKey index data items =
      .ok (finalIndex, final))
    (table : Tabulates columns data before) :
    ReadRows columns items index before finalIndex final := by
  induction items generalizing index data before with
  | nil =>
    obtain ⟨rfl, rfl⟩ := Prod.mk.inj (Except.ok.inj collected)
    refine ⟨[], [], rfl, (List.append_nil _).symm, rfl,
      fun _ member => absurd member List.not_mem_nil, ?_⟩
    rw [List.map_nil, List.append_nil]
    exact table
  | cons item items ih =>
    unfold collectTableRows at collected
    split at collected
    · contradiction
    · next row rest same =>
      obtain ⟨rfl, rfl⟩ := List.cons.inj same
      obtain ⟨_, _, collected⟩ := Library.bind_eq_ok collected
      obtain ⟨label, labelled, collected⟩ := Library.bind_eq_ok collected
      have pushed : Tabulates columns (pushRow columns.1 row data)
          (before ++ [ownCell row]) := by
        constructor
        intro column member
        rw [lookup_pushRow columns.2, if_pos member, table.cells column member,
          List.map_append]
        rfl
      obtain ⟨rows, labels, same, extended, lengths, supported, tabulated⟩ :=
        (ih collected pushed).rows
      refine ⟨row :: rows, label :: labels, by rw [same]; rfl, ?_, ?_, ?_, ?_⟩
      · rw [extended, List.append_assoc]
        rfl
      · rw [List.length_cons, List.length_cons, lengths]
      · exact List.forall_mem_cons.mpr ⟨tableLabel_eq_ok labelled, supported⟩
      · rw [List.append_assoc] at tabulated
        exact tabulated
    · contradiction

theorem parseTable_sound (json : isJsonAt 0 value = true)
    (accepted : parseTable value = .ok parsed) : parsed.Sound := by
  unfold parseTable at accepted
  split at accepted
  · next entries =>
    obtain ⟨⟨schema, names⟩, _, accepted⟩ := Library.bind_eq_ok accepted
    dsimp only at accepted
    split at accepted
    · next items found =>
      split at accepted
      · contradiction
      · obtain ⟨⟨index, collected⟩, read, finalized⟩ := Library.bind_eq_ok accepted
        obtain ⟨rows, labels, rfl, rfl, lengths, supported, table⟩ :=
          (collectTableRows_eq_ok read (tabulates_start _)).rows
        obtain ⟨data, rfl, table⟩ := finalizeFrame_eq_ok finalized table
        have inner := ((isJsonAt_object _ _).mp json).2 _ (mem_of_getOwn found)
        refine ⟨⟨_, table, ?_, ?_⟩, supported⟩
        · rw [List.nil_append, List.length_map]
          exact lengths.symm
        · intro row member column
          obtain ⟨source, listed, rfl⟩ := List.mem_map.mp member
          have deep := ((isJsonAt_array _ _).mp inner).2 _ (List.mem_map_of_mem listed)
          exact ownCell_json ((isJsonAt_object 1 _).mp (isJsonAt_mono deep (by omega))).2 column
    · contradiction
  · contradiction

/-- Every imported frame. -/
theorem parseInput_sound {jsonParse : String → Option Value} {input : Value}
    {options : NormalizedFromOrientOptions}
    (accepted : parseInput jsonParse input options = .ok parsed) : parsed.Sound := by
  rw [parseInput_eq] at accepted
  obtain ⟨source, _, accepted⟩ := Library.bind_eq_ok accepted
  obtain ⟨value, cloned, accepted⟩ := Library.bind_eq_ok accepted
  obtain ⟨orient, _, accepted⟩ := Library.bind_eq_ok accepted
  obtain ⟨rfl, json⟩ := cloneJsonCompatible_eq_ok cloned
  cases orient with
  | records => exact parseRecords_sound json accepted
  | index => exact parseIndex_sound json accepted
  | columns => exact parseColumns_sound json accepted
  | values => exact parseValues_sound json accepted
  | split => exact parseSplit_sound json accepted
  | table => exact parseTable_sound json accepted

/-- The state of a parsed frame. -/
theorem Created.sound {options : NormalizedFromOrientOptions} {state : FrameState}
    (created : Created parsed options state) (sound : parsed.Sound) : Sound state := by
  obtain ⟨rows, table, length, json⟩ := sound.table
  constructor
  · rw [created.columns, created.index]
    intro column member
    obtain ⟨values, stored, read, held, same⟩ := created.stored column member
    rw [table.cells column member] at read
    refine ⟨stored.values, ?_, ?_, ?_⟩
    · rw [FrameState.valuesOf, held]
      rfl
    · rw [same, ← Option.some.inj read, List.length_map, length]
    · intro value inside
      rw [same, ← Option.some.inj read] at inside
      obtain ⟨row, listed, rfl⟩ := List.mem_map.mp inside
      exact json row listed column
  · rw [created.index]
    exact sound.labels
  · rw [created.columns]
    exact created.only

/-- Every frame that a run of transforms makes of an import. -/
theorem sound_of_run {jsonParse : String → Option Value} {input options : Value}
    {frame : DataFrame} (imported : fromOrient jsonParse input options = .ok frame)
    {arraySort : ArraySort} {sequence : List Transform} {final : DataFrame}
    (done : frame.transforms arraySort sequence = .ok final) : Sound final.state := by
  obtain ⟨_, _, _, accepted, created⟩ := fromOrient_eq_ok imported
  exact transforms_invariant arraySort (fun _ state => Sound state)
    (fun _ _ _ _ held transformed => held.step transformed)
    (created.sound (parseInput_sound accepted)) done

end WebTsToolkit.JsonFrame
