import WebTsToolkit.JsonFrame.Reimport
import Mathlib.Data.Set.Basic

set_option autoImplicit false

namespace WebTsToolkit.JsonFrame

open Js Utils DataFrame

/-- The cell of a row in a column, where the frame has both. -/
def FrameState.read (state : FrameState) (position : Nat) (column : String) : Option Value :=
  if column ∈ state.columns.1 then (state.valuesOf column).bind (·[position]?) else none

/-- The cells of a frame, each with its column and the position of its row. -/
def FrameState.positionTriples (state : FrameState) : Set (Nat × String × Value) :=
  fun (position, column, cell) => state.read position column = some cell

/-- The cells of a frame, each with its column and the label of its row as text. -/
def FrameState.labelTriples (state : FrameState) : Set (String × String × Value) :=
  fun (text, column, cell) => ∃ position label, state.index[position]? = some label ∧
    labelText label = text ∧ state.read position column = some cell

variable {state : FrameState} {column : String} {position : Nat} {cell : Value}
  {columns : UniqueLabels} {payload : Value}

theorem Sound.read_iff (sound : Sound state) : state.read position column = some cell ↔
      column ∈ state.columns.1 ∧ position < state.index.length ∧
        cell = state.cellAt position column := by
  rw [FrameState.read]
  by_cases member : column ∈ state.columns.1
  · obtain ⟨values, read, length, _⟩ := sound.cells column member
    rw [if_pos member, FrameState.cellAt, read, Option.bind_some, Option.getD_some]
    constructor
    · intro found
      rw [found]
      have inside := (List.getElem?_eq_some_iff.mp found).1
      exact ⟨member, by omega, rfl⟩
    · intro held
      obtain ⟨_, inside, same⟩ := held
      have within : position < values.length := by omega
      rw [List.getElem?_eq_getElem within] at same ⊢
      rw [same]
      rfl
  · rw [if_neg member]
    simp [member]

/-- The cells of a frame with known rows. -/
theorem Presents.read_iff {index : List IndexLabel} {indexKind : IndexKind}
    {rows : List (String → Value)} (presents : Presents state columns index indexKind rows) :
    state.read position column = some cell ↔
      column ∈ columns.1 ∧ ∃ row, rows[position]? = some row ∧ cell = row column := by
  rw [FrameState.read, presents.columns]
  by_cases member : column ∈ columns.1
  · have values := presents.values column (by rw [presents.columns]; exact member)
    rw [if_pos member, values, Option.bind_some, List.getElem?_map]
    constructor
    · intro found
      obtain ⟨row, there, same⟩ := Option.map_eq_some_iff.mp found
      exact ⟨member, row, there, same.symm⟩
    · intro held
      obtain ⟨_, row, there, same⟩ := held
      rw [there, same]
      rfl
  · rw [if_neg member]
    simp [member]

theorem getElem?_map_range {α : Type} {count position : Nat} {value : Nat → α} {item : α} :
    ((List.range count).map value)[position]? = some item ↔
      position < count ∧ item = value position := by
  rw [List.getElem?_map]
  by_cases inside : position < count
  · rw [List.getElem?_range inside, Option.map_some, Option.some.injEq]
    constructor
    · intro same
      exact ⟨inside, same.symm⟩
    · intro held
      exact held.2.symm
  · rw [List.getElem?_eq_none (by rw [List.length_range]; omega)]
    simp [inside]

/-- Records bring back every cell at its position. -/
theorem records_roundTrip (jsonParse : String → Option Value) (sound : Sound state)
    (exported : exportRecords state = .ok payload) :
    ∃ frame, fromOrient jsonParse payload (orientOptions .records) = .ok frame ∧
      frame.state.positionTriples = state.positionTriples := by
  rw [sound.exportRecords_eq] at exported
  obtain rfl := Except.ok.inj exported
  have items : (List.range state.index.length).map (fun position =>
      Value.object (state.rowEntries position)) =
      ((List.range state.index.length).map fun position => state.rowEntries position).map
        .object := by
    rw [List.map_map]
    rfl
  have json : isJsonAt 0 (.array ((List.range state.index.length).map fun position =>
      Value.object (state.rowEntries position))) = true := by
    rw [isJsonAt_array]
    refine ⟨by decide, fun item member => ?_⟩
    obtain ⟨position, inside, rfl⟩ := List.mem_map.mp member
    exact sound.row_json (List.mem_range.mp inside)
  rw [items] at json ⊢
  obtain ⟨parsed, read, objects⟩ := parseRecords_of_rows
    ((List.range state.index.length).map fun position => state.rowEntries position)
  obtain ⟨frame, imported, presents⟩ :=
    @fromOrient_of_parsed jsonParse _ .records _ _ rfl json read objects.table
  refine ⟨frame, imported, ?_⟩
  ext ⟨position, column, cell⟩
  show frame.state.read position column = some cell ↔ state.read position column = some cell
  rw [presents.read_iff, sound.read_iff, mem_columns_of_rows objects.columns, List.map_map]
  constructor
  · intro held
    obtain ⟨⟨_, member⟩, row, there, same⟩ := held
    obtain ⟨inside, rfl⟩ := getElem?_map_range.mp there
    rw [same]
    exact ⟨member, inside, Sound.ownCell_row member⟩
  · intro held
    obtain ⟨member, inside, same⟩ := held
    rw [same]
    refine ⟨⟨?_, member⟩, _, getElem?_map_range.mpr ⟨inside, rfl⟩,
      (Sound.ownCell_row member).symm⟩
    exact List.ne_nil_of_mem (List.mem_range.mpr inside)

/-- The labels of a frame as keys. -/
def FrameState.keys (state : FrameState) : List String :=
  state.index.map labelText

theorem resolveIndexKeys_eq_ok {orient : ResolvedOrient} {name : String}
    {seen labels : List IndexLabel} {keys : List String}
    (resolved : resolveIndexKeys orient name seen labels = .ok keys) :
    keys = labels.map labelText ∧ keys.Nodup ∧ ∀ prior ∈ seen, labelText prior ∉ keys := by
  induction labels generalizing seen keys with
  | nil =>
    rw [← Except.ok.inj resolved]
    exact ⟨rfl, List.nodup_nil, fun _ _ => List.not_mem_nil⟩
  | cons label labels ih =>
    unfold resolveIndexKeys at resolved
    split at resolved
    · contradiction
    · next fresh =>
      obtain ⟨rest, later, same⟩ := Library.bind_eq_ok resolved
      obtain ⟨keys_, distinct, apart⟩ := ih later
      have same : labelText label :: rest = keys := Except.ok.inj same
      rw [← same]
      have unseen : ∀ prior ∈ seen, labelText prior ≠ labelText label := by
        intro prior member equal
        have apart := List.find?_eq_none.mp fresh prior member
        rw [equal, beq_self_eq_true] at apart
        contradiction
      refine ⟨by rw [keys_]; rfl, List.nodup_cons.mpr ⟨?_, distinct⟩, ?_⟩
      · exact apart label (List.mem_append_right _ (List.mem_singleton_self label))
      · intro prior member listed
        rcases List.mem_cons.mp listed with here | there
        · exact unseen prior member here
        · exact apart prior (List.mem_append_left _ member) there

theorem getElem?_keys {text : String} :
    state.keys[position]? = some text ↔
      ∃ label, state.index[position]? = some label ∧ labelText label = text := by
  rw [FrameState.keys, List.getElem?_map, Option.map_eq_some_iff]

/-- With distinct keys a key stands for one row. -/
theorem Sound.labelTriples_iff (sound : Sound state) (distinct : state.keys.Nodup)
    {text column : String} :
    (text, column, cell) ∈ state.labelTriples ↔
      text ∈ state.keys ∧ column ∈ state.columns.1 ∧
        cell = state.cellAt (state.keys.idxOf text) column := by
  have length : state.keys.length = state.index.length := List.length_map _
  constructor
  · intro triple
    obtain ⟨position, label, found, named, cells⟩ := triple
    obtain ⟨member, inside, same⟩ := sound.read_iff.mp cells
    have key : state.keys[position]? = some text := getElem?_keys.mpr ⟨label, found, named⟩
    obtain ⟨within, here⟩ := List.getElem?_eq_some_iff.mp key
    have position_ : state.keys.idxOf text = position := by
      rw [← here]
      exact distinct.idxOf_getElem position within
    rw [position_]
    exact ⟨List.mem_of_getElem? key, member, same⟩
  · intro held
    obtain ⟨listed, member, same⟩ := held
    have within := List.idxOf_lt_length_of_mem listed
    have key : state.keys[state.keys.idxOf text]? = some text := by
      rw [List.getElem?_eq_getElem within, List.getElem_idxOf]
    obtain ⟨label, found, named⟩ := getElem?_keys.mp key
    exact ⟨_, label, found, named, sound.read_iff.mpr ⟨member, by omega, same⟩⟩

/-- A frame whose rows were read from keys. -/
theorem Presents.labelTriples_iff {indexKind : IndexKind} {keys : List String}
    {row : String → String → Value}
    (presents : Presents state columns (keys.map .string) indexKind (keys.map row))
    {text column : String} :
    (text, column, cell) ∈ state.labelTriples ↔
      text ∈ keys ∧ column ∈ columns.1 ∧ cell = row text column := by
  constructor
  · intro triple
    obtain ⟨position, label, found, named, cells⟩ := triple
    obtain ⟨member, source, there, same⟩ := presents.read_iff.mp cells
    rw [presents.index, List.getElem?_map] at found
    rw [List.getElem?_map] at there
    obtain ⟨key, listed, rfl⟩ := Option.map_eq_some_iff.mp found
    have named : key = text := named
    subst named
    rw [listed] at there
    rw [← Option.some.inj there] at same
    exact ⟨List.mem_of_getElem? listed, member, same⟩
  · intro held
    obtain ⟨listed, member, same⟩ := held
    obtain ⟨position, found⟩ := List.getElem?_of_mem listed
    refine ⟨position, .string text, ?_, rfl, presents.read_iff.mpr ⟨member, row text, ?_, same⟩⟩
    · rw [presents.index, List.getElem?_map, found]
      rfl
    · rw [List.getElem?_map, found]
      rfl

theorem zipIdx_map_idxOf {α : Type} {keys : List String} (distinct : keys.Nodup)
    (value : String × Nat → α) :
    keys.zipIdx.map value = keys.map fun key => value (key, keys.idxOf key) := by
  apply List.ext_getElem
  · rw [List.length_map, List.length_zipIdx, List.length_map]
  · intro position inside inside'
    rw [List.length_map] at inside'
    rw [List.getElem_map, List.getElem_map, List.getElem_zipIdx, Nat.zero_add,
      distinct.idxOf_getElem position inside']

/-- The index layout brings back every cell under its label. -/
theorem index_roundTrip (jsonParse : String → Option Value) (sound : Sound state)
    (exported : exportIndex state = .ok payload) :
    ∃ frame, fromOrient jsonParse payload (orientOptions .index) = .ok frame ∧
      frame.state.labelTriples = state.labelTriples := by
  obtain ⟨keys, resolved, exported⟩ := Library.bind_eq_ok exported
  obtain ⟨rfl, distinct, _⟩ := resolveIndexKeys_eq_ok resolved
  have distinct : state.keys.Nodup := distinct
  obtain ⟨storedColumns, stored, cells⟩ := sound.resolveStoredColumns_eq
  rw [stored] at exported
  have payload_ : Value.object (entriesWith (state.keys.map fun key =>
      (key, Value.object (state.rowEntries (state.keys.idxOf key))))) = payload := by
    rw [← Except.ok.inj exported, objectOf_eq]
    show _ = Value.object (entriesWith (state.keys.zipIdx.map _))
    rw [zipIdx_map_idxOf distinct]
    simp only [rowObject_eq (cells _)]
  subst payload_
  have inside : ∀ key ∈ state.keys, state.keys.idxOf key < state.index.length := by
    intro key member
    have within := List.idxOf_lt_length_of_mem member
    rwa [FrameState.keys, List.length_map] at within
  have json := @keyed_json 0 state.keys
    (fun key => .object (state.rowEntries (state.keys.idxOf key)))
    (fun key member => sound.row_json (inside key member)) (by decide)
  have same := @mem_ofKeys_keyed _ distinct
    (fun key => Value.object (state.rowEntries (state.keys.idxOf key)))
  obtain ⟨parsed, read, objects⟩ := parseIndex_of_rows
    fun key member => ownCell_keyed distinct _ (same.mp member)
  obtain ⟨frame, imported, presents⟩ :=
    @fromOrient_of_parsed jsonParse _ .index _ _ rfl json read objects.table
  refine ⟨frame, imported, ?_⟩
  rw [objects.index, List.map_map] at presents
  ext ⟨text, column, cell⟩
  rw [presents.labelTriples_iff, sound.labelTriples_iff distinct, same,
    mem_columns_of_rows objects.columns]
  constructor
  · intro held
    obtain ⟨listed, ⟨_, member⟩, equal⟩ := held
    rw [equal]
    exact ⟨listed, member, Sound.ownCell_row member⟩
  · intro held
    obtain ⟨listed, member, equal⟩ := held
    rw [equal]
    exact ⟨listed, ⟨List.ne_nil_of_mem (same.mpr listed), member⟩, (Sound.ownCell_row member).symm⟩

/-- The keys of an object do not depend on its values. -/
theorem keys_defineEntry {first second : Entries}
    (same : first.map Prod.fst = second.map Prod.fst) (key : String) (value value' : Value) :
    (defineEntry first key value).map Prod.fst = (defineEntry second key value').map Prod.fst := by
  have replaced : ∀ (entries : Entries) (value : Value),
      (entries.map fun entry => if entry.1 = key then (key, value) else entry).map Prod.fst =
        entries.map Prod.fst := by
    intro entries value
    rw [List.map_map]
    apply List.map_congr_left
    intro entry _
    by_cases here : entry.1 = key
    · simp [here]
    · simp [here]
  have present : ∀ entries : Entries, (getOwn entries key).isSome = true ↔
      key ∈ entries.map Prod.fst := by
    intro entries
    constructor
    · intro found
      obtain ⟨held, found⟩ := Option.isSome_iff_exists.mp found
      exact List.mem_map_of_mem (mem_of_getOwn found)
    · intro member
      by_contra absent
      rw [Option.not_isSome_iff_eq_none] at absent
      obtain ⟨entry, listed, rfl⟩ := List.mem_map.mp member
      have apart := List.lookup_eq_none_iff.mp absent entry listed
      rw [bne_self_eq_false] at apart
      contradiction
  unfold defineEntry
  by_cases member : key ∈ first.map Prod.fst
  · rw [if_pos ((present first).mpr member), if_pos ((present second).mpr (same ▸ member)),
      replaced, replaced, same]
  · rw [if_neg fun found => member ((present first).mp found),
      if_neg fun found => member (same ▸ (present second).mp found)]
    unfold insertEntry
    dsimp only
    split
    · have taken : ∀ entries : Entries, (entries.takeWhile fun entry =>
          isArrayIndexKey entry.1 && (arrayIndex entry.1).getD 0 < (arrayIndex key).getD 0).map
            Prod.fst = (entries.map Prod.fst).takeWhile fun name =>
          isArrayIndexKey name && (arrayIndex name).getD 0 < (arrayIndex key).getD 0 := by
        intro entries
        rw [List.takeWhile_map]
        rfl
      have dropped : ∀ entries : Entries, (entries.dropWhile fun entry =>
          isArrayIndexKey entry.1 && (arrayIndex entry.1).getD 0 < (arrayIndex key).getD 0).map
            Prod.fst = (entries.map Prod.fst).dropWhile fun name =>
          isArrayIndexKey name && (arrayIndex name).getD 0 < (arrayIndex key).getD 0 := by
        intro entries
        rw [List.dropWhile_map]
        rfl
      rw [List.map_append, List.map_append, List.map_cons, List.map_cons, taken, taken, dropped,
        dropped, same]
    · rw [List.map_append, List.map_append, same]
      rfl

theorem keys_entriesWith (keys : List String) (value value' : String → Value) :
    (entriesWith (keys.map fun key => (key, value key))).map Prod.fst =
      (entriesWith (keys.map fun key => (key, value' key))).map Prod.fst := by
  have general : ∀ first second : Entries, first.map Prod.fst = second.map Prod.fst →
      ((keys.map fun key => (key, value key)).foldl
        (fun entries property => defineEntry entries property.1 property.2) first).map Prod.fst =
      ((keys.map fun key => (key, value' key)).foldl
        (fun entries property => defineEntry entries property.1 property.2) second).map
          Prod.fst := by
    induction keys with
    | nil => exact fun _ _ same => same
    | cons key keys ih =>
      intro first second same
      exact ih _ _ (keys_defineEntry same key _ _)
  exact general [] [] rfl

/-- The cells of a column under the keys of their rows. -/
def FrameState.columnEntries (state : FrameState) (column : String) : Entries :=
  entriesWith (state.keys.map fun key => (key, state.cellAt (state.keys.idxOf key) column))

theorem collectColumns_done {entries : Entries} {values : String → Entries} {keys : List String}
    {columns : List String} (shape : ∀ column ∈ columns,
      ownCell entries column = .object (values column) ∧
        (UniqueLabels.ofKeys (values column)).1 = keys)
    {index : Option (List String)} (agrees : index.getD keys = keys) (data : Map (List Value)) :
    ∃ finalIndex final, collectColumns entries index data columns = .ok (finalIndex, final) := by
  induction columns generalizing index data with
  | nil => exact ⟨index, data, rfl⟩
  | cons column columns ih =>
    obtain ⟨object, same⟩ := shape column List.mem_cons_self
    obtain ⟨finalIndex, final, rest⟩ : ∃ finalIndex final, collectColumns entries (some keys)
        (data.set column (keys.map (ownCell (values column)))) columns =
          .ok (finalIndex, final) :=
      ih (fun other member => shape other (List.mem_cons_of_mem _ member)) rfl _
    refine ⟨finalIndex, final, ?_⟩
    unfold collectColumns
    dsimp only
    rw [object]
    dsimp only
    rw [same, if_pos agrees]
    exact rest

theorem parseColumns_of_values {entries : Entries} {values : String → Entries} {keys : List String}
    (shape : ∀ column ∈ (UniqueLabels.ofKeys entries).1,
      ownCell entries column = .object (values column) ∧
        (UniqueLabels.ofKeys (values column)).1 = keys) :
    ∃ parsed rowKeys, parseColumns (.object entries) = .ok parsed ∧
      parsed.columns = UniqueLabels.ofKeys entries ∧ parsed.index = rowKeys.map .string ∧
      (parsed.columns.1 ≠ [] → rowKeys = keys) ∧
      Tabulates parsed.columns parsed.data (rowKeys.map (keyCells entries)) := by
  obtain ⟨finalIndex, final, done⟩ : ∃ finalIndex final, collectColumns entries none ∅
      (UniqueLabels.ofKeys entries).1 = .ok (finalIndex, final) := collectColumns_done shape rfl ∅
  have read := collectColumns_eq_ok (Subtype.property _) done
  obtain ⟨data, finalized, table⟩ := finalizeFrame_of_tabulates
    { orient := .columns
      columns := UniqueLabels.ofKeys entries
      index := (finalIndex.getD []).map .string
      indexKind := .source
      data := final } read.tabulates
  rw [parseColumns, done]
  refine ⟨_, finalIndex.getD [], finalized, rfl, rfl, fun nonempty => ?_, table⟩
  obtain ⟨column, member⟩ := List.exists_mem_of_ne_nil _ nonempty
  obtain ⟨object, made, found, same, _⟩ := read.cells column member
  obtain ⟨expected, agrees⟩ := shape column member
  rw [expected] at object
  rw [← Value.object.inj object, agrees] at same
  rw [found, same]
  rfl

theorem exportColumn_eq (sound : Sound state) (distinct : state.keys.Nodup)
    (member : column ∈ state.columns.1) :
    exportColumn state state.keys column = .ok (column, .object (state.columnEntries column)) := by
  obtain ⟨stored, found, cells⟩ := sound.getStoredColumn_eq member
  rw [exportColumn, found]
  show Except.ok (column, objectOf (state.keys.zipIdx.map _)) = _
  rw [zipIdx_map_idxOf distinct, objectOf_eq]
  simp only [cells]
  rfl

/-- The columns layout brings back every cell under its label. -/
theorem columns_roundTrip (jsonParse : String → Option Value) (sound : Sound state)
    (exported : exportColumns state = .ok payload) :
    ∃ frame, fromOrient jsonParse payload (orientOptions .columns) = .ok frame ∧
      frame.state.labelTriples = state.labelTriples := by
  obtain ⟨keys, resolved, exported⟩ := Library.bind_eq_ok exported
  obtain ⟨rfl, distinct, _⟩ := resolveIndexKeys_eq_ok resolved
  have distinct : state.keys.Nodup := distinct
  obtain ⟨columns, mapped, exported⟩ := Library.bind_eq_ok exported
  have mapped : state.columns.1.mapM (exportColumn state state.keys) = .ok columns := mapped
  rw [Library.mapM_eq_ok fun column member => exportColumn_eq sound distinct member] at mapped
  have payload_ : Value.object (entriesWith (state.columns.1.map fun column =>
      (column, Value.object (state.columnEntries column)))) = payload := by
    rw [← Except.ok.inj exported, ← Except.ok.inj mapped, objectOf_eq]
  subst payload_
  have inside : ∀ key ∈ state.keys, state.keys.idxOf key < state.index.length := by
    intro key member
    have within := List.idxOf_lt_length_of_mem member
    rwa [FrameState.keys, List.length_map] at within
  have json := @keyed_json 0 state.columns.1 (fun column => .object (state.columnEntries column))
    (fun column member => keyed_json (fun key listed => sound.cellAt_json member (inside key listed))
      (by decide)) (by decide)
  have same := @mem_ofKeys_keyed _ state.columns.2
    (fun column => Value.object (state.columnEntries column))
  have keys_ : ∀ column, (UniqueLabels.ofKeys (state.columnEntries column)).1 =
      (UniqueLabels.ofKeys (state.columnEntries "")).1 := by
    intro column
    show List.dedup _ = List.dedup _
    rw [FrameState.columnEntries, FrameState.columnEntries,
      keys_entriesWith state.keys _ fun key => state.cellAt (state.keys.idxOf key) ""]
  have cells := fun column (member : column ∈ state.columns.1) => ownCell_keyed state.columns.2
    (fun column => Value.object (state.columnEntries column)) member
  obtain ⟨parsed, rowKeys, read, columns, index, agree, table⟩ := parseColumns_of_values
    fun column member => ⟨cells column (same.mp member), keys_ column⟩
  obtain ⟨frame, imported, presents⟩ :=
    @fromOrient_of_parsed jsonParse _ .columns _ _ rfl json read table
  refine ⟨frame, imported, ?_⟩
  rw [index] at presents
  ext ⟨text, column, cell⟩
  rw [presents.labelTriples_iff, sound.labelTriples_iff distinct, columns, same]
  have listed : column ∈ state.columns.1 → (text ∈ rowKeys ↔ text ∈ state.keys) := by
    intro member
    have nonempty : parsed.columns.1 ≠ [] := by
      rw [columns]
      exact List.ne_nil_of_mem (same.mpr member)
    rw [agree nonempty]
    exact mem_ofKeys_keyed distinct _
  have value : column ∈ state.columns.1 → text ∈ state.keys → keyCells
      (entriesWith (state.columns.1.map fun column =>
        (column, Value.object (state.columnEntries column)))) text column =
      state.cellAt (state.keys.idxOf text) column := by
    intro member held
    rw [keyCells, columnEntries, cells column member]
    exact ownCell_keyed distinct _ held
  constructor
  · intro held
    obtain ⟨key, member, equal⟩ := held
    have key := (listed member).mp key
    rw [equal, value member key]
    exact ⟨key, member, rfl⟩
  · intro held
    obtain ⟨key, member, equal⟩ := held
    rw [equal, value member key]
    exact ⟨(listed member).mpr key, member, rfl⟩

/-- No cell nests too deep below this many containers. -/
def FrameState.FitsAt (state : FrameState) (depth : Nat) : Prop :=
  ∀ position column cell, state.read position column = some cell → isJsonAt depth cell = true

/-- The same columns, labels and cells, in the same order. -/
structure SameContent (first second : FrameState) : Prop where
  columns : first.columns = second.columns
  index : first.index = second.index
  values : ∀ column ∈ second.columns.1, first.valuesOf column = second.valuesOf column

theorem Sound.fitsAt_iff (sound : Sound state) {depth : Nat} :
    state.FitsAt depth ↔ ∀ position < state.index.length, ∀ column ∈ state.columns.1,
      isJsonAt depth (state.cellAt position column) = true := by
  constructor
  · intro fits position inside column member
    exact fits position column _ (sound.read_iff.mpr ⟨member, inside, rfl⟩)
  · intro fits position column cell found
    obtain ⟨member, inside, same⟩ := sound.read_iff.mp found
    rw [same]
    exact fits position inside column member

theorem assertUniqueStringColumns_done (orient : ResolvedOrient) (path : String)
    {names : List String} (position : Nat) (distinct : (columns.1 ++ names).Nodup) :
    ∃ final, assertUniqueStringColumns orient path position columns (names.map .string) = .ok final ∧
      final.1 = columns.1 ++ names := by
  induction names generalizing columns position with
  | nil => exact ⟨columns, rfl, (List.append_nil _).symm⟩
  | cons name names ih =>
    have fresh : name ∉ columns.1 := fun member =>
      (List.nodup_append.mp distinct).2.2 name member name List.mem_cons_self rfl
    have moved : columns.1 ++ name :: names = (columns.push name fresh).1 ++ names := by
      show _ = (columns.1 ++ [name]) ++ names
      rw [List.append_assoc]
      rfl
    rw [moved] at distinct ⊢
    rw [List.map_cons, assertUniqueStringColumns, dif_neg fresh]
    exact ih (position + 1) distinct

theorem labels_done {orient : ResolvedOrient} {labels : List IndexLabel}
    (supported : ∀ label ∈ labels, label.isSupported = true) (path : Nat → String) (start : Nat) :
    ((labels.map IndexLabel.toValue).zipIdx start).mapM (fun pair =>
      assertSupportedIndexLabel pair.1 orient (path pair.2)) = .ok labels := by
  induction labels generalizing start with
  | nil => rfl
  | cons label labels ih =>
    rw [List.map_cons, List.zipIdx_cons, List.mapM_cons,
      assertSupportedIndexLabel_toValue (supported label List.mem_cons_self),
      ih fun other member => supported other (List.mem_cons_of_mem _ member)]
    rfl

theorem collectItems_done (refusal : String → Nat → JsonFrameError) (notArray badWidth : String)
    {rows : List (List Value)} (widths : ∀ row ∈ rows, row.length = columns.1.length) :
    ∃ final, collectItems refusal notArray badWidth columns.1 0 (initializeData columns.1)
      (rows.map .array) = .ok final ∧ Tabulates columns final (rows.map (itemCell columns.1)) := by
  obtain ⟨final, done⟩ := collectItems_of_rows refusal notArray badWidth widths 0
    (initializeData columns.1)
  obtain ⟨rows', same, _, table⟩ := collectItems_eq done (tabulates_start columns)
  have injective : Function.Injective Value.array := fun _ _ equal => Value.array.inj equal
  rw [← List.map_injective_iff.mpr injective same] at table
  exact ⟨final, done, table⟩

/-- The cells of a row in the order of the columns. -/
def FrameState.rowItems (state : FrameState) (position : Nat) : List Value :=
  state.columns.1.map (state.cellAt position)

theorem itemCell_rowItems (member : column ∈ state.columns.1) :
    itemCell state.columns.1 (state.rowItems position) column = state.cellAt position column := by
  rw [itemCell, FrameState.rowItems, zip_map_self]
  have found := getOwn_keyed (state.cellAt position) member
  rw [getOwn] at found
  rw [found]
  rfl

/-- A split payload. -/
def FrameState.splitPayload (state : FrameState) : Value :=
  .object [("columns", .array (state.columns.1.map .string)),
    ("index", .array (state.index.map IndexLabel.toValue)),
    ("data", .array ((List.range state.index.length).map fun position =>
      .array (state.rowItems position)))]

theorem Sound.exportSplit_eq (sound : Sound state) :
    exportSplit state = .ok state.splitPayload := by
  obtain ⟨storedColumns, resolved, cells⟩ := sound.resolveStoredColumns_eq
  rw [exportSplit, exportValues, resolved]
  show Except.ok (Value.object _) = _
  simp only [cells]
  rfl

theorem label_json {label : IndexLabel} (supported : label.isSupported = true) (depth : Nat) :
    isJsonAt depth label.toValue = true := by
  cases label with
  | string text => rfl
  | number text => exact supported

/-- Three containers are around the cells of a split payload. -/
theorem Sound.splitPayload_json (sound : Sound state) :
    isJsonAt 0 state.splitPayload = true ↔ state.FitsAt 3 := by
  rw [sound.fitsAt_iff, FrameState.splitPayload, isJsonAt_object]
  have columns : isJsonAt 1 (.array (state.columns.1.map .string)) = true := by
    rw [isJsonAt_array]
    refine ⟨by decide, fun item member => ?_⟩
    obtain ⟨column, _, rfl⟩ := List.mem_map.mp member
    rfl
  have labels : isJsonAt 1 (.array (state.index.map IndexLabel.toValue)) = true := by
    rw [isJsonAt_array]
    refine ⟨by decide, fun item member => ?_⟩
    obtain ⟨label, listed, rfl⟩ := List.mem_map.mp member
    exact label_json (sound.labels label listed) 2
  constructor
  · intro json position inside column member
    have data := json.2 _ (List.mem_cons_of_mem _ (List.mem_cons_of_mem _ List.mem_cons_self))
    have row := ((isJsonAt_array _ _).mp data).2 _
      (List.mem_map_of_mem (List.mem_range.mpr inside))
    exact ((isJsonAt_array _ _).mp row).2 _ (List.mem_map_of_mem member)
  · intro fits
    refine ⟨by decide, ?_⟩
    rw [List.forall_mem_cons, List.forall_mem_cons, List.forall_mem_singleton]
    refine ⟨columns, labels, ?_⟩
    rw [isJsonAt_array]
    refine ⟨by decide, fun item member => ?_⟩
    obtain ⟨position, ranged, rfl⟩ := List.mem_map.mp member
    rw [isJsonAt_array]
    refine ⟨by decide, fun cell listed => ?_⟩
    obtain ⟨column, held, rfl⟩ := List.mem_map.mp listed
    exact fits position (List.mem_range.mp ranged) column held

/-- What the parser makes of a split payload. -/
theorem Sound.parseSplit_eq (sound : Sound state) :
    ∃ parsed, parseSplit state.splitPayload = .ok parsed ∧ parsed.columns = state.columns ∧
      parsed.index = state.index ∧ Tabulates parsed.columns parsed.data
        ((List.range state.index.length).map fun position =>
          itemCell state.columns.1 (state.rowItems position)) := by
  obtain ⟨columns, unique, names⟩ :=
    @assertUniqueStringColumns_done .empty .split "$.columns" state.columns.1 0 state.columns.2
  obtain rfl : columns = state.columns := Subtype.ext names
  have labels := @labels_done .split state.index sound.labels (appendIndexPath "$.index") 0
  have index : splitIndex [("columns", .array (state.columns.1.map .string)),
      ("index", .array (state.index.map IndexLabel.toValue)),
      ("data", .array ((List.range state.index.length).map fun position =>
        .array (state.rowItems position)))] = .ok (some state.index) := by
    show (((state.index.map IndexLabel.toValue).zipIdx.mapM fun pair =>
      assertSupportedIndexLabel pair.1 .split (appendIndexPath "$.index" pair.2)) >>= _) = _
    rw [labels]
    rfl
  have items : (List.range state.index.length).map (fun position =>
      Value.array (state.rowItems position)) =
      ((List.range state.index.length).map state.rowItems).map .array := by
    rw [List.map_map]
    rfl
  have widths : ∀ row ∈ (List.range state.index.length).map state.rowItems,
      row.length = state.columns.1.length := by
    intro row member
    obtain ⟨position, _, rfl⟩ := List.mem_map.mp member
    exact List.length_map _
  obtain ⟨collected, done, table⟩ := collectItems_done
    (fun message rowIndex => .validation message
      { orient := some .split, path := some (appendIndexPath "$.data" rowIndex),
        row := some rowIndex })
    "`split.data` rows must be arrays." "`split.data` row widths must match `split.columns`." widths
  obtain ⟨data, finalized, table⟩ := finalizeFrame_of_tabulates
    { orient := .split
      columns := state.columns
      index := state.index
      indexKind := .source
      data := collected } table
  rw [List.map_map] at table
  have read : parseSplit state.splitPayload = finalizeFrame
      { orient := .split
        columns := state.columns
        index := state.index
        indexKind := .source
        data := collected } := by
    show (assertUniqueStringColumns _ _ _ _ _ >>= _) = _
    rw [unique]
    show (splitIndex _ >>= _) = _
    rw [index]
    show (if _ then _ else _) = _
    rw [if_neg (by simp), items]
    show (collectItems _ _ _ _ _ _ _ >>= _) = _
    rw [done]
    rfl
  rw [read]
  exact ⟨_, finalized, rfl, rfl, table⟩

/-- A split payload brings back the frame where its cells fit, and else is refused. -/
theorem split_roundTrip (jsonParse : String → Option Value) (sound : Sound state) :
    ((∃ frame, fromOrient jsonParse state.splitPayload (orientOptions .split) = .ok frame) ↔
      state.FitsAt 3) ∧
    ∀ frame, fromOrient jsonParse state.splitPayload (orientOptions .split) = .ok frame →
      SameContent frame.state state := by
  obtain ⟨parsed, read, columns, index, table⟩ := sound.parseSplit_eq
  have imports : state.FitsAt 3 → ∃ frame,
      fromOrient jsonParse state.splitPayload (orientOptions .split) = .ok frame ∧
        SameContent frame.state state := by
    intro fits
    have json := sound.splitPayload_json.mpr fits
    obtain ⟨frame, imported, presents⟩ :=
      @fromOrient_of_parsed jsonParse _ .split _ _ rfl json read table
    refine ⟨frame, imported, presents.columns.trans columns, presents.index.trans index, ?_⟩
    intro column member
    rw [presents.values column (by rw [presents.columns, columns]; exact member),
      sound.values_eq member, FrameState.grid, List.map_map, List.map_map]
    congr 1
    apply List.map_congr_left
    intro position _
    exact itemCell_rowItems member
  have fits : ∀ frame, fromOrient jsonParse state.splitPayload (orientOptions .split) =
      .ok frame → state.FitsAt 3 := by
    intro frame imported
    exact sound.splitPayload_json.mp (json_of_fromOrient rfl imported)
  refine ⟨⟨fun found => ?_, fun fits => ?_⟩, fun frame imported => ?_⟩
  · obtain ⟨frame, imported⟩ := found
    exact fits frame imported
  · obtain ⟨frame, imported, _⟩ := imports fits
    exact ⟨frame, imported⟩
  · obtain ⟨frame', imported', same⟩ := imports (fits frame imported)
    rw [imported] at imported'
    rw [Except.ok.inj imported']
    exact same

end WebTsToolkit.JsonFrame
