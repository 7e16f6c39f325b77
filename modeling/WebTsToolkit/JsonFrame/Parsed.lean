import WebTsToolkit.JsonFrame.ParseTable

set_option autoImplicit false

namespace WebTsToolkit.JsonFrame

open Js Utils

/-- Pushing one cell to each of some distinct columns. -/
theorem lookup_pushCells {pairs : List (String × Value)}
    (distinct : (pairs.map Prod.fst).Nodup) (data : Map (List Value)) (column : String) :
    (pairs.foldl (fun data pair => pushCell data pair.1 pair.2) data).lookup column =
      match pairs.lookup column with
      | some cell => some ((data.lookup column).getD [] ++ [cell])
      | none => data.lookup column := by
  induction pairs generalizing data with
  | nil => rfl
  | cons pair pairs ih =>
    obtain ⟨name, cell⟩ := pair
    rw [List.map_cons, List.nodup_cons] at distinct
    rw [List.foldl_cons, ih distinct.2, pushCell, Map.lookup_set, List.lookup_cons]
    by_cases here : column = name
    · subst here
      have absent : pairs.lookup column = none := by
        rw [List.lookup_eq_none_iff]
        intro other member
        have listed : other.1 ∈ pairs.map Prod.fst := List.mem_map_of_mem member
        rw [bne_iff_ne]
        intro same
        exact distinct.1 (same ▸ listed)
      rw [absent, if_pos rfl, beq_self_eq_true]
    · rw [if_neg here, beq_eq_false_iff_ne.mpr here]

/-- The cell that a row array has in a column. -/
def itemCell (columns : List String) (row : List Value) (column : String) : Value :=
  ((columns.zip row).lookup column).getD .null

variable {columns : List String} {column : String}

theorem lookup_zip_isSome {row : List Value} (paired : row.length = columns.length)
    (member : column ∈ columns) :
    (columns.zip row).lookup column = some (itemCell columns row column) := by
  have keys : (columns.zip row).map Prod.fst = columns := List.map_fst_zip (by omega)
  cases found : (columns.zip row).lookup column with
  | none =>
    rw [← keys] at member
    obtain ⟨pair, listed, same⟩ := List.mem_map.mp member
    have apart := List.lookup_eq_none_iff.mp found pair listed
    rw [same, bne_self_eq_false] at apart
    contradiction
  | some cell => rw [itemCell, found]; rfl

theorem lookup_pushItems (distinct : columns.Nodup) {row : List Value}
    (paired : row.length = columns.length) (data : Map (List Value)) (member : column ∈ columns) :
    (pushItems columns row data).lookup column =
      some ((data.lookup column).getD [] ++ [itemCell columns row column]) := by
  have keys : (columns.zip row).map Prod.fst = columns := List.map_fst_zip (by omega)
  have pushed := lookup_pushCells (by rw [keys]; exact distinct) data column
  rw [lookup_zip_isSome paired member] at pushed
  exact pushed

theorem lookup_pushRow (distinct : columns.Nodup) (row : Entries) (data : Map (List Value))
    (column : String) :
    (pushRow columns row data).lookup column =
      if column ∈ columns then some ((data.lookup column).getD [] ++ [ownCell row column])
      else data.lookup column := by
  have keys : (columns.map fun column => (column, ownCell row column)).map Prod.fst = columns := by
    rw [List.map_map]
    exact List.map_id columns
  have pushed := lookup_pushCells (by rw [keys]; exact distinct) data column
  rw [List.foldl_map] at pushed
  rw [pushRow, pushed]
  by_cases member : column ∈ columns
  · have found : (columns.map fun column => (column, ownCell row column)).lookup column =
        some (ownCell row column) := by
      clear pushed keys distinct
      induction columns with
      | nil => exact absurd member List.not_mem_nil
      | cons first columns ih =>
        rw [List.map_cons, List.lookup_cons]
        by_cases here : column = first
        · rw [here, beq_self_eq_true]
        · rw [beq_eq_false_iff_ne.mpr here]
          exact ih ((List.mem_cons.mp member).resolve_left here)
    rw [if_pos member, found]
  · have absent : (columns.map fun column => (column, ownCell row column)).lookup column =
        none := by
      rw [List.lookup_eq_none_iff]
      intro pair listed
      obtain ⟨other, present, rfl⟩ := List.mem_map.mp listed
      rw [bne_iff_ne]
      rintro rfl
      exact member present
    rw [if_neg member, absent]

theorem lookup_initializeData (member : column ∈ columns) :
    (initializeData columns).lookup column = some [] := by
  have general : ∀ data : Map (List Value), (column ∈ columns ∨ data.lookup column = some []) →
      (columns.foldl (fun data column => data.set column []) data).lookup column = some [] := by
    clear member
    induction columns with
    | nil =>
      intro data found
      exact found.resolve_left List.not_mem_nil
    | cons first columns ih =>
      intro data found
      rw [List.foldl_cons]
      apply ih
      rw [Map.lookup_set]
      by_cases here : column = first
      · rw [if_pos here]
        exact Or.inr rfl
      · rw [if_neg here]
        rcases found with listed | held
        · exact Or.inl ((List.mem_cons.mp listed).resolve_left here)
        · exact Or.inr held
  exact general ∅ (Or.inl member)

/-- The parser of a layout. -/
def parseOrient (value : Value) (columns : Option UniqueLabels) :
    ResolvedOrient → Except JsonFrameError ParsedFrame
  | .records => parseRecords value
  | .index => parseIndex value
  | .columns => parseColumns value
  | .values => parseValues value columns
  | .split => parseSplit value
  | .table => parseTable value

/-- What is parsed, after a text has been read. -/
def readInput (jsonParse : String → Option Value) (input : Value) :
    Except JsonFrameError Value :=
  match input with
  | .string text =>
    match jsonParse text with
    | some value => .ok value
    | none => .error (.parse "Failed to parse JSON input.")
  | value => .ok value

/-- The layout that was named, or else the one that shows. -/
def layoutOf (orient : Option ResolvedOrient) (value : Value) :
    Except JsonFrameError ResolvedOrient :=
  match orient with
  | some orient => .ok orient
  | none => detectOrient value

theorem parseInput_eq (jsonParse : String → Option Value) (input : Value)
    (options : NormalizedFromOrientOptions) :
    parseInput jsonParse input options =
      (readInput jsonParse input >>= fun source =>
        cloneJsonCompatible source options.orient "$" options.maxNodes >>= fun value =>
          layoutOf options.orient value >>= parseOrient value options.columns) := by
  have read : ∀ source : Except JsonFrameError Value, (source >>= fun source =>
      cloneJsonCompatible source options.orient "$" options.maxNodes >>= fun value =>
        layoutOf options.orient value >>= parseOrient value options.columns) =
      (source >>= fun source =>
        cloneJsonCompatible source options.orient "$" options.maxNodes >>= fun value =>
          match options.orient with
          | some orient => Except.ok orient >>= parseOrient value options.columns
          | none => detectOrient value >>= parseOrient value options.columns) := by
    intro source
    cases options.orient with
    | some orient | none => rfl
  rw [read]
  cases input with
  | string text =>
    unfold parseInput readInput
    dsimp only
    cases jsonParse text with
    | some value | none => rfl
  | _ => rfl

/-- The columns hold these rows, each row a cell for every column. -/
structure Tabulates (columns : UniqueLabels) (data : Map (List Value))
    (rows : List (String → Value)) : Prop where
  cells : ∀ column ∈ columns.1, data.lookup column = some (rows.map (· column))

theorem finalizeFrame_eq_ok {frame final : ParsedFrame}
    (finalized : finalizeFrame frame = .ok final) {rows : List (String → Value)}
    (table : Tabulates frame.columns frame.data rows) :
    ∃ data, final = { frame with data } ∧ Tabulates frame.columns data rows := by
  obtain ⟨data, collected, same⟩ := Library.bind_eq_ok finalized
  refine ⟨data, (Except.ok.inj same).symm, ⟨fun column member => ?_⟩⟩
  have distinct : (frame.columns.1.map id).Nodup := by
    rw [List.map_id]
    exact frame.columns.2
  obtain ⟨values, read, found⟩ := Map.lookup_collect collected distinct member
  unfold parsedColumn at read
  rw [table.cells column member] at read
  rw [← Except.ok.inj read] at found
  exact found

theorem finalizeFrame_of_tabulates (frame : ParsedFrame) {rows : List (String → Value)}
    (table : Tabulates frame.columns frame.data rows) :
    ∃ data, finalizeFrame frame = .ok { frame with data } ∧ Tabulates frame.columns data rows := by
  have computed : ∀ column ∈ frame.columns.1, ∃ values,
      parsedColumn frame column = .ok values := by
    intro column member
    refine ⟨rows.map (· column), ?_⟩
    rw [parsedColumn, table.cells column member]
  obtain ⟨data, collected⟩ := Map.collect_of_computed computed ∅
  have finalized : finalizeFrame frame = .ok { frame with data } := by
    rw [finalizeFrame, collected]
    rfl
  obtain ⟨data', same, tabulated⟩ := finalizeFrame_eq_ok finalized table
  have same : data = data' := congrArg ParsedFrame.data same
  exact ⟨data, finalized, same ▸ tabulated⟩

/-- Rows of arrays. -/
theorem collectItems_eq {refusal : String → Nat → JsonFrameError} {notArray badWidth : String}
    {columns : UniqueLabels} {items : List Value} {rowIndex : Nat}
    {data final : Map (List Value)} {before : List (String → Value)}
    (collected : collectItems refusal notArray badWidth columns.1 rowIndex data items = .ok final)
    (table : Tabulates columns data before) :
    ∃ rows : List (List Value), items = rows.map .array ∧
      (∀ row ∈ rows, row.length = columns.1.length) ∧
      Tabulates columns final (before ++ rows.map (itemCell columns.1)) := by
  induction items generalizing rowIndex data before with
  | nil =>
    refine ⟨[], rfl, fun _ member => absurd member List.not_mem_nil, ?_⟩
    rw [← Except.ok.inj collected, List.map_nil, List.append_nil]
    exact table
  | cons item items ih =>
    unfold collectItems at collected
    split at collected
    · contradiction
    · next row rest same =>
      obtain ⟨rfl, rfl⟩ := List.cons.inj same
      split at collected
      · next paired =>
        have pushed : Tabulates columns (pushItems columns.1 row data)
            (before ++ [itemCell columns.1 row]) := by
          constructor
          intro column member
          rw [lookup_pushItems columns.2 paired data member, table.cells column member,
            List.map_append]
          rfl
        obtain ⟨rows, same, widths, tabulated⟩ := ih collected pushed
        refine ⟨row :: rows, by rw [same]; rfl,
          List.forall_mem_cons.mpr ⟨paired, widths⟩, ?_⟩
        rw [List.append_assoc] at tabulated
        exact tabulated
      · contradiction
    · contradiction

theorem collectItems_of_rows (refusal : String → Nat → JsonFrameError)
    (notArray badWidth : String) {columns : UniqueLabels} {rows : List (List Value)}
    (widths : ∀ row ∈ rows, row.length = columns.1.length) (rowIndex : Nat)
    (data : Map (List Value)) :
    ∃ final, collectItems refusal notArray badWidth columns.1 rowIndex data
      (rows.map .array) = .ok final := by
  induction rows generalizing rowIndex data with
  | nil => exact ⟨data, rfl⟩
  | cons row rows ih =>
    obtain ⟨final, rest⟩ := ih (fun other member => widths other (List.mem_cons_of_mem _ member))
      (rowIndex + 1) (pushItems columns.1 row data)
    refine ⟨final, ?_⟩
    rw [List.map_cons, collectItems, if_pos (widths row List.mem_cons_self)]
    exact rest

theorem mem_ofKeys {entries : Entries} {key : String} :
    key ∈ (UniqueLabels.ofKeys entries).1 ↔ key ∈ entries.map Prod.fst :=
  List.mem_dedup

theorem getOwn_eq_none_of_not_mem {entries : Entries} {key : String}
    (absent : key ∉ entries.map Prod.fst) : getOwn entries key = none := by
  rw [getOwn, List.lookup_eq_none_iff]
  intro entry member
  have listed : entry.1 ∈ entries.map Prod.fst := List.mem_map_of_mem member
  rw [bne_iff_ne]
  intro same
  exact absent (same ▸ listed)

namespace Collected

/-- The columns are the keys of the rows so far, and hold their cells. -/
structure Discovers (collected : Collected) (before : List Entries) : Prop where
  table : Tabulates collected.columns collected.data (before.map ownCell)
  complete : ∀ row ∈ before, ∀ key ∈ row.map Prod.fst, key ∈ collected.columns.1
  sound : ∀ key ∈ collected.columns.1, ∃ row ∈ before, key ∈ row.map Prod.fst

/-- The same while the keys of one more row are declared. -/
structure Declares (collected : Collected) (before : List Entries) (row : Entries) : Prop where
  table : Tabulates collected.columns collected.data (before.map ownCell)
  complete : ∀ row ∈ before, ∀ key ∈ row.map Prod.fst, key ∈ collected.columns.1
  sound : ∀ key ∈ collected.columns.1, ∃ source ∈ before ++ [row], key ∈ source.map Prod.fst

variable {collected : Collected} {before : List Entries}

theorem Declares.declare {row : Entries} (declares : Declares collected before row) {key : String}
    (member : key ∈ row.map Prod.fst) :
    Declares (collected.declare before.length key) before row := by
  unfold Collected.declare
  split
  · exact declares
  · next fresh =>
    have columns : (collected.columns.push key fresh).1 = collected.columns.1 ++ [key] := rfl
    refine ⟨⟨fun column listed => ?_⟩, fun source there other listed => ?_, fun other listed => ?_⟩
    · dsimp only
      rw [Map.lookup_set]
      split
      · next same =>
        rw [List.map_map]
        congr 1
        symm
        rw [List.eq_replicate_iff]
        refine ⟨List.length_map _, ?_⟩
        intro cell there
        obtain ⟨source, inside, rfl⟩ := List.mem_map.mp there
        have absent : column ∉ source.map Prod.fst := fun listed =>
          fresh (same ▸ declares.complete source inside column listed)
        show (getOwn source column).getD .null = .null
        rw [getOwn_eq_none_of_not_mem absent]
        rfl
      · next apart =>
        rw [columns, List.mem_append, List.mem_singleton] at listed
        exact declares.table.cells column (listed.resolve_right apart)
    · rw [columns]
      exact List.mem_append_left _ (declares.complete source there other listed)
    · rw [columns, List.mem_append, List.mem_singleton] at listed
      rcases listed with listed | rfl
      · exact declares.sound other listed
      · exact ⟨row, List.mem_append_right _ (List.mem_singleton_self row), member⟩

theorem mem_declare {rowIndex : Nat} {key other : String} :
    other ∈ (collected.declare rowIndex key).columns.1 ↔
      other = key ∨ other ∈ collected.columns.1 := by
  unfold Collected.declare
  split
  · next present =>
    constructor
    · exact Or.inr
    · rintro (rfl | listed)
      · exact present
      · exact listed
  · show other ∈ collected.columns.1 ++ [key] ↔ _
    rw [List.mem_append, List.mem_singleton]
    exact Or.comm

theorem Declares.fold {row : Entries} {keys : List String}
    (members : ∀ key ∈ keys, key ∈ row.map Prod.fst) (declares : Declares collected before row) :
    Declares (keys.foldl (Collected.declare before.length) collected) before row ∧
      ∀ key, key ∈ keys ∨ key ∈ collected.columns.1 →
        key ∈ (keys.foldl (Collected.declare before.length) collected).columns.1 := by
  induction keys generalizing collected with
  | nil => exact ⟨declares, fun key listed => listed.resolve_left List.not_mem_nil⟩
  | cons first keys ih =>
    obtain ⟨declared, holds⟩ :=
      ih (fun key member => members key (List.mem_cons_of_mem _ member))
        (declares.declare (members first List.mem_cons_self))
    refine ⟨declared, fun key listed => holds key ?_⟩
    rw [mem_declare]
    rcases listed with listed | held
    · rcases List.mem_cons.mp listed with same | later
      · exact Or.inr (Or.inl same)
      · exact Or.inl later
    · exact Or.inr (Or.inr held)

theorem Discovers.addRow (discovers : Discovers collected before) (row : Entries) :
    Discovers (collected.addRow before.length row) (before ++ [row]) := by
  have start : Declares collected before row :=
    ⟨discovers.table, discovers.complete, fun key listed => by
      obtain ⟨source, there, held⟩ := discovers.sound key listed
      exact ⟨source, List.mem_append_left _ there, held⟩⟩
  obtain ⟨declared, holds⟩ := Declares.fold (fun key member => mem_ofKeys.mp member) start
  unfold Collected.addRow
  dsimp only
  refine ⟨⟨fun column listed => ?_⟩, fun source there key held => ?_, declared.sound⟩
  · dsimp only
    rw [lookup_pushRow (Subtype.property _), if_pos listed, declared.table.cells column listed,
      List.map_append, List.map_append]
    rfl
  · rcases List.mem_append.mp there with earlier | last
    · exact declared.complete source earlier key held
    · rw [List.mem_singleton.mp last] at held
      exact holds key (Or.inl (mem_ofKeys.mpr held))

end Collected

/-- Rows of objects. -/
theorem collectRows_eq {refusal : Nat → JsonFrameError} {items : List Value}
    {collected final : Collected} {before : List Entries}
    (done : collectRows refusal before.length collected items = .ok final)
    (discovers : collected.Discovers before) :
    ∃ rows : List Entries, items = rows.map .object ∧ final.Discovers (before ++ rows) := by
  induction items generalizing collected before with
  | nil =>
    refine ⟨[], rfl, ?_⟩
    rw [← Except.ok.inj done, List.append_nil]
    exact discovers
  | cons item items ih =>
    unfold collectRows at done
    split at done
    · contradiction
    · next row rest same =>
      obtain ⟨rfl, rfl⟩ := List.cons.inj same
      have length : before.length + 1 = (before ++ [row]).length := by
        rw [List.length_append, List.length_singleton]
      rw [length] at done
      obtain ⟨rows, same, discovered⟩ := ih done (discovers.addRow row)
      refine ⟨row :: rows, by rw [same]; rfl, ?_⟩
      rw [List.append_assoc] at discovered
      exact discovered
    · contradiction

theorem collectRows_of_rows (refusal : Nat → JsonFrameError) (rows : List Entries)
    (rowIndex : Nat) (collected : Collected) :
    ∃ final, collectRows refusal rowIndex collected (rows.map .object) = .ok final := by
  induction rows generalizing rowIndex collected with
  | nil => exact ⟨collected, rfl⟩
  | cons row rows ih => exact ih (rowIndex + 1) (collected.addRow rowIndex row)

theorem discovers_start : ({} : Collected).Discovers [] where
  table := ⟨fun _ member => absurd member List.not_mem_nil⟩
  complete := fun _ member => absurd member List.not_mem_nil
  sound := fun _ member => absurd member List.not_mem_nil

end WebTsToolkit.JsonFrame
