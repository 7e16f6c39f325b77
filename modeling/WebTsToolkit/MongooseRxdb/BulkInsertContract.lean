import WebTsToolkit.MongooseRxdb.BulkInsertRun

set_option autoImplicit false

namespace WebTsToolkit.MongooseRxdb

open Library

variable {Slot : Type}

def stringId (doc : PersistenceRecord) : Option String :=
  match recordId doc with
  | some (.string id) => some id
  | _ => none

theorem stringId_comp_doc : stringId ∘ IdentifiedRecord.doc = some ∘ IdentifiedRecord.id := by
  funext record
  rw [Function.comp_apply, stringId, record.identified]
  rfl

theorem identify_eq_some {doc : PersistenceRecord} {id : String}
    (identified : recordId doc = some (.string id)) :
    identify doc = some ⟨doc, id, identified⟩ := by
  rw [identify]
  split
  · next other found =>
    obtain rfl : id = other := by
      rw [identified, Option.some.injEq] at found
      exact StorageValue.string.inj found
    rfl
  · next refuted => exact absurd identified (refuted id)

theorem mapM_identify {docs : List PersistenceRecord}
    (identified : ∀ doc ∈ docs, ∃ id, recordId doc = some (.string id)) :
    ∃ records, docs.mapM identify = some records ∧ records.map IdentifiedRecord.doc = docs := by
  induction docs with
  | nil => exact ⟨[], rfl, rfl⟩
  | cons doc docs ih =>
    rw [List.forall_mem_cons] at identified
    obtain ⟨id, named⟩ := identified.1
    obtain ⟨records, mapped, same⟩ := ih identified.2
    refine ⟨⟨doc, id, named⟩ :: records, ?_, ?_⟩
    · rw [List.mapM_cons, identify_eq_some named, mapped]
      rfl
    · rw [List.map_cons, same]

/-- Each input index is a success or an error, once: a success with what a single insert of its
record or of a copy of that gave, an error that belongs to its record. -/
structure Accounted (native : NativeCollection Slot) (docs : List PersistenceRecord)
    (finished : Finished Slot) : Prop where
  successes : ∃ successes : List (Nat × PersistenceRecord),
    (successes.map Prod.snd).Perm finished.records ∧
    (successes.map (fun success => Int.ofNat success.1) ++
      finished.errors.map IndexedError.index).Perm ((List.range docs.length).map Int.ofNat) ∧
    ∀ success ∈ successes, ∃ doc slot json, docs[success.1]? = some doc ∧
      ((native.insert slot doc).1 = .ok json ∨
        (native.insert slot (copyEntries doc)).1 = .ok json) ∧
      success.2 = toPersistenceRecord json
  errors : ∀ error ∈ finished.errors, Attributed native docs error

mutual

def HasNoNegativeZero : StorageValue → Prop
  | .number text => text ≠ "-0"
  | .array items => ItemsHaveNoNegativeZero items
  | .object entries => EntriesHaveNoNegativeZero entries
  | _ => True

def ItemsHaveNoNegativeZero : List StorageValue → Prop
  | [] => True
  | item :: rest => HasNoNegativeZero item ∧ ItemsHaveNoNegativeZero rest

def EntriesHaveNoNegativeZero : List (String × StorageValue) → Prop
  | [] => True
  | (_, value) :: rest => HasNoNegativeZero value ∧ EntriesHaveNoNegativeZero rest

end

mutual

theorem copyJson_eq {value : StorageValue} (plain : HasNoNegativeZero value) :
    copyJson value = value := by
  cases value with
  | number text => rw [copyJson, if_neg plain]
  | array items => rw [copyJson, copyItems_eq plain]
  | object entries => rw [copyJson, copyEntries_eq plain]
  | null | bool value | string value => rfl

theorem copyItems_eq {items : List StorageValue} (plain : ItemsHaveNoNegativeZero items) :
    copyItems items = items := by
  cases items with
  | nil => rfl
  | cons item rest => rw [copyItems, copyJson_eq plain.1, copyItems_eq plain.2]

theorem copyEntries_eq {entries : List (String × StorageValue)}
    (plain : EntriesHaveNoNegativeZero entries) : copyEntries entries = entries := by
  cases entries with
  | nil => rfl
  | cons entry rest => rw [copyEntries, copyJson_eq plain.1, copyEntries_eq plain.2]

end

theorem IdentifiedRecord.clone_eq {record : IdentifiedRecord}
    (plain : EntriesHaveNoNegativeZero record.doc) : record.clone = record := by
  obtain ⟨doc, id, identified⟩ := record
  simp only [clone, copyEntries_eq plain]

variable {entries handed : List (IdentifiedRecord × Nat)}

/-- Where JSON keeps the records, they are what the inserts were handed. -/
theorem handed_eq {docs : List PersistenceRecord} (placed : Placed docs entries)
    (plain : ∀ doc ∈ docs, EntriesHaveNoNegativeZero doc)
    (given : List.Forall₂ Handed entries handed) : handed = entries := by
  induction given with
  | nil => rfl
  | cons here later ih =>
    obtain ⟨first, rest⟩ := List.forall_mem_cons.mp placed
    rw [ih rest]
    rcases here with rfl | rfl
    · rfl
    · rw [IdentifiedRecord.clone_eq (plain _ (List.mem_of_getElem? first))]

theorem handed_position (given : List.Forall₂ Handed entries handed) :
    handed.map position = entries.map position := by
  induction given with
  | nil => rfl
  | cons here later ih =>
    rw [List.map_cons, List.map_cons, ih, position, position, here.position]

/-- Each record that was handed on is that of its entry or a copy. -/
theorem handed_mem (given : List.Forall₂ Handed entries handed)
    {insertion : IdentifiedRecord × Nat} (member : insertion ∈ handed) :
    ∃ entry ∈ entries, Handed entry insertion := by
  induction given with
  | nil => contradiction
  | cons here later ih =>
    rcases List.mem_cons.mp member with rfl | member
    · exact ⟨_, List.mem_cons_self, here⟩
    · obtain ⟨entry, inside, same⟩ := ih member
      exact ⟨entry, List.mem_cons_of_mem _ inside, same⟩

def successesOf (results : List ((IdentifiedRecord × Nat) × Inserted)) :
    List (Nat × PersistenceRecord) :=
  results.filterMap fun result => result.2.toOption.map fun json =>
    (result.1.2, toPersistenceRecord json)

theorem records_successesOf (results : List ((IdentifiedRecord × Nat) × Inserted)) :
    (successesOf results).map Prod.snd = (stored results).map toPersistenceRecord := by
  rw [successesOf, stored, List.map_filterMap, List.map_filterMap]
  simp only [Option.map_map]
  rfl

theorem indexes_successesOf (results : List ((IdentifiedRecord × Nat) × Inserted)) :
    ((successesOf results).map (fun success => Int.ofNat success.1) ++
      (refused results).map position).Perm ((results.map Prod.fst).map position) := by
  induction results with
  | nil => exact .refl _
  | cons result results ih =>
    obtain ⟨entry, inserted⟩ := result
    cases inserted with
    | ok json => exact ih.cons (position entry)
    | error error => exact List.perm_middle.trans (ih.cons (position entry))

theorem accounted_of_matches {native : NativeCollection Slot} {docs : List PersistenceRecord}
    {store : String → Slot} {progress : Progress Slot} {finished : Finished Slot}
    (agrees : Matches native docs store handed progress) (placed : Placed docs entries)
    (given : List.Forall₂ Handed entries handed)
    (positions : (entries.map position).Perm ((List.range docs.length).map Int.ofNat))
    (records : finished.records = progress.records)
    (errors : finished.errors.Perm progress.errors) : Accounted native docs finished where
  successes := by
    refine ⟨successesOf ((singlesAt native).results store handed), ?_, ?_, ?_⟩
    · rw [records, records_successesOf]
      exact agrees.records.symm
    · have indexes := indexes_successesOf ((singlesAt native).results store handed)
      rw [KeyedSystem.map_results, handed_position given] at indexes
      have reported := (errors.map IndexedError.index).trans agrees.errors
      exact ((List.Perm.refl _).append reported).trans (indexes.trans positions)
    · intro success member
      obtain ⟨⟨insertion, inserted⟩, listed, kept⟩ := List.mem_filterMap.mp member
      obtain ⟨inside, slot, act⟩ := KeyedSystem.mem_of_mem_results listed
      obtain ⟨entry, listed', same⟩ := handed_mem given inside
      cases inserted with
      | error error => contradiction
      | ok json =>
        cases kept
        refine ⟨entry.1.doc, slot, json, ?_, ?_, rfl⟩
        · rw [same.position]
          exact placed entry listed'
        · rcases same with rfl | rfl
          · exact Or.inl act.symm
          · exact Or.inr act.symm
  errors error member := agrees.attributed error (errors.mem_iff.mp member)

section Unordered

variable {native : NativeCollection Slot} {docs : List PersistenceRecord} {store : String → Slot}
  {records : List IdentifiedRecord}

theorem placed_zipIdx (same : records.map IdentifiedRecord.doc = docs) :
    Placed docs records.zipIdx := by
  intro entry member
  have found := List.mem_zipIdx_iff_getElem?.mp member
  rw [← same, List.getElem?_map, found]
  rfl

theorem positions_zipIdx (same : records.map IdentifiedRecord.doc = docs) :
    records.zipIdx.map position = (List.range docs.length).map Int.ofNat := by
  have indexes : records.zipIdx.map Prod.snd = List.range docs.length := by
    rw [List.zipIdx_map_snd, ← same, List.length_map, List.range_eq_range']
  rw [← indexes, List.map_map]
  rfl

/-- The passes hold the entries of each id in their order. -/
theorem ofKey_passes (native : NativeCollection Slot) (records : List IdentifiedRecord)
    (id : String) :
    (singlesAt native).ofKey id ((partitionBulkInsert records).flatMap Pass.entries) =
      (singlesAt native).ofKey id records.zipIdx := by
  have entries : (partitionBulkInsert records).flatMap Pass.entries =
      (List.range (largestMultiplicity IdentifiedRecord.id records)).flatMap
        (numbered IdentifiedRecord.id records) := by
    rw [List.flatMap_def, List.flatMap_def, entries_partitionBulkInsert]
  rw [entries]
  exact filter_flatMap_numbered IdentifiedRecord.id id records
    (multiplicity_le_largest IdentifiedRecord.id id records)

theorem distinct_numbered (records : List IdentifiedRecord) (number : Nat) :
    ((numbered IdentifiedRecord.id records number).map fun entry => entry.1.id).Nodup := by
  apply List.nodup_iff_count_le_one.mpr
  intro id
  have single := filter_numbered IdentifiedRecord.id id records number
  rw [List.count, List.countP_map, List.countP_eq_length_filter]
  have counted : (numbered IdentifiedRecord.id records number).filter
      ((fun value => value == id) ∘ fun entry => entry.1.id) =
      (numbered IdentifiedRecord.id records number).filter fun entry =>
        decide (entry.1.id = id) := by
    apply List.filter_congr
    intro entry _
    rfl
  rw [counted, single]
  exact Option.length_toList_le

theorem placed_numbered (same : records.map IdentifiedRecord.doc = docs) (number : Nat) :
    Placed docs (numbered IdentifiedRecord.id records number) := by
  intro entry member
  exact placed_zipIdx same entry (List.mem_filter.mp member).1

theorem placed_passes (same : records.map IdentifiedRecord.doc = docs) (pass : Pass)
    (member : pass ∈ partitionBulkInsert records) : Placed docs pass.entries := by
  obtain ⟨number, entries⟩ := mem_partitionBulkInsert member
  rw [entries]
  exact placed_numbered same number

/-- The passes do what single inserts of what they hand on would do. -/
theorem matches_unordered (promised : BulkOk native docs)
    (same : records.map IdentifiedRecord.doc = docs) (store : String → Slot) :
    (∃ handed, List.Forall₂ Handed ((partitionBulkInsert records).flatMap Pass.entries) handed ∧
      Matches native docs store handed
        ((partitionBulkInsert records).foldl (insertPass native) (.start store))) ∧
      ((partitionBulkInsert records).foldl (insertPass native) (.start store)).bulkCalls =
        (partitionBulkInsert records).map Pass.clones := by
  have distinct (pass : Pass) (member : pass ∈ partitionBulkInsert records) :
      (pass.entries.map fun entry => entry.1.id).Nodup := by
    obtain ⟨number, entries⟩ := mem_partitionBulkInsert member
    rw [entries]
    exact distinct_numbered records number
  exact matches_passes promised _ (placed_passes same) distinct (matches_start native docs store)

theorem matches_sequential (native : NativeCollection Slot)
    (same : records.map IdentifiedRecord.doc = docs) (store : String → Slot) :
    Matches native docs store records.zipIdx
      (insertLoop native false (.start store) docs.zipIdx) := by
  have entries : docs.zipIdx = records.zipIdx.map fun entry => (entry.1.doc, entry.2) := by
    rw [← same, List.zipIdx_map]
    rfl
  rw [entries]
  exact (matches_start native docs store).insertLoop (placed_zipIdx same)

theorem results_passes (native : NativeCollection Slot) (store : String → Slot)
    (records : List IdentifiedRecord) :
    ((singlesAt native).results store ((partitionBulkInsert records).flatMap Pass.entries)).Perm
      ((singlesAt native).results store records.zipIdx) :=
  KeyedSystem.results_perm (ofKey_passes native records) store

theorem clones_partitionBulkInsert (same : records.map IdentifiedRecord.doc = docs) :
    (partitionBulkInsert records).map Pass.clones =
      (List.range (largestMultiplicity stringId docs)).map fun number =>
        (numbered stringId docs number).map fun entry => copyEntries entry.1 := by
  have key := stringId_comp_doc
  have largest : largestMultiplicity stringId docs =
      largestMultiplicity IdentifiedRecord.id records := by
    rw [← same, largestMultiplicity_map, key,
      largestMultiplicity_comp _ (Option.some_injective String)]
  have listed (number : Nat) : numbered stringId docs number =
      (numbered IdentifiedRecord.id records number).map fun entry => (entry.1.doc, entry.2) := by
    rw [← same, numbered_map, key, numbered_comp _ (Option.some_injective String)]
  have passes := congrArg (List.map fun entries : List (IdentifiedRecord × Nat) =>
    entries.map fun entry => copyEntries entry.1.doc) (entries_partitionBulkInsert records)
  rw [List.map_map, List.map_map] at passes
  rw [largest]
  simp only [listed, List.map_map]
  exact passes

/-- The errors of the sequential loop stand in the order of their indexes. -/
theorem indexes_sequential (same : records.map IdentifiedRecord.doc = docs) :
    ((insertLoop native false (.start store) docs.zipIdx).errors.map
      IndexedError.index).Pairwise (· ≤ ·) := by
  have entries : docs.zipIdx = records.zipIdx.map fun entry => (entry.1.doc, entry.2) := by
    rw [← same, List.zipIdx_map]
    rfl
  rw [entries, insertLoop_entries]
  show ((thrownErrors _).map IndexedError.index).Pairwise (· ≤ ·)
  rw [index_thrownErrors]
  have listed : (refused ((singlesAt native).results store records.zipIdx)).Sublist
      records.zipIdx := by
    have kept := (List.filter_sublist (l := (singlesAt native).results store records.zipIdx)
      (p := fun result => !result.2.isOk)).map Prod.fst
    rwa [KeyedSystem.map_results] at kept
  apply List.Pairwise.sublist (listed.map position)
  rw [positions_zipIdx same]
  apply List.Pairwise.map Int.ofNat
  · intro left right before
    exact Int.ofNat_le.mpr (Nat.le_of_lt before)
  · exact List.pairwise_lt_range

theorem indexes_sortErrors (errors : List IndexedError) :
    ((sortErrors errors).map IndexedError.index).Pairwise (· ≤ ·) := by
  apply List.Pairwise.map IndexedError.index (R := fun left right => left.index ≤ right.index)
  · exact fun _ _ ordered => ordered
  · have sorted : (sortErrors errors).Pairwise
        fun left right => decide (left.index ≤ right.index) = true := by
      apply List.pairwise_mergeSort
      · intro first second third
        simp only [decide_eq_true_eq]
        omega
      · intro first second
        simp only [Bool.or_eq_true, decide_eq_true_eq]
        omega
    exact sorted.imp of_decide_eq_true

end Unordered

/-- An unordered batch of records with string ids accounts for each index once, and its bulk calls
take, call after call, copies of the records that have so many earlier ones of their id. Where
JSON keeps the records it leaves the store of single inserts in their order, with the same records
up to order and the same error indexes. -/
theorem unordered_equals_sequential (native : NativeCollection Slot)
    (docs : List PersistenceRecord) (store : String → Slot)
    (identified : ∀ doc ∈ docs, ∃ id, recordId doc = some (.string id))
    (promised : BulkOk native docs) :
    ((∀ doc ∈ docs, EntriesHaveNoNegativeZero doc) →
      (insertManyUnordered native store docs).store =
          (insertManySequential native store docs false).store ∧
        (insertManyUnordered native store docs).records.Perm
          (insertManySequential native store docs false).records ∧
        (insertManyUnordered native store docs).errors.map IndexedError.index =
          (insertManySequential native store docs false).errors.map IndexedError.index) ∧
      Accounted native docs (insertManyUnordered native store docs) ∧
      (insertManyUnordered native store docs).bulkCalls.length =
        largestMultiplicity stringId docs ∧
      (insertManyUnordered native store docs).bulkCalls =
        (List.range (largestMultiplicity stringId docs)).map fun number =>
          (numbered stringId docs number).map fun entry => copyEntries entry.1 := by
  obtain ⟨records, mapped, same⟩ := mapM_identify identified
  obtain ⟨⟨handed, given, passes⟩, called⟩ := matches_unordered promised same store
  have results := results_passes native store records
  have calls : (insertManyUnordered native store docs).bulkCalls =
      (List.range (largestMultiplicity stringId docs)).map fun number =>
        (numbered stringId docs number).map fun entry => copyEntries entry.1 := by
    rw [insertManyUnordered, mapped, ← clones_partitionBulkInsert same, ← called]
    rfl
  have unorderedErrors : (insertManyUnordered native store docs).errors =
      sortErrors
        ((partitionBulkInsert records).foldl (insertPass native) (.start store)).errors := by
    rw [insertManyUnordered, mapped]
    exact errors_finish _ _
  have unorderedRecords : (insertManyUnordered native store docs).records =
      ((partitionBulkInsert records).foldl (insertPass native) (.start store)).records := by
    rw [insertManyUnordered, mapped]
    exact records_finish _ _
  have sorted : (insertManyUnordered native store docs).errors.Perm
      ((partitionBulkInsert records).foldl (insertPass native) (.start store)).errors := by
    rw [unorderedErrors]
    exact List.mergeSort_perm _ _
  have placed : Placed docs ((partitionBulkInsert records).flatMap Pass.entries) := by
    intro entry member
    obtain ⟨pass, listed, inside⟩ := List.mem_flatMap.mp member
    exact placed_passes same pass listed entry inside
  refine ⟨fun plain => ?_, ?_, ?_, calls⟩
  · have single := matches_sequential native same store
    rw [handed_eq placed plain given] at passes
    refine ⟨?_, ?_, ?_⟩
    · rw [insertManyUnordered, mapped]
      exact passes.leaves.trans
        ((KeyedSystem.after_eq (ofKey_passes native records) store).trans single.leaves.symm)
    · rw [unorderedRecords, insertManySequential, records_finish]
      exact passes.records.trans
        (((stored_perm results).map toPersistenceRecord).trans single.records.symm)
    · have agree : ((insertManyUnordered native store docs).errors.map IndexedError.index).Perm
          ((insertManySequential native store docs false).errors.map IndexedError.index) := by
        rw [insertManySequential, errors_finish]
        exact (sorted.map _).trans (passes.errors.trans
          (((refused_perm results).map position).trans single.errors.symm))
      apply agree.eq_of_pairwise
      · intro left right _ _ below above
        exact Int.le_antisymm below above
      · rw [unorderedErrors]
        exact indexes_sortErrors _
      · rw [insertManySequential, errors_finish]
        exact indexes_sequential same
  · have entries : ((partitionBulkInsert records).flatMap Pass.entries).Perm records.zipIdx := by
      have operations := results.map Prod.fst
      rwa [KeyedSystem.map_results, KeyedSystem.map_results] at operations
    apply accounted_of_matches passes placed given
    · rw [← positions_zipIdx same]
      exact entries.map position
    · exact unorderedRecords
    · exact sorted
  · rw [calls, List.length_map, List.length_range]

section Memory

/-- A collection that keeps the first record of an id. -/
def memoryInsert (slot : Option PersistenceRecord) (doc : PersistenceRecord) :
    Inserted × Option PersistenceRecord :=
  match slot with
  | none => (.ok doc, some doc)
  | some held =>
    (.error { documentId := recordId doc, id := none, writeRowId := none, message := "conflict" },
      some held)

def memorySystem :
    KeyedSystem String (Option PersistenceRecord) IdentifiedRecord Inserted where
  key := IdentifiedRecord.id
  act slot record := memoryInsert slot record.doc

def reportedErrors (results : List (IdentifiedRecord × Inserted)) : List WriteError :=
  results.filterMap fun result =>
    match result.2 with
    | .ok _ => none
    | .error error => some error

/-- Its bulk insert takes the records one by one, but for the second call of a batch, which
throws. -/
def memoryCollection : NativeCollection (Option PersistenceRecord) where
  insert := memoryInsert
  refuseId doc :=
    { documentId := recordId doc, id := none, writeRowId := none, message := "primary key" }
  bulkInsert call store docs :=
    let results := memorySystem.results store (docs.filterMap identify)
    if call = 1 then
      (.error { documentId := none, id := none, writeRowId := none, message := "closed" }, store)
    else
      (.ok { success := some (stored results), error := some (reportedErrors results) },
        memorySystem.after store (docs.filterMap identify))

theorem identify_records (batch : List IdentifiedRecord) :
    (batch.map IdentifiedRecord.doc).filterMap identify = batch := by
  rw [List.filterMap_map]
  have each : identify ∘ IdentifiedRecord.doc = some := by
    funext record
    exact identify_eq_some record.identified
  rw [each, List.filterMap_some]

theorem recordId_reportedErrors (store : String → Option PersistenceRecord)
    (records : List IdentifiedRecord) :
    (reportedErrors (memorySystem.results store records)).map WriteError.recordId =
      (refused (memorySystem.results store records)).map fun record =>
        some (.string record.id) := by
  induction records generalizing store with
  | nil => rfl
  | cons record records ih =>
    rw [KeyedSystem.results]
    have act : (memorySystem.act (store (memorySystem.key record)) record).1 =
      (memoryInsert (store record.id) record.doc).1 := rfl
    rw [act]
    cases store record.id with
    | none => exact ih _
    | some held =>
      have named : WriteError.recordId
          { documentId := recordId record.doc, id := none, writeRowId := none,
            message := "conflict" } = some (.string record.id) := by
        rw [WriteError.recordId, record.identified]
        rfl
      exact congrArg₂ List.cons named (ih _)

theorem memoryCollection_returned {call : Nat} {store after : String → Option PersistenceRecord}
    {batch : List IdentifiedRecord} {result : NativeBulkResult}
    (returned : memoryCollection.bulkInsert call store (batch.map IdentifiedRecord.doc) =
      (.ok result, after)) :
    result.success = some (stored (memorySystem.results store batch)) ∧
      result.error = some (reportedErrors (memorySystem.results store batch)) ∧
      after = memorySystem.after store batch := by
  rw [memoryCollection] at returned
  dsimp only at returned
  rw [identify_records] at returned
  split at returned
  · cases returned
  · cases returned
    exact ⟨rfl, rfl, rfl⟩

theorem memoryCollection_ok (docs : List PersistenceRecord) : BulkOk memoryCollection docs where
  thrown := by
    intro call store batch error after _ threw
    rw [memoryCollection] at threw
    dsimp only at threw
    split at threw
    · cases threw
      rfl
    · cases threw
  leaves := by
    intro call store batch result after _ returned
    exact (memoryCollection_returned returned).2.2
  success := by
    intro call store batch result after _ returned
    rw [(memoryCollection_returned returned).1]
    exact .refl _
  reports := by
    intro call store batch result after _ returned
    rw [(memoryCollection_returned returned).2.1, Option.getD_some, recordId_reportedErrors]
    exact .refl _

def repeatedIds : List PersistenceRecord :=
  [[("_id", .string "a")], [("_id", .string "b")], [("_id", .string "a")], [("_id", .string "a")]]

theorem repeatedIds_ok (doc : PersistenceRecord) (member : doc ∈ repeatedIds) :
    (∃ id, recordId doc = some (.string id)) ∧ EntriesHaveNoNegativeZero doc := by
  simp only [repeatedIds, List.mem_cons, List.not_mem_nil, or_false] at member
  rcases member with rfl | rfl | rfl | rfl <;> exact ⟨⟨_, rfl⟩, trivial, trivial⟩

/-- Three calls, the second of which throws, and the errors of the repeated records. -/
theorem unordered_equals_sequential_repeatedIds :
    (insertManyUnordered memoryCollection (fun _ => none) repeatedIds).bulkCalls.length = 3 ∧
      (insertManyUnordered memoryCollection (fun _ => none) repeatedIds).errors.map
        IndexedError.index = [2, 3] := by
  have agree := unordered_equals_sequential memoryCollection repeatedIds (fun _ => none)
    (fun doc member => (repeatedIds_ok doc member).1) (memoryCollection_ok repeatedIds)
  have plain := agree.1 fun doc member => (repeatedIds_ok doc member).2
  exact ⟨agree.2.2.1.trans (by decide), plain.2.2.trans (by decide)⟩

def negativeZero : PersistenceRecord :=
  [("_id", .string "a"), ("n", .number "-0")]

/-- The copy for the bulk call turns a negative zero into zero, a single insert keeps it. -/
theorem unordered_forgets_negative_zero :
    recordId negativeZero = some (.string "a") ∧ BulkOk memoryCollection [negativeZero] ∧
      (insertManyUnordered memoryCollection (fun _ => none) [negativeZero]).store ≠
        (insertManySequential memoryCollection (fun _ => none) [negativeZero] false).store := by
  refine ⟨rfl, memoryCollection_ok _, fun same => ?_⟩
  have stored : some [("_id", StorageValue.string "a"), ("n", .number "0")] = some negativeZero :=
    congrFun same "a"
  simp [negativeZero] at stored

end Memory

end WebTsToolkit.MongooseRxdb
