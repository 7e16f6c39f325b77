import WebTsToolkit.Library.Occurrences
import WebTsToolkit.MongooseRxdb.BulkInsert

set_option autoImplicit false

namespace WebTsToolkit.MongooseRxdb

open Library

def entriesAt (passes : List Pass) (number : Nat) : List (IdentifiedRecord × Nat) :=
  ((passes[number]?).map Pass.entries).getD []

/-- What the partition has done after these records. -/
structure Partitioned (docs : List IdentifiedRecord) (state : List Pass × Js.Map Nat) : Prop where
  counted : ∀ id, (state.2.lookup id).getD 0 = multiplicity IdentifiedRecord.id id docs
  bounded : ∀ id, multiplicity IdentifiedRecord.id id docs ≤ state.1.length
  reached : state.1.length = 0 ∨
    ∃ id, multiplicity IdentifiedRecord.id id docs = state.1.length
  passes : ∀ number, entriesAt state.1 number = numbered IdentifiedRecord.id docs number

theorem partitioned_nil : Partitioned [] ([], ∅) where
  counted _ := rfl
  bounded _ := Nat.le_refl _
  reached := Or.inl rfl
  passes _ := rfl

theorem entriesAt_place {passes : List Pass} {occurrence : Nat}
    (next : occurrence ≤ passes.length) (entry : IdentifiedRecord × Nat) (number : Nat) :
    entriesAt (place passes occurrence entry) number =
      entriesAt passes number ++ if occurrence = number then [entry] else [] := by
  rw [place, entriesAt, entriesAt]
  split
  · next within =>
    rw [List.getElem?_modify]
    by_cases here : occurrence = number
    · subst here
      rw [List.getElem?_eq_getElem within]
      simp [Pass.push]
    · simp [here]
  · next beyond =>
    have last : occurrence = passes.length := by omega
    rcases Nat.lt_trichotomy number passes.length with before | here | after
    · rw [List.getElem?_append_left before, if_neg (by omega), List.append_nil]
    · rw [here, List.getElem?_concat_length, List.getElem?_eq_none (Nat.le_refl _),
        if_pos last]
      rfl
    · have outside : (passes ++ [(⟨[entry]⟩ : Pass)]).length ≤ number := by
        rw [List.length_append]
        exact after
      rw [List.getElem?_eq_none outside, List.getElem?_eq_none (Nat.le_of_lt after),
        if_neg (by omega)]
      rfl

theorem length_place (passes : List Pass) (occurrence : Nat) (entry : IdentifiedRecord × Nat) :
    (place passes occurrence entry).length =
      if occurrence < passes.length then passes.length else passes.length + 1 := by
  rw [place]
  split
  · rw [List.length_modify]
  · rw [List.length_append]
    rfl

theorem Partitioned.step {docs : List IdentifiedRecord} {state : List Pass × Js.Map Nat}
    (partitioned : Partitioned docs state) (doc : IdentifiedRecord) :
    Partitioned (docs ++ [doc]) (partitionStep state (doc, docs.length)) := by
  have occurrence := partitioned.counted doc.id
  have within := partitioned.bounded doc.id
  constructor
  · intro id
    rw [partitionStep, Js.Map.lookup_set, multiplicity_concat, occurrence]
    by_cases same : doc.id = id
    · subst same
      rw [if_pos rfl, if_pos rfl]
      rfl
    · rw [if_neg (Ne.symm same), if_neg same]
      exact partitioned.counted id
  · intro id
    have before := partitioned.bounded id
    rw [partitionStep, length_place, multiplicity_concat, occurrence]
    by_cases same : doc.id = id
    · subst same
      rw [if_pos rfl]
      split <;> omega
    · rw [if_neg same]
      split <;> omega
  · right
    rw [partitionStep, length_place, occurrence]
    split
    · next inside =>
      rcases partitioned.reached with none | ⟨id, most⟩
      · omega
      · refine ⟨id, ?_⟩
        have apart : doc.id ≠ id := by
          rintro rfl
          omega
        rw [multiplicity_concat, if_neg apart, most, Nat.add_zero]
    · next beyond =>
      refine ⟨doc.id, ?_⟩
      rw [multiplicity_concat, if_pos rfl]
      omega
  · intro number
    rw [partitionStep, occurrence, entriesAt_place within, partitioned.passes, numbered_concat]

theorem partitioned_foldl (docs : List IdentifiedRecord) :
    Partitioned docs (docs.zipIdx.foldl partitionStep ([], ∅)) := by
  induction docs using List.reverseRecOn with
  | nil => exact partitioned_nil
  | append_singleton docs doc ih =>
    rw [zipIdx_concat, List.foldl_append]
    exact ih.step doc

theorem length_partitionBulkInsert (docs : List IdentifiedRecord) :
    (partitionBulkInsert docs).length = largestMultiplicity IdentifiedRecord.id docs :=
  eq_largestMultiplicity _ (partitioned_foldl docs).bounded (partitioned_foldl docs).reached

/-- Each pass holds, in their order, the records with as many earlier ones of their id. -/
theorem entries_partitionBulkInsert (docs : List IdentifiedRecord) :
    (partitionBulkInsert docs).map Pass.entries =
      (List.range (largestMultiplicity IdentifiedRecord.id docs)).map
        (numbered IdentifiedRecord.id docs) := by
  rw [← length_partitionBulkInsert]
  apply List.ext_getElem?
  intro number
  rw [List.getElem?_map, List.getElem?_map]
  rcases Nat.lt_or_ge number (partitionBulkInsert docs).length with within | beyond
  · have placed := (partitioned_foldl docs).passes number
    rw [List.getElem?_range within, Option.map_some, ← placed, entriesAt]
    change _ = some (((partitionBulkInsert docs)[number]?.map Pass.entries).getD [])
    rw [List.getElem?_eq_getElem within]
    rfl
  · rw [List.getElem?_eq_none beyond, List.getElem?_eq_none (by rwa [List.length_range])]
    rfl

theorem mem_partitionBulkInsert {docs : List IdentifiedRecord} {pass : Pass}
    (member : pass ∈ partitionBulkInsert docs) :
    ∃ number, pass.entries = numbered IdentifiedRecord.id docs number := by
  have mapped := List.mem_map_of_mem (f := Pass.entries) member
  rw [entries_partitionBulkInsert, List.mem_map] at mapped
  obtain ⟨number, _, same⟩ := mapped
  exact ⟨number, same.symm⟩

variable {Slot : Type}

/-- What a native single insert gives. -/
abbrev Inserted := Except WriteError PersistenceRecord

/-- Single inserts of identified records. -/
def singles (native : NativeCollection Slot) :
    KeyedSystem String Slot IdentifiedRecord Inserted where
  key := IdentifiedRecord.id
  act slot record := native.insert slot record.doc

/-- Single inserts of records that come with their positions. -/
def singlesAt (native : NativeCollection Slot) :
    KeyedSystem String Slot (IdentifiedRecord × Nat) Inserted :=
  (singles native).comap Prod.fst

section Results

variable {Op : Type}

def stored (results : List (Op × Inserted)) : List PersistenceRecord :=
  results.filterMap fun result => result.2.toOption

def refused (results : List (Op × Inserted)) : List Op :=
  (results.filter fun result => !result.2.isOk).map Prod.fst

theorem stored_append (first second : List (Op × Inserted)) :
    stored (first ++ second) = stored first ++ stored second :=
  List.filterMap_append

theorem refused_append (first second : List (Op × Inserted)) :
    refused (first ++ second) = refused first ++ refused second := by
  rw [refused, List.filter_append, List.map_append]
  rfl

theorem stored_perm {first second : List (Op × Inserted)} (same : first.Perm second) :
    (stored first).Perm (stored second) :=
  same.filterMap _

theorem refused_perm {first second : List (Op × Inserted)} (same : first.Perm second) :
    (refused first).Perm (refused second) :=
  (same.filter _).map _

theorem refused_subset {results : List (Op × Inserted)} {op : Op} (member : op ∈ refused results) :
    op ∈ results.map Prod.fst := by
  obtain ⟨result, kept, rfl⟩ := List.mem_map.mp member
  exact List.mem_map_of_mem (List.mem_filter.mp kept).1

variable {Item : Type} (f : Item → Op)

theorem stored_map (results : List (Item × Inserted)) :
    stored (results.map fun result => (f result.1, result.2)) = stored results := by
  rw [stored, List.filterMap_map]
  rfl

theorem refused_map (results : List (Item × Inserted)) :
    refused (results.map fun result => (f result.1, result.2)) = (refused results).map f := by
  rw [refused, List.filter_map, List.map_map, refused, List.map_map]
  rfl

end Results

theorem recordId_copyEntries (doc : PersistenceRecord) :
    recordId (copyEntries doc) = (recordId doc).map copyJson := by
  induction doc with
  | nil => rfl
  | cons entry rest ih =>
    rw [copyEntries, recordId, recordId, List.lookup_cons, List.lookup_cons]
    cases "_id" == entry.1 with
    | true => rfl
    | false => exact ih

def IdentifiedRecord.clone (record : IdentifiedRecord) : IdentifiedRecord where
  doc := copyEntries record.doc
  id := record.id
  identified := by
    rw [recordId_copyEntries, record.identified]
    rfl

/-- Copies of records of the list, with distinct ids. -/
structure Batch (docs : List PersistenceRecord) (batch : List IdentifiedRecord) : Prop where
  distinct : (batch.map IdentifiedRecord.id).Nodup
  inside : ∀ record ∈ batch, ∃ doc ∈ docs, record.doc = copyEntries doc

/-- What is promised of the native bulk insert on the records that it is handed, which have
distinct ids: it throws and stores nothing, or it stores what single inserts of them would and
reports each other record by its id. -/
structure BulkOk (native : NativeCollection Slot) (docs : List PersistenceRecord) : Prop where
  thrown : ∀ call store batch error after, Batch docs batch →
    native.bulkInsert call store (batch.map IdentifiedRecord.doc) = (.error error, after) →
      after = store
  leaves : ∀ call store batch result after, Batch docs batch →
    native.bulkInsert call store (batch.map IdentifiedRecord.doc) = (.ok result, after) →
      after = (singles native).after store batch
  success : ∀ call store batch result after, Batch docs batch →
    native.bulkInsert call store (batch.map IdentifiedRecord.doc) = (.ok result, after) →
      (result.success.getD []).Perm (stored ((singles native).results store batch))
  reports : ∀ call store batch result after, Batch docs batch →
    native.bulkInsert call store (batch.map IdentifiedRecord.doc) = (.ok result, after) →
      ((result.error.getD []).map WriteError.recordId).Perm
        ((refused ((singles native).results store batch)).map fun record =>
          some (.string record.id))

/-- The error belongs to the record at its index: it names the id of that record, or a single
insert of that record has thrown it. -/
def Attributed (native : NativeCollection Slot) (docs : List PersistenceRecord)
    (error : IndexedError) : Prop :=
  ∃ index doc, error.index = Int.ofNat index ∧ docs[index]? = some doc ∧
    (error.error.recordId = recordId doc ∨ ∃ slot, (native.insert slot doc).1 = .error error.error)

/-- The position of an entry, as the index of its error. -/
def position (entry : IdentifiedRecord × Nat) : Int :=
  Int.ofNat entry.2

/-- The progress that single inserts of these entries would have made. -/
structure Matches (native : NativeCollection Slot) (docs : List PersistenceRecord)
    (store : String → Slot) (entries : List (IdentifiedRecord × Nat))
    (progress : Progress Slot) : Prop where
  leaves : progress.store = (singlesAt native).after store entries
  records : progress.records.Perm
    ((stored ((singlesAt native).results store entries)).map toPersistenceRecord)
  errors : (progress.errors.map IndexedError.index).Perm
    ((refused ((singlesAt native).results store entries)).map position)
  attributed : ∀ error ∈ progress.errors, Attributed native docs error

/-- Entries that stand in the batch at their positions. -/
def Placed (docs : List PersistenceRecord) (entries : List (IdentifiedRecord × Nat)) : Prop :=
  ∀ entry ∈ entries, docs[entry.2]? = some entry.1.doc

/-- What an insert was handed for an entry: its record or a copy of that. -/
def Handed (entry handed : IdentifiedRecord × Nat) : Prop :=
  handed = entry ∨ handed = (entry.1.clone, entry.2)

theorem Handed.position {entry handed : IdentifiedRecord × Nat} (given : Handed entry handed) :
    handed.2 = entry.2 := by
  rcases given with rfl | rfl <;> rfl

theorem handed_self (entries : List (IdentifiedRecord × Nat)) :
    List.Forall₂ Handed entries entries :=
  List.forall₂_same.mpr fun _ _ => Or.inl rfl

theorem insert_identified (native : NativeCollection Slot) (store : String → Slot)
    (record : IdentifiedRecord) :
    insert native store record.doc =
      ((native.insert (store record.id) record.doc).1.map toPersistenceRecord,
        (singles native).write store record) := by
  rw [insert, record.identified]
  rfl

def thrownErrors (results : List ((IdentifiedRecord × Nat) × Inserted)) : List IndexedError :=
  results.filterMap fun result =>
    match result.2 with
    | .ok _ => none
    | .error error => some ⟨position result.1, error⟩

theorem index_thrownErrors (results : List ((IdentifiedRecord × Nat) × Inserted)) :
    (thrownErrors results).map IndexedError.index = (refused results).map position := by
  induction results with
  | nil => rfl
  | cons result results ih =>
    obtain ⟨entry, inserted⟩ := result
    cases inserted with
    | ok json => exact ih
    | error error => exact congrArg (position entry :: ·) ih

theorem insertLoop_ok {native : NativeCollection Slot} {progress : Progress Slot}
    {doc record : PersistenceRecord} {after : String → Slot}
    (inserted : insert native progress.store doc = (.ok record, after)) (index : Nat)
    (rest : List (PersistenceRecord × Nat)) :
    insertLoop native false progress ((doc, index) :: rest) =
      insertLoop native false
        { progress with store := after, records := progress.records ++ [record] } rest := by
  rw [insertLoop, inserted]

theorem insertLoop_error {native : NativeCollection Slot} {progress : Progress Slot}
    {doc : PersistenceRecord} {error : WriteError} {after : String → Slot}
    (inserted : insert native progress.store doc = (.error error, after)) (index : Nat)
    (rest : List (PersistenceRecord × Nat)) :
    insertLoop native false progress ((doc, index) :: rest) =
      insertLoop native false
        { progress with store := after, errors := progress.errors ++ [⟨index, error⟩] } rest := by
  rw [insertLoop, inserted]
  rfl

/-- The unordered loop of single inserts goes through all of its entries. -/
theorem insertLoop_entries (native : NativeCollection Slot) (progress : Progress Slot)
    (entries : List (IdentifiedRecord × Nat)) :
    insertLoop native false progress (entries.map fun entry => (entry.1.doc, entry.2)) =
      { progress with
        store := (singlesAt native).after progress.store entries
        records := progress.records ++
          (stored ((singlesAt native).results progress.store entries)).map toPersistenceRecord
        errors := progress.errors ++
          thrownErrors ((singlesAt native).results progress.store entries) } := by
  induction entries generalizing progress with
  | nil => simp [insertLoop, KeyedSystem.after, KeyedSystem.results, stored, thrownErrors]
  | cons entry entries ih =>
    have single := insert_identified native progress.store entry.1
    rw [List.map_cons, KeyedSystem.results, KeyedSystem.after_cons]
    cases given : (native.insert (progress.store entry.1.id) entry.1.doc).1 with
    | ok json =>
      rw [given] at single
      rw [insertLoop_ok single, ih]
      have kept : ((singlesAt native).act (progress.store ((singlesAt native).key entry))
          entry).1 = .ok json := given
      rw [kept, List.append_assoc]
      rfl
    | error error =>
      rw [given] at single
      rw [insertLoop_error single, ih]
      have failed : ((singlesAt native).act (progress.store ((singlesAt native).key entry))
          entry).1 = .error error := given
      rw [failed, List.append_assoc]
      rfl

section Step

variable {native : NativeCollection Slot} {docs : List PersistenceRecord} {store : String → Slot}
  {before : List (IdentifiedRecord × Nat)} {progress : Progress Slot}

theorem matches_start (native : NativeCollection Slot) (docs : List PersistenceRecord)
    (store : String → Slot) : Matches native docs store [] (.start store) where
  leaves := rfl
  records := .refl _
  errors := .refl _
  attributed _ member := absurd member List.not_mem_nil

variable {entries : List (IdentifiedRecord × Nat)} {pass : Pass} {entry : IdentifiedRecord × Nat}

/-- More records and errors that are those of single inserts after the earlier ones. -/
theorem Matches.append (agrees : Matches native docs store before progress)
    {records : List PersistenceRecord} {errors : List IndexedError}
    {calls : List (List PersistenceRecord)} (newRecords : records.Perm
      ((stored ((singlesAt native).results progress.store entries)).map toPersistenceRecord))
    (newErrors : (errors.map IndexedError.index).Perm
      ((refused ((singlesAt native).results progress.store entries)).map position))
    (newAttributed : ∀ error ∈ errors, Attributed native docs error) :
    Matches native docs store (before ++ entries)
      { store := (singlesAt native).after progress.store entries
        bulkCalls := calls
        records := progress.records ++ records
        errors := progress.errors ++ errors } where
  leaves := by rw [KeyedSystem.after_append, agrees.leaves]
  records := by
    rw [KeyedSystem.results_append, stored_append, List.map_append, ← agrees.leaves]
    exact agrees.records.append newRecords
  errors := by
    rw [KeyedSystem.results_append, refused_append, List.map_append, List.map_append,
      ← agrees.leaves]
    exact agrees.errors.append newErrors
  attributed := by
    intro error member
    rcases List.mem_append.mp member with earlier | later
    · exact agrees.attributed error earlier
    · exact newAttributed error later

theorem attributed_thrownErrors (placed : Placed docs entries) (error : IndexedError)
    (member : error ∈ thrownErrors ((singlesAt native).results store entries)) :
    Attributed native docs error := by
  obtain ⟨⟨entry, inserted⟩, listed, failed⟩ := List.mem_filterMap.mp member
  obtain ⟨inside, slot, act⟩ := KeyedSystem.mem_of_mem_results listed
  cases inserted with
  | ok json => contradiction
  | error thrown =>
    cases failed
    exact ⟨entry.2, entry.1.doc, rfl, placed entry inside, Or.inr ⟨slot, act.symm⟩⟩

theorem Matches.insertLoop (agrees : Matches native docs store before progress)
    (placed : Placed docs entries) :
    Matches native docs store (before ++ entries)
      (insertLoop native false progress
        (entries.map fun entry => (entry.1.doc, entry.2))) := by
  rw [insertLoop_entries]
  apply agrees.append
  · exact .refl _
  · rw [index_thrownErrors]
  · exact attributed_thrownErrors placed

theorem lookup_ids_foldl (ids : Js.Map Nat)
    (distinct : (entries.map fun entry => entry.1.id).Nodup) (id : String) :
    (entries.foldl (fun ids entry => ids.set entry.1.id entry.2) ids).lookup id =
      ((entries.find? fun entry => decide (entry.1.id = id)).map Prod.snd).or (ids.lookup id) := by
  induction entries generalizing ids with
  | nil => rfl
  | cons entry entries ih =>
    rw [List.map_cons, List.nodup_cons] at distinct
    rw [List.foldl_cons, ih _ distinct.2, Js.Map.lookup_set, List.find?_cons]
    by_cases same : entry.1.id = id
    · have absent : entries.find? (fun entry => decide (entry.1.id = id)) = none := by
        apply List.find?_eq_none.mpr
        intro other member
        simp only [decide_eq_true_eq]
        intro repeated
        apply distinct.1
        rw [same, ← repeated]
        exact List.mem_map_of_mem member
      rw [absent, decide_eq_true same, if_pos same.symm]
      rfl
    · rw [decide_eq_false same, if_neg (Ne.symm same)]

theorem lookup_ids (distinct : (pass.entries.map fun entry => entry.1.id).Nodup)
    (member : entry ∈ pass.entries) : pass.ids.lookup entry.1.id = some entry.2 := by
  have found : pass.entries.find? (fun other => decide (other.1.id = entry.1.id)) =
      some entry := by
    have named : (pass.entries.find? fun other =>
        decide (other.1.id = entry.1.id)).isSome = true :=
      List.find?_isSome.mpr ⟨entry, member, decide_eq_true rfl⟩
    obtain ⟨other, found⟩ := Option.isSome_iff_exists.mp named
    have decided := List.find?_some found
    have same : other.1.id = entry.1.id := by simpa using decided
    rw [found, List.inj_on_of_nodup_map distinct (List.mem_of_find?_eq_some found) member same]
  rw [Pass.ids, lookup_ids_foldl _ distinct, found]
  rfl

def indexOfId (ids : Js.Map Nat) : Option StorageValue → Int
  | some (.string id) => ((ids.lookup id).map Int.ofNat).getD (-1)
  | _ => -1

theorem bulkErrorIndex_eq (error : WriteError) (ids : Js.Map Nat) :
    bulkErrorIndex error ids = indexOfId ids error.recordId := rfl

theorem indexOfId_entry (distinct : (pass.entries.map fun entry => entry.1.id).Nodup)
    (member : entry ∈ pass.entries) :
    indexOfId pass.ids (some (.string entry.1.id)) = position entry := by
  rw [indexOfId, lookup_ids distinct member]
  rfl

theorem results_records (native : NativeCollection Slot) (store : String → Slot)
    (entries : List (IdentifiedRecord × Nat)) :
    (singles native).results store (entries.map Prod.fst) =
      ((singlesAt native).results store entries).map fun result => (result.1.1, result.2) :=
  (KeyedSystem.results_comap Prod.fst store entries).symm

theorem mem_refused (member : entry ∈ refused ((singlesAt native).results store entries)) :
    entry ∈ entries := by
  have listed := refused_subset member
  rwa [KeyedSystem.map_results] at listed

/-- Reports by id get the positions of the records that single inserts refuse. -/
theorem indexes_of_reports (distinct : (pass.entries.map fun entry => entry.1.id).Nodup)
    {errors : List WriteError} (reports : (errors.map WriteError.recordId).Perm
      ((refused ((singles native).results store (pass.entries.map Prod.fst))).map fun record =>
        some (.string record.id))) :
    (errors.map fun error => bulkErrorIndex error pass.ids).Perm
      ((refused ((singlesAt native).results store pass.entries)).map position) := by
  have indexes := reports.map (indexOfId pass.ids)
  rw [results_records, refused_map, List.map_map, List.map_map, List.map_map] at indexes
  refine indexes.trans (List.Perm.of_eq ?_)
  apply List.map_congr_left
  intro entry member
  exact indexOfId_entry distinct (mem_refused member)

/-- The pass as the native bulk insert is handed it. -/
def Pass.clone (pass : Pass) : Pass :=
  ⟨pass.entries.map fun entry => (entry.1.clone, entry.2)⟩

theorem Pass.ids_clone (pass : Pass) : pass.clone.ids = pass.ids := by
  rw [ids, ids, clone, List.foldl_map]
  rfl

theorem Pass.clones_eq (pass : Pass) :
    pass.clones = (pass.clone.entries.map Prod.fst).map IdentifiedRecord.doc := by
  rw [clone, List.map_map, List.map_map]
  rfl

theorem Pass.handed_clone (pass : Pass) :
    List.Forall₂ Handed pass.entries pass.clone.entries := by
  rw [clone, List.forall₂_map_right_iff]
  exact List.forall₂_same.mpr fun _ _ => Or.inr rfl

theorem Pass.distinct_clone (distinct : (pass.entries.map fun entry => entry.1.id).Nodup) :
    (pass.clone.entries.map fun entry => entry.1.id).Nodup := by
  rw [clone, List.map_map]
  exact distinct

theorem attributed_reports (placed : Placed docs pass.entries)
    (distinct : (pass.entries.map fun entry => entry.1.id).Nodup) {errors : List WriteError}
    (reports : (errors.map WriteError.recordId).Perm
      ((refused ((singles native).results store (pass.clone.entries.map Prod.fst))).map
        fun record => some (.string record.id))) (error : IndexedError)
    (member : error ∈ errors.map fun error => ⟨bulkErrorIndex error pass.ids, error⟩) :
    Attributed native docs error := by
  obtain ⟨reported, listed, rfl⟩ := List.mem_map.mp member
  have named := reports.mem_iff.mp (List.mem_map_of_mem listed)
  rw [results_records, refused_map, List.map_map] at named
  obtain ⟨handed, refusedEntry, same⟩ := List.mem_map.mp named
  obtain ⟨entry, inside, rfl⟩ := List.mem_map.mp (mem_refused refusedEntry)
  have found := indexOfId_entry distinct inside
  refine ⟨entry.2, entry.1.doc, ?_, placed entry inside, Or.inl ?_⟩
  · show bulkErrorIndex reported pass.ids = position entry
    rw [bulkErrorIndex_eq, ← same]
    exact found
  · rw [entry.1.identified]
    exact same.symm

theorem batch_of_pass (placed : Placed docs pass.entries)
    (distinct : (pass.entries.map fun entry => entry.1.id).Nodup) :
    Batch docs (pass.clone.entries.map Prod.fst) where
  distinct := by
    rw [List.map_map]
    exact Pass.distinct_clone distinct
  inside := by
    intro record member
    obtain ⟨handed, listed, rfl⟩ := List.mem_map.mp member
    obtain ⟨entry, inside, rfl⟩ := List.mem_map.mp listed
    exact ⟨entry.1.doc, List.mem_of_getElem? (placed entry inside), rfl⟩

/-- A pass does what single inserts would: of its records where its bulk call throws, of their
copies where that returns. -/
theorem Matches.insertPass (agrees : Matches native docs store before progress)
    (promised : BulkOk native docs) (placed : Placed docs pass.entries)
    (distinct : (pass.entries.map fun entry => entry.1.id).Nodup) :
    (∃ handed, List.Forall₂ Handed pass.entries handed ∧
      Matches native docs store (before ++ handed) (insertPass native progress pass)) ∧
      (insertPass native progress pass).bulkCalls = progress.bulkCalls ++ [pass.clones] := by
  have batch := batch_of_pass placed distinct
  have cloned := pass.clones_eq
  rw [MongooseRxdb.insertPass]
  split
  · next error after threw =>
    rw [cloned] at threw
    have same := promised.thrown _ _ _ _ _ batch threw
    rw [same, insertLoop_entries]
    refine ⟨⟨pass.entries, handed_self _, ?_⟩, rfl⟩
    apply agrees.append
    · exact .refl _
    · rw [index_thrownErrors]
    · exact attributed_thrownErrors placed
  · next result after returned =>
    rw [cloned] at returned
    have left := promised.leaves _ _ _ _ _ batch returned
    have success := promised.success _ _ _ _ _ batch returned
    have reports := promised.reports _ _ _ _ _ batch returned
    rw [← KeyedSystem.after_comap] at left
    rw [left]
    refine ⟨⟨pass.clone.entries, pass.handed_clone, ?_⟩, rfl⟩
    apply agrees.append
    · rw [results_records, stored_map] at success
      exact success.map toPersistenceRecord
    · rw [List.map_map, ← pass.ids_clone]
      exact indexes_of_reports (Pass.distinct_clone distinct) reports
    · exact attributed_reports placed distinct reports

end Step

/-- The passes in turn do what single inserts of their records or of copies would, pass after
pass. -/
theorem matches_passes {native : NativeCollection Slot} {docs : List PersistenceRecord}
    {store : String → Slot} (promised : BulkOk native docs) (passes : List Pass)
    (placed : ∀ pass ∈ passes, Placed docs pass.entries)
    (distinct : ∀ pass ∈ passes, (pass.entries.map fun entry => entry.1.id).Nodup)
    {before : List (IdentifiedRecord × Nat)} {progress : Progress Slot}
    (agrees : Matches native docs store before progress) :
    (∃ handed, List.Forall₂ Handed (passes.flatMap Pass.entries) handed ∧
      Matches native docs store (before ++ handed) (passes.foldl (insertPass native) progress)) ∧
      (passes.foldl (insertPass native) progress).bulkCalls =
        progress.bulkCalls ++ passes.map Pass.clones := by
  induction passes generalizing before progress with
  | nil => exact ⟨⟨[], .nil, by simpa using agrees⟩, (List.append_nil _).symm⟩
  | cons pass passes ih =>
    rw [List.forall_mem_cons] at placed distinct
    obtain ⟨⟨handed, given, here⟩, called⟩ := agrees.insertPass promised placed.1 distinct.1
    obtain ⟨⟨later, given', rest⟩, calls⟩ := ih placed.2 distinct.2 here
    rw [List.foldl_cons, List.flatMap_cons]
    refine ⟨⟨handed ++ later, List.rel_append given given', ?_⟩, ?_⟩
    · rwa [← List.append_assoc]
    · rw [calls, called, List.append_assoc]
      rfl

end WebTsToolkit.MongooseRxdb
