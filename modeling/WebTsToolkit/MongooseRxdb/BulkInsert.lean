import Mathlib.Data.List.Sort
import WebTsToolkit.Js.Map
import WebTsToolkit.Library.KeyedRun

set_option autoImplicit false

namespace WebTsToolkit.MongooseRxdb

open Library

/-- What storage holds: the converter refuses everything that is no JSON data. -/
inductive StorageValue where
  | null
  | bool (value : Bool)
  | number (text : String)
  | string (value : String)
  | array (items : List StorageValue)
  | object (entries : List (String × StorageValue))

mutual

/-- `JSON.parse(JSON.stringify(value))`. The text of a negative zero is `0`. -/
def copyJson : StorageValue → StorageValue
  | .number text => .number (if text = "-0" then "0" else text)
  | .array items => .array (copyItems items)
  | .object entries => .object (copyEntries entries)
  | value => value

def copyItems : List StorageValue → List StorageValue
  | [] => []
  | item :: rest => copyJson item :: copyItems rest

def copyEntries : List (String × StorageValue) → List (String × StorageValue)
  | [] => []
  | (key, value) :: rest => (key, copyJson value) :: copyEntries rest

end

/-- `cloneRecord`, which gives back what is no object. -/
def cloneRecord : StorageValue → StorageValue
  | .array items => copyJson (.array items)
  | .object entries => copyJson (.object entries)
  | value => value

abbrev PersistenceRecord := List (String × StorageValue)

def RXDB_METADATA_KEYS : List String :=
  ["_rev", "_meta", "_attachments", "_deleted"]

/-- `toPersistenceRecord`. -/
def toPersistenceRecord (value : PersistenceRecord) : PersistenceRecord :=
  (value.filter fun entry => !RXDB_METADATA_KEYS.contains entry.1).map fun entry =>
    (entry.1, cloneRecord entry.2)

def recordId (doc : PersistenceRecord) : Option StorageValue :=
  doc.lookup "_id"

/-- An error of a native write with the places where it may name its record. -/
structure WriteError where
  documentId : Option StorageValue
  id : Option StorageValue
  writeRowId : Option StorageValue
  message : String

/-- What is there and is not `null`. -/
def nonNull : Option StorageValue → Option StorageValue
  | some .null => none
  | value => value

/-- `value.documentId ?? value.id ?? value.writeRow?.document?._id`. -/
def WriteError.recordId (error : WriteError) : Option StorageValue :=
  (nonNull error.documentId).or ((nonNull error.id).or error.writeRowId)

/-- `bulkErrorIndex`. -/
def bulkErrorIndex (error : WriteError) (ids : Js.Map Nat) : Int :=
  match error.recordId with
  | some (.string id) => ((ids.lookup id).map Int.ofNat).getD (-1)
  | _ => -1

structure NativeBulkResult where
  success : Option (List PersistenceRecord)
  error : Option (List WriteError)

/-- The native collection, which is not part of this package. It keeps its documents by their
ids, and a single insert reads and writes the slot of the id of its record. A bulk insert may
do something else on each call. -/
structure NativeCollection (Slot : Type) where
  insert : Slot → PersistenceRecord → Except WriteError PersistenceRecord × Slot
  refuseId : PersistenceRecord → WriteError
  bulkInsert : Nat → (String → Slot) → List PersistenceRecord →
    Except WriteError NativeBulkResult × (String → Slot)

section Adapter

variable {Slot : Type}

/-- `insert`. -/
def insert (native : NativeCollection Slot) (store : String → Slot) (doc : PersistenceRecord) :
    Except WriteError PersistenceRecord × (String → Slot) :=
  match recordId doc with
  | some (.string id) =>
    ((native.insert (store id) doc).1.map toPersistenceRecord,
      Function.update store id (native.insert (store id) doc).2)
  | _ => (.error (native.refuseId doc), store)

structure IndexedError where
  index : Int
  error : WriteError

structure BulkInsertResult where
  insertedCount : Nat
  insertedIds : List (Option StorageValue)
  records : List PersistenceRecord
  errors : List IndexedError

structure BulkWritePartialFailureError where
  message : String
  ordered : Bool
  insertedCount : Nat
  insertedIds : List (Option StorageValue)
  records : List PersistenceRecord
  errors : List IndexedError

/-- What a batch has done so far, with the arguments of its native bulk calls. -/
structure Progress (Slot : Type) where
  store : String → Slot
  bulkCalls : List (List PersistenceRecord)
  records : List PersistenceRecord
  errors : List IndexedError

def Progress.start (store : String → Slot) : Progress Slot where
  store := store
  bulkCalls := []
  records := []
  errors := []

/-- The loop of single inserts, which an ordered batch leaves at its first error. -/
def insertLoop (native : NativeCollection Slot) (ordered : Bool) (progress : Progress Slot) :
    List (PersistenceRecord × Nat) → Progress Slot
  | [] => progress
  | (doc, index) :: rest =>
    match insert native progress.store doc with
    | (.ok record, store) =>
      insertLoop native ordered
        { progress with store := store, records := progress.records ++ [record] } rest
    | (.error error, store) =>
      let failed :=
        { progress with store := store, errors := progress.errors ++ [⟨index, error⟩] }
      if ordered then failed else insertLoop native ordered failed rest

/-- The end of a batch: what it returns or throws, the store it leaves and its bulk calls. -/
structure Finished (Slot : Type) where
  outcome : Except BulkWritePartialFailureError BulkInsertResult
  store : String → Slot
  bulkCalls : List (List PersistenceRecord)

def plural (count : Nat) : String :=
  if count = 1 then "" else "s"

def finish (ordered : Bool) (progress : Progress Slot) : Finished Slot where
  outcome :=
    let ids := progress.records.map recordId
    let count := progress.records.length
    if progress.errors.isEmpty then
      .ok ⟨count, ids, progress.records, progress.errors⟩
    else
      .error
        { message := "insertMany failed after inserting " ++ count.repr ++ " document" ++
            plural count,
          ordered := ordered,
          insertedCount := count,
          insertedIds := ids,
          records := progress.records,
          errors := progress.errors }
  store := progress.store
  bulkCalls := progress.bulkCalls

/-- `insertManySequential`. -/
def insertManySequential (native : NativeCollection Slot) (store : String → Slot)
    (docs : List PersistenceRecord) (ordered : Bool) : Finished Slot :=
  finish ordered (insertLoop native ordered (.start store) docs.zipIdx)

/-- A record whose `_id` is a string. -/
structure IdentifiedRecord where
  doc : PersistenceRecord
  id : String
  identified : recordId doc = some (.string id)

def identify (doc : PersistenceRecord) : Option IdentifiedRecord :=
  match found : recordId doc with
  | some (.string id) => some ⟨doc, id, found⟩
  | _ => none

/-- A pass: its `docs` with their `indexes`, which the source keeps in two arrays. -/
structure Pass where
  entries : List (IdentifiedRecord × Nat)

def Pass.push (entry : IdentifiedRecord × Nat) (pass : Pass) : Pass :=
  ⟨pass.entries ++ [entry]⟩

/-- The numbered pass takes the record; it may be the next pass, never one after that. -/
def place (passes : List Pass) (occurrence : Nat) (entry : IdentifiedRecord × Nat) : List Pass :=
  if occurrence < passes.length then passes.modify occurrence (Pass.push entry)
  else passes ++ [⟨[entry]⟩]

def partitionStep (state : List Pass × Js.Map Nat) (entry : IdentifiedRecord × Nat) :
    List Pass × Js.Map Nat :=
  let occurrence := (state.2.lookup entry.1.id).getD 0
  (place state.1 occurrence entry, state.2.set entry.1.id (occurrence + 1))

/-- `partitionBulkInsert`. -/
def partitionBulkInsert (docs : List IdentifiedRecord) : List Pass :=
  (docs.zipIdx.foldl partitionStep ([], ∅)).1

/-- `new Map(pass.docs.map((doc, position) => [doc._id, pass.indexes[position]]))`. -/
def Pass.ids (pass : Pass) : Js.Map Nat :=
  pass.entries.foldl (fun ids entry => ids.set entry.1.id entry.2) ∅

/-- `pass.docs.map((doc) => cloneRecord(doc))`. -/
def Pass.clones (pass : Pass) : List PersistenceRecord :=
  pass.entries.map fun entry => copyEntries entry.1.doc

/-- A turn of the loop over the passes. -/
def insertPass (native : NativeCollection Slot) (progress : Progress Slot) (pass : Pass) :
    Progress Slot :=
  let called := progress.bulkCalls ++ [pass.clones]
  match native.bulkInsert progress.bulkCalls.length progress.store pass.clones with
  | (.error _, store) =>
    insertLoop native false { progress with store := store, bulkCalls := called }
      (pass.entries.map fun entry => (entry.1.doc, entry.2))
  | (.ok result, store) =>
    { store := store,
      bulkCalls := called,
      records := progress.records ++ (result.success.getD []).map toPersistenceRecord,
      errors := progress.errors ++ (result.error.getD []).map fun error =>
        ⟨bulkErrorIndex error pass.ids, error⟩ }

def sortErrors (errors : List IndexedError) : List IndexedError :=
  errors.mergeSort fun left right => decide (left.index ≤ right.index)

/-- `insertManyUnordered`. -/
def insertManyUnordered (native : NativeCollection Slot) (store : String → Slot)
    (docs : List PersistenceRecord) : Finished Slot :=
  match docs.mapM identify with
  | none => insertManySequential native store docs false
  | some docs =>
    let progress := (partitionBulkInsert docs).foldl (insertPass native) (.start store)
    finish false { progress with errors := sortErrors progress.errors }

/-- The records of a batch, returned or on its error. -/
def Finished.records (finished : Finished Slot) : List PersistenceRecord :=
  match finished.outcome with
  | .ok result => result.records
  | .error error => error.records

def Finished.errors (finished : Finished Slot) : List IndexedError :=
  match finished.outcome with
  | .ok result => result.errors
  | .error error => error.errors

@[simp] theorem records_finish (ordered : Bool) (progress : Progress Slot) :
    (finish ordered progress).records = progress.records := by
  rw [Finished.records, finish]
  cases progress.errors.isEmpty <;> rfl

@[simp] theorem errors_finish (ordered : Bool) (progress : Progress Slot) :
    (finish ordered progress).errors = progress.errors := by
  rw [Finished.errors, finish]
  cases progress.errors.isEmpty <;> rfl

end Adapter

end WebTsToolkit.MongooseRxdb
