import Mathlib.Data.List.Basic
import Mathlib.Data.List.Nodup
import WebTsToolkit.Library.TransitionSystem

set_option autoImplicit false

namespace WebTsToolkit.AssetInliner.InlineFiles

open Library

/-- A thrown value or the reason of an abort; `text` is `none` where `String(value)` throws. -/
inductive Thrown where
  | domException (name message : String) (code : Nat)
  | error (name : String) (code : Option String) (message : String)
  | filesystemError (message path operation : String)
  | null
  | undefined
  | other (code : Option String) (text : Option String)
  deriving DecidableEq

inductive DiagnosticCode where
  | named (code : String)
  | legacy (code : Nat)
  deriving DecidableEq

/-- `new DOMException('Aborted', 'AbortError')`. -/
def abortError : Thrown :=
  .domException "AbortError" "Aborted" 20

/-- What `String(value)` throws for an object without a conversion. -/
def typeError : Thrown :=
  .error "TypeError" none "Cannot convert object to primitive value"

/-- `new ResourceLimitError(message)`. -/
def resourceLimitError (message : String) : Thrown :=
  .error "ResourceLimitError" (some "RESOURCE_LIMIT") message

namespace Thrown

/-- `err instanceof DOMException`. -/
def isDomException : Thrown → Bool
  | domException _ _ _ => true
  | _ => false

/-- `err instanceof DOMException && err.name === 'AbortError'`. -/
def isAbortError : Thrown → Bool
  | domException name _ _ => name == "AbortError"
  | _ => false

/-- `left ?? right`. -/
def orElse : Thrown → Thrown → Thrown
  | null, right => right
  | undefined, right => right
  | left, _ => left

/-- `err?.code`. -/
def code : Thrown → Option DiagnosticCode
  | domException _ _ code => some (.legacy code)
  | error _ code _ => code.map .named
  | filesystemError _ _ _ => some (.named "FILESYSTEM_ERROR")
  | null | undefined => none
  | other code _ => code.map .named

/-- `Error.prototype.toString`. -/
def errorText (name message : String) : String :=
  if name.isEmpty then message else if message.isEmpty then name else name ++ ": " ++ message

/-- `String(value)`. -/
def text : Thrown → Option String
  | domException name message _ | error name _ message => some (errorText name message)
  | filesystemError message _ _ => some (errorText "FilesystemError" message)
  | null => some "null"
  | undefined => some "undefined"
  | other _ text => text

/-- `err instanceof Error ? err.message : String(err)`. -/
def describe : Thrown → Option String
  | domException _ message _ | error _ _ message | filesystemError message _ _ => some message
  | thrown => thrown.text

/-- A value with a text has a description. -/
theorem describe_isSome {thrown : Thrown} (prints : thrown.text.isSome = true) :
    thrown.describe.isSome = true := by
  cases thrown with
  | other code text => exact prints
  | _ => rfl

end Thrown

inductive Severity where
  | warn
  | error
  deriving DecidableEq

structure AssetDiagnostic where
  code : DiagnosticCode
  message : String
  originalUrl : Option String
  filePath : Option String
  severity : Severity
  deriving DecidableEq

structure Location where
  offset : Nat
  line : Option Nat
  column : Option Nat
  deriving DecidableEq

structure AssetReplacement where
  originalUrl : String
  resolvedPath : String
  kind : String
  mediaType : String
  byteLength : Nat
  location : Option Location
  deriving DecidableEq

structure InlineResult where
  content : String
  modified : Bool
  replacements : List AssetReplacement
  diagnostics : List AssetDiagnostic
  deriving DecidableEq

structure InlineFileResult where
  filePath : String
  content : String
  modified : Bool
  replacements : List AssetReplacement
  diagnostics : List AssetDiagnostic
  written : Bool
  deriving DecidableEq

def makeDiagnostic (code : DiagnosticCode) (message filePath : String) : AssetDiagnostic where
  code := code
  message := message
  originalUrl := none
  filePath := some filePath
  severity := .error

def makeInlineFileResult (filePath : String) (inlineResult : InlineResult)
    (extraDiagnostics : List AssetDiagnostic) (written : Bool) : InlineFileResult where
  filePath := filePath
  content := inlineResult.content
  modified := inlineResult.modified
  replacements := inlineResult.replacements
  diagnostics := inlineResult.diagnostics ++ extraDiagnostics
  written := written

def makeErrorFileResult (filePath content : String) (diagnostics : List AssetDiagnostic) :
    InlineFileResult where
  filePath := filePath
  content := content
  modified := false
  replacements := []
  diagnostics := diagnostics
  written := false

/-- The result of a target that was not processed, or that failed before its body was read. -/
def errorResult (code : DiagnosticCode) (message filePath : String) : InlineFileResult :=
  makeErrorFileResult filePath "" [makeDiagnostic code message filePath]

/-- The awaits of `writeAtomicAsync`; the last ones are of its `catch` block, and of its caller. -/
inductive WriteStage where
  | stat
  | openTemp
  | writeFile
  | chmod
  | sync
  | close
  | rename
  | openDir
  | syncDir
  | closeDir
  | cleanupClose (thrown : Thrown)
  | cleanupUnlink (thrown : Thrown)
  | unwind (thrown : Thrown)
  deriving DecidableEq

/-- The variables that the `catch` block of `writeAtomicAsync` reads. -/
structure Staging where
  handle : Bool
  tempCreated : Bool
  primaryOperation : String
  deriving DecidableEq

inductive Task where
  | idle
  | inspecting
  | reading
  | transforming (content : String)
  | writing (inlineResult : InlineResult) (staging : Staging) (stage : WriteStage)
  | fulfilled (result : InlineFileResult)
  | rejected (reason : Thrown)
  deriving DecidableEq

def Task.settled : Task → Bool
  | .fulfilled _ => true
  | .rejected _ => true
  | _ => false

/-- What was done for a target. -/
structure Journal where
  transformed : Option InlineResult
  openedTemp : Bool
  createdTemp : Bool
  renamed : Bool
  unlinkedTemp : Bool
  deriving DecidableEq

/-- A target with its content, the staged content of its temporary file, and its task. -/
structure Slot where
  content : String
  temp : Option String
  journal : Journal
  task : Task
  deriving DecidableEq

def Slot.unread (content : String) : Slot where
  content := content
  temp := none
  journal := ⟨none, false, false, false, false⟩
  task := .idle

/-- How an awaited call ends; a failed call of the file system rejects with an `Error`. -/
inductive Outcome where
  | done
  | size (size : Option Nat)
  | text (content : String)
  | transformed (inlined : Except Thrown InlineResult)
  | failed (code : Option String) (message : String)

/-- The error that a failed call rejects with. -/
def callError (code : Option String) (message : String) : Thrown :=
  .error "Error" code message

structure Options where
  write : Bool
  concurrency : Nat
  concurrency_pos : 0 < concurrency
  maxTargetBytes : Nat

def targetByteLimitMessage (actual maxTargetBytes : Nat) : String :=
  "Target input bytes " ++ toString actual ++ " exceeds maxTargetBytes " ++
    toString maxTargetBytes

def targetByteLimitError (actual maxTargetBytes : Nat) : Thrown :=
  resourceLimitError (targetByteLimitMessage actual maxTargetBytes)

section Target

variable (signal : Option Thrown) (filePath : String)

/-- `throwIfAborted(options.signal)` before the rest of a task. -/
def throwIfAborted (next : Task) : Task :=
  match signal with
  | some reason => .rejected reason
  | none => next

/-- The `catch` block around `enforceTargetBytes` and `dispatchInline`. -/
def catchTransform (content : String) (err : Thrown) : Task :=
  throwIfAborted signal
    -- every `ParseError` and `ResourceLimitError` has its own code
    (let code := err.code.getD (.named "RESOLVE_ERROR")
    match err.describe with
    | none => .rejected typeError
    | some message =>
      .fulfilled (makeErrorFileResult filePath
        (if code = .named "RESOURCE_LIMIT" then "" else content)
        [makeDiagnostic code message filePath]))

/-- The `catch` block around `writeAtomicAsync`, when its rejection arrives. -/
def catchWrite (inlineResult : InlineResult) (err : Thrown) : Task :=
  if err.isAbortError || signal.isSome then .rejected err
  else
    match err.describe with
    | none => .rejected typeError
    | some message =>
      .fulfilled (makeInlineFileResult filePath
        { inlineResult with
          diagnostics := inlineResult.diagnostics ++
            [makeDiagnostic (err.code.getD (.named "FILESYSTEM_ERROR")) message filePath] }
        [] false)

/-- `writeAtomicAsync` has returned. -/
def written (inlineResult : InlineResult) : Task :=
  .fulfilled (makeInlineFileResult filePath inlineResult [] true)

/-- `if (tempCreated)` of the `catch` block of `writeAtomicAsync`. -/
def unlinkTemp (slot : Slot) (inlineResult : InlineResult) (staging : Staging)
    (thrown : Thrown) : Slot :=
  if staging.tempCreated then
    { slot with
      journal := { slot.journal with unlinkedTemp := true }
      task := .writing inlineResult staging (.cleanupUnlink thrown) }
  else { slot with task := .writing inlineResult staging (.unwind thrown) }

/-- `if (handle)` of the `catch` block of `writeAtomicAsync`. -/
def closeTemp (slot : Slot) (inlineResult : InlineResult) (staging : Staging)
    (thrown : Thrown) : Slot :=
  if staging.handle then
    { slot with task := .writing inlineResult staging (.cleanupClose thrown) }
  else unlinkTemp slot inlineResult staging thrown

/-- What the `catch` block of `writeAtomicAsync` throws after its cleanup. -/
def primaryError (staging : Staging) (err : Thrown) : Thrown :=
  match signal with
  | some reason => if err.isAbortError then err else reason.orElse abortError
  | none =>
    match err with
    | .filesystemError _ _ _ => err
    | _ =>
      .filesystemError ("Failed to write target \"" ++ filePath ++ "\" atomically") filePath
        staging.primaryOperation

/-- The `catch` block of `writeAtomicAsync`. -/
def catchAtomic (slot : Slot) (inlineResult : InlineResult) (staging : Staging)
    (err : Thrown) : Slot :=
  closeTemp slot inlineResult staging (primaryError signal filePath staging err)

/-- The next awaited call of the `try` block, after `throwIfAborted(signal)`. -/
def proceed (slot : Slot) (inlineResult : InlineResult) (staging : Staging)
    (stage : WriteStage) : Slot :=
  match signal with
  | some reason => catchAtomic signal filePath slot inlineResult staging reason
  | none => { slot with task := .writing inlineResult staging stage }

/-- What the call throws for a failure that has its own `catch` block. -/
def operationError (action operation : String) : Thrown :=
  .filesystemError ("Failed to " ++ action ++ " \"" ++ filePath ++ "\"") filePath operation

/-- An awaited call of `writeAtomicAsync` ends. -/
def advanceWrite (slot : Slot) (inlineResult : InlineResult) (staging : Staging) :
    WriteStage → Outcome → Option Slot
  | .stat, .done =>
    -- neither a temporary file nor a handle exists, so the reason is thrown at once
    match signal with
    | some reason => some { slot with task := .writing inlineResult staging (.unwind reason) }
    | none =>
      some { slot with
        journal := { slot.journal with openedTemp := true }
        task := .writing inlineResult ⟨false, false, "write"⟩ .openTemp }
  | .stat, .failed _ _ =>
    some { slot with
      task := .writing inlineResult staging
        (.unwind (operationError filePath "stat target" "stat")) }
  | .openTemp, .done =>
    some { slot with
      temp := some ""
      journal := { slot.journal with createdTemp := true }
      task := .writing inlineResult ⟨true, true, "write"⟩ .writeFile }
  | .openTemp, .failed code message =>
    some (catchAtomic signal filePath slot inlineResult staging (callError code message))
  | .writeFile, .done =>
    some (proceed signal filePath { slot with temp := some inlineResult.content } inlineResult
      { staging with primaryOperation := "chmod" } .chmod)
  | .writeFile, .failed code message =>
    some (catchAtomic signal filePath slot inlineResult staging (callError code message))
  | .chmod, .done =>
    some (proceed signal filePath slot inlineResult
      { staging with primaryOperation := "fsync" } .sync)
  | .chmod, .failed _ _ =>
    some (catchAtomic signal filePath slot inlineResult staging
      (operationError filePath "chmod temp for" "chmod"))
  | .sync, .done =>
    some (proceed signal filePath slot inlineResult
      { staging with primaryOperation := "close" } .close)
  | .sync, .failed _ _ =>
    some (catchAtomic signal filePath slot inlineResult staging
      (operationError filePath "fsync temp for" "fsync"))
  | .close, .done =>
    some (proceed signal filePath slot inlineResult
      { staging with
        handle := false
        primaryOperation := "rename" } .rename)
  | .close, .failed _ _ =>
    some (catchAtomic signal filePath slot inlineResult staging
      (operationError filePath "close temp for" "close"))
  | .rename, .done =>
    some { slot with
      content := slot.temp.getD slot.content
      temp := none
      journal := { slot.journal with renamed := true }
      task := .writing inlineResult { staging with tempCreated := false } .openDir }
  | .rename, .failed code message =>
    some (catchAtomic signal filePath slot inlineResult staging (callError code message))
  -- the directory is synced where that is possible
  | .openDir, .done => some { slot with task := .writing inlineResult staging .syncDir }
  | .openDir, .failed _ _ => some { slot with task := written filePath inlineResult }
  | .syncDir, .done => some { slot with task := .writing inlineResult staging .closeDir }
  | .syncDir, .failed _ _ => some { slot with task := .writing inlineResult staging .closeDir }
  | .closeDir, .done => some { slot with task := written filePath inlineResult }
  | .closeDir, .failed _ _ => some { slot with task := written filePath inlineResult }
  | .cleanupClose thrown, .done => some (unlinkTemp slot inlineResult staging thrown)
  | .cleanupClose thrown, .failed _ _ => some (unlinkTemp slot inlineResult staging thrown)
  | .cleanupUnlink thrown, .done =>
    some { slot with
      temp := none
      task := .writing inlineResult staging (.unwind thrown) }
  | .cleanupUnlink thrown, .failed _ _ =>
    some { slot with task := .writing inlineResult staging (.unwind thrown) }
  | .unwind thrown, .done =>
    some { slot with task := catchWrite signal filePath inlineResult thrown }
  | _, _ => none

/-- An awaited call of a target ends, and the target goes on to its next one. -/
def advance (options : Options) (slot : Slot) (outcome : Outcome) : Option Slot :=
  match slot.task, outcome with
  | .inspecting, .size none => some { slot with task := throwIfAborted signal .reading }
  | .inspecting, .size (some size) =>
    if options.maxTargetBytes < size then
      some { slot with
        task := throwIfAborted signal
          (.fulfilled (errorResult (.named "RESOURCE_LIMIT")
            (targetByteLimitMessage size options.maxTargetBytes) filePath)) }
    else some { slot with task := throwIfAborted signal .reading }
  | .reading, .text content =>
    some { slot with
      task := throwIfAborted signal
        (if options.maxTargetBytes < content.utf8ByteSize then
          catchTransform signal filePath content
            (targetByteLimitError content.utf8ByteSize options.maxTargetBytes)
        else .transforming content) }
  | .reading, .failed _ message =>
    some { slot with
      task := throwIfAborted signal
        (.fulfilled (errorResult (.named "FILESYSTEM_ERROR") message filePath)) }
  | .transforming content, .transformed (.error err) =>
    some { slot with task := catchTransform signal filePath content err }
  | .transforming _, .transformed (.ok inlineResult) =>
    some { slot with
      journal := { slot.journal with transformed := some inlineResult }
      task := throwIfAborted signal
        (if options.write && inlineResult.modified then
          .writing inlineResult ⟨false, false, "write"⟩ .stat
        else .fulfilled (makeInlineFileResult filePath inlineResult [] false)) }
  | .writing inlineResult staging stage, outcome =>
    advanceWrite signal filePath slot inlineResult staging stage outcome
  | _, _ => none

end Target

/-- The targets of a call in the order of its results, with the content of each. -/
structure Call where
  options : Options
  targets : List String
  distinct : targets.Nodup
  contents : List String
  held : contents.length = targets.length

/-- A call of `inlineFiles`, from its loop on. -/
structure Batch where
  signal : Option Thrown
  slots : List Slot
  start : Nat
  stop : Nat
  results : List (Option InlineFileResult)
  hasCommitted : Bool
  outcome : Option (Except Thrown (List InlineFileResult))

namespace Batch

variable (call : Call)

/-- The target at an index. -/
def path (idx : Nat) : String :=
  (call.targets[idx]?).getD ""

def task (batch : Batch) (idx : Nat) : Task :=
  ((batch.slots[idx]?).map Slot.task).getD .idle

/-- `options.signal?.reason`. -/
def signalReason (signal : Option Thrown) : Thrown :=
  signal.getD .undefined

/-- `results[i] = makeErrorFileResult(fp, '', [diag])` where there is no result. -/
def fillMissing (message : Option String) (results : List (Option InlineFileResult))
    (idx : Nat) : Except Thrown (List (Option InlineFileResult)) :=
  match results[idx]? with
  | some none =>
    match message with
    | none => .error typeError
    | some message =>
      .ok (results.set idx
        (some (errorResult (.named "FILESYSTEM_ERROR") message (path call idx))))
  | _ => .ok results

/-- The loop after the chunks, and `return`. -/
def finish (batch : Batch) : Batch :=
  let message := ((signalReason batch.signal).orElse (.other none (some "Aborted"))).text
  { batch with
    outcome := some
      (((List.range batch.results.length).foldlM (fillMissing call message) batch.results).map
        (List.filterMap id)) }

/-- `inlineFiles` rejects. -/
def reject (batch : Batch) (thrown : Thrown) : Batch :=
  { batch with outcome := some (.error thrown) }

/-- The head of the loop over the chunks. -/
def beginChunk (batch : Batch) : Batch :=
  let length := call.targets.length
  if batch.start < length then
    match batch.signal with
    | some reason =>
      if batch.hasCommitted then
        match (List.range' batch.start (length - batch.start)).foldlM
            (fillMissing call (reason.orElse abortError).text) batch.results with
        | .ok results => finish call { batch with results := results }
        | .error thrown => batch.reject thrown
      else batch.reject reason
    | none =>
      let stop := min (batch.start + call.options.concurrency) length
      { batch with
        stop := stop
        slots := batch.slots.mapIdx fun idx slot =>
          if batch.start ≤ idx ∧ idx < stop then
            { slot with task := throwIfAborted batch.signal .inspecting }
          else slot }
  else finish call batch

/-- The state of the loop over a settled chunk: the results, and the reason of an abort. -/
structure Collected where
  results : List (Option InlineFileResult)
  abortReason : Option Thrown

/-- One settled promise of the chunk. -/
def collect (batch : Batch) (effectiveCommitted : Bool) (collected : Collected) (idx : Nat) :
    Except Thrown Collected :=
  match batch.task idx with
  | .fulfilled result =>
    .ok { collected with results := collected.results.set idx (some result) }
  | .rejected reason =>
    if reason.isAbortError || batch.signal.isSome then
      let abortReason :=
        if reason.isDomException then reason
        else (signalReason batch.signal).orElse reason
      if !effectiveCommitted then .error abortReason
      else
        match abortReason.describe with
        | none => .error typeError
        | some message =>
          .ok
            { results := collected.results.set idx
                (some (errorResult (.named "FILESYSTEM_ERROR") message (path call idx)))
              abortReason := some abortReason }
    else .error reason
  | _ => .ok collected

/-- `s.status === 'fulfilled' && s.value.result.written`. -/
def committed : Task → Bool
  | .fulfilled result => result.written
  | _ => false

/-- The indices of the chunk. -/
def chunkIndices (batch : Batch) : List Nat :=
  List.range' batch.start (batch.stop - batch.start)

def effectiveCommitted (batch : Batch) : Bool :=
  batch.hasCommitted || batch.chunkIndices.any fun idx => committed (batch.task idx)

/-- After `Promise.allSettled(chunkPromises)`. -/
def settleChunk (batch : Batch) : Batch :=
  match batch.chunkIndices.foldlM (collect call batch batch.effectiveCommitted)
      ⟨batch.results, none⟩ with
  | .error thrown => batch.reject thrown
  | .ok collected =>
    let next :=
      { batch with
        results := collected.results
        hasCommitted := batch.effectiveCommitted
        start := batch.start + call.options.concurrency }
    match collected.abortReason, batch.signal with
    | some abortReason, _ =>
      if !batch.effectiveCommitted then
        batch.reject (abortReason.orElse ((signalReason batch.signal).orElse abortError))
      else beginChunk call next
    | none, some reason =>
      if !batch.effectiveCommitted then batch.reject reason else beginChunk call next
    | none, none => beginChunk call next

inductive Event where
  | abort (reason : Thrown)
  | complete (idx : Nat) (outcome : Outcome)
  | settle

def step (batch : Batch) : Event → Option Batch
  | .abort reason =>
    -- only the first abort has an effect
    some { batch with signal := some (batch.signal.getD reason) }
  | .complete idx outcome =>
    match batch.outcome, batch.slots[idx]? with
    | none, some slot =>
      (advance batch.signal (path call idx) call.options slot outcome).map fun slot =>
        { batch with slots := batch.slots.set idx slot }
    | _, _ => none
  | .settle =>
    if batch.outcome.isNone ∧ ∀ idx ∈ batch.chunkIndices, (batch.task idx).settled = true then
      some (settleChunk call batch)
    else none

def initial : Batch :=
  beginChunk call
    { signal := none
      slots := call.contents.map Slot.unread
      start := 0
      stop := 0
      results := List.replicate call.targets.length none
      hasCommitted := false
      outcome := none }

/-- A call of `inlineFiles` with its aborts and the ends of its awaited calls. -/
def system : TransitionSystem Batch Event where
  start := initial call
  step := step call

end Batch

end WebTsToolkit.AssetInliner.InlineFiles
