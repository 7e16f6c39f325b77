import WebTsToolkit.ExpressResponseHandler.ResponseOwner

set_option autoImplicit false

namespace WebTsToolkit.ExpressResponseHandler

open Library

inductive EntryKind where
  | commit
  | next
  | terminal
  | observation
  | body
  | ended
  | sent
  | finished
  | fallback
  | preJson
  | postJson
  | preError
  | postError

@[simp] def Entry.kind : Entry → EntryKind
  | .commit => .commit
  | .next _ => .next
  | .terminal _ => .terminal
  | .observation _ => .observation
  | .body _ => .body
  | .ended _ => .ended
  | .sent => .sent
  | .finished => .finished
  | .fallback _ => .fallback
  | .preJson _ => .preJson
  | .postJson _ => .postJson
  | .preError _ => .preError
  | .postError _ => .postError

def Saw (log : List Entry) (kind : EntryKind) : Prop :=
  ∃ entry ∈ log, entry.kind = kind

@[simp] theorem saw_nil (kind : EntryKind) : Saw [] kind ↔ False := by
  simp [Saw]

@[simp] theorem saw_append (log later : List Entry) (kind : EntryKind) :
    Saw (log ++ later) kind ↔ Saw log kind ∨ Saw later kind := by
  simp only [Saw, List.mem_append, or_and_right, exists_or]

@[simp] theorem saw_cons (entry : Entry) (log : List Entry) (kind : EntryKind) :
    Saw (entry :: log) kind ↔ entry.kind = kind ∨ Saw log kind := by
  simp [Saw]

/-- What may happen after what happened before. -/
def Allowed (earlier : List Entry) : Entry → Prop
  | .commit => True
  | .next _ => ¬Saw earlier .next ∧ ¬Saw earlier .terminal ∧ ¬Saw earlier .body ∧ ¬Saw earlier .sent
  | .terminal error =>
    error.isError = true ∧ ¬Saw earlier .next ∧ ¬Saw earlier .terminal ∧ ¬Saw earlier .observation
  | .observation error => error.isError = true ∧ ¬Saw earlier .observation
  | .body _ =>
    ¬Saw earlier .commit ∧ ¬Saw earlier .next ∧ ¬Saw earlier .terminal ∧ ¬Saw earlier .body
  | .ended _ => True
  | .sent => True
  | .finished => True
  | .fallback _ => True
  | .preJson _ => ¬Saw earlier .preJson
  | .postJson _ => .ended true ∈ earlier ∧ .finished ∈ earlier ∧ ¬Saw earlier .fallback
  | .preError _ => ¬Saw earlier .preError
  | .postError _ => True

/-- Each thing that happened was allowed by then. -/
def OneOwner (log : List Entry) : Prop :=
  ∀ earlier entry later, log = earlier ++ entry :: later → Allowed earlier entry

theorem oneOwner_nil : OneOwner [] := by
  intro earlier entry later split
  simp at split

theorem oneOwner_concat {log : List Entry} {entry : Entry} :
    OneOwner (log ++ [entry]) ↔ OneOwner log ∧ Allowed log entry := by
  constructor
  · intro owned
    refine ⟨?_, owned log entry [] rfl⟩
    intro earlier other later split
    apply owned earlier other (later ++ [entry])
    rw [split, List.append_assoc, List.cons_append]
  · rintro ⟨owned, allowed⟩ earlier other later split
    rcases List.eq_nil_or_concat later with rfl | ⟨front, last, rfl⟩
    · obtain ⟨rfl, same⟩ := List.append_inj' split rfl
      rw [← (List.cons.inj same).1]
      exact allowed
    · rw [List.concat_eq_append, ← List.cons_append, ← List.append_assoc] at split
      obtain ⟨same, -⟩ := List.append_inj' split rfl
      exact owned earlier other front same

/-- No code calls `next` inside a send that is not claimed yet, the handler writes no headers of its
own between the pipe of a CSV stream and its first output, and it does not end a response that a
CSV stream is to end and `postJson` waits for. -/
def Owned (state : State) : Event → Prop
  | .callsNext _ => state.isSending = true → state.canceled = true
  | .commits => state.csv ≠ .piped
  | .ends =>
    state.csv = .reading ∨ state.csv = .piped ∨ state.csv = .flowing →
      state.isSending = false ∧ state.postJson = []
  | _ => True

/-- Where the wrapper is; `undecided` until the handler's outcome is known. -/
inductive Stage where
  | undecided
  | preJson
  | sendingPlain
  | sendingCsv
  | preError
  | sendingError
  | over

def Main.stage : Main → Stage
  | .handling => .undecided
  | .settling => .undecided
  | .preJson _ => .preJson
  | .sending data => if data.isCSVResponse then .sendingCsv else .sendingPlain
  | .preError _ => .preError
  | .sendingError _ => .sendingError
  | .over => .over

inductive FallbackStage where
  | none
  | preError
  | sending
  | bypass
  | over

def Fallback.stage : Fallback → FallbackStage
  | .none => .none
  | .preError _ => .preError
  | .sending _ bypass => if bypass then .bypass else .sending
  | .over => .over

section Stages

variable (value : Value)

@[grind =] theorem stage_preError : (Main.preError value).stage = .preError := rfl

@[grind =] theorem stage_over : Main.over.stage = .over := rfl

@[grind =] theorem fallback_stage_over : Fallback.over.stage = .over := rfl

end Stages

/-- A body may still come from the stream. -/
@[grind] def Csv.Active (csv : Csv) : Prop :=
  csv = .reading ∨ csv = .piped ∨ csv = .flowing

/-- The wrapper may still write a body. -/
@[grind] def State.MayWrite (state : State) : Prop :=
  state.canceled = false ∨ state.csv.Active ∨
    state.autoSendClaimed = true ∧
      (state.fallback.stage = .preError ∨ state.fallback.stage = .sending ∨
        state.fallback.stage = .bypass)

/-- `preError` may still be called. -/
@[grind] def State.MayRunPreError (state : State) : Prop :=
  state.main.stage = .undecided ∨
    state.fallback.stage = .none ∧
      (state.main.stage = .preJson ∨ state.main.stage = .sendingPlain ∨
        state.main.stage = .sendingCsv ∨ state.csv.Active)

/-- How the flags, the stream and the two lifecycles stand to one another. -/
@[grind cases] structure Coherent (state : State) : Prop where
  complete : state.complete = true → state.headersSent = true
  auto : state.autoSendClaimed = true → state.canceled = true
  hooks : state.postJson ≠ [] ∨ state.postError ≠ [] ∨ state.posting ≠ 0 → state.canceled = true
  failed : state.csv = .failed → state.fallback.stage ≠ .none ∨ state.destroyed = true
  active : state.csv.Active → state.fallback.stage = .none ∧
    (state.main.stage = .sendingCsv ∧ state.csv = .reading ∧ state.canceled = false ∨
      state.main.stage = .over ∧ state.autoSendClaimed = true)
  unended : state.csv.Active → state.main.stage = .sendingCsv ∨ state.postJson ≠ [] →
    state.complete = false
  piped : state.csv = .piped → state.complete = true ∨ state.headersSent = false
  out : state.csv = .flowing ∨ state.csv = .ended → state.headersSent = true
  outside : state.main.stage ≠ .sendingCsv → state.main.stage ≠ .over →
    state.csv = .none ∧ state.fallback.stage = .none ∧ state.autoSendClaimed = false
  sending : state.main.stage = .sendingError ∨ state.main.stage = .sendingPlain →
    state.canceled = false
  sendingCsv : state.main.stage = .sendingCsv → state.autoSendClaimed = false ∧
    (state.csv = .reading ∨
      state.csv = .failed ∧ (state.canceled = true → state.fallback.stage = .over))
  plain : state.fallback.stage = .sending → state.canceled = false
  bypass : state.fallback.stage = .bypass → state.autoSendClaimed = true

/-- What a state knows of what happened. -/
def Notes (state : State) : EntryKind → Prop
  | .commit => state.headersSent = true
  | .next | .terminal => ¬state.MayWrite
  | .body => state.headersSent = true ∧ state.canceled = true
  | .sent => state.canceled = true
  | .observation => state.reported = true ∧ state.canceled = true
  | .preJson => state.main.stage ≠ .undecided
  | .preError => ¬state.MayRunPreError
  | .fallback => state.fallback.stage ≠ .none
  | _ => True

/-- A scheduled `postJson` still waits for the end of a success body, or will not run. -/
def Posts (state : State) : Prop :=
  state.postJson ≠ [] → state.fallback.stage ≠ .none ∨ state.destroyed = true ∨
    state.csv.Active ∨ .ended true ∈ state.log

@[grind cases] structure Inv (state : State) : Prop extends Coherent state where
  owner : OneOwner state.log
  noted : ∀ kind, Saw state.log kind → Notes state kind
  posts : Posts state

variable {state after : State}

namespace Inv

theorem not_saw (inv : Inv state) {kind : EntryKind} (unknown : ¬Notes state kind) :
    ¬Saw state.log kind :=
  fun seen => unknown (inv.noted kind seen)

theorem uncommitted (inv : Inv state) (uncommitted : state.headersSent = false) :
    ¬Saw state.log .commit ∧ ¬Saw state.log .body :=
  ⟨inv.not_saw (by simp [Notes, uncommitted]), inv.not_saw (by simp [Notes, uncommitted])⟩

theorem unreleased (inv : Inv state) (may : state.MayWrite) :
    ¬Saw state.log .next ∧ ¬Saw state.log .terminal :=
  ⟨inv.not_saw (absurd may), inv.not_saw (absurd may)⟩

theorem unclaimed (inv : Inv state) (unclaimed : state.canceled = false) :
    ¬Saw state.log .body ∧ ¬Saw state.log .sent ∧ ¬Saw state.log .observation := by
  refine ⟨inv.not_saw ?_, inv.not_saw ?_, inv.not_saw ?_⟩ <;> simp [Notes, unclaimed]

theorem unrun (inv : Inv state) (may : state.MayRunPreError) : ¬Saw state.log .preError :=
  inv.not_saw (absurd may)

/-- An entry that is allowed and that the state knows of. -/
theorem emit (inv : Inv state) (entry : Entry) (allowed : Allowed state.log entry)
    (notes : Notes state entry.kind) : Inv (emit entry state) :=
  { inv with
    owner := oneOwner_concat.mpr ⟨inv.owner, allowed⟩
    noted := fun kind seen => by
      rcases (saw_append ..).mp seen with earlier | last
      · exact inv.noted kind earlier
      · obtain rfl : entry.kind = kind := by simpa using last
        exact notes
    posts := fun scheduled => (inv.posts scheduled).imp_right
      (Or.imp_right (Or.imp_right (List.mem_append_left _))) }

end Inv

/-- The wrapper moved on without a trace, and knows of all that it knew of. -/
structure Later (before after : State) : Prop where
  log : after.log = before.log
  headersSent : before.headersSent = true → after.headersSent = true
  canceled : before.canceled = true → after.canceled = true
  reported : before.reported = true → after.reported = true
  write : after.MayWrite →
    before.MayWrite ∨ ¬Saw before.log .next ∧ ¬Saw before.log .terminal
  decided : before.main.stage ≠ .undecided → after.main.stage ≠ .undecided
  preError : after.MayRunPreError → before.MayRunPreError ∨ ¬Saw before.log .preError
  fallback : before.fallback.stage ≠ .none → after.fallback.stage ≠ .none

theorem Later.refl (state : State) : Later state state :=
  ⟨rfl, id, id, id, Or.inl, id, Or.inl, id⟩

theorem Inv.later (inv : Inv state) (later : Later state after) (coherent : Coherent after)
    (posts : Posts after) : Inv after where
  toCoherent := coherent
  owner := later.log ▸ inv.owner
  noted kind seen := by
    rw [later.log] at seen
    have notes := inv.noted kind seen
    cases kind with
    | commit => exact later.headersSent notes
    | next | terminal =>
      intro may
      rcases later.write may with before | unreleased
      · exact notes before
      · first | exact unreleased.1 seen | exact unreleased.2 seen
    | body => exact notes.imp later.headersSent later.canceled
    | sent => exact later.canceled notes
    | observation => exact notes.imp later.reported later.canceled
    | preJson => exact later.decided notes
    | preError => exact fun may => (later.preError may).elim notes (absurd seen)
    | fallback => exact later.fallback notes
    | ended | finished | postJson | postError => trivial
  posts := posts

/-- The slot is claimed where no send of the wrapper relies on it. -/
theorem Inv.claim (inv : Inv state) (idle : ¬state.csv.Active)
    (place : state.main.stage ≠ .sendingError ∧ state.main.stage ≠ .sendingPlain)
    (occurred : state.main.stage = .sendingCsv → state.fallback.stage = .over)
    (quiet : state.fallback.stage ≠ .sending) : Inv { state with canceled := true } :=
  inv.later { Later.refl _ with canceled := fun _ => rfl, write := by grind }
    { inv with
      auto := fun _ => rfl
      hooks := fun _ => rfl
      active := fun active => absurd active idle
      sending := fun sending => (sending.elim place.1 place.2).elim
      sendingCsv := by grind
      plain := fun sending => absurd sending quiet } inv.posts

/-- A claim with no stream behind it leaves nothing to write. -/
theorem Inv.closed (inv : Inv state) (unclaimed : state.canceled = false)
    (idle : ¬state.csv.Active) : ¬State.MayWrite { state with canceled := true } := by
  have unautomatic : state.autoSendClaimed = false := by grind
  grind

theorem delegateTerminalError_inv (inv : Inv state) (idle : ¬state.csv.Active)
    (place : state.main.stage = .over ∨
      state.main.stage = .sendingCsv ∧ state.fallback.stage = .over)
    (quiet : state.fallback.stage ≠ .sending) (failure : Value) :
    Inv (delegateTerminalError failure state) := by
  rw [delegateTerminalError]
  simp only [claimSlot]
  cases claimed : state.canceled with
  | true => simpa using inv
  | false =>
    have unreleased := inv.unreleased (Or.inl claimed)
    have plain : state.main.stage ≠ .sendingError ∧ state.main.stage ≠ .sendingPlain := by grind
    have occurred : state.main.stage = .sendingCsv → state.fallback.stage = .over := by grind
    simp only [Bool.false_eq_true, ↓reduceIte]
    apply (inv.claim idle plain occurred quiet).emit (.terminal _)
    · exact ⟨toTerminalError_isError failure, unreleased.1, unreleased.2,
        (inv.unclaimed claimed).2.2⟩
    · exact inv.closed claimed idle

theorem reportHookObservation_inv (inv : Inv state) (claimed : state.canceled = true)
    (failure : Value) : Inv (reportHookObservation failure state) := by
  rw [reportHookObservation]
  simp only [claimSlot]
  cases reported : state.reported with
  | true => simpa using inv
  | false =>
    simp only [Bool.false_eq_true, ↓reduceIte]
    have noted : Inv { state with reported := true } :=
      inv.later { Later.refl _ with reported := fun _ => rfl } { inv with } inv.posts
    apply noted.emit (.observation _)
    · exact ⟨toTerminalError_isError failure, inv.not_saw (by simp [Notes, reported])⟩
    · exact ⟨rfl, claimed⟩

theorem reportTerminal_inv (inv : Inv state) (idle : ¬state.csv.Active)
    (place : state.main.stage = .over ∨
      state.main.stage = .sendingCsv ∧ state.fallback.stage = .over)
    (quiet : state.fallback.stage ≠ .sending) (failure : Value) :
    Inv (reportTerminal failure state) := by
  rw [reportTerminal]
  split
  · next claimed => exact reportHookObservation_inv inv claimed failure
  · exact delegateTerminalError_inv inv idle place quiet failure

theorem schedulePostJson_inv (inv : Inv state) (claimed : state.canceled = true)
    (unended : state.csv.Active → state.complete = false)
    (posts : state.fallback.stage ≠ .none ∨ state.destroyed = true ∨ state.csv.Active ∨
      .ended true ∈ state.log) (value : Value) : Inv (schedulePostJson value state) := by
  rw [schedulePostJson]
  split
  · refine inv.later { Later.refl _ with } ?_ fun _ => posts
    exact
      { inv with
        hooks := fun _ => claimed
        unended := fun active _ => unended active }
  · exact inv

theorem schedulePostError_inv (inv : Inv state) (claimed : state.canceled = true)
    (failure : Value) : Inv (schedulePostError failure state) := by
  rw [schedulePostError]
  split
  · exact inv.later { Later.refl _ with } { inv with hooks := fun _ => claimed } inv.posts
  · exact inv

theorem over_inv (inv : Inv state) (settled : state.main.stage ≠ .sendingCsv) :
    Inv { state with main := .over } :=
  inv.later { Later.refl _ with decided := fun _ => nofun, preError := by grind }
    { inv with
      active := by grind
      unended := by grind
      outside := fun _ other => absurd rfl other
      sending := by grind
      sendingCsv := by grind } inv.posts

/-- Nothing was sent, and nothing is on its way. -/
@[grind cases] structure Unsent (state : State) : Prop where
  main : state.main.stage = .over
  csv : state.csv = .none
  fallback : state.fallback.stage = .none
  auto : state.autoSendClaimed = false

theorem Unsent.idle (unsent : Unsent state) : ¬state.csv.Active := by
  grind

/-- Outside its sends and its end the wrapper has sent nothing. -/
theorem Inv.unsent (inv : Inv state) (csv : state.main.stage ≠ .sendingCsv)
    (ended : state.main.stage ≠ .over) : Unsent { state with main := .over } := by
  obtain ⟨csv, fallback, auto⟩ := inv.outside csv ended
  exact ⟨rfl, csv, fallback, auto⟩

/-- From there the wrapper calls a hook or sends. -/
theorem Inv.enter (inv : Inv state) (unsent : Unsent state) {main : Main}
    (decided : main.stage ≠ .undecided) (csv : main.stage ≠ .sendingCsv)
    (unclaimed : state.canceled = false)
    (unrun : main.stage = .preJson ∨ main.stage = .sendingPlain → ¬Saw state.log .preError) :
    Inv { state with main := main } :=
  inv.later { Later.refl _ with decided := fun _ => decided, preError := by grind }
    { inv with
      active := fun active => absurd active unsent.idle
      unended := fun active => absurd active unsent.idle
      outside := fun _ _ => ⟨unsent.csv, unsent.fallback, unsent.auto⟩
      sending := fun _ => unclaimed
      sendingCsv := fun sending => absurd sending csv } inv.posts

theorem delegated_inv (inv : Inv state) (unsent : Unsent state) (failure : Value) :
    Inv (delegateTerminalError failure state) := by
  apply delegateTerminalError_inv inv unsent.idle
  · exact Or.inl unsent.main
  · simp [unsent.fallback]

theorem sendFormatted_inv (inv : Inv state) (unsent : Unsent state) (failure : Value) :
    Inv (sendFormatted failure state) := by
  rw [sendFormatted]
  split_ifs with claimed committed
  · exact inv
  · exact delegated_inv inv unsent failure
  · apply inv.enter unsent
    · nofun
    · nofun
    · simpa using claimed
    · rintro (waits | waits) <;> contradiction

theorem dispatchError_inv (inv : Inv state) (unsent : Unsent state)
    (unrun : ¬Saw state.log .preError) (err : Value) : Inv (dispatchError err state) := by
  rw [dispatchError]
  split_ifs with claimed hook
  · exact inv
  · have waits : Inv { state with main := .preError err } := by
      apply inv.enter unsent
      · nofun
      · nofun
      · simpa using claimed
      · exact fun _ => unrun
    have closed : ¬State.MayRunPreError { state with main := .preError err } := by grind
    exact waits.emit (.preError err) unrun closed
  · exact sendFormatted_inv inv unsent err

theorem rejected_inv (inv : Inv state) (unsent : Unsent state)
    (unrun : ¬Saw state.log .preError) (err : Value) : Inv (rejected err state) := by
  rw [rejected]
  split_ifs with claimed committed
  · exact inv
  · exact delegated_inv inv unsent err
  · exact dispatchError_inv inv unsent unrun err

/-- The source of a CSV stream is read for its first row. -/
theorem reads_inv (inv : Inv state) (unsent : Unsent state) (unrun : ¬Saw state.log .preError)
    (unclaimed : state.canceled = false) (uncommitted : state.headersSent = false) {data : Value}
    (stream : data.isCSVResponse = true) :
    Inv { state with main := .sending data, csv := .reading } := by
  have stage : (Main.sending data).stage = .sendingCsv := if_pos stream
  refine inv.later ?_ ?_ fun _ => Or.inr (Or.inr (Or.inl (Or.inl rfl)))
  · exact
      { Later.refl _ with
        write := fun _ => Or.inl (Or.inl unclaimed)
        decided := by simp [stage]
        preError := fun _ => Or.inr unrun }
  · exact
      { inv with
        failed := nofun
        active := fun _ => ⟨unsent.fallback, Or.inl ⟨stage, rfl, unclaimed⟩⟩
        unended := by grind
        piped := nofun
        out := nofun
        outside := fun other => absurd stage other
        sending := fun _ => unclaimed
        sendingCsv := fun _ => ⟨unsent.auto, Or.inl rfl⟩ }

theorem runSender_inv (inv : Inv state) (unsent : Unsent state)
    (unrun : ¬Saw state.log .preError) (data : Value) : Inv (runSender data state) := by
  rw [runSender]
  split_ifs with claimed committed stream
  · exact inv
  · exact delegated_inv inv unsent data
  · exact reads_inv inv unsent unrun (by simpa using claimed) (by simpa using committed) stream
  · have stage : (Main.sending data).stage = .sendingPlain := if_neg stream
    apply inv.enter unsent
    · simp [stage]
    · simp [stage]
    · simpa using claimed
    · exact fun _ => unrun

theorem finalize_inv (inv : Inv state) (unsent : Unsent state)
    (unrun : ¬Saw state.log .preJson) (unrun' : ¬Saw state.log .preError) (data : Value) :
    Inv (finalize data state) := by
  rw [finalize, dispatchValue]
  split_ifs with claimed isUndefined committed committed hook
  · exact inv
  · simp only [claimSlot, claimed, Bool.false_eq_true, ↓reduceIte, Option.getD_some]
    apply inv.claim unsent.idle
    · simp [unsent.main]
    · simp [unsent.main]
    · simp [unsent.fallback]
  · exact inv
  · exact delegated_inv inv unsent data
  · have waits : Inv { state with main := .preJson data } := by
      apply inv.enter unsent
      · nofun
      · nofun
      · simpa using claimed
      · exact fun _ => unrun'
    exact waits.emit (.preJson data) unrun nofun
  · exact runSender_inv inv unsent unrun' data

theorem sendFallbackFormatted_inv (inv : Inv state) (occurred : state.fallback.stage = .over)
    (idle : ¬state.csv.Active) (place : state.main.stage = .over ∨ state.main.stage = .sendingCsv)
    (unreleased : state.autoSendClaimed = true → ¬Saw state.log .next ∧ ¬Saw state.log .terminal)
    (failure : Value) : Inv (sendFallbackFormatted failure state) := by
  rw [sendFallbackFormatted]
  split_ifs with closed committed
  · exact inv
  · apply reportTerminal_inv inv idle
    · exact place.imp_right fun main => ⟨main, occurred⟩
    · simp [occurred]
  · have claims : state.autoSendClaimed = false → state.canceled = false := by
      grind
    have stage : (Fallback.sending failure state.autoSendClaimed).stage =
        if state.autoSendClaimed then .bypass else .sending := rfl
    refine inv.later ?_ ?_ fun _ => Or.inl (by grind)
    · exact
        { Later.refl _ with
          write := by grind
          preError := by grind
          fallback := by grind }
    · exact
        { inv with
          failed := by grind
          active := fun active => absurd active idle
          outside := by grind
          sendingCsv := by grind
          plain := by grind
          bypass := by grind }

theorem runFallbackLifecycle_inv (inv : Inv { state with fallback := .over })
    (first : state.fallback = .none) (idle : ¬state.csv.Active)
    (place : state.main.stage = .over ∨ state.main.stage = .sendingCsv ∧ state.canceled = false)
    (unreleased : ¬Saw state.log .next ∧ ¬Saw state.log .terminal)
    (unrun : ¬Saw state.log .preError) (failure : Value) :
    Inv (runFallbackLifecycle failure state) := by
  have occurred := inv.emit (.fallback failure) trivial nofun
  have stage : (Fallback.preError failure).stage = .preError := rfl
  rw [runFallbackLifecycle]
  simp only [first, ne_eq, not_true_eq_false, ↓reduceIte]
  split
  · have waits : Inv { emit (.fallback failure) { state with fallback := .over } with
        fallback := .preError failure } := by
      refine occurred.later ?_ ?_ fun _ => Or.inl nofun
      · exact
          { Later.refl _ with
            write := fun _ => Or.inr (by simpa [emit] using unreleased)
            preError := fun _ => Or.inr (by simpa [emit] using unrun)
            fallback := by simp [stage] }
      · exact
          { occurred with
            failed := fun _ => Or.inl nofun
            active := fun active => absurd active idle
            outside := by grind [emit]
            sendingCsv := by grind [emit]
            plain := nofun
            bypass := nofun }
    apply waits.emit (.preError failure)
    · simpa [emit, Allowed] using unrun
    · grind [emit, Notes, Entry.kind]
  · apply sendFallbackFormatted_inv occurred rfl idle (place.imp id And.left)
    simp [emit, unreleased]

theorem fallback_eq_none {fallback : Fallback} : fallback.stage = .none ↔ fallback = .none := by
  cases fallback with
  | sending failure bypass => cases bypass <;> simp [Fallback.stage]
  | _ => simp [Fallback.stage]

theorem quiet_of_isSending (quiet : state.isSending = false) :
    (state.main.stage ≠ .sendingPlain ∧ state.main.stage ≠ .sendingCsv ∧
      state.main.stage ≠ .sendingError) ∧
    state.fallback.stage ≠ .sending ∧ state.fallback.stage ≠ .bypass := by
  rw [State.isSending, Bool.or_eq_false_iff] at quiet
  constructor
  · cases main : state.main <;> simp [main, Main.stage] at quiet ⊢
  · cases fallback : state.fallback <;> simp [fallback, Fallback.stage] at quiet ⊢

theorem nextFn_inv (inv : Inv state) (owned : state.isSending = true → state.canceled = true)
    (error : Value) : Inv (nextFn error state) := by
  rw [nextFn]
  simp only [claimSlot]
  cases claimed : state.canceled with
  | true => simpa using inv
  | false =>
    simp only [claimed, Bool.false_eq_true, imp_false, Bool.not_eq_true] at owned
    obtain ⟨⟨plain, csv, sending⟩, quiet, -⟩ := quiet_of_isSending owned
    have idle : ¬state.csv.Active := by grind
    have unreleased := inv.unreleased (Or.inl claimed)
    have unsent := inv.unclaimed claimed
    simp only [Bool.false_eq_true, ↓reduceIte]
    apply (inv.claim idle ⟨sending, plain⟩ (absurd · csv) quiet).emit (.next error)
    · exact ⟨unreleased.1, unreleased.2, unsent.1, unsent.2.1⟩
    · exact inv.closed claimed idle

@[simp] theorem claimSlot_getD (state : State) :
    (claimSlot .canceled state).getD state = { state with canceled := true } := by
  rw [claimSlot]
  cases claimed : state.canceled with
  | true =>
    cases state
    cases claimed
    rfl
  | false => rfl

/-- A send that nobody else claims writes a whole body. -/
theorem wrote_inv (inv : Inv state) (success : Bool) (uncommitted : state.headersSent = false)
    (idle : ¬state.csv.Active)
    (place : state.main.stage ≠ .sendingError ∧ state.main.stage ≠ .sendingPlain)
    (occurred : state.main.stage = .sendingCsv → state.fallback.stage = .over)
    (quiet : state.fallback.stage ≠ .sending)
    (unreleased : ¬Saw state.log .next ∧ ¬Saw state.log .terminal) :
    Inv { wrote success state with canceled := true } := by
  have claimed := inv.claim idle place occurred quiet
  have complete : Inv
      { state with
        headersSent := true
        complete := true
        canceled := true } := by
    refine claimed.later { Later.refl _ with headersSent := fun _ => rfl } ?_ inv.posts
    exact
      { claimed with
        complete := fun _ => rfl
        unended := fun active => absurd active idle
        piped := fun _ => Or.inl rfl
        out := fun _ => rfl }
  have fresh := inv.uncommitted uncommitted
  have body := complete.emit (.body success)
    ⟨fresh.1, unreleased.1, unreleased.2, fresh.2⟩ ⟨rfl, rfl⟩
  exact (body.emit (.ended success) trivial trivial).emit .sent trivial rfl

/-- The fallback is over while no stream can write. -/
theorem Inv.fallen (inv : Inv state) (idle : ¬state.csv.Active)
    (main : state.main.stage = .over ∨ state.main.stage = .sendingCsv) :
    Inv { state with fallback := .over } :=
  inv.later
    { Later.refl _ with
      write := by grind
      preError := by grind
      fallback := fun _ => nofun }
    { inv with
      failed := fun _ => Or.inl nofun
      active := fun active => absurd active idle
      outside := by grind
      sendingCsv := by grind
      plain := nofun
      bypass := nofun } fun _ => Or.inl nofun

theorem schedulePostError_getD (inv : Inv { state with canceled := true }) (original : Value) :
    Inv (schedulePostError original ((claimSlot .canceled state).getD state)) := by
  rw [claimSlot_getD]
  exact schedulePostError_inv inv rfl original

variable {next : State} {failure : Option Value}

theorem fallbackSent_inv (inv : Inv state) {original : Value} {bypass : Bool}
    (sending : state.fallback = .sending original bypass)
    (taken : fallbackSent original bypass failure state = some next) : Inv next := by
  have stage : state.fallback.stage = if bypass then .bypass else .sending := by
    rw [sending]
    rfl
  have idle : ¬state.csv.Active := by grind
  have main : state.main.stage = .over ∨ state.main.stage = .sendingCsv := by grind
  have settled := inv.fallen idle main
  cases failure with
  | some senderFailure =>
    simp only [fallbackSent] at taken
    rw [← Option.some.inj taken]
    exact reportTerminal_inv settled idle (main.imp_right fun main => ⟨main, rfl⟩) nofun _
  | none =>
    simp only [fallbackSent] at taken
    split at taken
    · cases taken
    · next committed =>
      rw [← Option.some.inj taken]
      have may : state.MayWrite := by grind
      have sent : Inv
          { wrote false { state with fallback := .over } with canceled := true } := by
        apply wrote_inv settled false (by simpa using committed) idle
        · grind
        · exact fun _ => rfl
        · nofun
        · exact inv.unreleased may
      split
      · next owner =>
        have claimed : (wrote false { state with fallback := .over }).canceled = true :=
          inv.auto (inv.bypass (by rw [stage, if_pos owner]))
        apply schedulePostError_inv _ claimed
        rwa [← claimed] at sent
      · exact schedulePostError_getD sent original

theorem errorSent_inv (inv : Inv state) {original : Value}
    (sending : state.main = .sendingError original)
    (taken : errorSent original failure state = some next) : Inv next := by
  have stage : state.main.stage = .sendingError := by
    rw [sending]
    rfl
  have settled := over_inv inv (by simp [stage])
  have unsent := inv.unsent (by simp [stage]) (by simp [stage])
  cases failure with
  | some senderFailure =>
    simp only [errorSent] at taken
    rw [← Option.some.inj taken]
    exact delegated_inv settled unsent _
  | none =>
    simp only [errorSent] at taken
    split at taken
    · cases taken
    · next committed =>
      rw [← Option.some.inj taken]
      apply schedulePostError_getD
      apply wrote_inv settled false (by simpa using committed) unsent.idle
      · exact ⟨nofun, nofun⟩
      · nofun
      · simp [unsent.fallback]
      · exact inv.unreleased (Or.inl (inv.sending (Or.inl stage)))

/-- The automatic send is claimed with the slot. -/
theorem claimAutoSend_inv (inv : Inv { state with canceled := true, autoSendClaimed := true })
    (unended : state.csv.Active → state.complete = false)
    (posts : state.fallback.stage ≠ .none ∨ state.destroyed = true ∨ state.csv.Active ∨
      .ended true ∈ state.log) (data : Value) : Inv (claimAutoSend data state) := by
  rw [claimAutoSend, claimSlot_getD]
  exact schedulePostJson_inv inv rfl unended posts data

/-- The automatic send is claimed once the value is out, or its stream began. -/
theorem automatic_inv (inv : Inv state)
    (innermost : state.fallback.stage ≠ .sending ∧ state.fallback.stage ≠ .bypass)
    (closes : state.canceled = true → state.fallback.stage ≠ .preError) :
    Inv { state with main := .over, canceled := true, autoSendClaimed := true } :=
  inv.later
    { Later.refl _ with
      canceled := fun _ => rfl
      write := by grind
      decided := fun _ => nofun
      preError := by grind }
    { inv with
      auto := fun _ => rfl
      hooks := fun _ => rfl
      active := fun active => ⟨(inv.active active).1, Or.inr ⟨rfl, rfl⟩⟩
      unended := by grind
      outside := fun _ other => absurd rfl other
      sending := by grind
      sendingCsv := nofun
      plain := fun sending => absurd sending innermost.1
      bypass := fun _ => rfl } inv.posts

/-- No slot is claimed before a value is sent. -/
@[grind] structure Fresh (state : State) : Prop where
  canceled : state.canceled = false
  fallback : state.fallback.stage = .none
  auto : state.autoSendClaimed = false

/-- The send threw before a stream began. -/
theorem Inv.threw (inv : Inv state) (fresh : Fresh state) :
    Inv { state with main := .over, csv := .none } :=
  inv.later
    { Later.refl _ with
      write := fun _ => Or.inl (Or.inl fresh.canceled)
      decided := fun _ => nofun
      preError := by grind }
    { inv with
      failed := nofun
      active := by grind
      unended := by grind
      piped := nofun
      out := nofun
      outside := fun _ other => absurd rfl other
      sending := by grind
      sendingCsv := nofun } (by grind [Posts])

theorem valueSent_inv (inv : Inv state) {data : Value} (sending : state.main = .sending data)
    (taken : valueSent data failure state = some next) : Inv next := by
  have stage : state.main.stage = if data.isCSVResponse then .sendingCsv else .sendingPlain := by
    rw [sending]
    rfl
  cases failure with
  | some senderFailure =>
    simp only [valueSent] at taken
    split at taken
    · cases taken
    · next threw =>
      have fresh : Fresh state := by
        constructor <;> grind
      have main : state.main.stage = .sendingPlain ∨ state.main.stage = .sendingCsv := by grind
      have settled := inv.threw fresh
      have idle : ¬Csv.none.Active := by grind
      split_ifs at taken with committed
      · rw [← Option.some.inj taken]
        apply reportTerminal_inv settled idle (Or.inl rfl)
        simp [fresh.fallback]
      · rw [← Option.some.inj taken]
        apply runFallbackLifecycle_inv (settled.fallen idle (Or.inl rfl))
        · exact fallback_eq_none.mp fresh.fallback
        · exact idle
        · exact Or.inl rfl
        · exact inv.unreleased (Or.inl fresh.canceled)
        · exact inv.unrun (Or.inr ⟨fresh.fallback, Or.inr (main.imp_right Or.inl)⟩)
  | none =>
    simp only [valueSent] at taken
    split at taken
    · cases taken
    · next plain =>
      rw [Bool.or_eq_true, not_or, Bool.not_eq_true, Bool.not_eq_true] at plain
      have main : state.main.stage = .sendingPlain := by simpa [plain.1] using stage
      have unsent := inv.unsent (by simp [main]) (by simp [main])
      have unreleased := inv.unreleased (Or.inl (inv.sending (Or.inr main)))
      have sent := wrote_inv (over_inv inv (by simp [main])) true plain.2 unsent.idle
        ⟨nofun, nofun⟩ nofun (by simp [unsent.fallback]) unreleased
      rw [← Option.some.inj taken]
      apply claimAutoSend_inv
      · apply automatic_inv sent
        · simp [wrote, emit, unsent.fallback]
        · simp [wrote, emit, unsent.fallback]
      · exact fun active => absurd active unsent.idle
      · simp [wrote, emit]

theorem fail_inv (inv : Inv state) (begun : state.csv ≠ .none) (unfailed : state.csv ≠ .failed)
    (error : Value) : Inv (fail error state) := by
  have idle : ¬Csv.failed.Active := by grind
  have main : state.main.stage = .sendingCsv ∨ state.main.stage = .over := by grind
  simp only [fail]
  generalize (if error.isError = true then error else
    Value.wrapped "CSV response streaming failed" error) = normalizedError
  split
  · next early =>
    have active : state.csv.Active := by
      have out := inv.out
      cases csv : state.csv <;> simp_all [Csv.Active]
    have first : state.fallback.stage = .none := (inv.active active).1
    have failed : Inv { state with csv := .failed, fallback := .over } :=
      inv.later
        { Later.refl _ with
          write := fun _ => Or.inl (Or.inr (Or.inl active))
          preError := fun _ => Or.inl (Or.inr ⟨first, Or.inr (Or.inr (Or.inr active))⟩)
          fallback := fun _ => nofun }
        { inv with
          failed := fun _ => Or.inl nofun
          active := fun active => absurd active idle
          unended := fun active => absurd active idle
          piped := nofun
          out := nofun
          outside := by grind
          sendingCsv := by grind
          plain := nofun
          bypass := nofun } fun _ => Or.inl nofun
    apply runFallbackLifecycle_inv failed
    · exact fallback_eq_none.mp first
    · exact idle
    · grind
    · exact inv.unreleased (Or.inr (Or.inl active))
    · exact inv.unrun (Or.inr ⟨first, Or.inr (Or.inr (Or.inr active))⟩)
  · exact inv.later { Later.refl _ with write := by grind, preError := by grind }
      { inv with
        failed := fun _ => Or.inr rfl
        active := fun active => absurd active idle
        unended := fun active => absurd active idle
        piped := nofun
        out := nofun
        outside := by grind
        sendingCsv := by grind } fun _ => Or.inr (Or.inl rfl)

/-- The fallback does not send. -/
theorem innermost_of (inner : ∀ original bypass, state.fallback ≠ .sending original bypass) :
    state.fallback.stage ≠ .sending ∧ state.fallback.stage ≠ .bypass := by
  cases fallback : state.fallback with
  | sending original bypass => exact absurd fallback (inner original bypass)
  | _ => simp [Fallback.stage]

theorem oneOwner_map {log : List Entry} (owned : OneOwner log) (entry : Value → Entry)
    (values : List Value)
    (allowed : ∀ (before : List Value) value, Allowed (log ++ before.map entry) (entry value)) :
    OneOwner (log ++ values.map entry) := by
  induction values generalizing log with
  | nil => simpa using owned
  | cons value values ih =>
    rw [List.map_cons, List.append_cons]
    apply ih
    · exact oneOwner_concat.mpr ⟨owned, by simpa using allowed [] value⟩
    · intro before other
      simpa using allowed (value :: before) other

@[simp] theorem saw_map_postJson (values : List Value) (kind : EntryKind) :
    Saw (values.map .postJson) kind ↔ kind = .postJson ∧ values ≠ [] := by
  induction values with
  | nil => simp
  | cons value values ih => simp [ih, eq_comm]; tauto

@[simp] theorem saw_map_postError (values : List Value) (kind : EntryKind) :
    Saw (values.map .postError) kind ↔ kind = .postError ∧ values ≠ [] := by
  induction values with
  | nil => simp
  | cons value values ih => simp [ih, eq_comm]; tauto

/-- `postJson` runs where a success body ended and no fallback occurred. -/
theorem finish_owner (inv : Inv state) (complete : state.complete = true)
    (kept : state.destroyed = false) : OneOwner (state.log ++ [.finished] ++
      (if state.fallback = .none then state.postJson else []).map .postJson ++
        state.postError.map .postError) := by
  have ended : OneOwner (state.log ++ [.finished]) := oneOwner_concat.mpr ⟨inv.owner, trivial⟩
  apply oneOwner_map
  · split
    · next first =>
      have stage := fallback_eq_none.mpr first
      by_cases unposted : state.postJson = []
      · simpa [unposted] using ended
      · have listed : .ended true ∈ state.log := by
          rcases inv.posts unposted with fallen | destroyed | active | listed
          · exact absurd stage fallen
          · rw [kept] at destroyed
            contradiction
          · rw [inv.unended active (Or.inr unposted)] at complete
            contradiction
          · exact listed
        apply oneOwner_map ended
        intro before value
        have unfallen : ¬Saw state.log .fallback := inv.not_saw (by simp [Notes, stage])
        simp [Allowed, listed, unfallen]
    · simpa using ended
  · intro before value
    trivial

theorem initial_inv (hooks : Hooks) : Inv (initial hooks) := by
  constructor
  · constructor <;> simp [initial, Csv.Active, Main.stage, Fallback.stage]
  · exact oneOwner_nil
  · nofun
  · simp [Posts, initial]

/-- The handler's outcome ends the wait for it. -/
theorem unsent_of_undecided (inv : Inv state) (undecided : state.main.stage = .undecided) :
    Inv { state with main := .over } ∧ Unsent { state with main := .over } ∧
      ¬Saw state.log .preJson ∧ ¬Saw state.log .preError :=
  ⟨over_inv inv (by simp [undecided]), inv.unsent (by simp [undecided]) (by simp [undecided]),
    inv.not_saw (by simp [Notes, undecided]), inv.unrun (Or.inl undecided)⟩

theorem finalize_over_inv (inv : Inv state) (undecided : state.main.stage = .undecided)
    (value : Value) : Inv (finalize value { state with main := .over }) := by
  obtain ⟨settled, unsent, unrun, unrun'⟩ := unsent_of_undecided inv undecided
  exact finalize_inv settled unsent unrun unrun' value

theorem rejected_over_inv (inv : Inv state) (undecided : state.main.stage = .undecided)
    (err : Value) : Inv (rejected err { state with main := .over }) := by
  obtain ⟨settled, unsent, -, unrun⟩ := unsent_of_undecided inv undecided
  exact rejected_inv settled unsent unrun err

/-- The headers go out while no stream waits to write them. -/
theorem headers_inv (inv : Inv state) (piped : state.csv ≠ .piped) :
    Inv { state with headersSent := true } :=
  inv.later { Later.refl _ with headersSent := fun _ => rfl }
    { inv with
      complete := fun _ => rfl
      piped := fun csv => absurd csv piped
      out := fun _ => rfl } inv.posts

theorem step_commits (inv : Inv state) (owned : Owned state .commits)
    (taken : step state .commits = some next) : Inv next := by
  simp only [step] at taken
  split_ifs at taken with committed
  cases taken
  exact (headers_inv inv owned).emit .commit trivial rfl

theorem step_ends (inv : Inv state) (owned : Owned state .ends)
    (taken : step state .ends = some next) : Inv next := by
  have unended (active : state.csv.Active) :
      ¬(state.main.stage = .sendingCsv ∨ state.postJson ≠ []) := by
    rintro (sending | posts)
    · exact (quiet_of_isSending (owned active).1).1.2.1 sending
    · exact posts (owned active).2
  simp only [step] at taken
  split_ifs at taken with complete committed
  · cases taken
    exact inv.later { Later.refl _ with }
      { inv with
        complete := fun _ => committed
        unended := fun active waits => absurd waits (unended active)
        piped := fun _ => Or.inl rfl } inv.posts
  · cases taken
    have ended : Inv { state with headersSent := true, complete := true } :=
      inv.later { Later.refl _ with headersSent := fun _ => rfl }
        { inv with
          complete := fun _ => rfl
          unended := fun active waits => absurd waits (unended active)
          piped := fun _ => Or.inl rfl
          out := fun _ => rfl } inv.posts
    exact ended.emit .commit trivial rfl

theorem step_preJsonSettles (inv : Inv state)
    (taken : step state (.preJsonSettles failure) = some next) : Inv next := by
  simp only [step] at taken
  split at taken
  · next data main =>
    have stage : state.main.stage = .preJson := by
      rw [main]
      rfl
    have settled := over_inv inv (by simp [stage])
    have unsent := inv.unsent (by simp [stage]) (by simp [stage])
    have unrun := inv.unrun (Or.inr ⟨unsent.fallback, Or.inl stage⟩)
    cases failure with
    | none =>
      cases taken
      exact runSender_inv settled unsent unrun data
    | some hookErr =>
      simp only at taken
      split_ifs at taken with claimed
      · cases taken
        exact settled
      · cases taken
        apply runFallbackLifecycle_inv (settled.fallen unsent.idle (Or.inl rfl))
        · exact fallback_eq_none.mp unsent.fallback
        · exact unsent.idle
        · exact Or.inl rfl
        · exact inv.unreleased (Or.inl (by simpa using claimed))
        · exact unrun
  · cases taken

theorem step_fallbackSettles (inv : Inv state)
    (taken : step state (.fallbackSettles failure) = some next) : Inv next := by
  simp only [step] at taken
  split at taken
  · next original fallback =>
    have stage : state.fallback.stage = .preError := by
      rw [fallback]
      rfl
    have idle : ¬state.csv.Active := by grind
    have main : state.main.stage = .over ∨ state.main.stage = .sendingCsv := by grind
    cases taken
    apply sendFallbackFormatted_inv (inv.fallen idle main) rfl idle main
    exact fun auto => inv.unreleased (Or.inr (Or.inr ⟨auto, Or.inl stage⟩))
  · cases taken

theorem step_streams (inv : Inv state) (taken : step state .streams = some next) : Inv next := by
  simp only [step] at taken
  split at taken
  · cases taken
  · next sending inner =>
    split_ifs at taken with stream
    have stage : state.main.stage = .sendingCsv := by
      rw [sending]
      exact if_pos stream
    have closes : state.canceled = true → state.fallback.stage ≠ .preError := by grind
    cases taken
    apply claimAutoSend_inv
    · exact (automatic_inv inv (innermost_of inner) closes).emit .sent trivial rfl
    · exact fun active => inv.unended active (Or.inl stage)
    · grind [emit]
  · cases taken

theorem step_pipes (inv : Inv state) {outputStarted : Bool}
    (taken : step state (.pipes outputStarted) = some next) : Inv next := by
  simp only [step] at taken
  split_ifs at taken with closed
  cases taken
  simp only [ne_eq, Bool.or_eq_true, decide_eq_true_eq, not_or, not_not,
    Bool.not_eq_true] at closed
  obtain ⟨⟨reading, quiet⟩, uncommitted⟩ := closed
  have csv := (quiet_of_isSending quiet).1.2.1
  have active : state.csv.Active := Or.inl reading
  exact inv.later { Later.refl _ with write := by grind, preError := by grind }
    { inv with
      failed := nofun
      active := by grind
      unended := fun _ => inv.unended active
      piped := fun _ => Or.inr uncommitted
      out := nofun
      outside := by grind
      sendingCsv := fun sending => absurd sending csv }
    fun _ => Or.inr (Or.inr (Or.inl (Or.inr (Or.inl rfl))))

theorem step_flushes (inv : Inv state) (taken : step state .flushes = some next) : Inv next := by
  simp only [step] at taken
  split_ifs at taken with closed
  cases taken
  simp only [ne_eq, Bool.or_eq_true, decide_eq_true_eq, not_or, not_not,
    Bool.not_eq_true] at closed
  obtain ⟨piped, incomplete⟩ := closed
  have active : state.csv.Active := Or.inr (Or.inl piped)
  have uncommitted : state.headersSent = false := by grind
  have main : state.main.stage = .over ∧ state.autoSendClaimed = true := by grind
  have flows : Inv { state with csv := .flowing, headersSent := true } :=
    inv.later
      { Later.refl _ with
        headersSent := fun _ => rfl
        write := by grind
        preError := by grind }
      { inv with
        complete := fun _ => rfl
        failed := nofun
        active := fun _ => ⟨(inv.active active).1, Or.inr main⟩
        unended := fun _ _ => incomplete
        piped := nofun
        out := fun _ => rfl
        outside := fun _ other => absurd main.1 other
        sendingCsv := by grind } fun _ => Or.inr (Or.inr (Or.inl (Or.inr (Or.inr rfl))))
  have fresh := inv.uncommitted uncommitted
  have unreleased := inv.unreleased (Or.inr (Or.inl active))
  exact flows.emit (.body true) ⟨fresh.1, unreleased.1, unreleased.2, fresh.2⟩
    ⟨rfl, inv.auto main.2⟩

theorem step_completes (inv : Inv state) (taken : step state .completes = some next) :
    Inv next := by
  simp only [step] at taken
  split_ifs at taken with closed
  cases taken
  simp only [ne_eq, Bool.or_eq_true, decide_eq_true_eq, not_or, not_not,
    Bool.not_eq_true] at closed
  have committed := inv.out (Or.inl closed.1)
  have main : state.main.stage = .over := by grind
  have ended := inv.emit (.ended true) trivial trivial
  have idle : ¬Csv.ended.Active := by grind
  exact ended.later { Later.refl _ with write := by grind [emit], preError := by grind [emit] }
    { ended with
      complete := fun _ => committed
      failed := nofun
      active := fun active => absurd active idle
      unended := fun active => absurd active idle
      piped := nofun
      out := fun _ => committed
      outside := fun _ other => absurd main other
      sendingCsv := by grind [emit] }
    fun _ => Or.inr (Or.inr (Or.inr (List.mem_append_right _ (List.mem_singleton_self _))))

theorem step_finish (inv : Inv state) (taken : step state .finish = some next) : Inv next := by
  simp only [step] at taken
  split at taken
  · cases taken
  · next closed =>
    cases taken
    simp only [Bool.or_eq_true, Bool.not_eq_true', not_or, Bool.not_eq_false,
      Bool.not_eq_true] at closed
    obtain ⟨⟨⟨complete, kept⟩, -⟩, -⟩ := closed
    have settled : Inv
        { state with
          finished := true
          postJson := []
          postError := []
          posting := state.posting +
            (if state.fallback = .none then state.postJson else []).length +
            state.postError.length } := by
      refine inv.later { Later.refl _ with } { inv with hooks := fun some => ?_, unended := ?_ }
        (by simp [Posts])
      · apply inv.hooks
        by_contra none
        simp only [ne_eq, not_or, not_not] at none
        simp [none] at some
      · exact fun active waits => inv.unended active (waits.imp_right fun some => by simp at some)
    refine
      { settled with
        owner := finish_owner inv complete kept
        noted := ?_
        posts := by simp [Posts] }
    intro kind seen
    simp only [saw_append, saw_cons, saw_nil, or_false, saw_map_postJson,
      saw_map_postError] at seen
    rcases seen with ((earlier | rfl) | ⟨rfl, -⟩) | ⟨rfl, -⟩
    · exact settled.noted kind earlier
    · trivial
    · trivial
    · trivial

theorem step_postSettles (inv : Inv state) (taken : step state (.postSettles failure) = some next) :
    Inv next := by
  simp only [step] at taken
  split at taken
  · cases taken
  · next posting some =>
    have claimed : state.canceled = true := inv.hooks (Or.inr (Or.inr (by simp [some])))
    have fewer : Inv { state with posting := posting } :=
      inv.later { Later.refl _ with } { inv with hooks := fun _ => claimed } inv.posts
    cases failure with
    | none =>
      cases taken
      exact fewer
    | some err =>
      cases taken
      exact reportHookObservation_inv fewer claimed err

theorem step_returnsPromise (inv : Inv state) (taken : step state .returnsPromise = some next) :
    Inv next := by
  simp only [step] at taken
  split at taken
  · next main =>
    cases taken
    cases state
    cases main
    exact inv.later { Later.refl _ with } { inv with } inv.posts
  · cases taken

theorem step_inv (inv : Inv state) {event : Event} (owned : Owned state event)
    (taken : step state event = some next) : Inv next := by
  cases event with
  | configure hooks =>
    cases taken
    exact inv.later { Later.refl _ with } { inv with } inv.posts
  | callsNext error =>
    rw [← Option.some.inj taken]
    exact nextFn_inv inv owned error
  | commits => exact step_commits inv owned taken
  | ends => exact step_ends inv owned taken
  | destroys =>
    cases taken
    exact inv.later { Later.refl _ with } { inv with failed := fun _ => Or.inr rfl }
      fun _ => Or.inr (Or.inl rfl)
  | returns value | resolves value =>
    simp only [step] at taken
    split at taken
    · next main =>
      rw [← Option.some.inj taken]
      exact finalize_over_inv inv (by rw [main]; rfl) value
    · cases taken
  | returnsPromise => exact step_returnsPromise inv taken
  | throws err | rejects err =>
    simp only [step] at taken
    split at taken
    · next main =>
      rw [← Option.some.inj taken]
      exact rejected_over_inv inv (by rw [main]; rfl) err
    · cases taken
  | preJsonSettles failure => exact step_preJsonSettles inv taken
  | preErrorSettles failure =>
    simp only [step] at taken
    split at taken
    · next err main =>
      have stage : state.main.stage = .preError := by
        rw [main]
        rfl
      rw [← Option.some.inj taken]
      apply sendFormatted_inv
      · exact over_inv inv (by simp [stage])
      · exact inv.unsent (by simp [stage]) (by simp [stage])
    · cases taken
  | fallbackSettles failure => exact step_fallbackSettles inv taken
  | sends failure =>
    simp only [step] at taken
    split at taken
    · next sending => exact fallbackSent_inv inv sending taken
    · next sending _ => exact errorSent_inv inv sending taken
    · next sending inner =>
      exact valueSent_inv inv sending taken
    · cases taken
  | streams => exact step_streams inv taken
  | pipes outputStarted => exact step_pipes inv taken
  | flushes => exact step_flushes inv taken
  | completes => exact step_completes inv taken
  | fails error =>
    simp only [step] at taken
    split_ifs at taken with closed
    rw [← Option.some.inj taken]
    simp only [Bool.or_eq_true, decide_eq_true_eq, not_or] at closed
    exact fail_inv inv closed.1.1 closed.1.2 error
  | finish => exact step_finish inv taken
  | postSettles failure => exact step_postSettles inv taken

/-- Where those who run inside a send or beside a CSV stream stay out of the response, it has one
owner, in any order of events. -/
theorem routerFn_oneOwner {hooks : Hooks}
    (reached : TransitionSystem.ReachableWhen (system hooks) Owned state) : OneOwner state.log := by
  have inv : Inv state := by
    apply reached.invariant (initial_inv hooks)
    intro state event next inv owned taken
    exact step_inv inv owned taken
  exact inv.owner

def noHooks : Hooks :=
  ⟨false, false, false, false⟩

def csvValue : Value := .object 0 .csvResponse (some none) none

/-- A promise of a CSV response between two hooks, the second of which fails. -/
def csvRun : List Event :=
  [.configure ⟨true, true, true, true⟩, .returnsPromise, .resolves csvValue, .preJsonSettles none,
    .streams, .pipes true, .flushes, .completes, .finish, .postSettles (some (.string "audit"))]

theorem routerFn_oneOwner_csvRun :
    ∃ state : State, (system noHooks).run csvRun = some state ∧ OneOwner state.log := by
  have runs : ((system noHooks).run csvRun).isSome = true := by
    decide +kernel
  obtain ⟨state, ran⟩ := Option.isSome_iff_exists.mp runs
  have reached : TransitionSystem.ReachableWhen (system noHooks) Owned state := by
    apply TransitionSystem.ReachableWhen.start.steps _ ran
    simp [csvRun, Owned]
  exact ⟨state, ran, routerFn_oneOwner reached⟩

/-- The source of a CSV response calls `next` while its first row is read. -/
def nextInSource : List Event :=
  [.returns csvValue, .callsNext .undefined, .streams, .pipes true, .flushes]

theorem routerFn_writesAfterNext :
    ∃ state : State, (system noHooks).Reachable state ∧ ¬OneOwner state.log := by
  have runs : ∃ state : State, (system noHooks).run nextInSource = some state ∧
      state.log = [.next .undefined, .sent, .body true] := ⟨_, rfl, rfl⟩
  obtain ⟨state, ran, log⟩ := runs
  refine ⟨state, TransitionSystem.Reachable.of_run ran, ?_⟩
  intro owner
  have allowed := owner [.next .undefined, .sent] (.body true) [] log
  simp [Allowed] at allowed

end WebTsToolkit.ExpressResponseHandler
