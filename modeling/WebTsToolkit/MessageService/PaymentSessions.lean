import Mathlib.Data.List.Perm.Basic
import WebTsToolkit.Library.Program

set_option autoImplicit false

namespace WebTsToolkit.MessageService.Payments

open Library

structure PaymentSessionCompensationFailure where
  sessionId : String
  compensationError : String
  hookError : Option String
  deriving DecidableEq

inductive CreateError where
  | thrown (message : String)
  | paymentProviderRequired
  | compensation (failure : PaymentSessionCompensationFailure) (originalError : CreateError)
  | aggregate (failures : List PaymentSessionCompensationFailure) (originalError : CreateError)
  deriving DecidableEq

/-- What happened to payment sessions: those that the provider returned, those that it was told
to expire, those in messages of commits that answered, and those in messages of commits that were
reported as failed. -/
structure Sessions where
  calls : Nat
  returned : List String
  expired : List String
  stored : List String
  unreported : List String
  deriving DecidableEq

structure Item where
  paymentCd : Option String

/-- A message before it is stored, with `content` for what does not concern payment. -/
structure Document (δ : Type) where
  paymentSession : Option String
  paymentCd : String
  clientRequestItemIndex : Option Nat
  content : δ
  deriving DecidableEq

/-- A write that rejects, which may have been committed all the same. -/
structure WriteFailure where
  message : String
  committed : Bool

/-- What the template, the provider and the database answer, by the number of calls before. -/
structure World (δ : Type) where
  prepareMessage : Nat → Except String (List Item)
  normalizeUserIdForStorage : Nat → Option String
  createSession : Nat → Except String (Option String)
  interpolateMessageContent : Nat → Except String δ
  expireSession : Nat → Option String
  onPaymentCompensationFailure : Nat → Option String
  resolveModel : Nat → Option String
  create : Nat → Option WriteFailure
  startSession : Nat → Option String
  withTransaction : Nat → Option WriteFailure

structure Service where
  paymentProvider : Bool
  templatePaymentCd : Option String

abbrev Creation (α : Type) := Program CreateError Sessions α

def Document.sessionId {δ : Type} (document : Document δ) : Option String :=
  document.paymentSession.filter (· != "")

def sessionIds {δ : Type} (docs : List (Document δ)) : List String :=
  docs.filterMap Document.sessionId

section Calls

variable {α : Type}

def ask (answers : Nat → α) : Creation α := do
  let sessions ← get
  modify fun sessions => { sessions with calls := sessions.calls + 1 }
  pure (answers sessions.calls)

/-- A call that answers with an error, or with nothing. -/
def request (answers : Nat → Option String) : Creation Unit := do
  match ← ask answers with
  | some message => throw (.thrown message)
  | none => pure ()

end Calls

section Steps

variable {δ : Type} (service : Service) (world : World δ)

/-- `m.paymentCd || template.paymentCd || ''`. -/
def paymentCdOf (item : Item) : String :=
  ((item.paymentCd.filter (· != "")).orElse fun _ => service.templatePaymentCd).getD ""

/-- The payment of an item in `buildMessageDocument`. -/
def requestSession (paymentCd : String) : Creation (Option String) := do
  if paymentCd = "" then pure none
  else if !service.paymentProvider then throw .paymentProviderRequired
  else
    match ← ask world.createSession with
    | .error message => throw (.thrown message)
    | .ok answer =>
      match answer.filter (· != "") with
      | none => throw (.thrown "payment session creation failed")
      | some session => do
        modify fun sessions => { sessions with returned := sessions.returned ++ [session] }
        pure (some session)

def compensatePaymentSession (sessionId : String) (originalError : CreateError) :
    Creation Unit := do
  if !service.paymentProvider then pure ()
  else
    modify fun sessions => { sessions with expired := sessions.expired ++ [sessionId] }
    match ← ask world.expireSession with
    | none => pure ()
    | some error => do
      let hookError ← ask world.onPaymentCompensationFailure
      throw (.compensation ⟨sessionId, error, hookError⟩ originalError)

def collect (failures : List PaymentSessionCompensationFailure) :
    Except CreateError Unit → List PaymentSessionCompensationFailure
  | .error (.compensation failure _) => failure :: failures
  | _ => failures

/-- Every session is expired, whatever becomes of the others. -/
def expireAll (originalError : CreateError) :
    List String → Creation (List PaymentSessionCompensationFailure)
  | [] => pure []
  | sessionId :: rest => do
    let ended ← (compensatePaymentSession service world sessionId originalError).attempt
    let failures ← expireAll originalError rest
    pure (collect failures ended)

def compensatePaymentSessions (docs : List (Document δ)) (originalError : CreateError) :
    Creation Unit := do
  if sessionIds docs = [] then pure ()
  else if !service.paymentProvider then pure ()
  else
    match ← expireAll service world originalError (sessionIds docs) with
    | [] => pure ()
    | first :: failures =>
      if (sessionIds docs).length = 1 then throw (.compensation first originalError)
      else throw (.aggregate (first :: failures) originalError)

def buildMessageDocument (item : Item) (clientRequestItemIndex : Option Nat) :
    Creation (Document δ) := do
  request world.normalizeUserIdForStorage
  let paymentCd := paymentCdOf service item
  let paymentSession ← requestSession service world paymentCd
  match ← ask world.interpolateMessageContent with
  | .ok content => pure ⟨paymentSession, paymentCd, clientRequestItemIndex, content⟩
  | .error message => do
    match paymentSession with
    | some session => compensatePaymentSession service world session (.thrown message)
    | none => pure ()
    throw (.thrown message)

/-- A step of a batch whose failure costs the sessions of these documents. -/
def orCompensate {α : Type} (docs : List (Document δ)) (step : Creation α) : Creation α := do
  match ← step.attempt with
  | .ok value => pure value
  | .error error => do
    compensatePaymentSessions service world docs error
    throw error

/-- A write of these documents. -/
def write (answers : Nat → Option WriteFailure) (docs : List (Document δ)) : Creation Unit := do
  match ← ask answers with
  | none =>
    modify fun sessions => { sessions with stored := sessions.stored ++ sessionIds docs }
  | some failure => do
    if failure.committed then
      modify fun sessions =>
        { sessions with unreported := sessions.unreported ++ sessionIds docs }
    throw (.thrown failure.message)

def persistItem (item : Item) : Creation (Document δ) := do
  request world.resolveModel
  let doc ← buildMessageDocument service world item none
  orCompensate service world [doc] (write world.create [doc])
  pure doc

def runMessageTransaction (docs : List (Document δ)) : Creation Unit := do
  request world.startSession
  write world.withTransaction docs

def persistPreparedBatchTransaction (docs : List (Document δ)) : Creation (List (Document δ)) := do
  orCompensate service world docs (request world.resolveModel)
  orCompensate service world docs (runMessageTransaction world docs)
  pure docs

/-- The documents of the items, after those that are there. -/
def buildDocuments (docs : List (Document δ)) : List Item → Creation (List (Document δ))
  | [] => pure docs
  | item :: items => do
    let doc ← orCompensate service world docs
      (buildMessageDocument service world item (some docs.length))
    buildDocuments (docs ++ [doc]) items

def persistItems : List Item → Creation (List (Document δ))
  | [] => pure []
  | item :: items => do
    let doc ← persistItem service world item
    let docs ← persistItems items
    pure (doc :: docs)

/-- With a client request the batch is one transaction. No message data is no items. -/
def createPreparedMessageBatch (clientRequest : Bool) : Creation (List (Document δ)) := do
  match ← ask world.prepareMessage with
  | .error message => throw (.thrown message)
  | .ok items =>
    if clientRequest then do
      let docs ← buildDocuments service world [] items
      persistPreparedBatchTransaction service world docs
    else persistItems service world items

end Steps

def Sessions.start : Sessions := ⟨0, [], [], [], []⟩

section Balance

variable {δ : Type} (service : Service)

/-- Every session that was returned is stored, was to expire, or is held. One whose commit was
reported as failed is not taken for stored. -/
structure Owes (held : List String) (sessions : Sessions) : Prop where
  balance : sessions.returned.Perm (sessions.stored ++ sessions.expired ++ held)
  unreported : sessions.unreported.Subperm (sessions.expired ++ held)
  provided : service.paymentProvider = false → sessions.returned = []

/-- Nothing failed so far. -/
structure Holds (held : List String) (sessions : Sessions) : Prop extends
    Owes service held sessions where
  unexpired : sessions.expired = []
  reported : sessions.unreported = []

variable {service} {world : World δ} {held held' : List String} {sessions : Sessions}

theorem Owes.perm (owes : Owes service held sessions) (same : held.Perm held') :
    Owes service held' sessions :=
  ⟨owes.balance.trans (same.append_left _),
    owes.unreported.trans (same.append_left _).subperm, owes.provided⟩

/-- Without a provider there is no session. -/
theorem Owes.held_eq_nil (owes : Owes service held sessions)
    (absent : service.paymentProvider = false) : held = [] := by
  have none := owes.balance.symm
  rw [owes.provided absent] at none
  exact (List.append_eq_nil_iff.mp none.eq_nil).2

theorem Owes.expire {sessionId : String} (owes : Owes service (sessionId :: held) sessions) :
    Owes service held { sessions with expired := sessions.expired ++ [sessionId] } :=
  ⟨by simpa using owes.balance, by simpa using owes.unreported, owes.provided⟩

theorem Holds.provide {session : String} (holds : Holds service held sessions)
    (provided : service.paymentProvider = true) :
    Holds service (held ++ [session])
      { sessions with returned := sessions.returned ++ [session] } where
  __ := holds
  balance := by
    rw [← List.append_assoc]
    exact holds.balance.append_right [session]
  unreported := by
    rw [holds.reported]
    exact List.nil_subperm
  provided absent := by
    rw [provided] at absent
    contradiction

theorem Holds.store {docs : List (Document δ)}
    (holds : Holds service (sessionIds docs) sessions) :
    Holds service [] { sessions with stored := sessions.stored ++ sessionIds docs } where
  __ := holds
  balance := by
    have balance := holds.balance
    rw [holds.unexpired] at balance
    simpa [holds.unexpired] using balance
  unreported := by
    rw [holds.reported]
    exact List.nil_subperm

/-- A commit that was reported as failed stores sessions that are still held. -/
theorem Holds.misreport {docs : List (Document δ)}
    (holds : Holds service (sessionIds docs) sessions) :
    Owes service (sessionIds docs)
      { sessions with unreported := sessions.unreported ++ sessionIds docs } where
  __ := holds
  unreported := by
    rw [holds.reported, holds.unexpired]

/-- A call from outside keeps what is held. -/
theorem Holds.tick (holds : Holds service held sessions) :
    Holds service held { sessions with calls := sessions.calls + 1 } :=
  ⟨{ holds with }, holds.unexpired, holds.reported⟩

theorem Owes.tick (owes : Owes service held sessions) :
    Owes service held { sessions with calls := sessions.calls + 1 } :=
  { owes with }

end Balance

section Rules

variable {δ α β : Type} {service : Service} {world : World δ} {held : List String}
  {sessions : Sessions}

theorem ends_ask {answers : Nat → α} {next : α → Creation β} {returns : β → Sessions → Prop}
    {throws : CreateError → Sessions → Prop} :
    (ask answers >>= next).Ends returns throws sessions ↔
      (next (answers sessions.calls)).Ends returns throws
        { sessions with calls := sessions.calls + 1 } :=
  Program.ends_bind

theorem ends_request (answers : Nat → Option String) (holds : Holds service held sessions) :
    (request answers).Ends (fun _ => Holds service held) (fun _ => Holds service held)
      sessions := by
  refine ends_ask.mpr ?_
  cases answers sessions.calls with
  | some message | none => exact holds.tick

theorem ends_compensatePaymentSession (sessionId : String) (originalError : CreateError)
    (owes : Owes service (sessionId :: held) sessions) :
    (compensatePaymentSession service world sessionId originalError).Ends
      (fun _ => Owes service held) (fun _ => Owes service held) sessions := by
  unfold compensatePaymentSession
  cases provided : service.paymentProvider with
  | false => exact absurd (owes.held_eq_nil provided) (List.cons_ne_nil _ _)
  | true =>
    refine Program.ends_bind.mpr ((Program.ends_modify _).mpr (ends_ask.mpr ?_))
    split
    · exact owes.expire.tick
    · exact ends_ask.mpr owes.expire.tick.tick

theorem ends_expireAll (originalError : CreateError) (ids : List String)
    (owes : Owes service (ids ++ held) sessions) :
    (expireAll service world originalError ids).Ends (fun _ => Owes service held)
      (fun _ _ => False) sessions := by
  induction ids generalizing sessions with
  | nil => exact owes
  | cons sessionId rest ih =>
    have rest_owes (ended : Except CreateError Unit) (after : Sessions)
        (owes : Owes service (rest ++ held) after) :
        Program.Ends (do
          let failures ← expireAll service world originalError rest
          pure (collect failures ended))
          (fun _ => Owes service held) (fun _ _ => False) after :=
      Program.ends_bind.mpr (ih owes)
    refine Program.ends_bind.mpr (Program.ends_attempt.mpr ?_)
    exact (ends_compensatePaymentSession sessionId originalError owes).mono
      (fun _ => rest_owes _) (fun _ => rest_owes _)

variable {docs : List (Document δ)}

theorem ends_compensatePaymentSessions (originalError : CreateError)
    (owes : Owes service (sessionIds docs ++ held) sessions) :
    (compensatePaymentSessions service world docs originalError).Ends (fun _ => Owes service held)
      (fun _ => Owes service held) sessions := by
  unfold compensatePaymentSessions
  by_cases free : sessionIds docs = []
  · rw [if_pos free]
    rw [free] at owes
    exact owes
  · rw [if_neg free]
    cases provided : service.paymentProvider with
    | false =>
      exact absurd (List.append_eq_nil_iff.mp (owes.held_eq_nil provided)).1 free
    | true =>
      refine Program.ends_bind.mpr ((ends_expireAll originalError _ owes).mono ?_
        fun _ _ => False.elim)
      intro failures after done
      cases failures with
      | nil => exact done
      | cons first failures =>
        dsimp only
        split
        · exact done
        · exact done

/-- What a step owes where it fails is compensated. -/
theorem ends_orCompensate {step : Creation α} {returns : α → Sessions → Prop}
    (ends : step.Ends returns (fun _ => Owes service (sessionIds docs ++ held)) sessions) :
    (orCompensate service world docs step).Ends returns (fun _ => Owes service held) sessions := by
  refine Program.ends_bind.mpr (Program.ends_attempt.mpr (ends.mono (fun _ _ => id) ?_))
  intro error after owes
  exact Program.ends_bind.mpr ((ends_compensatePaymentSessions error owes).mono
    (fun _ _ => id) fun _ _ => id)

theorem ends_requestSession (paymentCd : String) (holds : Holds service held sessions) :
    (requestSession service world paymentCd).Ends
      (fun session after => session.filter (· != "") = session ∧
        Holds service (held ++ session.toList) after)
      (fun _ => Holds service held) sessions := by
  unfold requestSession
  split_ifs with free absent
  · refine ⟨rfl, ?_⟩
    show Holds service (held ++ []) sessions
    rw [List.append_nil]
    exact holds
  · exact holds
  · refine ends_ask.mpr ?_
    split
    · exact holds.tick
    · split
      · exact holds.tick
      · rename_i session truthy
        have provided : service.paymentProvider = true := by simpa using absent
        have nonempty := (Option.filter_eq_some_iff.mp truthy).2
        exact ⟨Option.filter_eq_some_iff.mpr ⟨rfl, nonempty⟩, holds.tick.provide provided⟩

theorem sessionIds_singleton (document : Document δ) :
    sessionIds [document] = document.sessionId.toList := by
  cases named : document.sessionId <;> simp [sessionIds, named]

theorem ends_buildMessageDocument (item : Item) (clientRequestItemIndex : Option Nat)
    (holds : Holds service held sessions) :
    (buildMessageDocument service world item clientRequestItemIndex).Ends
      (fun doc => Holds service (held ++ sessionIds [doc])) (fun _ => Owes service held)
      sessions := by
  refine Program.ends_bind.mpr ((ends_request _ holds).mono ?_ fun _ _ => (·.toOwes))
  intro _ middle holds
  refine Program.ends_bind.mpr ((ends_requestSession _ holds).mono ?_ fun _ _ => (·.toOwes))
  rintro session after ⟨named, holds⟩
  refine ends_ask.mpr ?_
  split
  · show Holds service (held ++ sessionIds [_]) _
    rw [sessionIds_singleton, Document.sessionId, named]
    exact holds.tick
  · cases session with
    | none =>
      show Owes service held _
      rw [← List.append_nil held]
      exact holds.tick.toOwes
    | some session =>
      have owes := holds.tick.toOwes.perm (List.perm_append_singleton session held)
      exact Program.ends_bind.mpr
        ((ends_compensatePaymentSession session _ owes).mono (fun _ _ => id) fun _ _ => id)

theorem ends_write (answers : Nat → Option WriteFailure)
    (holds : Holds service (sessionIds docs) sessions) :
    (write answers docs).Ends (fun _ => Holds service [])
      (fun _ => Owes service (sessionIds docs ++ [])) sessions := by
  rw [List.append_nil]
  refine ends_ask.mpr ?_
  cases answers sessions.calls with
  | none => exact holds.tick.store
  | some failure =>
    obtain ⟨message, committed⟩ := failure
    cases committed with
    | true => exact holds.tick.misreport
    | false => exact holds.tick.toOwes

theorem ends_persistItem (item : Item) (holds : Holds service [] sessions) :
    (persistItem service world item).Ends (fun _ => Holds service []) (fun _ => Owes service [])
      sessions := by
  refine Program.ends_bind.mpr ((ends_request _ holds).mono ?_ fun _ _ => (·.toOwes))
  intro _ after holds
  refine Program.ends_bind.mpr ((ends_buildMessageDocument item none holds).mono ?_ fun _ _ => id)
  intro doc after holds
  exact Program.ends_bind.mpr ((ends_orCompensate (ends_write world.create holds)).mono
    (fun _ _ => id) fun _ _ => id)

theorem ends_runMessageTransaction (holds : Holds service (sessionIds docs) sessions) :
    (runMessageTransaction world docs).Ends (fun _ => Holds service [])
      (fun _ => Owes service (sessionIds docs ++ [])) sessions := by
  have failed : ∀ (error : CreateError) (after : Sessions),
      Holds service (sessionIds docs) after → Owes service (sessionIds docs ++ []) after := by
    intro _ after holds
    rw [List.append_nil]
    exact holds.toOwes
  refine Program.ends_bind.mpr ((ends_request world.startSession holds).mono ?_ failed)
  exact fun _ after holds => ends_write world.withTransaction holds

theorem ends_persistPreparedBatchTransaction (holds : Holds service (sessionIds docs) sessions) :
    (persistPreparedBatchTransaction service world docs).Ends (fun _ => Holds service [])
      (fun _ => Owes service []) sessions := by
  have resolved : (orCompensate service world docs (request world.resolveModel)).Ends
      (fun _ => Holds service (sessionIds docs)) (fun _ => Owes service []) sessions := by
    refine ends_orCompensate ((ends_request world.resolveModel holds).mono (fun _ _ => id) ?_)
    intro _ later holds
    rw [List.append_nil]
    exact holds.toOwes
  refine Program.ends_bind.mpr (resolved.mono ?_ fun _ _ => id)
  intro _ after holds
  refine Program.ends_bind.mpr ((ends_orCompensate (ends_runMessageTransaction holds)).mono ?_
    fun _ _ => id)
  exact fun _ _ => id

theorem ends_buildDocuments (items : List Item) (holds : Holds service (sessionIds docs) sessions) :
    (buildDocuments service world docs items).Ends (fun docs => Holds service (sessionIds docs))
      (fun _ => Owes service []) sessions := by
  induction items generalizing docs sessions with
  | nil => exact holds
  | cons item items ih =>
    have built : (orCompensate service world docs
        (buildMessageDocument service world item (some docs.length))).Ends
          (fun doc => Holds service (sessionIds docs ++ sessionIds [doc]))
          (fun _ => Owes service []) sessions := by
      refine ends_orCompensate ((ends_buildMessageDocument item _ holds).mono (fun _ _ => id) ?_)
      intro _ later owes
      rwa [List.append_nil]
    refine Program.ends_bind.mpr (built.mono ?_ fun _ _ => id)
    intro doc after holds
    refine ih ?_
    rwa [sessionIds, List.filterMap_append]

theorem ends_persistItems (items : List Item) (holds : Holds service [] sessions) :
    (persistItems service world items).Ends (fun _ => Holds service [])
      (fun _ => Owes service []) sessions := by
  induction items generalizing sessions with
  | nil => exact holds
  | cons item items ih =>
    refine Program.ends_bind.mpr ((ends_persistItem item holds).mono ?_ fun _ _ => id)
    intro doc after holds
    exact Program.ends_bind.mpr (ih holds)

end Rules

end WebTsToolkit.MessageService.Payments
