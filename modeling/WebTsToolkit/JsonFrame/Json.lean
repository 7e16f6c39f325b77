import WebTsToolkit.Js.Json
import WebTsToolkit.Js.Numeral
import WebTsToolkit.JsonFrame.Types
import WebTsToolkit.Library.Outcome

set_option autoImplicit false

namespace WebTsToolkit.JsonFrame

open Js

/-- `JSON_FRAME_MAX_DEPTH`. -/
def maxDepth : Nat := 1000

/-- `IDENTIFIER_PATTERN`. -/
def isIdentifier (key : String) : Bool :=
  match key.toList with
  | first :: rest =>
    (isLetter first || first == '_' || first == '$') &&
      rest.all fun c => isLetter c || isDigit c || c == '_' || c == '$'
  | [] => false

def appendPropertyPath (path key : String) : String :=
  if isIdentifier key then path ++ "." ++ key
  else path ++ "[" ++ Json.stringifyString key ++ "]"

def appendIndexPath (path : String) (index : Nat) : String :=
  path ++ "[" ++ index.repr ++ "]"

/-- One pass over a payload: its orient where it is known, and the number of nodes that it may
visit. -/
structure Traversal where
  orient : Option ResolvedOrient := none
  maxNodes : Option Nat := none

namespace Traversal

/-- `throwValidation`. -/
def refusal (traversal : Traversal) (message path : String) : JsonFrameError :=
  .validation message { orient := traversal.orient, path := some path }

/-- `createNodeBudget`. -/
def charge (traversal : Traversal) (path : String) :
    Option Nat → Except JsonFrameError (Option Nat)
  | none => .ok none
  | some 0 => .error (traversal.refusal ("JSON traversal exceeds maxNodes budget of " ++
      (traversal.maxNodes.getD 0).repr ++ ".") path)
  | some (remaining + 1) => .ok (some remaining)

/-- What `createFrame` requires of a container. -/
def enter (traversal : Traversal) (depth : Nat) (path : String) (remaining : Option Nat) :
    Except JsonFrameError (Option Nat) := do
  let remaining ← traversal.charge path remaining
  if maxDepth < depth then
    .error (traversal.refusal ("JSON input exceeds the maximum supported nesting depth of " ++
      maxDepth.repr ++ ".") path)
  else return remaining

mutual

/-- `cloneJsonCompatible`, with the nodes that remain afterwards. The value is a tree: an input
with a cycle, which is refused, is not represented. -/
def cloneValue (traversal : Traversal) (depth : Nat) (path : String) (remaining : Option Nat) :
    Value → Except JsonFrameError (Value × Option Nat)
  | .hole => .error (traversal.refusal "Sparse arrays are not valid JSON input." path)
  | .array items => do
    let remaining ← traversal.enter depth path remaining
    let (items, remaining) ← cloneItems traversal (depth + 1) path 0 remaining items
    return (.array items, remaining)
  | .object entries => do
    let remaining ← traversal.enter depth path remaining
    let (entries, remaining) ← cloneEntries traversal (depth + 1) path remaining entries
    return (.object entries, remaining)
  | .date _ | .regexp _ _ | .classed _ _ => do
    let _ ← traversal.enter depth path remaining
    .error (traversal.refusal "Input objects must be plain JSON objects or arrays." path)
  | .number text => do
    let remaining ← traversal.charge path remaining
    if isFiniteText text then return (.number text, remaining)
    else .error (traversal.refusal "Numbers must be finite JSON values." path)
  | .undefined | .callable _ | .symbol _ | .bigint _ => do
    let _ ← traversal.charge path remaining
    .error (traversal.refusal "Input must contain only JSON-compatible values." path)
  | scalar => do
    let remaining ← traversal.charge path remaining
    return (scalar, remaining)

def cloneItems (traversal : Traversal) (depth : Nat) (path : String) (index : Nat)
    (remaining : Option Nat) : List Value → Except JsonFrameError (List Value × Option Nat)
  | [] => .ok ([], remaining)
  | item :: rest => do
    let (item, remaining) ←
      cloneValue traversal depth (appendIndexPath path index) remaining item
    let (rest, remaining) ← cloneItems traversal depth path (index + 1) remaining rest
    return (item :: rest, remaining)

def cloneEntries (traversal : Traversal) (depth : Nat) (path : String)
    (remaining : Option Nat) :
    List (String × Value) → Except JsonFrameError (List (String × Value) × Option Nat)
  | [] => .ok ([], remaining)
  | (key, value) :: rest => do
    let (value, remaining) ←
      cloneValue traversal depth (appendPropertyPath path key) remaining value
    let (rest, remaining) ← cloneEntries traversal depth path remaining rest
    return ((key, value) :: rest, remaining)

end

end Traversal

def cloneJsonCompatible (value : Value) (orient : Option ResolvedOrient) (path : String)
    (maxNodes : Option Nat) : Except JsonFrameError Value := do
  let (value, _) ← ({ orient, maxNodes } : Traversal).cloneValue 0 path maxNodes value
  return value

mutual

/-- JSON whose containers, the outermost one at this depth, nest no deeper than allowed. -/
def isJsonAt (depth : Nat) : Value → Bool
  | .null | .bool _ | .string _ => true
  | .number text => isFiniteText text
  | .array items => depth ≤ maxDepth && isJsonAtItems (depth + 1) items
  | .object entries => depth ≤ maxDepth && isJsonAtEntries (depth + 1) entries
  | _ => false

def isJsonAtItems (depth : Nat) : List Value → Bool
  | [] => true
  | item :: rest => isJsonAt depth item && isJsonAtItems depth rest

def isJsonAtEntries (depth : Nat) : List (String × Value) → Bool
  | [] => true
  | (_, value) :: rest => isJsonAt depth value && isJsonAtEntries depth rest

end

theorem isJsonAtItems_iff (depth : Nat) (items : List Value) :
    isJsonAtItems depth items = true ↔ ∀ item ∈ items, isJsonAt depth item = true := by
  induction items with
  | nil => simp [isJsonAtItems]
  | cons item rest ih => simp [isJsonAtItems, ih]

theorem isJsonAtEntries_iff (depth : Nat) (entries : Entries) :
    isJsonAtEntries depth entries = true ↔
      ∀ entry ∈ entries, isJsonAt depth entry.2 = true := by
  induction entries with
  | nil => simp [isJsonAtEntries]
  | cons entry rest ih => simp [isJsonAtEntries, ih]

theorem isJsonAt_array (depth : Nat) (items : List Value) :
    isJsonAt depth (.array items) = true ↔
      depth ≤ maxDepth ∧ ∀ item ∈ items, isJsonAt (depth + 1) item = true := by
  rw [isJsonAt, Bool.and_eq_true, decide_eq_true_eq, isJsonAtItems_iff]

theorem isJsonAt_object (depth : Nat) (entries : Entries) :
    isJsonAt depth (.object entries) = true ↔
      depth ≤ maxDepth ∧ ∀ entry ∈ entries, isJsonAt (depth + 1) entry.2 = true := by
  rw [isJsonAt, Bool.and_eq_true, decide_eq_true_eq, isJsonAtEntries_iff]

/-- What fits below some containers fits below fewer of them. -/
theorem isJsonAt_mono {depth less : Nat} {value : Value} (fits : isJsonAt depth value = true)
    (smaller : less ≤ depth) : isJsonAt less value = true := by
  induction value using Value.induction generalizing depth less with
  | array items ih =>
    rw [isJsonAt_array] at fits ⊢
    have inside : less ≤ maxDepth := by
      have bound := fits.1
      omega
    exact ⟨inside, fun item member => ih item member (fits.2 item member) (by omega)⟩
  | object entries ih =>
    rw [isJsonAt_object] at fits ⊢
    have inside : less ≤ maxDepth := by
      have bound := fits.1
      omega
    exact ⟨inside, fun entry member => ih entry member (fits.2 entry member) (by omega)⟩
  | classed kind fields => contradiction
  | leaf value plain =>
    cases value <;> first | exact fits | contradiction

namespace Traversal

variable {traversal : Traversal} {depth : Nat} {path : String}

theorem enter_eq_ok {remaining left : Option Nat}
    (entered : traversal.enter depth path remaining = .ok left) : depth ≤ maxDepth := by
  obtain ⟨_, _, checked⟩ := Library.bind_eq_ok entered
  by_contra deep
  rw [if_pos (by omega)] at checked
  contradiction

theorem enter_unbounded (path : String) (inside : depth ≤ maxDepth) :
    traversal.enter depth path none = .ok none := by
  show (if maxDepth < depth then _ else _) = _
  rw [if_neg (by omega)]
  rfl

/-- Items that each keep their content keep it together. -/
theorem cloneItems_eq_ok {items : List Value} (each : ∀ item ∈ items, ∀ path remaining left cloned,
      traversal.cloneValue depth path remaining item = .ok (cloned, left) →
        cloned = item ∧ isJsonAt depth item = true) :
    ∀ index remaining left copies,
      traversal.cloneItems depth path index remaining items = .ok (copies, left) →
        copies = items ∧ ∀ item ∈ items, isJsonAt depth item = true := by
  induction items with
  | nil =>
    intro index remaining left copies accepted
    obtain ⟨rfl, _⟩ := Prod.mk.inj (Except.ok.inj accepted)
    exact ⟨rfl, fun _ member => absurd member List.not_mem_nil⟩
  | cons item items ih =>
    intro index remaining left copies accepted
    rw [cloneItems] at accepted
    obtain ⟨⟨first, between⟩, here, accepted⟩ := Library.bind_eq_ok accepted
    obtain ⟨⟨others, final⟩, later, same⟩ := Library.bind_eq_ok accepted
    obtain ⟨rfl, _⟩ := Prod.mk.inj (Except.ok.inj same)
    obtain ⟨firstSame, firstFits⟩ := each item List.mem_cons_self _ _ _ _ here
    obtain ⟨othersSame, othersFit⟩ :=
      ih (fun other member => each other (List.mem_cons_of_mem _ member)) _ _ _ _ later
    exact ⟨by rw [firstSame, othersSame], List.forall_mem_cons.mpr ⟨firstFits, othersFit⟩⟩

theorem cloneEntries_eq_ok {entries : Entries}
    (each : ∀ entry ∈ entries, ∀ path remaining left cloned,
      traversal.cloneValue depth path remaining entry.2 = .ok (cloned, left) →
        cloned = entry.2 ∧ isJsonAt depth entry.2 = true) :
    ∀ remaining left copies,
      traversal.cloneEntries depth path remaining entries = .ok (copies, left) →
        copies = entries ∧ ∀ entry ∈ entries, isJsonAt depth entry.2 = true := by
  induction entries with
  | nil =>
    intro remaining left copies accepted
    obtain ⟨rfl, _⟩ := Prod.mk.inj (Except.ok.inj accepted)
    exact ⟨rfl, fun _ member => absurd member List.not_mem_nil⟩
  | cons entry entries ih =>
    intro remaining left copies accepted
    rw [cloneEntries] at accepted
    obtain ⟨⟨first, between⟩, here, accepted⟩ := Library.bind_eq_ok accepted
    obtain ⟨⟨others, final⟩, later, same⟩ := Library.bind_eq_ok accepted
    obtain ⟨rfl, _⟩ := Prod.mk.inj (Except.ok.inj same)
    obtain ⟨firstSame, firstFits⟩ := each entry List.mem_cons_self _ _ _ _ here
    obtain ⟨othersSame, othersFit⟩ :=
      ih (fun other member => each other (List.mem_cons_of_mem _ member)) _ _ _ later
    exact ⟨by rw [firstSame, othersSame], List.forall_mem_cons.mpr ⟨firstFits, othersFit⟩⟩

/-- An accepted value is JSON, and its clone has the same content. -/
theorem cloneValue_eq_ok {remaining left : Option Nat} {value cloned : Value}
    (accepted : traversal.cloneValue depth path remaining value = .ok (cloned, left)) :
    cloned = value ∧ isJsonAt depth value = true := by
  induction value using Value.induction generalizing depth path remaining left cloned with
  | array items ih =>
    rw [cloneValue] at accepted
    obtain ⟨between, entered, accepted⟩ := Library.bind_eq_ok accepted
    obtain ⟨⟨copies, rest⟩, each, same⟩ := Library.bind_eq_ok accepted
    obtain ⟨rfl, _⟩ := Prod.mk.inj (Except.ok.inj same)
    obtain ⟨rfl, fit⟩ := cloneItems_eq_ok
      (fun item member path remaining left cloned here => ih item member here) _ _ _ _ each
    exact ⟨rfl, (isJsonAt_array _ _).mpr ⟨enter_eq_ok entered, fit⟩⟩
  | object entries ih =>
    rw [cloneValue] at accepted
    obtain ⟨between, entered, accepted⟩ := Library.bind_eq_ok accepted
    obtain ⟨⟨copies, rest⟩, each, same⟩ := Library.bind_eq_ok accepted
    obtain ⟨rfl, _⟩ := Prod.mk.inj (Except.ok.inj same)
    obtain ⟨rfl, fit⟩ := cloneEntries_eq_ok
      (fun entry member path remaining left cloned here => ih entry member here) _ _ _ each
    exact ⟨rfl, (isJsonAt_object _ _).mpr ⟨enter_eq_ok entered, fit⟩⟩
  | classed kind fields =>
    obtain ⟨_, _, refused⟩ := Library.bind_eq_ok accepted
    contradiction
  | leaf value plain =>
    cases value with
    | number text =>
      obtain ⟨_, _, accepted⟩ := Library.bind_eq_ok accepted
      split at accepted
      · next finite => exact ⟨(Prod.mk.inj (Except.ok.inj accepted)).1.symm, finite⟩
      · contradiction
    | null | bool | string =>
      obtain ⟨_, _, same⟩ := Library.bind_eq_ok accepted
      exact ⟨(Prod.mk.inj (Except.ok.inj same)).1.symm, rfl⟩
    | array | object | classed | hole => contradiction
    | _ =>
      obtain ⟨_, _, refused⟩ := Library.bind_eq_ok accepted
      contradiction

theorem cloneItems_unbounded {items : List Value} (each : ∀ item ∈ items, ∀ path,
      traversal.cloneValue depth path none item = .ok (item, none)) :
    ∀ index, traversal.cloneItems depth path index none items = .ok (items, none) := by
  induction items with
  | nil => exact fun _ => rfl
  | cons item items ih =>
    intro index
    have later := ih (fun other member => each other (List.mem_cons_of_mem _ member))
    rw [cloneItems, each item List.mem_cons_self]
    show (cloneItems traversal depth path (index + 1) none items >>= _) = _
    rw [later]
    rfl

theorem cloneEntries_unbounded {entries : Entries} (each : ∀ entry ∈ entries, ∀ path,
      traversal.cloneValue depth path none entry.2 = .ok (entry.2, none)) :
    traversal.cloneEntries depth path none entries = .ok (entries, none) := by
  induction entries with
  | nil => rfl
  | cons entry entries ih =>
    have later := ih (fun other member => each other (List.mem_cons_of_mem _ member))
    rw [cloneEntries, each entry List.mem_cons_self]
    show (cloneEntries traversal depth path none entries >>= _) = _
    rw [later]
    rfl

/-- Without a budget all JSON that nests no deeper than allowed is accepted. -/
theorem cloneValue_unbounded (path : String) {value : Value} (fits : isJsonAt depth value = true) :
    traversal.cloneValue depth path none value = .ok (value, none) := by
  induction value using Value.induction generalizing depth path with
  | array items ih =>
    obtain ⟨inside, members⟩ := (isJsonAt_array _ _).mp fits
    rw [cloneValue, enter_unbounded path inside]
    show (cloneItems traversal (depth + 1) path 0 none items >>= _) = _
    rw [cloneItems_unbounded fun item member path => ih item member path (members item member)]
    rfl
  | object entries ih =>
    obtain ⟨inside, members⟩ := (isJsonAt_object _ _).mp fits
    rw [cloneValue, enter_unbounded path inside]
    show (cloneEntries traversal (depth + 1) path none entries >>= _) = _
    rw [cloneEntries_unbounded fun entry member path =>
      ih entry member path (members entry member)]
    rfl
  | classed kind fields => contradiction
  | leaf value plain =>
    cases value with
    | number text =>
      have finite : isFiniteText text = true := fits
      show (if isFiniteText text then _ else _) = _
      rw [if_pos finite]
      rfl
    | null | bool | string => rfl
    | _ => contradiction

end Traversal

/-- What a traversal without a budget accepts. -/
theorem cloneJsonCompatible_eq_ok {value cloned : Value} {orient : Option ResolvedOrient}
    {path : String} {maxNodes : Option Nat}
    (accepted : cloneJsonCompatible value orient path maxNodes = .ok cloned) :
    cloned = value ∧ isJsonAt 0 value = true := by
  obtain ⟨⟨copy, left⟩, visited, same⟩ := Library.bind_eq_ok accepted
  obtain ⟨copied, fits⟩ := Traversal.cloneValue_eq_ok visited
  exact ⟨(Except.ok.inj same).symm.trans copied, fits⟩

theorem cloneJsonCompatible_unbounded {value : Value} (orient : Option ResolvedOrient)
    (path : String) (fits : isJsonAt 0 value = true) :
    cloneJsonCompatible value orient path none = .ok value := by
  rw [cloneJsonCompatible, Traversal.cloneValue_unbounded path fits]
  rfl

example : cloneJsonCompatible (.array [.bool true, .hole]) none "$" none =
    .error (.validation "Sparse arrays are not valid JSON input." { path := some "$[1]" }) := by
  rfl

end WebTsToolkit.JsonFrame
