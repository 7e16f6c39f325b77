import Mathlib.Data.List.Dedup
import Mathlib.Data.List.Forall2
import Mathlib.Data.List.Infix
import Mathlib.Logic.Function.Basic
import WebTsToolkit.AccessRouter.FieldCatalog
import WebTsToolkit.Library.TransitionSystem

set_option autoImplicit false

namespace WebTsToolkit.AccessRouter

open Js Library

namespace FieldCatalog

/-- A pattern matches segment by segment, where `$*` stands for any one segment. -/
def Matches : List String → List String → Prop :=
  List.Forall₂ fun part segment => part = "$*" ∨ part = segment

/-- The pattern matches the first segments of the path, or all of them. -/
def AtOrBelow (pattern path : List String) : Prop :=
  ∃ above rest, path = above ++ rest ∧ Matches pattern above

def StrictlyBelow (pattern path : List String) : Prop :=
  ∃ above rest, path = above ++ rest ∧ rest ≠ [] ∧ Matches pattern above

/-- What an output path has to be, in terms of its segments. -/
structure Eligible (catalog : AuthorizationFieldCatalog) (path : List String) : Prop where
  safe : ∀ segment ∈ path, safeSegment segment = true
  exposed : ∀ pattern ∈ catalog.protectedPaths, ¬ AtOrBelow (segments pattern) path
  whole : ∀ pattern ∈ catalog.referencePaths, ¬ StrictlyBelow (segments pattern) path
  actual : ∀ pattern ∈ catalog.virtualPaths, ¬ StrictlyBelow (segments pattern) path
  granted : path ∈ catalog.paths.map segments ∨
    (∃ pattern ∈ catalog.dynamicPaths, Matches (segments pattern) path) ∨
      ∃ pattern ∈ catalog.opaquePaths, AtOrBelow (segments pattern) path

theorem matchesSegments_iff (expected actual : List String) :
    matchesSegments expected actual false = true ↔ Matches expected actual := by
  induction expected generalizing actual with
  | nil => cases actual <;> simp [matchesSegments, Matches, List.forall₂_nil_left_iff]
  | cons part expected ih =>
    cases actual with
    | nil => simp [matchesSegments, Matches, List.forall₂_nil_right_iff]
    | cons segment actual =>
      have rest := ih actual
      simp only [Matches] at rest ⊢
      simp [matchesSegments, rest]

theorem matchesSegments_descendants_iff (expected actual : List String) :
    matchesSegments expected actual true = true ↔ AtOrBelow expected actual := by
  induction expected generalizing actual with
  | nil =>
    have below : AtOrBelow [] actual := ⟨[], actual, rfl, List.Forall₂.nil⟩
    cases actual <;> simp [matchesSegments, below]
  | cons part expected ih =>
    cases actual with
    | nil =>
      simp only [matchesSegments, Bool.false_eq_true, false_iff]
      rintro ⟨above, rest, same, fits⟩
      obtain ⟨rfl, -⟩ := List.append_eq_nil_iff.mp same.symm
      cases fits
    | cons segment actual =>
      simp only [matchesSegments, Bool.and_eq_true, Bool.or_eq_true, beq_iff_eq, ih]
      constructor
      · rintro ⟨here, above, rest, rfl, fits⟩
        exact ⟨segment :: above, rest, rfl, List.Forall₂.cons here fits⟩
      · rintro ⟨above, rest, same, fits⟩
        cases fits with
        | cons here fits =>
          obtain ⟨rfl, rfl⟩ := List.cons.inj same
          exact ⟨here, _, rest, rfl, fits⟩

/-- A pattern that holds `$*` nowhere has no `$*` among its segments. -/
theorem hasWildcard_of_mem {pattern : String} (member : "$*" ∈ segments pattern) :
    hasWildcard pattern = true := by
  obtain ⟨piece, listed, same⟩ := List.mem_map.mp member
  have spelled : piece = ['$', '*'] := by
    rw [← String.toList_ofList (l := piece), same]
    rfl
  obtain ⟨before, after, whole⟩ := Library.infix_of_mem_splitOn '.' listed
  rw [hasWildcard, List.any_eq_true]
  refine ⟨['$', '*'] ++ after, ?_, ?_⟩
  · rw [List.mem_tails, ← whole, spelled, List.append_assoc]
    exact List.suffix_append _ _
  · rw [List.isPrefixOf_iff_prefix]
    exact List.prefix_append _ _

theorem matches_literal {pattern : List String} (literal : "$*" ∉ pattern) (path : List String) :
    Matches pattern path ↔ pattern = path := by
  induction pattern generalizing path with
  | nil =>
    rw [Matches, List.forall₂_nil_left_iff]
    exact eq_comm
  | cons part pattern ih =>
    obtain ⟨plain, rest⟩ := not_or.mp (fun inside => literal (List.mem_cons.mpr inside))
    cases path with
    | nil => simp [Matches, List.forall₂_nil_right_iff]
    | cons segment path =>
      have fits := ih rest path
      rw [Matches] at fits ⊢
      rw [List.forall₂_cons, fits, List.cons.injEq]
      simp [Ne.symm plain]

theorem atOrBelow_literal {pattern : List String} (literal : "$*" ∉ pattern) (path : List String) :
    AtOrBelow pattern path ↔ pattern <+: path := by
  constructor
  · rintro ⟨above, rest, rfl, fits⟩
    rw [(matches_literal literal above).mp fits]
    exact List.prefix_append _ _
  · rintro ⟨rest, rfl⟩
    exact ⟨pattern, rest, rfl, (matches_literal literal pattern).mpr rfl⟩

/-- The fast path of the matcher looks one character past the prefix for a dot. -/
theorem startsWith_dot_eq (path pattern : String) :
    (startsWith path pattern && path.toList[pattern.length]? == some '.') =
      startsWith path (pattern ++ ".") := by
  rw [startsWith, startsWith, Bool.eq_iff_iff, Bool.and_eq_true, beq_iff_eq,
    List.isPrefixOf_iff_prefix, List.isPrefixOf_iff_prefix, String.toList_append]
  constructor
  · rintro ⟨⟨rest, whole⟩, dot⟩
    rw [← whole, ← String.length_toList, List.getElem?_append_right (Nat.le_refl _),
      Nat.sub_self] at dot
    obtain ⟨tail, rfl⟩ : ∃ tail, rest = '.' :: tail := by
      cases rest with
      | nil => cases dot
      | cons head tail =>
        rw [List.getElem?_cons_zero, Option.some.injEq] at dot
        exact ⟨tail, by rw [dot]⟩
    exact ⟨tail, by rw [← whole, List.append_assoc]; rfl⟩
  · rintro ⟨tail, whole⟩
    rw [← whole, List.append_assoc]
    refine ⟨List.prefix_append _ _, ?_⟩
    rw [← String.length_toList, List.getElem?_append_right (Nat.le_refl _), Nat.sub_self]
    rfl

/-- Both routes of the matcher match segments. -/
theorem matchesCatalogPattern_iff (pattern path : String) :
    matchesCatalogPattern pattern path false = true ↔
      Matches (segments pattern) (segments path) := by
  unfold matchesCatalogPattern
  split
  · exact matchesSegments_iff _ _
  · rename_i plain
    have literal : "$*" ∉ segments pattern := fun member => plain (hasWildcard_of_mem member)
    simp only [matches_literal literal, Bool.false_and, Bool.or_false, beq_iff_eq]
    exact segments_injective.eq_iff.symm

theorem matchesCatalogPattern_descendants_iff (pattern path : String) :
    matchesCatalogPattern pattern path true = true ↔
      AtOrBelow (segments pattern) (segments path) := by
  unfold matchesCatalogPattern
  split
  · exact matchesSegments_descendants_iff _ _
  · rename_i plain
    have literal : "$*" ∉ segments pattern := fun member => plain (hasWildcard_of_mem member)
    rw [atOrBelow_literal literal, Bool.true_and, startsWith_dot_eq, ← atOrBelow_iff, BEq.comm]

theorem strictlyBelow_iff (pattern path : List String) :
    StrictlyBelow pattern path ↔ AtOrBelow pattern path ∧ ¬ Matches pattern path := by
  constructor
  · rintro ⟨above, rest, rfl, nonempty, fits⟩
    refine ⟨⟨above, rest, rfl, fits⟩, ?_⟩
    intro all
    have short := fits.length_eq
    have long := all.length_eq
    have positive := List.length_pos_of_ne_nil nonempty
    rw [List.length_append] at long
    omega
  · rintro ⟨⟨above, rest, rfl, fits⟩, partial'⟩
    refine ⟨above, rest, rfl, ?_, fits⟩
    rintro rfl
    rw [List.append_nil] at partial'
    exact partial' fits

/-- The checks on a path decide whether it is eligible. -/
theorem isCatalogOutputPath_iff (catalog : AuthorizationFieldCatalog) (path : String) :
    isCatalogOutputPath catalog path = true ↔ Eligible catalog (segments path) := by
  have below (pattern : String) : (matchesCatalogPattern pattern path true &&
      !matchesCatalogPattern pattern path false) = true ↔
        StrictlyBelow (segments pattern) (segments path) := by
    rw [strictlyBelow_iff, ← matchesCatalogPattern_iff, ← matchesCatalogPattern_descendants_iff]
    simp
  have declared : catalog.paths.contains path = true ↔
      segments path ∈ catalog.paths.map segments := by
    rw [List.contains_iff_mem, List.mem_map_of_injective segments_injective]
  simp only [isCatalogOutputPath, isSafeOutputPath, Bool.and_eq_true, Bool.not_eq_true',
    ← Bool.not_eq_true, List.any_eq_true, List.all_eq_true, not_exists, not_and, below,
    matchesCatalogPattern_descendants_iff, Bool.or_eq_true, matchesCatalogPattern_iff, declared]
  constructor
  · rintro ⟨⟨⟨⟨safe, exposed⟩, whole⟩, actual⟩, granted⟩
    exact ⟨safe, exposed, whole, actual, or_assoc.mp granted⟩
  · intro eligible
    exact ⟨⟨⟨⟨eligible.safe, eligible.exposed⟩, eligible.whole⟩, eligible.actual⟩,
      or_assoc.mpr eligible.granted⟩

end FieldCatalog

namespace CatalogPreparation

open FieldCatalog

/-- The lists of a catalog that `prepareOutputCatalog` inspects, in its order. -/
inductive CatalogKey where
  | paths
  | protectedPaths
  | referencePaths
  | virtualPaths
  | dynamicPaths
  | opaquePaths
  deriving DecidableEq

def catalogKeys : List CatalogKey :=
  [.paths, .protectedPaths, .referencePaths, .virtualPaths, .dynamicPaths, .opaquePaths]

def CatalogKey.entries (catalog : AuthorizationFieldCatalog) : CatalogKey → List String
  | .paths => catalog.paths
  | .protectedPaths => catalog.protectedPaths
  | .referencePaths => catalog.referencePaths
  | .virtualPaths => catalog.virtualPaths
  | .dynamicPaths => catalog.dynamicPaths
  | .opaquePaths => catalog.opaquePaths

/-- What the inspection of a list finds: an ordinary array is no proxy and has the prototype
`Array.prototype`, a dense one has an own string at each index. -/
structure ListShape where
  ordinary : Bool
  frozen : Bool
  ownKeys : Nat
  dense : Bool

/-- A catalog that does not change any more. A key that is no own data property has no shape. -/
structure CapturedCatalog where
  catalog : AuthorizationFieldCatalog
  ordinary : Bool
  frozen : Bool
  shape : CatalogKey → Option ListShape

/-- A value of `preparedOutputCatalogs`: the number of lookups, `false`, or a set of the paths
and a map of the results. -/
inductive Prepared where
  | counting (lookups : Nat)
  | refused
  | indexed (paths : List String) (results : List (String × Bool))

/-- `ownedCatalogs` and `preparedOutputCatalogs`, by the identity of the catalog. -/
structure State (Id : Type) where
  owned : Id → Bool
  prepared : Id → Option Prepared

/-- A lookup that is abandoned is one whose work or payload exceeds its budget on the way. -/
inductive Event (Id : Type) where
  | capture (id : Id)
  | prepare (id : Id)
  | clear (id : Id)
  | lookup (id : Id) (path : String)
  | abandon (id : Id)

def admitsList (captured : CapturedCatalog) (key : CatalogKey) : Bool :=
  match captured.shape key with
  | none => false
  | some shape =>
    let length := (key.entries captured.catalog).length
    shape.ordinary && shape.frozen && length ≤ 20000 && shape.ownKeys == length + 1 &&
      shape.dense

def prepareOutputCatalog (captured : CapturedCatalog) : Prepared :=
  if captured.ordinary && captured.frozen && catalogKeys.all (admitsList captured) then
    .indexed captured.catalog.paths.dedup []
  else .refused

def catalogOutputPath (catalog : AuthorizationFieldCatalog) (path : String)
    (paths : Option (List String)) : Bool :=
  isSafeOutputPath path &&
    !(catalog.protectedPaths.any fun entry => matchesCatalogPattern entry path true) &&
    !(catalog.referencePaths.any fun entry =>
      matchesCatalogPattern entry path true && !matchesCatalogPattern entry path false) &&
    !(catalog.virtualPaths.any fun entry =>
      matchesCatalogPattern entry path true && !matchesCatalogPattern entry path false) &&
    ((match paths with
        | some paths => paths.contains path
        | none => catalog.paths.any (· == path)) ||
      catalog.dynamicPaths.any (matchesCatalogPattern · path false) ||
      catalog.opaquePaths.any (matchesCatalogPattern · path true))

/-- The preparation after one more lookup. -/
def counted (captured : CapturedCatalog) : Option Prepared → Option Prepared
  | some (.counting lookups) =>
    if lookups + 1 < 32 then some (.counting (lookups + 1))
    else some (prepareOutputCatalog captured)
  | prepared => prepared

/-- The answer to a lookup that has been counted, with what is kept of it. -/
def answer (captured : CapturedCatalog) (path : String) :
    Option Prepared → Bool × Option Prepared
  | some (.indexed paths results) =>
    match results.lookup path with
    | some cached => (cached, some (.indexed paths results))
    | none =>
      let allowed := catalogOutputPath captured.catalog path (some paths)
      (allowed, some (.indexed paths
        (if results.length < 20000 then results ++ [(path, allowed)] else results)))
  | prepared => (catalogOutputPath captured.catalog path none, prepared)

variable {Id : Type} [DecidableEq Id] (catalogs : Id → CapturedCatalog)

def State.set (state : State Id) (id : Id) (prepared : Option Prepared) : State Id :=
  { state with prepared := Function.update state.prepared id prepared }

def prepareCapturedOutputCatalog (state : State Id) (id : Id) : State Id :=
  if (state.prepared id).isSome then state
  else
    state.set id (some (if state.owned id then .indexed (catalogs id).catalog.paths.dedup []
      else .counting 0))

def clearCapturedOutputCatalog (state : State Id) (id : Id) : State Id :=
  { state.set id none with owned := Function.update state.owned id false }

def isCatalogOutputPath (state : State Id) (id : Id) (path : String) : Bool × State Id :=
  let answered := answer (catalogs id) path (counted (catalogs id) (state.prepared id))
  (answered.1, state.set id answered.2)

def step (state : State Id) : Event Id → Option (State Id)
  | .capture id => some { state with owned := Function.update state.owned id true }
  | .prepare id => some (prepareCapturedOutputCatalog catalogs state id)
  | .clear id => some (clearCapturedOutputCatalog state id)
  | .lookup id path => some (isCatalogOutputPath catalogs state id path).2
  | .abandon id => some (state.set id (counted (catalogs id) (state.prepared id)))

def system : TransitionSystem (State Id) (Event Id) where
  start := { owned := fun _ => false, prepared := fun _ => none }
  step := step catalogs

/-- An index holds the paths of its catalog and results of the checks. -/
def Prepared.Sound (catalog : AuthorizationFieldCatalog) : Prepared → Prop
  | .indexed paths results => (∀ path, path ∈ paths ↔ path ∈ catalog.paths) ∧
      ∀ path allowed, results.lookup path = some allowed →
        allowed = FieldCatalog.isCatalogOutputPath catalog path
  | _ => True

theorem catalogOutputPath_none (catalog : AuthorizationFieldCatalog) (path : String) :
    catalogOutputPath catalog path none = FieldCatalog.isCatalogOutputPath catalog path := by
  have same : catalog.paths.any (· == path) = catalog.paths.contains path := by
    rw [Bool.eq_iff_iff]
    simp
  simp only [catalogOutputPath, FieldCatalog.isCatalogOutputPath, same]

/-- The index only replaces the scan of the paths. -/
theorem catalogOutputPath_some {catalog : AuthorizationFieldCatalog} {paths : List String}
    (same : ∀ path, path ∈ paths ↔ path ∈ catalog.paths) (path : String) :
    catalogOutputPath catalog path (some paths) =
      FieldCatalog.isCatalogOutputPath catalog path := by
  have contains : paths.contains path = catalog.paths.contains path := by
    rw [Bool.eq_iff_iff]
    simp [same]
  simp only [catalogOutputPath, FieldCatalog.isCatalogOutputPath, contains]

theorem sound_indexed (catalog : AuthorizationFieldCatalog) :
    (Prepared.indexed catalog.paths.dedup []).Sound catalog := by
  refine ⟨fun path => List.mem_dedup, ?_⟩
  intro path allowed found
  cases found

theorem sound_prepareOutputCatalog (captured : CapturedCatalog) :
    (prepareOutputCatalog captured).Sound captured.catalog := by
  unfold prepareOutputCatalog
  split
  · exact sound_indexed captured.catalog
  · trivial

variable {prepared : Option Prepared}

theorem sound_counted {captured : CapturedCatalog}
    (sound : ∀ value ∈ prepared, value.Sound captured.catalog) :
    ∀ value ∈ counted captured prepared, value.Sound captured.catalog := by
  unfold counted
  split
  · split
    · intro value member
      cases member
      trivial
    · intro value member
      cases member
      exact sound_prepareOutputCatalog captured
  · exact sound

/-- The answer is that of the checks, whatever the preparation, and so is what is kept of it. -/
theorem answer_sound {captured : CapturedCatalog}
    (sound : ∀ value ∈ prepared, value.Sound captured.catalog) (path : String) :
    (answer captured path prepared).1 =
        FieldCatalog.isCatalogOutputPath captured.catalog path ∧
      ∀ value ∈ (answer captured path prepared).2, value.Sound captured.catalog := by
  unfold answer
  split
  · rename_i paths results
    obtain ⟨same, kept⟩ := sound _ rfl
    split
    · rename_i cached found
      exact ⟨kept path cached found, sound⟩
    · rename_i missed
      have checked := catalogOutputPath_some same path
      refine ⟨checked, ?_⟩
      intro value member
      cases member
      refine ⟨same, ?_⟩
      intro other allowed found
      split at found
      · rw [List.lookup_append] at found
        rcases earlier : results.lookup other with _ | cached
        · rw [earlier, Option.none_or, List.lookup_cons] at found
          split at found
          · rename_i asked
            rw [← Option.some.inj found, checked, beq_iff_eq.mp asked]
          · cases found
        · rw [earlier, Option.some_or] at found
          exact kept other allowed (earlier.trans found)
      · exact kept other allowed found
  · exact ⟨catalogOutputPath_none captured.catalog path, sound⟩

/-- Every preparation belongs to its catalog. -/
def Sound (state : State Id) : Prop :=
  ∀ id, ∀ value ∈ state.prepared id, value.Sound (catalogs id).catalog

variable {catalogs}

theorem Sound.set {state : State Id} (sound : Sound catalogs state) {id : Id}
    (fits : ∀ value ∈ prepared, value.Sound (catalogs id).catalog) :
    Sound catalogs (state.set id prepared) := by
  intro other value member
  by_cases same : other = id
  · subst same
    simp only [State.set, Function.update_self] at member
    exact fits value member
  · simp only [State.set, Function.update_of_ne same] at member
    exact sound other value member

theorem sound_step {state next : State Id} {event : Event Id} (sound : Sound catalogs state)
    (taken : step catalogs state event = some next) : Sound catalogs next := by
  cases event <;> rw [← Option.some.inj taken]
  case capture id => exact sound
  case prepare id =>
    unfold prepareCapturedOutputCatalog
    split
    · exact sound
    · apply sound.set
      intro value member
      cases member
      split
      · exact sound_indexed _
      · trivial
  case clear id =>
    have cleared : Sound catalogs (state.set id none) := sound.set (by simp)
    exact cleared
  case lookup id path =>
    exact sound.set (answer_sound (sound_counted (sound id)) path).2
  case abandon id => exact sound.set (sound_counted (sound id))

/-- For all catalogs, after any captures, preparations, settlements and lookups in any order. -/
theorem isCatalogOutputPath_reference {state : State Id}
    (reached : (system catalogs).Reachable state) (id : Id) (path : String) :
    (isCatalogOutputPath catalogs state id path).1 = true ↔
      Eligible (catalogs id).catalog (segments path) := by
  have sound : Sound catalogs state := by
    apply reached.invariant
    · intro other value member
      cases member
    · intro state event next sound taken
      exact sound_step sound taken
  rw [← FieldCatalog.isCatalogOutputPath_iff]
  have same := (answer_sound (sound_counted (sound id)) path).1
  rw [← same]
  rfl

/-- A schema with a map of prices and a mixed field, whose owner is a reference. -/
def storeCatalog : CapturedCatalog where
  catalog :=
    { paths := ["name", "owner"]
      persistedPaths := none
      arrayPaths := []
      schemaVirtualPaths := []
      metadataPaths := []
      dynamicPaths := ["prices.$*"]
      containerPaths := []
      virtualPaths := []
      virtualScopePaths := []
      opaquePaths := ["extra"]
      referencePaths := ["owner"]
      protectedPaths := ["_permissions"] }
  ordinary := true
  frozen := true
  shape := fun _ => none

/-- The catalog was indexed when it was captured, and has been asked once. -/
def askedState : State Nat :=
  (isCatalogOutputPath (fun _ => storeCatalog)
    (prepareCapturedOutputCatalog (fun _ => storeCatalog)
      { owned := Function.update (fun _ => false) 0 true, prepared := fun _ => none } 0)
    0 "prices.eur").2

theorem isCatalogOutputPath_reference_askedState :
    (isCatalogOutputPath (fun _ => storeCatalog) askedState 0 "prices.eur").1 = true ↔
      Eligible storeCatalog.catalog (segments "prices.eur") := by
  have ran : (system fun _ => storeCatalog).run [.capture 0, .prepare 0, .lookup 0 "prices.eur"] =
      some askedState := rfl
  exact isCatalogOutputPath_reference (TransitionSystem.Reachable.of_run ran) 0 "prices.eur"

end CatalogPreparation

end WebTsToolkit.AccessRouter
