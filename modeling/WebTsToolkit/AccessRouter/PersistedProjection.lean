import WebTsToolkit.Js.Text
import WebTsToolkit.Library.Roots

set_option autoImplicit false

namespace WebTsToolkit.AccessRouter.Projection

open Js Library

/-- `text.indexOf('.', start)`, with the characters of the text counted. -/
def indexOfDot (text : String) (start : Nat) : Option Nat :=
  ((text.toList.drop start).findIdx? (· == '.')).map (start + ·)

/-- `text.slice(0, stop)`. -/
def sliceTo (text : String) (stop : Nat) : String :=
  String.ofList (text.toList.take stop)

theorem indexOfDot_eq_some {text : String} {start stop : Nat}
    (found : indexOfDot text start = some stop) :
    start ≤ stop ∧ text.toList[stop]? = some '.' ∧
      ∀ position, start ≤ position → position < stop → text.toList[position]? ≠ some '.' := by
  obtain ⟨offset, first, rfl⟩ := Option.map_eq_some_iff.mp found
  obtain ⟨within, dot, none⟩ := List.findIdx?_eq_some_iff_getElem.mp first
  have lookup (index : Nat) : (text.toList.drop start)[index]? = text.toList[start + index]? :=
    List.getElem?_drop
  refine ⟨Nat.le_add_right _ _, ?_, ?_⟩
  · rw [← lookup, List.getElem?_eq_getElem within]
    simpa using dot
  · intro position lower upper here
    obtain ⟨index, rfl⟩ := Nat.exists_eq_add_of_le lower
    rw [← lookup] at here
    obtain ⟨inside, same⟩ := List.getElem?_eq_some_iff.mp here
    have other := none index (by omega)
    simp [same] at other

theorem indexOfDot_eq_none {text : String} {start : Nat} (absent : indexOfDot text start = none)
    {position : Nat} (lower : start ≤ position) : text.toList[position]? ≠ some '.' := by
  intro here
  obtain ⟨index, rfl⟩ := Nat.exists_eq_add_of_le lower
  rw [← List.getElem?_drop] at here
  have nowhere := List.findIdx?_eq_none_iff.mp (Option.map_eq_none_iff.mp absent)
  have dot := nowhere '.' (List.mem_of_getElem? here)
  simp at dot

/-- The loop over the dots of a path from `start` on: a part before one of them is a candidate. -/
def coveredFrom (candidates : List String) (path : String) (start : Nat) : Bool :=
  match found : indexOfDot path start with
  | none => false
  | some stop =>
    if candidates.contains (sliceTo path stop) then true
    else coveredFrom candidates path (stop + 1)
termination_by path.toList.length - start
decreasing_by
  obtain ⟨lower, dot, -⟩ := indexOfDot_eq_some found
  have within := (List.getElem?_eq_some_iff.mp dot).1
  omega

/-- `p && !p.startsWith('-')`. -/
def isEligible (path : String) : Bool :=
  path != "" && !startsWith path "-"

def compactPersistedProjection (paths : List String) : List String :=
  let unique := (paths.filter isEligible).eraseDups
  unique.filter fun path => !coveredFrom unique path 0

/-- A strict dotted ancestor. -/
def Above (ancestor path : String) : Prop :=
  ∃ rest, path = ancestor ++ "." ++ rest

/-- The subtree of a path. -/
def AtOrAbove (ancestor path : String) : Prop :=
  ancestor = path ∨ Above ancestor path

theorem Above.trans {upper middle lower : String} (first : Above upper middle)
    (second : Above middle lower) : Above upper lower := by
  obtain ⟨rest, rfl⟩ := first
  obtain ⟨rest', rfl⟩ := second
  refine ⟨rest ++ "." ++ rest', ?_⟩
  simp only [String.append_assoc]

theorem Above.length_lt {upper lower : String} (above : Above upper lower) :
    upper.toList.length < lower.toList.length := by
  obtain ⟨rest, rfl⟩ := above
  have dot : ".".toList = ['.'] := rfl
  simp only [String.toList_append, dot, List.length_append, List.length_cons]
  omega

theorem AtOrAbove.trans {upper middle lower : String} (first : AtOrAbove upper middle)
    (second : AtOrAbove middle lower) : AtOrAbove upper lower := by
  rcases first with rfl | first
  · exact second
  · rcases second with rfl | second
    · exact Or.inr first
    · exact Or.inr (first.trans second)

/-- The ancestors of a path are its parts before its dots. -/
theorem above_iff (ancestor path : String) :
    Above ancestor path ↔
      ∃ stop : Nat, path.toList[stop]? = some '.' ∧ sliceTo path stop = ancestor := by
  constructor
  · rintro ⟨rest, rfl⟩
    have dot : ".".toList = ['.'] := rfl
    refine ⟨ancestor.toList.length, ?_, ?_⟩
    · simp [String.toList_append, dot]
    · simp [sliceTo, String.toList_append, String.ofList_toList]
  · rintro ⟨stop, dot, rfl⟩
    refine ⟨String.ofList (path.toList.drop (stop + 1)), ?_⟩
    obtain ⟨within, here⟩ := List.getElem?_eq_some_iff.mp dot
    apply String.toList_inj.mp
    have mark : ".".toList = ['.'] := rfl
    simp only [String.toList_append, sliceTo, String.toList_ofList, mark]
    calc path.toList = path.toList.take stop ++ path.toList.drop stop :=
          (List.take_append_drop stop _).symm
      _ = _ := by
          rw [List.drop_eq_getElem_cons within, here, List.append_assoc, List.singleton_append]

/-- Only the parts before the dots from `start` on are looked up. -/
theorem coveredFrom_iff (candidates : List String) (path : String) (start : Nat) :
    coveredFrom candidates path start = true ↔
      ∃ stop, start ≤ stop ∧ path.toList[stop]? = some '.' ∧ sliceTo path stop ∈ candidates := by
  induction start using coveredFrom.induct candidates path with
  | case1 start absent =>
    rw [coveredFrom, absent]
    simp only [Bool.false_eq_true, false_iff]
    rintro ⟨stop, lower, dot, -⟩
    exact indexOfDot_eq_none absent lower dot
  | case2 start stop found listed =>
    obtain ⟨lower, dot, -⟩ := indexOfDot_eq_some found
    rw [coveredFrom, found]
    simp only [listed, ↓reduceIte, true_iff]
    exact ⟨stop, lower, dot, List.contains_iff_mem.mp listed⟩
  | case3 start stop found unlisted ih =>
    obtain ⟨lower, dot, first⟩ := indexOfDot_eq_some found
    rw [coveredFrom, found]
    simp only [unlisted, Bool.false_eq_true, ↓reduceIte]
    rw [ih]
    constructor
    · rintro ⟨later, above, rest⟩
      exact ⟨later, by omega, rest⟩
    · rintro ⟨later, above, here, listed⟩
      refine ⟨later, ?_, here, listed⟩
      rcases Nat.lt_trichotomy later stop with before | same | after
      · exact absurd here (first later above before)
      · subst same
        exact absurd (List.contains_iff_mem.mpr listed) unlisted
      · omega

theorem covered_iff (candidates : List String) (path : String) :
    coveredFrom candidates path 0 = true ↔ ∃ other ∈ candidates, Above other path := by
  rw [coveredFrom_iff]
  constructor
  · rintro ⟨stop, -, dot, listed⟩
    exact ⟨_, listed, (above_iff _ _).mpr ⟨stop, dot, rfl⟩⟩
  · rintro ⟨other, listed, above⟩
    obtain ⟨stop, dot, rfl⟩ := (above_iff _ _).mp above
    exact ⟨stop, Nat.zero_le _, dot, listed⟩

/-- What is returned are the eligible paths that no eligible path lies above. -/
theorem mem_compactPersistedProjection (paths : List String) (path : String) :
    path ∈ compactPersistedProjection paths ↔ IsRoot Above (paths.filter isEligible) path := by
  have covered := covered_iff (paths.filter isEligible).eraseDups path
  simp only [List.mem_eraseDups] at covered
  show path ∈ ((paths.filter isEligible).eraseDups.filter
    fun path => !coveredFrom (paths.filter isEligible).eraseDups path 0) ↔ _
  rw [List.mem_filter, List.mem_eraseDups, Bool.not_eq_true', ← Bool.not_eq_true, covered, IsRoot]
  simp only [not_exists, not_and]

/-- What is owed to the caller that asked for these paths. -/
structure Compacts (paths result : List String) : Prop where
  kept : result.Sublist (paths.filter isEligible)
  distinct : result.Nodup
  ordered : result.Pairwise fun first second => paths.idxOf first < paths.idxOf second
  apart : ∀ first ∈ result, ∀ second ∈ result, ¬ Above first second
  covers : ∀ path ∈ paths, isEligible path = true → ∃ root ∈ result, AtOrAbove root path
  fetches : ∀ path, (∃ root ∈ result, AtOrAbove root path) ↔
    ∃ requested ∈ paths, isEligible requested = true ∧ AtOrAbove requested path

theorem exists_covering (paths : List String) {path : String} (listed : path ∈ paths)
    (eligible : isEligible path = true) :
    ∃ root ∈ compactPersistedProjection paths, AtOrAbove root path := by
  have member : path ∈ paths.filter isEligible := List.mem_filter.mpr ⟨listed, eligible⟩
  obtain ⟨root, isRoot, reaches⟩ := exists_root (fun text : String => text.toList.length)
    (fun _ _ => Above.length_lt) (fun _ _ _ => Above.trans) member
  exact ⟨root, (mem_compactPersistedProjection paths root).mpr isRoot, reaches⟩

theorem compactPersistedProjection_compacts (paths : List String) :
    Compacts paths (compactPersistedProjection paths) := by
  have ordered : (compactPersistedProjection paths).Pairwise
      fun first second => paths.idxOf first < paths.idxOf second :=
    (pairwise_idxOf_eraseDups paths isEligible).sublist List.filter_sublist
  constructor
  · exact List.filter_sublist.trans (eraseDups_filter_sublist paths isEligible)
  · apply ordered.imp
    rintro first second less rfl
    omega
  · exact ordered
  · intro first member second member' above
    have root := (mem_compactPersistedProjection paths second).mp member'
    exact root.2 first ((mem_compactPersistedProjection paths first).mp member).1 above
  · intro path listed eligible
    exact exists_covering paths listed eligible
  · intro path
    constructor
    · rintro ⟨root, member, reaches⟩
      have listed := ((mem_compactPersistedProjection paths root).mp member).1
      obtain ⟨requested, eligible⟩ := List.mem_filter.mp listed
      exact ⟨root, requested, eligible, reaches⟩
    · rintro ⟨requested, listed, eligible, reaches⟩
      obtain ⟨root, member, higher⟩ := exists_covering paths listed eligible
      exact ⟨root, member, higher.trans reaches⟩

end WebTsToolkit.AccessRouter.Projection
