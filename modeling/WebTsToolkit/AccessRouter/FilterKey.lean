import Mathlib
import WebTsToolkit.AccessRouter.Filter

set_option autoImplicit false

namespace WebTsToolkit.AccessRouter.Filter

open Js

mutual

/-- The value as a query carries it to MongoDB: zero has no sign there, and a hole is
written as `undefined`. The order of embedded keys is kept. -/
def asMongo : Value → Value
  | .number text => .number (numberText text)
  | .hole => .undefined
  | .array items => .array (asMongoItems items)
  | .object entries => .object (asMongoEntries entries)
  | value => value

def asMongoItems : List Value → List Value
  | [] => []
  | item :: rest => asMongo item :: asMongoItems rest

def asMongoEntries : List (String × Value) → List (String × Value)
  | [] => []
  | (key, value) :: rest => (key, asMongo value) :: asMongoEntries rest

end

mutual

/-- The same value with the keys of every embedded object sorted. -/
def sortKeys : Value → Value
  | .array items => .array (sortKeysItems items)
  | .object entries => .object (sortKeyed (sortKeysEntries entries))
  | value => value

def sortKeysItems : List Value → List Value
  | [] => []
  | item :: rest => sortKeys item :: sortKeysItems rest

def sortKeysEntries : List (String × Value) → List (String × Value)
  | [] => []
  | (key, value) :: rest => (key, sortKeys value) :: sortKeysEntries rest

end

/-- MongoDB reads the two values alike. -/
def ReadsAlike (value other : Value) : Prop :=
  asMongo value = asMongo other

/-- The two values differ at most in the order of embedded keys. -/
def SameUpToKeyOrder (value other : Value) : Prop :=
  sortKeys (asMongo value) = sortKeys (asMongo other)

theorem asMongoItems_eq (items : List Value) : asMongoItems items = items.map asMongo := by
  induction items with
  | nil => rfl
  | cons item rest ih => simp only [asMongoItems, ih, List.map_cons]

theorem asMongoEntries_eq (entries : Entries) :
    asMongoEntries entries = entries.map fun entry => (entry.1, asMongo entry.2) := by
  induction entries with
  | nil => rfl
  | cons entry rest ih => simp only [asMongoEntries, ih, List.map_cons]

theorem sortKeysItems_eq (items : List Value) : sortKeysItems items = items.map sortKeys := by
  induction items with
  | nil => rfl
  | cons item rest ih => simp only [sortKeysItems, ih, List.map_cons]

theorem sortKeysEntries_eq (entries : Entries) :
    sortKeysEntries entries = entries.map fun entry => (entry.1, sortKeys entry.2) := by
  induction entries with
  | nil => rfl
  | cons entry rest ih => simp only [sortKeysEntries, ih, List.map_cons]

section Sorting

variable {α β : Type}

theorem mem_sortKeyed (entries : List (String × α)) (entry : String × α) :
    entry ∈ sortKeyed entries ↔ entry ∈ entries :=
  List.mem_insertionSort _

/-- Sorting only looks at keys. -/
theorem sortKeyed_map (change : String × α → β) (entries : List (String × α)) :
    sortKeyed (entries.map fun entry => (entry.1, change entry)) =
      (sortKeyed entries).map fun entry => (entry.1, change entry) := by
  refine (List.map_insertionSort (fun first second : String × α => sortsBefore first.1 second.1)
    (fun first second : String × β => sortsBefore first.1 second.1) _ _ ?_).symm
  exact fun _ _ _ _ => Iff.rfl

theorem sortKeyed_sortKeyed (entries : List (String × α)) :
    sortKeyed (sortKeyed entries) = sortKeyed entries := by
  have total : Std.Total fun first second : String × α => sortsBefore first.1 second.1 :=
    ⟨fun first second =>
      List.le_total (first.1.toList.flatMap codeUnits) (second.1.toList.flatMap codeUnits)⟩
  have transitive : IsTrans (String × α) fun first second => sortsBefore first.1 second.1 :=
    ⟨fun _ _ _ before after => List.le_trans before after⟩
  exact (List.pairwise_insertionSort _ entries).insertionSort_eq

/-- Where the first view tells members apart at least as well as the second, equal first
views of two lists give equal second ones. -/
theorem map_eq_of_map_eq {γ : Type} (first : α → β) (second : α → γ) :
    ∀ items others : List α, items.map first = others.map first →
      (∀ item ∈ items, ∀ other ∈ others, first item = first other →
        second item = second other) →
      items.map second = others.map second
  | [], [], _, _ => rfl
  | [], _ :: _, same, _ => by simp at same
  | _ :: _, [], same, _ => by simp at same
  | item :: rest, other :: others, same, finer => by
    simp only [List.map_cons, List.cons.injEq] at same ⊢
    refine ⟨finer item (by simp) other (by simp) same.1, ?_⟩
    exact map_eq_of_map_eq first second rest others same.2
      fun item member other member' =>
        finer item (List.mem_cons_of_mem _ member) other (List.mem_cons_of_mem _ member')

end Sorting

/-- The source gives the value a key, so that equal values can be dropped. -/
def HasKey (value : Value) : Prop :=
  (dedupeKey value).isSome

instance (value : Value) : Decidable (HasKey value) :=
  inferInstanceAs (Decidable (_ = true))

/-- The key of a value that has one. -/
def keyText (value : Value) : String :=
  (dedupeKey value).getD ""

theorem dedupeKey_of_hasKey {value : Value} (keyed : HasKey value) :
    dedupeKey value = some (keyText value) := by
  obtain ⟨key, same⟩ := Option.isSome_iff_exists.mp keyed
  simp only [keyText, same, Option.getD_some]

theorem dedupeKey_of_not_hasKey {value : Value} (keyless : ¬ HasKey value) :
    dedupeKey value = none :=
  Option.not_isSome_iff_eq_none.mp keyless

theorem dedupeItems_eq (items : List Value) :
    dedupeItems items =
      if ∀ item ∈ items, HasKey item then some (items.map keyText) else none := by
  induction items with
  | nil => simp [dedupeItems]
  | cons item rest ih =>
    rw [dedupeItems, ih]
    by_cases keyed : HasKey item
    · rw [dedupeKey_of_hasKey keyed]
      by_cases others : ∀ item ∈ rest, HasKey item
      · rw [if_pos others, if_pos (List.forall_mem_cons.mpr ⟨keyed, others⟩), List.map_cons]
      · rw [if_neg others, if_neg fun all => others (List.forall_mem_cons.mp all).2]
    · rw [dedupeKey_of_not_hasKey keyed,
        if_neg fun all => keyed (List.forall_mem_cons.mp all).1]

theorem dedupeEntries_eq (entries : Entries) :
    dedupeEntries entries =
      if ∀ entry ∈ entries, HasKey entry.2 then
        some (entries.map fun entry => (entry.1, keyText entry.2))
      else none := by
  induction entries with
  | nil => simp [dedupeEntries]
  | cons entry rest ih =>
    rw [dedupeEntries, ih]
    by_cases keyed : HasKey entry.2
    · rw [dedupeKey_of_hasKey keyed]
      by_cases others : ∀ entry ∈ rest, HasKey entry.2
      · have all : ∀ entry' ∈ entry :: rest, HasKey entry'.2 :=
          List.forall_mem_cons.mpr ⟨keyed, others⟩
        rw [if_pos others, if_pos all, List.map_cons]
      · have some : ¬ ∀ entry' ∈ entry :: rest, HasKey entry'.2 :=
          fun all => others fun entry' member => all entry' (List.mem_cons_of_mem _ member)
        rw [if_neg others, if_neg some]
    · have some : ¬ ∀ entry' ∈ entry :: rest, HasKey entry'.2 :=
        fun all => keyed (all entry List.mem_cons_self)
      rw [dedupeKey_of_not_hasKey keyed, if_neg some]

theorem dedupeKey_array (items : List Value) :
    dedupeKey (.array items) =
      if ∀ item ∈ items, HasKey item then
        some ("array:" ++ Json.stringifyStrings (items.map keyText))
      else none := by
  rw [dedupeKey, dedupeItems_eq]
  split_ifs <;> rfl

theorem dedupeKey_object (entries : Entries) :
    dedupeKey (.object entries) =
      if ∀ entry ∈ entries, HasKey entry.2 then
        some ("object:" ++ Json.stringifyPairs
          ((sortKeyed entries).map fun entry => (entry.1, keyText entry.2)))
      else none := by
  rw [dedupeKey, dedupeEntries_eq, ← sortKeyed_map]
  split_ifs <;> rfl

theorem hasKey_array (items : List Value) :
    HasKey (.array items) ↔ ∀ item ∈ items, HasKey item := by
  rw [HasKey, dedupeKey_array]
  split_ifs with keyed
  · exact iff_of_true rfl keyed
  · exact iff_of_false (by simp) keyed

theorem hasKey_object (entries : Entries) :
    HasKey (.object entries) ↔ ∀ entry ∈ entries, HasKey entry.2 := by
  rw [HasKey, dedupeKey_object]
  split_ifs with keyed
  · exact iff_of_true rfl keyed
  · exact iff_of_false (by simp) keyed

/-- Neither the sign of zero, nor a hole, nor the order of embedded keys shows in a key. -/
theorem dedupeKey_sortKeys_asMongo (value : Value) :
    dedupeKey (sortKeys (asMongo value)) = dedupeKey value := by
  induction value using Value.induction with
  | array items ih =>
    have keyed : ∀ item ∈ items, HasKey (sortKeys (asMongo item)) ↔ HasKey item := by
      intro item member
      rw [HasKey, HasKey, ih item member]
    have texts : ∀ item ∈ items, keyText (sortKeys (asMongo item)) = keyText item := by
      intro item member
      rw [keyText, keyText, ih item member]
    simp only [asMongo, sortKeys, asMongoItems_eq, sortKeysItems_eq, List.map_map,
      dedupeKey_array, List.forall_mem_map, Function.comp_def]
    rw [List.map_congr_left texts, if_congr (forall₂_congr keyed) rfl rfl]
  | object entries ih =>
    have keyed : ∀ entry ∈ entries, HasKey (sortKeys (asMongo entry.2)) ↔ HasKey entry.2 := by
      intro entry member
      rw [HasKey, HasKey, ih entry member]
    have texts : ∀ entry ∈ sortKeyed entries,
        (entry.1, keyText (sortKeys (asMongo entry.2))) = (entry.1, keyText entry.2) := by
      intro entry member
      rw [keyText, keyText, ih entry ((mem_sortKeyed entries entry).mp member)]
    simp only [asMongo, sortKeys, asMongoEntries_eq, sortKeysEntries_eq, List.map_map,
      dedupeKey_object, mem_sortKeyed, sortKeyed_sortKeyed, List.forall_mem_map,
      Function.comp_def]
    rw [sortKeyed_map (fun entry => sortKeys (asMongo entry.2)), List.map_map]
    rw [Function.comp_def, List.map_congr_left texts, if_congr (forall₂_congr keyed) rfl rfl]
  | classed kind fields ih => rfl
  | leaf value leaf =>
    cases value with
    | number text =>
      have unsigned : numberText (numberText text) = numberText text := by
        by_cases zero : text = "-0" <;> simp [numberText, zero]
      simp only [asMongo, sortKeys, dedupeKey, unsigned]
    | array | object | classed => simp [Value.isLeaf] at leaf
    | _ => rfl

/-- The text of a key before its colon. -/
def keyTag : Value → String
  | .regexp _ _ => "regexp"
  | .date _ => "date"
  | .array _ => "array"
  | .object _ => "object"
  | .null => "null"
  | .string _ => "string"
  | .bool _ => "boolean"
  | .number _ => "number"
  | .bigint _ => "bigint"
  | .undefined | .hole => "undefined"
  | .symbol _ | .callable _ | .classed _ _ => ""

theorem keyText_tag {value : Value} (keyed : HasKey value) :
    (keyText value).toList.takeWhile (· != ':') = (keyTag value).toList := by
  have same := dedupeKey_of_hasKey keyed
  cases value with
  | array items =>
    rw [dedupeKey_array, if_pos ((hasKey_array items).mp keyed)] at same
    simp [← Option.some.inj same, keyTag]
  | object entries =>
    rw [dedupeKey_object, if_pos ((hasKey_object entries).mp keyed)] at same
    simp [← Option.some.inj same, keyTag]
  | symbol | callable | classed => simp [dedupeKey] at same
  | null | undefined | hole =>
    rw [← Option.some.inj same]
    decide
  | _ =>
    rw [dedupeKey] at same
    simp [← Option.some.inj same, keyTag]

variable {value other : Value}

/-- Keys of values of different kinds differ. -/
theorem keyTag_eq (keyed : HasKey value) (keyed' : HasKey other)
    (same : keyText value = keyText other) : keyTag value = keyTag other := by
  have tags := keyText_tag keyed
  rw [same, keyText_tag keyed'] at tags
  exact (String.toList_inj.mp tags).symm

theorem repr_ne_nan (time : Int) : time.repr ≠ "NaN" := by
  intro same
  have letter : 'N' ∈ time.repr.toList := by rw [same]; decide
  cases time with
  | ofNat time | negSucc time =>
    have digit := Nat.isDigit_of_mem_toDigits (b := 10) (by decide) (by decide)
      (by simpa [Int.repr, Nat.repr] using letter)
    exact absurd digit (by decide)

theorem dateText_injective : Function.Injective dateText := by
  intro first second same
  cases first with
  | none =>
    cases second with
    | none => rfl
    | some time => exact absurd same.symm (repr_ne_nan time)
  | some time =>
    cases second with
    | none => exact absurd same (repr_ne_nan time)
    | some other => rw [Int.repr_injective same]

theorem sameUpToKeyOrder_of_leaf (leaf : value.isLeaf) (keyed : HasKey value)
    (keyed' : HasKey other) (same : keyText value = keyText other) :
    SameUpToKeyOrder value other := by
  have tags := keyTag_eq keyed keyed' same
  unfold SameUpToKeyOrder
  cases value with
  | array | object | classed => simp [Value.isLeaf] at leaf
  | symbol | callable => simp [HasKey, dedupeKey] at keyed
  | undefined | hole =>
    cases other with
    | undefined | hole => rfl
    | symbol | callable | classed => simp [HasKey, dedupeKey] at keyed'
    | _ => simp [keyTag] at tags
  | null =>
    cases other with
    | null => rfl
    | symbol | callable | classed => simp [HasKey, dedupeKey] at keyed'
    | _ => simp [keyTag] at tags
  | bool value =>
    cases other with
    | bool other =>
      cases value <;> cases other <;> first | rfl | exact absurd same (by decide)
    | _ => simp [keyTag] at tags
  | number text =>
    cases other with
    | number other =>
      simp only [keyText, dedupeKey, Option.getD_some, String.append_right_inj] at same
      simp only [asMongo, same]
    | _ => simp [keyTag] at tags
  | bigint value =>
    cases other with
    | bigint other =>
      simp only [keyText, dedupeKey, Option.getD_some, String.append_right_inj] at same
      rw [Int.repr_injective same]
    | _ => simp [keyTag] at tags
  | string value =>
    cases other with
    | string other =>
      simp only [keyText, dedupeKey, Option.getD_some, String.append_right_inj] at same
      rw [Json.stringifyString_injective same]
    | _ => simp [keyTag] at tags
  | date time =>
    cases other with
    | date other =>
      simp only [keyText, dedupeKey, Option.getD_some, String.append_right_inj] at same
      rw [dateText_injective same]
    | _ => simp [keyTag] at tags
  | regexp source flags =>
    cases other with
    | regexp source' flags' =>
      simp only [keyText, dedupeKey, Option.getD_some, String.append_right_inj] at same
      have parts := Json.stringifyStrings_injective same
      simp only [List.cons.injEq, and_true] at parts
      rw [parts.1, parts.2]
    | _ => simp [keyTag] at tags

/-- A key loses the order of embedded keys and nothing else that MongoDB reads. -/
theorem sameUpToKeyOrder_of_keyText (keyed : HasKey value) (keyed' : HasKey other)
    (same : keyText value = keyText other) : SameUpToKeyOrder value other := by
  induction value using Value.induction generalizing other with
  | leaf value leaf => exact sameUpToKeyOrder_of_leaf leaf keyed keyed' same
  | classed kind fields ih => simp [HasKey, dedupeKey] at keyed
  | array items ih =>
    have tags := keyTag_eq keyed keyed' same
    cases other with
    | array others =>
      have texts := (hasKey_array items).mp keyed
      have texts' := (hasKey_array others).mp keyed'
      rw [keyText, keyText, dedupeKey_array, dedupeKey_array, if_pos texts, if_pos texts',
        Option.getD_some, Option.getD_some, String.append_right_inj] at same
      have parts := Json.stringifyStrings_injective same
      have aligned := map_eq_of_map_eq keyText (fun item => sortKeys (asMongo item)) items
        others parts fun item member other member' =>
          ih item member (texts item member) (texts' other member')
      simpa only [SameUpToKeyOrder, asMongo, sortKeys, asMongoItems_eq, sortKeysItems_eq,
        List.map_map, Function.comp_def, Value.array.injEq] using aligned
    | _ => simp [keyTag] at tags
  | object entries ih =>
    have tags := keyTag_eq keyed keyed' same
    cases other with
    | object others =>
      have texts := (hasKey_object entries).mp keyed
      have texts' := (hasKey_object others).mp keyed'
      rw [keyText, keyText, dedupeKey_object, dedupeKey_object, if_pos texts, if_pos texts',
        Option.getD_some, Option.getD_some, String.append_right_inj] at same
      have parts := Json.stringifyPairs_injective same
      have aligned := map_eq_of_map_eq (fun entry : String × Value =>
          (entry.1, keyText entry.2))
        (fun entry => (entry.1, sortKeys (asMongo entry.2))) _ _ parts
        fun entry member other member' views => by
          rw [mem_sortKeyed] at member member'
          have keys := congrArg Prod.fst views
          have values := ih entry member (texts entry member) (texts' other member')
            (congrArg Prod.snd views)
          exact Prod.ext keys values
      simp only [SameUpToKeyOrder, asMongo, sortKeys, asMongoEntries_eq, sortKeysEntries_eq,
        List.map_map, Function.comp_def, Value.object.injEq]
      rw [sortKeyed_map fun entry => sortKeys (asMongo entry.2),
        sortKeyed_map fun entry => sortKeys (asMongo entry.2), aligned]
    | _ => simp [keyTag] at tags

theorem dedupeKey_eq_of_sameUpToKeyOrder (same : SameUpToKeyOrder value other) :
    dedupeKey value = dedupeKey other := by
  rw [← dedupeKey_sortKeys_asMongo value, same, dedupeKey_sortKeys_asMongo]

/-- Two clauses are dropped as duplicates exactly when they have keys and differ at most in
the order of embedded keys. -/
theorem dedupeKey_eq_iff (keyed : HasKey value) :
    dedupeKey value = dedupeKey other ↔ SameUpToKeyOrder value other := by
  constructor
  · intro same
    have keyed' : HasKey other := by rwa [HasKey, ← same]
    exact sameUpToKeyOrder_of_keyText keyed keyed' (congrArg (Option.getD · "") same)
  · exact dedupeKey_eq_of_sameUpToKeyOrder

end WebTsToolkit.AccessRouter.Filter
