import Mathlib.Data.Set.Basic
import WebTsToolkit.AccessRouter.FilterKey

set_option autoImplicit false

namespace WebTsToolkit.AccessRouter.Filter

open Js

mutual

/-- The filter is a conjunction of clauses that all have the property; `never` reads whether
`false` has it. A nullish filter is no clause. -/
def Throughout (clause : Entries → Prop) (never : Prop) : Value → Prop
  | .bool false => never
  | .object [(key, .array items)] =>
    if key = "$and" then ThroughoutItems clause never items else clause [(key, .array items)]
  | .object entries => clause entries
  | _ => True

def ThroughoutItems (clause : Entries → Prop) (never : Prop) : List Value → Prop
  | [] => True
  | item :: rest => Throughout clause never item ∧ ThroughoutItems clause never rest

end

/-- A document, given by the entries that hold of it, satisfies the filter. Values are taken
as MongoDB takes them. -/
def Satisfies (holds : String → Value → Prop) : Value → Prop :=
  Throughout (fun entries => ∀ entry ∈ entries, holds entry.1 (asMongo entry.2)) False

/-- A clause written with the given entries. -/
structure ClauseOver (vocabulary : Set (String × Value)) (entries : Entries) : Prop where
  distinct : (entries.map Prod.fst).Nodup
  leaf : isAndFilter (.object entries) = false
  within : ∀ entry ∈ entries, entry ∈ vocabulary

/-- A filter whose clauses are all written with the given entries. -/
def FilterOver (vocabulary : Set (String × Value)) : Value → Prop :=
  Throughout (ClauseOver vocabulary) True

/-- An entry as MongoDB takes it. -/
def reading (entry : String × Value) : String × Value :=
  (entry.1, asMongo entry.2)

/-- The readings of a list of clauses. -/
def readings (clauses : List Entries) : List (String × Value) :=
  clauses.flatMap (List.map reading)

/-- A clause of the filter has the reading. -/
inductive Reads (said : String × Value) : Value → Prop where
  | clause {entries : Entries} (leaf : isAndFilter (.object entries) = false)
      (listed : said ∈ entries.map reading) : Reads said (.object entries)
  | item {items : List Value} {item : Value} (member : item ∈ items) (reads : Reads said item) :
      Reads said (.object [("$and", .array items)])

/-- The filter is `false`, or a conjunction in it has `false` as a member. -/
inductive Never : Value → Prop where
  | false : Never (.bool false)
  | item {items : List Value} {item : Value} (member : item ∈ items) (never : Never item) :
      Never (.object [("$and", .array items)])

/-- No clause before differs from it at most in the order of embedded keys. A clause without a
dedupe key is never taken for another one. -/
def Fresh (before : List Entries) (clause : Entries) : Prop :=
  ∀ other ∈ before, HasKey (.object other) → ¬SameUpToKeyOrder (.object other) (.object clause)

/-- A clause joins the merged one where it holds no other value under a key of that. -/
def Joins (held : String → Option Value) (clause : Entries) : Prop :=
  isMergeableClause (.object clause) = true ∧
    ∀ entry ∈ clause, ∀ value, held entry.1 = some value → isDeepStrictEqual value entry.2 = true

open Classical in
/-- The value that the clauses that join the merged one last give to a key. Clauses come newest
first, and no assignment sets `__proto__`. -/
noncomputable def given : List Entries → String → Option Value
  | [], _ => none
  | clause :: before, key =>
    if Fresh before clause ∧ Joins (given before) clause ∧ key ≠ "__proto__" then
      (getOwn clause key).or (given before key)
    else given before key

/-- A clause that is no duplicate and does not join the merged one. Clauses come newest first. -/
def Remains : List Entries → Entries → Prop
  | [], _ => False
  | clause :: before, entries =>
    (entries = clause ∧ Fresh before clause ∧ ¬Joins (given before) clause) ∨
      Remains before entries

/-- A reading is that of a value given last, or of a clause that remains. -/
def Kept (clauses : List Entries) (said : String × Value) : Prop :=
  (∃ value, given clauses said.1 = some value ∧ asMongo value = said.2) ∨
    ∃ entries, Remains clauses entries ∧ said ∈ entries.map reading

/-- The optimizer takes the second value for the first one: a whole clause with the first
value has a dedupe key that does not show the difference, or the merge overwrites one
with the other. -/
def Identified (vocabulary : Set (String × Value)) (key : String) (value other : Value) : Prop :=
  (SameUpToKeyOrder value other ∧ ∃ clause, ClauseOver vocabulary clause ∧
    (key, value) ∈ clause ∧ HasKey (.object clause)) ∨
  (startsWithDollar key = false ∧ isDeepStrictEqual value other = true)

/-- Values the optimizer identifies read alike, and no entry is lost to a setter. -/
structure NoConfusion (vocabulary : Set (String × Value)) : Prop where
  own : ∀ entry ∈ vocabulary, entry.1 ≠ "__proto__"
  alike : ∀ key value other, (key, value) ∈ vocabulary → (key, other) ∈ vocabulary →
    Identified vocabulary key value other → ReadsAlike value other

theorem throughoutItems_iff (clause : Entries → Prop) (never : Prop) (items : List Value) :
    ThroughoutItems clause never items ↔ ∀ item ∈ items, Throughout clause never item := by
  induction items with
  | nil => simp [ThroughoutItems]
  | cons item rest ih => simp [ThroughoutItems, ih]

theorem throughout_and (clause : Entries → Prop) (never : Prop) (items : List Value) :
    Throughout clause never (.object [("$and", .array items)]) ↔
      ∀ item ∈ items, Throughout clause never item := by
  rw [Throughout, if_pos rfl, throughoutItems_iff]

variable {entries : Entries}

theorem throughout_leaf (clause : Entries → Prop) (never : Prop)
    (leaf : isAndFilter (.object entries) = false) :
    Throughout clause never (.object entries) ↔ clause entries := by
  unfold Throughout
  split
  · contradiction
  · rename_i key items same
    cases same
    have other : key ≠ "$and" := by simpa [isAndFilter] using leaf
    rw [if_neg other]
  · rename_i same
    cases same
    rfl
  · rename_i other
    exact absurd rfl (other entries)

theorem eq_of_isAndFilter (conjunction : isAndFilter (.object entries) = true) :
    ∃ items, entries = [("$and", .array items)] := by
  unfold isAndFilter at conjunction
  split at conjunction
  · rename_i key items same
    cases same
    exact ⟨items, by rw [eq_of_beq conjunction]⟩
  · contradiction

theorem throughout_nothing (clause : Entries → Prop) (never : Prop) {value : Value}
    (notFalse : value ≠ .bool false) (notObject : ∀ entries, value ≠ .object entries) :
    Throughout clause never value := by
  unfold Throughout
  split
  · contradiction
  · exact absurd rfl (notObject _)
  · exact absurd rfl (notObject _)
  · trivial

/-- Induction on the conjunctions in a filter. -/
theorem filter_induction {P : Value → Prop} (never : P (.bool false))
    (conjunction : ∀ items, (∀ item ∈ items, P item) → P (.object [("$and", .array items)]))
    (clause : ∀ entries, isAndFilter (.object entries) = false → P (.object entries))
    (nothing : ∀ value, value ≠ .bool false → (∀ entries, value ≠ .object entries) → P value)
    (filter : Value) : P filter := by
  have both : P filter ∧ ∀ items, filter = .array items → ∀ item ∈ items, P item := by
    induction filter using Value.induction with
    | array items ih =>
      refine ⟨nothing _ (by simp) (by simp), fun others same item member => ?_⟩
      cases same
      exact (ih item member).1
    | object entries ih =>
      refine ⟨?_, by simp⟩
      cases shape : isAndFilter (.object entries) with
      | true =>
        obtain ⟨items, same⟩ := eq_of_isAndFilter shape
        subst same
        exact conjunction items ((ih ("$and", .array items) (by simp)).2 items rfl)
      | false => exact clause entries shape
    | classed kind fields => exact ⟨nothing _ (by simp) (by simp), by simp⟩
    | leaf value leaf =>
      have simple : ∀ entries, value ≠ .object entries := by
        rintro entries rfl
        contradiction
      refine ⟨?_, ?_⟩
      · by_cases isFalse : value = .bool false
        · exact isFalse ▸ never
        · exact nothing value isFalse simple
      · rintro items rfl
        contradiction
  exact both.1

theorem normalizeFilter_nothing {value : Value} (notFalse : value ≠ .bool false)
    (notObject : ∀ entries, value ≠ .object entries) : normalizeFilter value = .null := by
  unfold normalizeFilter
  split
  · contradiction
  · exact absurd rfl (notObject _)
  · exact absurd rfl (notObject _)
  · exact absurd rfl (notObject _)
  · rfl

theorem normalizeFilter_and (items : List Value) :
    normalizeFilter (.object [("$and", .array items)]) =
      optimizeClauses (collectClauses items) := by
  rw [normalizeFilter, if_pos rfl]

theorem normalizeFilter_leaf (leaf : isAndFilter (.object entries) = false)
    (nonempty : entries ≠ []) : normalizeFilter (.object entries) = .object entries := by
  unfold normalizeFilter
  split
  · contradiction
  · rename_i same
    cases same
    contradiction
  · rename_i key items same
    cases same
    have other : key ≠ "$and" := by simpa [isAndFilter] using leaf
    rw [if_neg other]
  · rename_i same
    cases same
    rfl
  · rename_i other
    exact absurd rfl (other entries)

theorem unfoldClause_leaf (leaf : isAndFilter (.object entries) = false) :
    unfoldClause (.object entries) = [.object entries] := by
  unfold unfoldClause
  split
  · rename_i key items same
    cases same
    have other : key ≠ "$and" := by simpa [isAndFilter] using leaf
    rw [if_neg other]
  · rfl

/-- The clauses that a normalized filter contributes, `none` for `false`. -/
def clausesOf : Value → Option (List Value)
  | .bool false => none
  | .object entries => some (unfoldClause (.object entries))
  | _ => some []

theorem collectClauses_cons (item : Value) (rest : List Value) :
    collectClauses (item :: rest) =
      (clausesOf (normalizeFilter item)).bind fun clauses =>
        (collectClauses rest).map (clauses ++ ·) := by
  rw [collectClauses]
  split
  · rename_i same
    rw [same]
    rfl
  · rename_i same
    rw [same]
    rfl
  · rename_i notFalse notObject
    have none : clausesOf (normalizeFilter item) = some [] := by
      unfold clausesOf
      split
      · rename_i same
        exact absurd same notFalse
      · rename_i entries same
        exact absurd same (notObject entries)
      · rfl
    rw [none]
    cases collectClauses rest <;> rfl

theorem clausesOf_leaf (leaf : isAndFilter (.object entries) = false) :
    clausesOf (.object entries) = some [.object entries] := by
  rw [clausesOf, unfoldClause_leaf leaf]

theorem satisfies_leaf (holds : String → Value → Prop)
    (leaf : isAndFilter (.object entries) = false) :
    Satisfies holds (.object entries) ↔ ∀ said ∈ entries.map reading, holds said.1 said.2 := by
  rw [List.forall_mem_map]
  exact throughout_leaf _ _ leaf

theorem reads_leaf (leaf : isAndFilter (.object entries) = false) (said : String × Value) :
    Reads said (.object entries) ↔ said ∈ entries.map reading := by
  constructor
  · rintro (⟨_, listed⟩ | _)
    · exact listed
    · contradiction
  · exact Reads.clause leaf

theorem reads_and (items : List Value) (said : String × Value) :
    Reads said (.object [("$and", .array items)]) ↔ ∃ item ∈ items, Reads said item := by
  constructor
  · rintro (⟨leaf, _⟩ | ⟨member, reads⟩)
    · contradiction
    · exact ⟨_, member, reads⟩
  · rintro ⟨item, member, reads⟩
    exact .item member reads

theorem never_leaf (leaf : isAndFilter (.object entries) = false) : ¬Never (.object entries) := by
  rintro ⟨⟩
  contradiction

theorem never_and (items : List Value) :
    Never (.object [("$and", .array items)]) ↔ ∃ item ∈ items, Never item := by
  constructor
  · intro never
    cases never with
    | item member never => exact ⟨_, member, never⟩
  · rintro ⟨item, member, never⟩
    exact .item member never

/-- A document satisfies a filter where all its readings hold and no part of it is `false`. -/
theorem satisfies_iff (holds : String → Value → Prop) (filter : Value) :
    Satisfies holds filter ↔ ¬Never filter ∧ ∀ said, Reads said filter → holds said.1 said.2 := by
  induction filter using filter_induction with
  | never => exact iff_of_false id fun both => both.1 .false
  | nothing value notFalse notObject =>
    refine iff_of_true (throughout_nothing _ _ notFalse notObject) ⟨?_, ?_⟩
    · rintro ⟨⟩
      · exact notFalse rfl
      · exact notObject _ rfl
    · rintro said ⟨⟩ <;> exact absurd rfl (notObject _)
  | conjunction items ih =>
    rw [Satisfies, throughout_and, never_and]
    simp only [reads_and, not_exists, not_and]
    constructor
    · intro all
      refine ⟨fun item member => ((ih item member).mp (all item member)).1, ?_⟩
      rintro said ⟨item, member, reads⟩
      exact ((ih item member).mp (all item member)).2 said reads
    · rintro ⟨possible, all⟩ item member
      exact (ih item member).mpr ⟨possible item member, fun said reads =>
        all said ⟨item, member, reads⟩⟩
  | clause entries leaf =>
    simp only [satisfies_leaf holds leaf, reads_leaf leaf, never_leaf leaf, not_false_eq_true,
      true_and]

theorem mem_readings {clauses : List Entries} {said : String × Value} :
    said ∈ readings clauses ↔ ∃ entries ∈ clauses, said ∈ entries.map reading :=
  List.mem_flatMap

/-- Objects that differ at most in key order have their entries in pairs. -/
theorem exists_of_sameUpToKeyOrder {entries others : Entries}
    (same : SameUpToKeyOrder (.object entries) (.object others)) {entry : String × Value}
    (member : entry ∈ others) : ∃ value, (entry.1, value) ∈ entries ∧
      SameUpToKeyOrder value entry.2 := by
  simp only [SameUpToKeyOrder, asMongo, sortKeys, asMongoEntries_eq, sortKeysEntries_eq,
    List.map_map, Function.comp_def, Value.object.injEq] at same
  have listed : (entry.1, sortKeys (asMongo entry.2)) ∈
      sortKeyed (entries.map fun entry => (entry.1, sortKeys (asMongo entry.2))) := by
    rw [same, mem_sortKeyed]
    exact List.mem_map_of_mem member
  rw [mem_sortKeyed] at listed
  obtain ⟨other, member', paired⟩ := List.mem_map.mp listed
  obtain ⟨keys, values⟩ := Prod.mk.inj paired
  exact ⟨other.2, keys ▸ member', values⟩

section Pass

variable {clauses : List Entries} {state : Merge}

theorem given_mem {key : String} {value : Value} (found : given clauses key = some value) :
    ∃ entries ∈ clauses, (key, value) ∈ entries := by
  induction clauses with
  | nil => contradiction
  | cons clause before ih =>
    rw [given] at found
    split_ifs at found
    · rcases Option.or_eq_some_iff.mp found with own | ⟨_, older⟩
      · exact ⟨clause, List.mem_cons_self, mem_of_getOwn own⟩
      · obtain ⟨entries, member, listed⟩ := ih older
        exact ⟨entries, List.mem_cons_of_mem _ member, listed⟩
    · obtain ⟨entries, member, listed⟩ := ih found
      exact ⟨entries, List.mem_cons_of_mem _ member, listed⟩

theorem Remains.mem {entries : Entries} (remains : Remains clauses entries) :
    entries ∈ clauses := by
  induction clauses with
  | nil => exact remains.elim
  | cons clause before ih =>
    rcases remains with ⟨rfl, _⟩ | older
    · exact List.mem_cons_self
    · exact List.mem_cons_of_mem _ (ih older)

/-- The optimizer adds nothing. -/
theorem Kept.mem {said : String × Value} (kept : Kept clauses said) : said ∈ readings clauses := by
  rcases kept with ⟨value, found, read⟩ | ⟨entries, remains, listed⟩
  · obtain ⟨entries, member, listed⟩ := given_mem found
    exact mem_readings.mpr ⟨entries, member, List.mem_map.mpr ⟨_, listed, Prod.ext rfl read⟩⟩
  · exact mem_readings.mpr ⟨entries, remains.mem, listed⟩

/-- A clause at the end of a list is dropped where one before it has its key. -/
theorem dedupeClauses_concat (clauses : List Value) (clause : Value) (seen : List String) :
    dedupeClauses seen (clauses ++ [clause]) = dedupeClauses seen clauses ++
      if ∃ key, dedupeKey clause = some key ∧ (key ∈ seen ∨ some key ∈ clauses.map dedupeKey)
        then [] else [clause] := by
  induction clauses generalizing seen with
  | nil =>
    cases found : dedupeKey clause with
    | none => simp [dedupeClauses, found]
    | some key => by_cases known : key ∈ seen <;> simp [dedupeClauses, found, known]
  | cons first rest ih =>
    rw [List.cons_append, dedupeClauses, dedupeClauses]
    split
    · next key found =>
      split
      · next known =>
        have known : key ∈ seen := by simpa using known
        rw [ih]
        congr 2
        grind
      · rw [ih, List.cons_append]
        congr 3
        grind
    · rw [ih, List.cons_append]
      congr 3
      grind

theorem fresh_iff (before : List Entries) (clause : Entries) :
    Fresh before clause ↔ ¬∃ key, dedupeKey (.object clause) = some key ∧
      (key ∈ ([] : List String) ∨ some key ∈ (before.map Value.object).map dedupeKey) := by
  constructor
  · rintro fresh ⟨key, found, none | listed⟩
    · contradiction
    · obtain ⟨_, written, same⟩ := List.mem_map.mp listed
      obtain ⟨other, member, rfl⟩ := List.mem_map.mp written
      have keyed : HasKey (.object other) := by rw [HasKey, same]; rfl
      exact fresh other member keyed ((dedupeKey_eq_iff keyed).mp (same.trans found.symm))
  · intro fresh other member keyed alike
    have same := (dedupeKey_eq_iff keyed).mpr alike
    refine fresh ⟨keyText (.object other), same ▸ dedupeKey_of_hasKey keyed, Or.inr ?_⟩
    exact List.mem_map.mpr ⟨_, List.mem_map_of_mem member, dedupeKey_of_hasKey keyed⟩

/-- The state of the optimizer after clauses, which come newest first. -/
def passed (clauses : List Entries) : Merge :=
  mergeClauses (dedupeClauses [] (clauses.reverse.map Value.object))

theorem passed_cons (clause : Entries) (before : List Entries) :
    (Fresh before clause → passed (clause :: before) =
      mergeClause (passed before) (.object clause)) ∧
    (¬Fresh before clause → passed (clause :: before) = passed before) := by
  have turned : Fresh before clause ↔ ¬∃ key, dedupeKey (.object clause) = some key ∧
      (key ∈ ([] : List String) ∨
        some key ∈ (before.reverse.map Value.object).map dedupeKey) := by
    rw [fresh_iff]
    simp
  rw [passed, List.reverse_cons, List.map_append, List.map_singleton, dedupeClauses_concat]
  constructor
  · intro fresh
    rw [if_neg (turned.mp fresh), mergeClauses, List.foldl_append]
    rfl
  · intro repeated
    rw [if_pos (by rwa [turned, not_not] at repeated), List.append_nil]
    rfl

theorem getOwn_replace (target : Entries) (key : String) (value : Value) (other : String) :
    getOwn (target.map fun entry => if entry.1 = key then (key, value) else entry) other =
      if other = key then (getOwn target other).map fun _ => value else getOwn target other := by
  induction target with
  | nil => simp [getOwn]
  | cons entry rest ih =>
    rw [List.map_cons, getOwn_cons, getOwn_cons, ih]
    by_cases first : entry.1 = key
    · by_cases here : other = key <;> simp [first, here]
    · by_cases here : other = key
      · simp [here, first, Ne.symm first]
      · simp [first, here]

theorem getOwn_assignKey (target : Entries) {key : String} (value : Value)
    (own : key ≠ "__proto__") (other : String) :
    getOwn (assignKey target key value) other =
      if other = key then some value else getOwn target other := by
  have held : target.any (·.1 == key) = (getOwn target key).isSome := by
    rw [Bool.eq_iff_iff, getOwn, List.lookup_isSome_iff]
    simp
  rw [assignKey, if_neg own, held]
  split
  · next found =>
    rw [getOwn_replace]
    by_cases here : other = key
    · obtain ⟨before, same⟩ := Option.isSome_iff_exists.mp found
      rw [if_pos here, if_pos here, here, same]
      rfl
    · rw [if_neg here, if_neg here]
  · next missing =>
    rw [getOwn, List.lookup_append, ← getOwn]
    by_cases here : other = key
    · rw [if_pos here, here, Option.not_isSome_iff_eq_none.mp missing]
      simp
    · rw [if_neg here, List.lookup_cons, beq_eq_false_iff_ne.mpr here]
      exact Option.or_none

theorem getOwn_assign (target source : Entries) (distinct : (source.map Prod.fst).Nodup)
    (key : String) : getOwn (assign target source) key =
      if key = "__proto__" then getOwn target key else (getOwn source key).or (getOwn target key) := by
  induction source generalizing target with
  | nil => split <;> rfl
  | cons entry rest ih =>
    obtain ⟨fresh, distinct⟩ := List.nodup_cons.mp distinct
    show getOwn (assign (assignKey target entry.1 entry.2) rest) key = _
    rw [ih _ distinct, getOwn_cons]
    by_cases proto : entry.1 = "__proto__"
    · rw [assignKey, if_pos proto, proto]
      split_ifs <;> rfl
    · rw [getOwn_assignKey target entry.2 proto]
      by_cases here : key = entry.1
      · have later : getOwn rest key = none := by
          rw [getOwn, List.lookup_eq_none_iff]
          intro other member
          rw [bne_iff_ne, here]
          exact fun same => fresh (List.mem_map.mpr ⟨other, member, same.symm⟩)
        rw [later, if_pos here, if_neg (here ▸ proto), if_pos here]
        simp [here ▸ proto]
      · simp [here]

theorem mem_of_assign {target source : Entries} {entry : String × Value}
    (assigned : entry ∈ assign target source) : entry ∈ target ∨ entry ∈ source := by
  induction source generalizing target with
  | nil => exact Or.inl assigned
  | cons first rest ih =>
    have assigned : entry ∈ assign (assignKey target first.1 first.2) rest := assigned
    rcases ih assigned with earlier | later
    · have one : entry ∈ target ∨ entry = first := by
        unfold assignKey at earlier
        split_ifs at earlier
        · exact Or.inl earlier
        · obtain ⟨source, member, same⟩ := List.mem_map.mp earlier
          split_ifs at same
          · exact Or.inr same.symm
          · exact Or.inl (same ▸ member)
        · exact (List.mem_append.mp earlier).imp_right List.mem_singleton.mp
      rcases one with old | rfl
      · exact Or.inl old
      · exact Or.inr List.mem_cons_self
    · exact Or.inr (List.mem_cons_of_mem _ later)

theorem assign_distinct {target : Entries} (source : Entries)
    (distinct : (target.map Prod.fst).Nodup) : ((assign target source).map Prod.fst).Nodup := by
  induction source generalizing target with
  | nil => exact distinct
  | cons entry rest ih =>
    show ((assign (assignKey target entry.1 entry.2) rest).map Prod.fst).Nodup
    apply ih
    unfold assignKey
    split_ifs with proto found
    · exact distinct
    · have keys : (target.map fun other => if other.1 = entry.1 then (entry.1, entry.2)
          else other).map Prod.fst = target.map Prod.fst := by
        rw [List.map_map]
        apply List.map_congr_left
        intro other _
        by_cases here : other.1 = entry.1 <;> simp [here]
      rwa [keys]
    · rw [List.map_append, List.nodup_append_comm]
      exact List.nodup_cons.mpr ⟨by simpa using found, distinct⟩

theorem leaf_of_plain {entries : Entries}
    (plain : ∀ entry ∈ entries, startsWithDollar entry.1 = false) :
    isAndFilter (.object entries) = false := by
  by_contra conjunction
  obtain ⟨items, same⟩ := eq_of_isAndFilter (by simpa using conjunction)
  have dollar : startsWithDollar "$and" = false :=
    plain ("$and", .array items) (by simp [same])
  exact absurd dollar (by decide)

variable {vocabulary : Set (String × Value)}

/-- What the optimizer has made of clauses, which come newest first. -/
structure Passed (vocabulary : Set (String × Value)) (clauses : List Entries) (state : Merge) :
    Prop where
  distinct : (state.mergedClause.map Prod.fst).Nodup
  within : ∀ entry ∈ state.mergedClause, entry ∈ vocabulary
  plain : ∀ entry ∈ state.mergedClause, startsWithDollar entry.1 = false
  merged : ∀ key, getOwn state.mergedClause key = given clauses key
  remaining : ∃ left : List Entries, state.remainingClauses = left.map Value.object ∧
    ∀ entries, entries ∈ left ↔ Remains clauses entries

theorem joins_iff (passed : Passed vocabulary clauses state) (clause : Entries) :
    Joins (given clauses) clause ↔
      (isMergeableClause (.object clause) && canMerge state.mergedClause clause) = true := by
  rw [Joins, Bool.and_eq_true, canMerge, List.all_eq_true]
  refine and_congr Iff.rfl (forall₂_congr fun entry _ => ?_)
  rw [passed.merged]
  cases given clauses entry.1 <;> simp

theorem given_proto (clauses : List Entries) : given clauses "__proto__" = none := by
  induction clauses with
  | nil => rfl
  | cons clause before ih =>
    rw [given, if_neg (fun both => both.2.2 rfl), ih]

/-- One clause more. -/
theorem Passed.step {before : List Entries} {clause : Entries}
    (passed : Passed vocabulary before state) (clean : ClauseOver vocabulary clause)
    (fresh : Fresh before clause) :
    Passed vocabulary (clause :: before) (mergeClause state (.object clause)) := by
  rw [mergeClause]
  by_cases joins : Joins (given before) clause
  · rw [if_pos ((joins_iff passed clause).mp joins)]
    exact {
      distinct := assign_distinct clause passed.distinct
      within := fun entry assigned =>
        (mem_of_assign assigned).elim (passed.within entry) (clean.within entry)
      plain := fun entry assigned => (mem_of_assign assigned).elim (passed.plain entry)
        fun member => by simpa using List.all_eq_true.mp joins.1 entry member
      merged := by
        intro key
        rw [getOwn_assign _ _ clean.distinct, given, passed.merged]
        by_cases proto : key = "__proto__"
        · rw [if_pos proto, if_neg (fun both => both.2.2 proto)]
        · rw [if_neg proto, if_pos ⟨fresh, joins, proto⟩]
      remaining := by
        obtain ⟨left, same, members⟩ := passed.remaining
        refine ⟨left, same, fun entries => (members entries).trans ?_⟩
        rw [Remains, or_iff_right fun one => one.2.2 joins] }
  · rw [if_neg (joins ∘ (joins_iff passed clause).mpr)]
    exact {
      distinct := passed.distinct
      within := passed.within
      plain := passed.plain
      merged := by
        intro key
        rw [given, if_neg fun both => joins both.2.1]
        exact passed.merged key
      remaining := by
        obtain ⟨left, same, members⟩ := passed.remaining
        refine ⟨left ++ [clause], by simp [same], fun entries => ?_⟩
        rw [Remains, List.mem_append, List.mem_singleton, members, or_comm]
        exact or_congr (by simp [fresh, joins]) Iff.rfl }

theorem Passed.skip {before : List Entries} {clause : Entries}
    (passed : Passed vocabulary before state) (repeated : ¬Fresh before clause) :
    Passed vocabulary (clause :: before) state where
  __ := passed
  merged := by
    intro key
    rw [given, if_neg fun both => repeated both.1]
    exact passed.merged key
  remaining := by
    obtain ⟨left, same, members⟩ := passed.remaining
    refine ⟨left, same, fun entries => (members entries).trans ?_⟩
    rw [Remains, or_iff_right fun one => repeated one.2.1]

theorem passed_ok (clauses : List Entries)
    (clean : ∀ entries ∈ clauses, ClauseOver vocabulary entries) :
    Passed vocabulary clauses (passed clauses) := by
  induction clauses with
  | nil => exact ⟨List.nodup_nil, nofun, nofun, fun _ => rfl, [], rfl, by simp [Remains]⟩
  | cons clause before ih =>
    obtain ⟨first, others⟩ := List.forall_mem_cons.mp clean
    obtain ⟨new, old⟩ := passed_cons clause before
    by_cases fresh : Fresh before clause
    · rw [new fresh]
      exact (ih others).step first fresh
    · rw [old fresh]
      exact (ih others).skip fresh

/-- What the optimizer hands on: clauses with just the readings that it keeps. -/
theorem Passed.final (clean : ∀ entries ∈ clauses, ClauseOver vocabulary entries)
    (passed : Passed vocabulary clauses state) :
    ∃ final : List Entries, finalClauses state = final.map Value.object ∧
      (∀ entries ∈ final, ClauseOver vocabulary entries) ∧
      ∀ said, said ∈ readings final ↔ Kept clauses said := by
  obtain ⟨left, same, members⟩ := passed.remaining
  have rest : ∀ entries ∈ left, ClauseOver vocabulary entries := fun entries member =>
    clean entries ((members entries).mp member).mem
  have merged (said : String × Value) : said ∈ state.mergedClause.map reading ↔
      ∃ value, given clauses said.1 = some value ∧ asMongo value = said.2 := by
    rw [List.mem_map]
    constructor
    · rintro ⟨entry, member, rfl⟩
      exact ⟨entry.2, passed.merged _ ▸ getOwn_eq_some_of_mem passed.distinct member, rfl⟩
    · rintro ⟨value, found, read⟩
      exact ⟨(said.1, value), mem_of_getOwn ((passed.merged _).trans found), Prod.ext rfl read⟩
  have remains (said : String × Value) : said ∈ readings left ↔
      ∃ entries, Remains clauses entries ∧ said ∈ entries.map reading := by
    simp only [mem_readings, members]
  rw [finalClauses, same]
  split
  · next empty =>
    refine ⟨left, rfl, rest, fun said => ?_⟩
    rw [remains, Kept, ← merged, List.isEmpty_iff.mp empty]
    simp
  · refine ⟨state.mergedClause :: left, rfl, List.forall_mem_cons.mpr ⟨?_, rest⟩, fun said => ?_⟩
    · exact ⟨passed.distinct, leaf_of_plain passed.plain, passed.within⟩
    · rw [Kept, ← merged, ← remains, readings, List.flatMap_cons, List.mem_append]
      rfl

/-- Where nothing is confused, no reading is lost. -/
theorem kept_of_noConfusion (apart : NoConfusion vocabulary)
    (clean : ∀ entries ∈ clauses, ClauseOver vocabulary entries) {said : String × Value}
    (listed : said ∈ readings clauses) : Kept clauses said := by
  induction clauses with
  | nil => contradiction
  | cons clause before ih =>
    obtain ⟨first, others⟩ := List.forall_mem_cons.mp clean
    have keep (kept : Kept before said) : Kept (clause :: before) said := by
      rcases kept with ⟨value, found, read⟩ | ⟨entries, remains, member⟩
      · by_cases joins : Fresh before clause ∧ Joins (given before) clause ∧
            said.1 ≠ "__proto__"
        · cases own : getOwn clause said.1 with
          | none => exact Or.inl ⟨value, by rw [given, if_pos joins, own, found]; rfl, read⟩
          | some other =>
            obtain ⟨entries, member, listed⟩ := given_mem found
            have here := mem_of_getOwn own
            have alike := apart.alike said.1 value other ((others _ member).within _ listed)
              (first.within _ here)
              (Or.inr ⟨by simpa using List.all_eq_true.mp joins.2.1.1 _ here,
                joins.2.1.2 _ here value found⟩)
            exact Or.inl ⟨other, by rw [given, if_pos joins, own]; rfl, alike.symm.trans read⟩
        · exact Or.inl ⟨value, by rw [given, if_neg joins]; exact found, read⟩
      · exact Or.inr ⟨entries, Or.inr remains, member⟩
    obtain ⟨entries, member, said_here⟩ := mem_readings.mp listed
    rcases List.mem_cons.mp member with rfl | older
    · obtain ⟨entry, here, rfl⟩ := List.mem_map.mp said_here
      by_cases fresh : Fresh before entries
      · by_cases joins : Joins (given before) entries
        · have own : entry.1 ≠ "__proto__" := apart.own entry (first.within entry here)
          refine Or.inl ⟨entry.2, ?_, rfl⟩
          show given (entries :: before) entry.1 = _
          rw [given, if_pos ⟨fresh, joins, own⟩, getOwn_eq_some_of_mem first.distinct here]
          rfl
        · exact Or.inr ⟨entries, Or.inl ⟨rfl, fresh, joins⟩, said_here⟩
      · -- an earlier clause says the same
        simp only [Fresh, not_forall, not_not] at fresh
        obtain ⟨other, older, keyed, alike⟩ := fresh
        obtain ⟨value, held, matched⟩ := exists_of_sameUpToKeyOrder alike here
        have same : asMongo value = asMongo entry.2 :=
          apart.alike entry.1 value entry.2 ((others _ older).within _ held)
            (first.within _ here) (Or.inl ⟨matched, other, others _ older, held, keyed⟩)
        refine keep (ih others (mem_readings.mpr ⟨other, older, List.mem_map.mpr ⟨_, held, ?_⟩⟩))
        exact Prod.ext rfl same
    · exact keep (ih others (mem_readings.mpr ⟨entries, older, said_here⟩))

end Pass

end WebTsToolkit.AccessRouter.Filter
