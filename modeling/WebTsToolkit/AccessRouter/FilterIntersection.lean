import WebTsToolkit.AccessRouter.FilterMeaning

set_option autoImplicit false

namespace WebTsToolkit.AccessRouter.Filter

open Js

section Collecting

variable {vocabulary : Set (String × Value)}

/-- The clauses say nothing but what is said, and all of it where nothing is confused; `none` is a
contradiction. -/
def Collected (vocabulary : Set (String × Value)) (said : String × Value → Prop) (never : Prop) :
    Option (List Value) → Prop
  | none => never
  | some clauses => ¬never ∧ ∃ written : List Entries, clauses = written.map Value.object ∧
      (∀ entries ∈ written, ClauseOver vocabulary entries) ∧
      (∀ read ∈ readings written, said read) ∧
      (NoConfusion vocabulary → ∀ read, said read → read ∈ readings written)

theorem readings_reverse (clauses : List Entries) (said : String × Value) :
    said ∈ readings clauses.reverse ↔ said ∈ readings clauses := by
  simp only [mem_readings, List.mem_reverse]

/-- The result of the optimizer for clauses of which it makes these. -/
theorem clausesOf_result (final : List Entries)
    (clean : ∀ entries ∈ final, ClauseOver vocabulary entries) :
    clausesOf (match final.map Value.object with
      | [] => .null
      | [clause] => clause
      | clauses => .object [("$and", .array clauses)]) = some (final.map Value.object) := by
  match final with
  | [] => rfl
  | [entries] => exact clausesOf_leaf (clean entries List.mem_cons_self).leaf
  | first :: second :: rest => rfl

/-- What the last pass hands on, with the readings that it keeps. -/
theorem optimizeClauses_kept {clauses : List Entries}
    (clean : ∀ entries ∈ clauses, ClauseOver vocabulary entries) :
    ∃ final : List Entries,
      clausesOf (optimizeClauses (some (clauses.map Value.object))) =
        some (final.map Value.object) ∧
      (∀ entries ∈ final, ClauseOver vocabulary entries) ∧
      ∀ said, said ∈ readings final ↔ Kept clauses.reverse said := by
  have turned : ∀ entries ∈ clauses.reverse, ClauseOver vocabulary entries := fun entries member =>
    clean entries (List.mem_reverse.mp member)
  obtain ⟨final, same, whole, kept⟩ := (passed_ok clauses.reverse turned).final turned
  rw [passed, List.reverse_reverse] at same
  refine ⟨final, ?_, whole, kept⟩
  rw [optimizeClauses, same]
  exact clausesOf_result final whole

theorem Collected.optimize {said : String × Value → Prop} {never : Prop}
    {clauses : Option (List Value)} (collected : Collected vocabulary said never clauses) :
    Collected vocabulary said never (clausesOf (optimizeClauses clauses)) := by
  cases clauses with
  | none => exact collected
  | some clauses =>
    obtain ⟨possible, written, rfl, clean, sound, complete⟩ := collected
    obtain ⟨final, same, whole, kept⟩ := optimizeClauses_kept clean
    rw [same]
    refine ⟨possible, final, rfl, whole, fun read listed => ?_, fun apart read here => ?_⟩
    · exact sound read ((readings_reverse written read).mp ((kept read).mp listed).mem)
    · refine (kept read).mpr (kept_of_noConfusion apart ?_ ?_)
      · exact fun entries member => clean entries (List.mem_reverse.mp member)
      · exact (readings_reverse written read).mpr (complete apart read here)

theorem Collected.append {said said' : String × Value → Prop} {never never' : Prop}
    {clauses more : Option (List Value)} (collected : Collected vocabulary said never clauses)
    (collected' : Collected vocabulary said' never' more) :
    Collected vocabulary (fun read => said read ∨ said' read) (never ∨ never')
      (clauses.bind fun clauses => more.map (clauses ++ ·)) := by
  cases clauses with
  | none => exact Or.inl collected
  | some clauses =>
    cases more with
    | none => exact Or.inr collected'
    | some more =>
      obtain ⟨possible, written, rfl, clean, sound, complete⟩ := collected
      obtain ⟨possible', written', rfl, clean', sound', complete'⟩ := collected'
      refine ⟨not_or.mpr ⟨possible, possible'⟩, written ++ written', List.map_append.symm,
        List.forall_mem_append.mpr ⟨clean, clean'⟩, ?_, ?_⟩
      · intro read listed
        rw [readings, List.flatMap_append] at listed
        exact (List.mem_append.mp listed).imp (sound read) (sound' read)
      · intro apart read here
        rw [readings, List.flatMap_append]
        exact List.mem_append.mpr (here.imp (complete apart read) (complete' apart read))

theorem collectClauses_collected (items : List Value)
    (normalized : ∀ item ∈ items, Collected vocabulary (Reads · item) (Never item)
      (clausesOf (normalizeFilter item))) :
    Collected vocabulary (fun read => ∃ item ∈ items, Reads read item) (∃ item ∈ items, Never item)
      (collectClauses items) := by
  induction items with
  | nil => exact ⟨nofun, [], rfl, nofun, nofun, nofun⟩
  | cons item rest ih =>
    obtain ⟨first, later⟩ := List.forall_mem_cons.mp normalized
    rw [collectClauses_cons]
    simp only [List.mem_cons, exists_eq_or_imp]
    exact first.append (ih later)

theorem normalizeFilter_collected (filter : Value) (written : FilterOver vocabulary filter) :
    Collected vocabulary (Reads · filter) (Never filter) (clausesOf (normalizeFilter filter)) := by
  induction filter using filter_induction with
  | never => exact .false
  | nothing value notFalse notObject =>
    rw [normalizeFilter_nothing notFalse notObject]
    refine ⟨?_, [], rfl, nofun, nofun, fun _ read reads => ?_⟩
    · rintro ⟨⟩
      · exact notFalse rfl
      · exact notObject _ rfl
    · cases reads <;> exact absurd rfl (notObject _)
  | conjunction items ih =>
    have members := (throughout_and _ _ items).mp written
    have collected := collectClauses_collected items fun item member =>
      ih item member (members item member)
    rw [normalizeFilter_and]
    simpa only [reads_and, never_and] using collected.optimize
  | clause entries leaf =>
    have clean : ClauseOver vocabulary entries := (throughout_leaf _ _ leaf).mp written
    simp only [reads_leaf leaf]
    by_cases empty : entries = []
    · subst empty
      exact ⟨never_leaf leaf, [], rfl, nofun, nofun, nofun⟩
    · rw [normalizeFilter_leaf leaf empty, clausesOf_leaf leaf]
      refine ⟨never_leaf leaf, [entries], rfl, by simpa using clean, ?_, ?_⟩ <;>
        simp [readings]

theorem collected_filters {filters : List Value}
    (written : ∀ filter ∈ filters, FilterOver vocabulary filter) :
    Collected vocabulary (fun read => ∃ filter ∈ filters, Reads read filter)
      (∃ filter ∈ filters, Never filter) (collectClauses filters) :=
  collectClauses_collected filters fun filter member =>
    normalizeFilter_collected filter (written filter member)

/-- The clauses that a filter contributes mean what it means. -/
theorem satisfies_clausesOf (holds : String → Value → Prop) (filter : Value) :
    Satisfies holds filter ↔
      ∃ clauses, clausesOf filter = some clauses ∧ ∀ clause ∈ clauses, Satisfies holds clause := by
  induction filter using filter_induction with
  | never => exact iff_of_false id nofun
  | nothing value notFalse notObject =>
    refine iff_of_true (throughout_nothing _ _ notFalse notObject) ⟨[], ?_, nofun⟩
    unfold clausesOf
    split
    · contradiction
    · exact absurd rfl (notObject _)
    · rfl
  | conjunction items ih =>
    rw [Satisfies, throughout_and]
    simp [clausesOf, unfoldClause]
  | clause entries leaf => simp [clausesOf_leaf leaf]

theorem satisfies_written (holds : String → Value → Prop) {filter : Value} {written : List Entries}
    (same : clausesOf filter = some (written.map Value.object))
    (clean : ∀ entries ∈ written, ClauseOver vocabulary entries) :
    Satisfies holds filter ↔ ∀ said ∈ readings written, holds said.1 said.2 := by
  rw [satisfies_clausesOf, same]
  simp only [Option.some.injEq, exists_eq_left', List.forall_mem_map, readings,
    List.forall_mem_flatMap]
  exact forall₂_congr fun entries member => by
    rw [satisfies_leaf holds (clean entries member).leaf, List.forall_mem_map]

end Collecting

theorem satisfies_of_isNullish (holds : String → Value → Prop) {filter : Value}
    (nullish : filter.isNullish = true) : Satisfies holds filter := by
  cases filter with
  | undefined | null => trivial
  | _ => contradiction

/-- `?? {}` replaces a filter without clauses by one that matches everything. -/
theorem satisfies_intersectFilters (holds : String → Value → Prop) (filters : List Value) :
    Satisfies holds (intersectFilters filters) ↔ Satisfies holds (optimizeAndFilter filters) := by
  rw [intersectFilters]
  split
  · rename_i same
    rw [same]
    simp [Satisfies, Throughout]
  · rfl

/-- The intersection of filters is what the last pass keeps of them. -/
theorem satisfies_intersectFilters_kept (holds : String → Value → Prop) {filters : List Value}
    {clauses : List Entries} (collected : collectClauses filters = some (clauses.map Value.object))
    (clean : ∀ entries ∈ clauses, ClauseOver Set.univ entries) :
    Satisfies holds (intersectFilters filters) ↔
      ∀ said, Kept clauses.reverse said → holds said.1 said.2 := by
  obtain ⟨final, same, whole, kept⟩ := optimizeClauses_kept clean
  rw [satisfies_intersectFilters, optimizeAndFilter, collected, satisfies_written holds same whole]
  simp only [kept]

theorem satisfies_all (holds : String → Value → Prop) (filters : List Value) :
    (∀ filter ∈ filters, filter.isNullish = false → Satisfies holds filter) ↔
      (¬∃ filter ∈ filters, Never filter) ∧
        ∀ said, (∃ filter ∈ filters, Reads said filter) → holds said.1 said.2 := by
  have each : (∀ filter ∈ filters, filter.isNullish = false → Satisfies holds filter) ↔
      ∀ filter ∈ filters, Satisfies holds filter := by
    refine forall₂_congr fun filter _ => ⟨fun satisfied => ?_, fun satisfied _ => satisfied⟩
    cases nullish : filter.isNullish with
    | true => exact satisfies_of_isNullish holds nullish
    | false => exact satisfied nullish
  rw [each]
  simp only [satisfies_iff, not_exists, not_and, forall_exists_index, and_imp]
  exact ⟨fun all => ⟨fun filter member => (all filter member).1,
    fun said filter member => (all filter member).2 said⟩,
    fun all filter member => ⟨all.1 filter member, fun said => all.2 said filter member⟩⟩

/-- One embedded document in two key orders, in clauses that another key keeps apart. -/
def spots : List Entries :=
  [[("spot", .object [("x", .number "1"), ("y", .number "2")]), ("a", .number "1")],
    [("spot", .object [("y", .number "2"), ("x", .number "1")]), ("a", .number "2")]]

theorem spots_kept {entries : Entries} (member : entries ∈ spots) {said : String × Value}
    (listed : said ∈ entries.map reading) : Kept spots.reverse said := by
  obtain ⟨first, second, same⟩ : ∃ first second, spots = [first, second] := ⟨_, _, rfl⟩
  obtain ⟨rfl, rfl⟩ : _ = first ∧ _ = second := by simpa [spots] using same
  have joins (clause : Entries) (plain : isMergeableClause (.object clause) = true) :
      Joins (given []) clause := ⟨plain, fun _ _ _ held => by contradiction⟩
  have merged (key : String) (own : key ≠ "__proto__") :
      given [spots[0]] key = getOwn spots[0] key := by
    rw [given, if_pos ⟨fun _ none => absurd none List.not_mem_nil, joins _ rfl, own⟩]
    exact Option.or_none
  have fresh : Fresh [spots[0]] spots[1] := by
    intro other member _ alike
    rw [List.mem_singleton.mp member] at alike
    exact absurd (dedupeKey_eq_of_sameUpToKeyOrder alike) (by decide)
  have apart : ¬Joins (given [spots[0]]) spots[1] := by
    intro joins
    have equal := joins.2 ("a", .number "2") (by simp [spots]) (.number "1")
      ((merged "a" (by decide)).trans rfl)
    exact absurd equal (by decide)
  rcases List.mem_cons.mp member with rfl | member
  · obtain ⟨entry, here, rfl⟩ := List.mem_map.mp listed
    refine Or.inl ⟨entry.2, ?_, rfl⟩
    show given [spots[1], spots[0]] entry.1 = some entry.2
    rw [given, if_neg fun both => apart both.2.1]
    simp only [List.mem_cons, List.not_mem_nil, or_false] at here
    rcases here with rfl | rfl
    · exact (merged _ (by decide)).trans rfl
    · exact (merged _ (by decide)).trans rfl
  · rw [List.mem_singleton.mp member] at listed
    exact Or.inr ⟨spots[1], Or.inl ⟨rfl, fresh, apart⟩, listed⟩

section Parts

variable {vocabulary : Set (String × Value)}

/-- What the client asks for, as the override leaves it. No override is asked about `false`. -/
def clientFilter (overrideFilter : Option (Value → Value)) (filter : Value) : Value :=
  match overrideFilter with
  | none => filter
  | some override =>
    if isFalse (normalizeFilter filter) then .bool false else override (normalizeFilter filter)

/-- The rows that the request may read. A cached filter stands for the result of the resolver
that it was read from. -/
def rowScope (baseFilter : Option BaseFilter) (cached : Option CachedFilter) : Rows → Value
  | .scope filter => filter
  | .unrestricted => .object []
  | .request =>
    match baseFilter with
    | none => .object []
    | some base =>
      match cached.filter (·.resolver == base.resolver) with
      | some entry => entry.filter
      | none => base.result

theorem filterOver_clause {entries : Entries} (clean : ClauseOver vocabulary entries) :
    FilterOver vocabulary (.object entries) :=
  (throughout_leaf _ _ clean.leaf).mpr clean

theorem filterOver_everything : FilterOver vocabulary (.object []) :=
  filterOver_clause ⟨List.nodup_nil, rfl, nofun⟩

variable {filter : Value}

theorem Collected.filterOver {said : String × Value → Prop} {never : Prop}
    (collected : Collected vocabulary said never (clausesOf filter)) :
    FilterOver vocabulary filter := by
  induction filter using filter_induction with
  | never => trivial
  | nothing value notFalse notObject => exact throughout_nothing _ _ notFalse notObject
  | conjunction items ih =>
    rw [clausesOf, unfoldClause, if_pos rfl] at collected
    obtain ⟨_, written, rfl, clean, _⟩ := collected
    refine (throughout_and _ _ _).mpr fun item member => ?_
    obtain ⟨entries, listed, rfl⟩ := List.mem_map.mp member
    exact filterOver_clause (clean entries listed)
  | clause entries leaf =>
    rw [clausesOf_leaf leaf] at collected
    obtain ⟨_, written, same, clean, _⟩ := collected
    obtain ⟨listed, here, equal⟩ := List.mem_map.mp (same ▸ List.mem_singleton_self _)
    exact equal ▸ filterOver_clause (clean listed here)

theorem Collected.satisfies (apart : NoConfusion vocabulary) {said : String × Value → Prop}
    {never : Prop} (collected : Collected vocabulary said never (clausesOf filter))
    (holds : String → Value → Prop) :
    Satisfies holds filter ↔ ¬never ∧ ∀ read, said read → holds read.1 read.2 := by
  cases found : clausesOf filter with
  | none =>
    rw [found] at collected
    rw [satisfies_clausesOf, found]
    exact iff_of_false nofun fun both => both.1 collected
  | some clauses =>
    rw [found] at collected
    obtain ⟨possible, written, rfl, clean, sound, complete⟩ := collected
    rw [satisfies_written holds found clean]
    exact ⟨fun all => ⟨possible, fun read here => all read (complete apart read here)⟩,
      fun both read listed => both.2 read (sound read listed)⟩

theorem satisfies_normalizeFilter (apart : NoConfusion vocabulary)
    (written : FilterOver vocabulary filter) (holds : String → Value → Prop) :
    Satisfies holds (normalizeFilter filter) ↔ Satisfies holds filter := by
  rw [(normalizeFilter_collected filter written).satisfies apart, satisfies_iff]

theorem satisfies_intersectFilters_pair (apart : NoConfusion vocabulary) {first second : Value}
    (written : FilterOver vocabulary first) (written' : FilterOver vocabulary second)
    (holds : String → Value → Prop) :
    Satisfies holds (intersectFilters [first, second]) ↔
      Satisfies holds first ∧ Satisfies holds second := by
  have both : ∀ filter ∈ [first, second], FilterOver vocabulary filter := by
    simpa using ⟨written, written'⟩
  rw [satisfies_intersectFilters, optimizeAndFilter,
    (collected_filters both).optimize.satisfies apart, satisfies_iff, satisfies_iff]
  simp only [List.mem_cons, List.not_mem_nil, or_false, exists_eq_or_imp, exists_eq_left, not_or,
    or_imp, forall_and]
  exact and_and_and_comm

theorem satisfies_orEverything (holds : String → Value → Prop) (filter : Value) :
    Satisfies holds (orEverything filter) ↔ Satisfies holds filter := by
  cases filter with
  | null | undefined => simp [orEverything, Satisfies, Throughout]
  | _ => rfl

theorem satisfies_everything (holds : String → Value → Prop) : Satisfies holds (.object []) :=
  nofun

theorem not_satisfies_of_isFalse {holds : String → Value → Prop} (closed : isFalse filter = true) :
    ¬Satisfies holds filter := by
  unfold isFalse at closed
  split at closed
  · exact id
  · contradiction

/-- The next filter of a request that is not `false` already. -/
theorem applyOverride_client (apart : NoConfusion vocabulary)
    (overrideFilter : Option (Value → Value)) (written : FilterOver vocabulary filter)
    (overridden : ∀ override ∈ overrideFilter, ∀ filter, FilterOver vocabulary filter →
      FilterOver vocabulary (override filter)) (open' : ¬isFalse (normalizeFilter filter) = true)
    (holds : String → Value → Prop) :
    FilterOver vocabulary (applyOverride overrideFilter (normalizeFilter filter)) ∧
      (Satisfies holds (applyOverride overrideFilter (normalizeFilter filter)) ↔
        Satisfies holds (clientFilter overrideFilter filter)) := by
  have requested := (normalizeFilter_collected filter written).filterOver
  cases overrideFilter with
  | none => exact ⟨requested, satisfies_normalizeFilter apart written holds⟩
  | some override =>
    have next := overridden override rfl _ requested
    rw [clientFilter, if_neg open']
    exact ⟨(normalizeFilter_collected _ next).filterOver,
      satisfies_normalizeFilter apart next holds⟩

theorem readBaseFilter_scope (apart : NoConfusion vocabulary) (base : BaseFilter)
    (cached : Option CachedFilter) (based : FilterOver vocabulary base.result)
    (kept : ∀ entry ∈ cached, FilterOver vocabulary entry.filter) (holds : String → Value → Prop) :
    FilterOver vocabulary (readBaseFilter base cached).1 ∧
      (Satisfies holds (readBaseFilter base cached).1 ↔
        Satisfies holds (rowScope (some base) cached .request)) := by
  rw [readBaseFilter, rowScope]
  cases reusable : cached.filter (·.resolver == base.resolver) with
  | some entry =>
    have member : entry ∈ cached := (Option.filter_eq_some_iff.mp reusable).1
    exact ⟨(normalizeFilter_collected _ (kept entry member)).filterOver,
      satisfies_normalizeFilter apart (kept entry member) holds⟩
  | none =>
    exact ⟨(normalizeFilter_collected _ based).filterOver,
      satisfies_normalizeFilter apart based holds⟩

/-- Whatever the options and the cache hold, a read matches what the client's filter and the row
scope match together. -/
theorem resolveAccessFilterParts_scoped (apart : NoConfusion vocabulary)
    (overrideFilter : Option (Value → Value)) (baseFilter : Option BaseFilter)
    (cached : Option CachedFilter) (rows : Rows) (filter : Value)
    (written : FilterOver vocabulary filter)
    (overridden : ∀ override ∈ overrideFilter, ∀ filter, FilterOver vocabulary filter →
      FilterOver vocabulary (override filter))
    (based : ∀ base ∈ baseFilter, FilterOver vocabulary base.result)
    (kept : ∀ entry ∈ cached, FilterOver vocabulary entry.filter)
    (confined : ∀ scope, rows = .scope scope → FilterOver vocabulary scope)
    (holds : String → Value → Prop) :
    Satisfies holds
        (resolveAccessFilterParts overrideFilter baseFilter cached rows filter).1.filter ↔
      Satisfies holds (clientFilter overrideFilter filter) ∧
        Satisfies holds (rowScope baseFilter cached rows) := by
  rw [resolveAccessFilterParts]
  by_cases refused : isFalse (normalizeFilter filter) = true
  · rw [if_pos (by rw [refused, Bool.true_or])]
    refine iff_of_false id fun both => ?_
    cases overrideFilter with
    | none =>
      have requested := (satisfies_normalizeFilter apart written holds).mpr both.1
      exact not_satisfies_of_isFalse refused requested
    | some override =>
      have client := both.1
      rw [clientFilter, if_pos refused] at client
      exact client
  obtain ⟨next_written, next⟩ := applyOverride_client apart overrideFilter written overridden
    refused holds
  rw [← next]
  by_cases closed : isClosed rows = true
  · rw [if_pos (by rw [closed, Bool.or_true])]
    refine iff_of_false id fun both => ?_
    cases rows with
    | scope scope => exact not_satisfies_of_isFalse closed both.2
    | _ => contradiction
  rw [if_neg (by simp [refused, closed])]
  by_cases ended : isFalse (applyOverride overrideFilter (normalizeFilter filter)) = true
  · simp only [if_pos ended]
    exact iff_of_false id fun both => not_satisfies_of_isFalse ended both.1
  simp only [if_neg ended]
  cases rows with
  | scope scope =>
    exact satisfies_intersectFilters_pair apart next_written (confined scope rfl) holds
  | unrestricted =>
    exact satisfies_intersectFilters_pair apart next_written filterOver_everything holds
  | request =>
    cases baseFilter with
    | none =>
      simp only [satisfies_orEverything, rowScope, satisfies_everything, and_true]
    | some base =>
      obtain ⟨scope_written, scope⟩ := readBaseFilter_scope apart base cached (based base rfl)
        kept holds
      rw [← scope, and_comm]
      exact satisfies_intersectFilters_pair apart scope_written next_written holds

/-- A client that asks for all reads no document outside the base filter. -/
theorem resolveAccessFilterParts_scoped_tenant :
    Satisfies (fun key _ => key = "tenant") (resolveAccessFilterParts none
        (some ⟨0, .object [("tenant", .number "7")]⟩) none .request (.object [])).1.filter ∧
      ¬Satisfies (fun _ _ => False) (resolveAccessFilterParts none
        (some ⟨0, .object [("tenant", .number "7")]⟩) none .request (.object [])).1.filter := by
  have apart : NoConfusion {("tenant", .number "7")} :=
    ⟨by rintro _ rfl; decide, by rintro _ _ _ ⟨⟩ ⟨⟩ _; rfl⟩
  have written : FilterOver {("tenant", .number "7")} (.object [("tenant", .number "7")]) :=
    filterOver_clause ⟨by decide, rfl, by simp⟩
  have exact_read (holds : String → Value → Prop) := resolveAccessFilterParts_scoped apart none
    (some ⟨0, .object [("tenant", .number "7")]⟩) none .request (.object []) filterOver_everything
    (fun _ none => nomatch none) (by rintro _ ⟨⟩; exact written) (fun _ none => nomatch none)
    (fun _ other => nomatch other) holds
  refine ⟨(exact_read _).mpr ⟨satisfies_everything _, ?_⟩, fun matched => ?_⟩
  · exact List.forall_mem_singleton.mpr rfl
  · exact ((exact_read _).mp matched).2 ("tenant", .number "7") List.mem_cons_self

end Parts

end WebTsToolkit.AccessRouter.Filter
