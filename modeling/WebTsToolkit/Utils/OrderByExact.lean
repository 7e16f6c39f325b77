import WebTsToolkit.Utils.OrderBy

set_option autoImplicit false

namespace WebTsToolkit.Utils.OrderBy

open Js Library Comparator
open JsonText (CodeUnits literalUnits)

/-- Keys that are compared with one another as numbers only, or as texts only, go in no circle. -/
theorem loop_compareAscending_iff (first second third : Scalar) :
    Loop compareAscending first second third ↔ Clash first second third := by
  constructor
  · intro loop
    have one := not_nullish_of_loop loop
    have two := not_nullish_of_loop loop.rotate
    have three := not_nullish_of_loop loop.rotate.rotate
    have toSecond := (compareAscending_nonpos_iff one two).mp loop.toSecond
    have toThird := (compareAscending_nonpos_iff two three).mp loop.toThird
    have toFirst := (compareAscending_nonpos_iff three one).mp loop.toFirst
    refine ⟨toSecond, toThird, toFirst, ?_, ?_⟩
    · by_contra noNumber
      simp only [not_or] at noNumber
      have text := toSecond.resolve_left noNumber.1
      have text' := toThird.resolve_left noNumber.2.1
      have text'' := toFirst.resolve_left noNumber.2.2
      -- Around a circle of texts all of them are the same.
      have same : first.toText = second.toText :=
        le_antisymm text.notGreater (text'.notGreater.trans text''.notGreater)
      have same' : second.toText = third.toText :=
        le_antisymm text'.notGreater (text''.notGreater.trans text.notGreater)
      have strict := loop.strict
      rw [compareAscending_of_textStep text, compareAscending_of_textStep text',
        compareAscending_of_textStep text''] at strict
      simp [compareTexts, same, same'] at strict
    · by_contra noText
      simp only [not_or] at noText
      have lower := (toSecond.resolve_right noText.1).less
      have middle := (toThird.resolve_right noText.2.1).less
      have upper := (toFirst.resolve_right noText.2.2).less
      have around := Coercion.lessThan_trans (Coercion.lessThan_trans lower middle) upper
      simp [Coercion.lessThan_irrefl] at around
  · intro clash
    have order {left right : Scalar} (step : NumberStep left right ∨ TextStep left right) :
        compareAscending left right ≤ 0 := by
      have present : left.isNullish = false ∧ right.isNullish = false :=
        step.elim NumberStep.present TextStep.present
      exact (compareAscending_nonpos_iff present.1 present.2).mpr step
    refine ⟨order clash.toSecond, order clash.toThird, order clash.toFirst, ?_⟩
    rcases clash.byNumber with step | step | step
    · exact Or.inl (compareAscending_neg step)
    · exact Or.inr (Or.inl (compareAscending_neg step))
    · exact Or.inr (Or.inr (compareAscending_neg step))

section Columns

variable {T : Type}

/-- The comparison by one column in its direction. -/
def compareColumn (callback : T → Scalar) (orders : List String) (left right : T) : Int :=
  if orders.head? = some "desc" then compareAscending (callback right) (callback left)
  else compareAscending (callback left) (callback right)

theorem compareBy_cons (callback : T → Scalar) (callbacks : List (T → Scalar))
    (orders : List String) :
    compareBy (callback :: callbacks) orders =
      orElse (compareColumn callback orders) (compareBy callbacks orders.tail) := by
  funext left right
  have reversed := compareAscending_antisymmetric (callback left) (callback right)
  simp only [compareBy, orElse, compareColumn, reversed]
  split_ifs <;> omega

theorem compareColumn_antisymmetric (callback : T → Scalar) (orders : List String) :
    Antisymmetric (compareColumn callback orders) := by
  intro left right
  simp only [compareColumn]
  split_ifs
  · exact compareAscending_antisymmetric (callback right) (callback left)
  · exact compareAscending_antisymmetric (callback left) (callback right)

theorem compareColumn_neg_iff (callback : T → Scalar) (orders : List String) (left right : T) :
    compareColumn callback orders left right < 0 ↔
      if orders.head? = some "desc" then Before (callback right) (callback left)
      else Before (callback left) (callback right) := by
  simp only [compareColumn]
  split_ifs
  · exact compareAscending_neg_iff _ _
  · exact compareAscending_neg_iff _ _

theorem compareColumn_eq_zero_iff (callback : T → Scalar) (orders : List String) (left right : T) :
    compareColumn callback orders left right = 0 ↔ Ties (callback left) (callback right) := by
  have reversed := compareAscending_antisymmetric (callback left) (callback right)
  rw [← compareAscending_eq_zero_iff]
  simp only [compareColumn, reversed]
  split_ifs <;> omega

theorem loop_compareColumn_iff (callback : T → Scalar) (orders : List String)
    (first second third : T) :
    Loop (compareColumn callback orders) first second third ↔
      if orders.head? = some "desc" then
        Clash (callback third) (callback second) (callback first)
      else Clash (callback first) (callback second) (callback third) := by
  split_ifs with descending
  · have column : compareColumn callback orders =
        fun left right => compareAscending (callback right) (callback left) := by
      funext left right
      rw [compareColumn, if_pos descending]
    rw [← loop_compareAscending_iff, column, ← loop_swap]
    exact ⟨fun ⟨one, two, three, strict⟩ => ⟨one, two, three, strict⟩,
      fun ⟨one, two, three, strict⟩ => ⟨one, two, three, strict⟩⟩
  · have column : compareColumn callback orders =
        fun left right => compareAscending (callback left) (callback right) := by
      funext left right
      rw [compareColumn, if_neg descending]
    rw [← loop_compareAscending_iff, column]
    exact ⟨fun ⟨one, two, three, strict⟩ => ⟨one, two, three, strict⟩,
      fun ⟨one, two, three, strict⟩ => ⟨one, two, three, strict⟩⟩

theorem compareBy_antisymmetric (callbacks : List (T → Scalar)) (orders : List String) :
    Antisymmetric (compareBy callbacks orders) := by
  induction callbacks generalizing orders with
  | nil =>
    intro left right
    rfl
  | cons callback callbacks ih =>
    rw [compareBy_cons]
    exact (compareColumn_antisymmetric callback orders).orElse (ih orders.tail)

theorem compareEntries_eq (callbacks : List (T → Scalar)) (orders : List String) :
    compareEntries callbacks orders = withPosition (compareBy callbacks orders) :=
  rfl

theorem compareEntries_antisymmetric (callbacks : List (T → Scalar)) (orders : List String) :
    Antisymmetric (compareEntries callbacks orders) :=
  (compareBy_antisymmetric callbacks orders).withPosition

theorem compareEntries_cons (callback : T → Scalar) (callbacks : List (T → Scalar))
    (orders : List String) :
    compareEntries (callback :: callbacks) orders =
      orElse (fun left right => compareColumn callback orders left.1 right.1)
        (compareEntries callbacks orders.tail) := by
  funext left right
  simp only [compareEntries_eq, withPosition, compareBy_cons, orElse]
  split_ifs <;> omega

theorem compareEntries_neg_iff (callbacks : List (T → Scalar)) (orders : List String)
    (left right : T × Nat) :
    compareEntries callbacks orders left right < 0 ↔ Precedes callbacks orders left right := by
  induction callbacks generalizing orders with
  | nil =>
    simp only [compareEntries, compareBy, Precedes, ne_eq, not_true_eq_false, ↓reduceIte]
    omega
  | cons callback callbacks ih =>
    rw [compareEntries_cons, Precedes, ← ih, ← compareColumn_neg_iff,
      ← compareColumn_eq_zero_iff callback orders, orElse]
    split_ifs <;> omega

/-- The entries that a comparison by columns and positions leads around in a circle. -/
theorem loop_compareEntries_iff (callbacks : List (T → Scalar)) (orders : List String)
    (first second third : T × Nat) :
    Loop (compareEntries callbacks orders) first second third ↔
      Contradicts callbacks orders first second third := by
  induction callbacks generalizing orders with
  | nil =>
    rw [Contradicts, iff_false]
    rintro ⟨toSecond, toThird, toFirst, strict⟩
    simp only [compareEntries, compareBy, ne_eq, not_true_eq_false, ↓reduceIte] at *
    omega
  | cons callback callbacks ih =>
    have stays (left right : T × Nat) : compareEntries callbacks orders.tail left right ≤ 0 ↔
        ¬ Precedes callbacks orders.tail right left := by
      have reversed := compareEntries_antisymmetric callbacks orders.tail left right
      rw [← compareEntries_neg_iff]
      omega
    have column : Loop (fun left right : T × Nat => compareColumn callback orders left.1 right.1)
        first second third ↔ Loop (compareColumn callback orders) first.1 second.1 third.1 :=
      ⟨fun ⟨one, two, three, strict⟩ => ⟨one, two, three, strict⟩,
        fun ⟨one, two, three, strict⟩ => ⟨one, two, three, strict⟩⟩
    rw [compareEntries_cons, loop_orElse_iff, column, loop_compareColumn_iff, ih]
    simp only [compareColumn_eq_zero_iff, stays, Contradicts]

end Columns

section Claim

variable {T : Type} (array : SortMethod (T × Nat))

/-- The comparison is an order of the entries, and the result is the stable sort by it. -/
structure SortsStably (callbacks : List (T → Scalar)) (orders : List String)
    (values result : List T) : Prop where
  antisymmetric : Antisymmetric (compareEntries callbacks orders)
  transitive : TransitiveOn (compareEntries callbacks orders) values.zipIdx
  permutation : result.Perm values
  sorted : IsStableSort (compareBy callbacks orders) values result

theorem isStableSort_orderBy (identity : T → Scalar) (collection : Option (List T))
    (iteratees : List (T → Scalar)) (orders : List String)
    (transitive : TransitiveOn (compareEntries (callbacksOf identity iteratees) orders)
      (collection.getD []).zipIdx) :
    IsStableSort (compareBy (callbacksOf identity iteratees) orders) (collection.getD [])
      (orderBy array identity collection iteratees orders) := by
  cases collection with
  | none => exact ⟨[], List.Perm.refl _, rfl, List.Pairwise.nil⟩
  | some values => exact array.isStableSort (compareBy_antisymmetric _ _) transitive

/-- Where three values contradict each other, nothing is a stable sort. -/
theorem not_isStableSort {callbacks : List (T → Scalar)} {orders : List String} {values : List T}
    {first second third : T × Nat} (one : first ∈ values.zipIdx) (two : second ∈ values.zipIdx)
    (three : third ∈ values.zipIdx)
    (contradicts : Contradicts callbacks orders first second third) (result : List T) :
    ¬ IsStableSort (compareBy callbacks orders) values result := by
  intro sorted
  apply sorted.not_loop (compareBy_antisymmetric callbacks orders) one two three
  exact (loop_compareEntries_iff callbacks orders first second third).mpr contradicts

/-- The texts "10" and "9" and the number 9.5. -/
def mixedKeys : List Scalar :=
  [.string (literalUnits "10"), .string (literalUnits "9"), .number (.finite (19 / 2))]

end Claim

section Uniform

variable {T : Type}

/-- A column of strings only, or of numbers other than NaN, besides missing keys. -/
def Uniform (keys : List Scalar) : Prop :=
  (∀ key ∈ keys, key.isNullish = true ∨ key.isString = true) ∨
    ∀ key ∈ keys, key.isNullish = true ∨ ∃ value : Number, key = .number value ∧ value ≠ .nan

/-- Numbers other than NaN that a step puts in order are in order as numbers. -/
theorem le_of_step {first second : Number} (here : first ≠ .nan) (there : second ≠ .nan)
    (step : NumberStep (.number first) (.number second) ∨
      TextStep (.number first) (.number second)) : first.le second = true := by
  rcases step with step | step
  · have less : Coercion.lessThan first second = true := step.less
    rw [Coercion.lessThan, Bool.and_eq_true] at less
    exact less.1
  · rcases step.texts with strings | ⟨-, notGreater⟩
    · contradiction
    · have greater : Coercion.lessThan second first = false := notGreater
      have total : first.le second = true ∨ second.le first = true := by
        cases first <;> cases second <;> simp_all [Number.le, le_total]
        · grind
      rcases total with lower | upper
      · exact lower
      · simpa [Coercion.lessThan, upper] using greater

theorem not_clash_of_uniform {keys : List Scalar} (uniform : Uniform keys)
    {first second third : Scalar} (one : first ∈ keys) (two : second ∈ keys)
    (three : third ∈ keys) : ¬ Clash first second third := by
  intro clash
  have present : first.isNullish = false ∧ second.isNullish = false ∧ third.isNullish = false :=
    ⟨clash.toSecond.elim (·.present.1) (·.present.1),
      clash.toThird.elim (·.present.1) (·.present.1), clash.toFirst.elim (·.present.1) (·.present.1)⟩
  rcases uniform with strings | numbers
  · have isString {key : Scalar} (member : key ∈ keys) (here : key.isNullish = false) :
        key.isString = true := by
      rcases strings key member with missing | string
      · rw [here] at missing
        contradiction
      · exact string
    have noStep {left right : Scalar} (here : left.isString = true)
        (there : right.isString = true) : ¬ NumberStep left right := by
      intro step
      have mixed := step.mixed
      rw [here, there] at mixed
      contradiction
    have one := isString one present.1
    have two := isString two present.2.1
    have three := isString three present.2.2
    rcases clash.byNumber with step | step | step
    · exact noStep one two step
    · exact noStep two three step
    · exact noStep three one step
  · have isNumber {key : Scalar} (member : key ∈ keys) (here : key.isNullish = false) :
        ∃ value : Number, key = .number value ∧ value ≠ .nan := by
      rcases numbers key member with missing | number
      · rw [here] at missing
        contradiction
      · exact number
    obtain ⟨x, rfl, isX⟩ := isNumber one present.1
    obtain ⟨y, rfl, isY⟩ := isNumber two present.2.1
    obtain ⟨z, rfl, isZ⟩ := isNumber three present.2.2
    have toSecond := le_of_step isX isY clash.toSecond
    have toThird := le_of_step isY isZ clash.toThird
    have toFirst := le_of_step isZ isX clash.toFirst
    have noStep {left right : Number} (back : right.le left = true) :
        ¬ NumberStep (.number left) (.number right) := by
      intro step
      have less : Coercion.lessThan left right = true := step.less
      simp [Coercion.lessThan, back] at less
    rcases clash.byNumber with step | step | step
    · exact noStep (Number.le_trans toThird toFirst) step
    · exact noStep (Number.le_trans toFirst toSecond) step
    · exact noStep (Number.le_trans toSecond toThird) step

/-- Values whose columns are of one kind each do not contradict each other. -/
theorem not_contradicts_of_uniform (callbacks : List (T → Scalar)) (orders : List String)
    {values : List T} (uniform : ∀ callback ∈ callbacks, Uniform (values.map callback))
    {first second third : T × Nat} (one : first.1 ∈ values) (two : second.1 ∈ values)
    (three : third.1 ∈ values) : ¬ Contradicts callbacks orders first second third := by
  induction callbacks generalizing orders with
  | nil => exact id
  | cons callback callbacks ih =>
    have column := uniform callback List.mem_cons_self
    have one' := List.mem_map_of_mem (f := callback) one
    have two' := List.mem_map_of_mem (f := callback) two
    have three' := List.mem_map_of_mem (f := callback) three
    rintro (⟨-, -, -, later⟩ | ⟨clash, -⟩)
    · exact ih orders.tail
        (fun other member => uniform other (List.mem_cons_of_mem _ member)) later
    · split_ifs at clash
      · exact not_clash_of_uniform column three' two' one' clash
      · exact not_clash_of_uniform column one' two' three' clash

end Uniform

end WebTsToolkit.Utils.OrderBy
