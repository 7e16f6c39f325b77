import Mathlib.Data.List.Perm.Basic
import Mathlib.Logic.Function.Basic

set_option autoImplicit false

namespace WebTsToolkit.Library

/-- Operations on cells, each of which reads and writes the cell of its key only. -/
structure KeyedSystem (Key Cell Op Out : Type) where
  key : Op → Key
  act : Cell → Op → Out × Cell

namespace KeyedSystem

variable {Key Cell Op Out : Type} [DecidableEq Key] (system : KeyedSystem Key Cell Op Out)

/-- What the operations of one key give, in turn. -/
def cellResults (cell : Cell) : List Op → List (Op × Out)
  | [] => []
  | op :: ops => (op, (system.act cell op).1) :: cellResults (system.act cell op).2 ops

def cellAfter (cell : Cell) (ops : List Op) : Cell :=
  ops.foldl (fun cell op => (system.act cell op).2) cell

def write (store : Key → Cell) (op : Op) : Key → Cell :=
  Function.update store (system.key op) (system.act (store (system.key op)) op).2

def results (store : Key → Cell) : List Op → List (Op × Out)
  | [] => []
  | op :: ops =>
    (op, (system.act (store (system.key op)) op).1) :: results (system.write store op) ops

def after (store : Key → Cell) (ops : List Op) : Key → Cell :=
  ops.foldl system.write store

/-- The operations of one key, in their order. -/
def ofKey (key : Key) (ops : List Op) : List Op :=
  ops.filter fun op => decide (system.key op = key)

variable {system}

theorem after_cons (store : Key → Cell) (op : Op) (ops : List Op) :
    system.after store (op :: ops) = system.after (system.write store op) ops := rfl

theorem after_append (store : Key → Cell) (first second : List Op) :
    system.after store (first ++ second) = system.after (system.after store first) second :=
  List.foldl_append

theorem results_append (store : Key → Cell) (first second : List Op) :
    system.results store (first ++ second) =
      system.results store first ++ system.results (system.after store first) second := by
  induction first generalizing store with
  | nil => rfl
  | cons op first ih =>
    rw [List.cons_append, results, results, List.cons_append, ih, after_cons]

theorem map_results (store : Key → Cell) (ops : List Op) :
    (system.results store ops).map Prod.fst = ops := by
  induction ops generalizing store with
  | nil => rfl
  | cons op ops ih => rw [results, List.map_cons, ih]

theorem write_self (store : Key → Cell) (op : Op) :
    system.write store op (system.key op) = (system.act (store (system.key op)) op).2 :=
  Function.update_self _ _ _

theorem write_other (store : Key → Cell) {op : Op} {key : Key} (differs : system.key op ≠ key) :
    system.write store op key = store key :=
  Function.update_of_ne (Ne.symm differs) _ _

theorem ofKey_cons_self (op : Op) (ops : List Op) :
    system.ofKey (system.key op) (op :: ops) = op :: system.ofKey (system.key op) ops :=
  List.filter_cons_of_pos (decide_eq_true rfl)

theorem ofKey_cons_other {op : Op} {key : Key} (differs : system.key op ≠ key) (ops : List Op) :
    system.ofKey key (op :: ops) = system.ofKey key ops :=
  List.filter_cons_of_neg (by simpa using differs)

/-- A cell only depends on the operations of its key. -/
theorem after_apply (store : Key → Cell) (ops : List Op) (key : Key) :
    system.after store ops key = system.cellAfter (store key) (system.ofKey key ops) := by
  induction ops generalizing store with
  | nil => rfl
  | cons op ops ih =>
    rw [after_cons, ih]
    by_cases same : system.key op = key
    · rw [← same, write_self, ofKey_cons_self]
      rfl
    · rw [write_other store same, ofKey_cons_other same]

/-- What operations of a key give only depends on the operations of that key. -/
theorem filter_results (store : Key → Cell) (ops : List Op) (key : Key) :
    (system.results store ops).filter (fun result => decide (system.key result.1 = key)) =
      system.cellResults (store key) (system.ofKey key ops) := by
  induction ops generalizing store with
  | nil => rfl
  | cons op ops ih =>
    rw [results, List.filter_cons]
    by_cases same : system.key op = key
    · rw [if_pos (decide_eq_true same), ih, ← same, write_self, ofKey_cons_self]
      rfl
    · rw [if_neg (by simpa using same), ih, write_other store same, ofKey_cons_other same]

/-- Two orders that agree for each key leave the same cells. -/
theorem after_eq {ops others : List Op}
    (agree : ∀ key, system.ofKey key ops = system.ofKey key others) (store : Key → Cell) :
    system.after store ops = system.after store others := by
  funext key
  rw [after_apply, after_apply, agree]

/-- Two orders that agree for each key give the same results. -/
theorem results_perm {ops others : List Op}
    (agree : ∀ key, system.ofKey key ops = system.ofKey key others) (store : Key → Cell) :
    (system.results store ops).Perm (system.results store others) := by
  classical
  apply List.perm_iff_count.mpr
  intro result
  have count (list : List Op) : (system.results store list).count result =
      (system.cellResults (store (system.key result.1))
        (system.ofKey (system.key result.1) list)).count result := by
    rw [← filter_results, List.count_filter]
    exact decide_eq_true rfl
  rw [count, count, agree]

theorem mem_of_mem_results {store : Key → Cell} {ops : List Op} {result : Op × Out}
    (member : result ∈ system.results store ops) :
    result.1 ∈ ops ∧ ∃ cell, result.2 = (system.act cell result.1).1 := by
  induction ops generalizing store with
  | nil => exact absurd member List.not_mem_nil
  | cons op ops ih =>
    rw [results, List.mem_cons] at member
    rcases member with rfl | later
    · exact ⟨List.mem_cons_self, store (system.key op), rfl⟩
    · obtain ⟨inside, cell, same⟩ := ih later
      exact ⟨List.mem_cons_of_mem _ inside, cell, same⟩

section Comap

variable {Item : Type}

/-- Operations that come with something that does not matter to their cells. -/
def comap (system : KeyedSystem Key Cell Op Out) (f : Item → Op) :
    KeyedSystem Key Cell Item Out where
  key item := system.key (f item)
  act cell item := system.act cell (f item)

theorem after_comap (f : Item → Op) (store : Key → Cell) (items : List Item) :
    (system.comap f).after store items = system.after store (items.map f) := by
  rw [after, after, List.foldl_map]
  rfl

theorem results_comap (f : Item → Op) (store : Key → Cell) (items : List Item) :
    ((system.comap f).results store items).map (fun result => (f result.1, result.2)) =
      system.results store (items.map f) := by
  induction items generalizing store with
  | nil => rfl
  | cons item items ih =>
    rw [results, List.map_cons, ih, List.map_cons, results]
    rfl

end Comap

end KeyedSystem

end WebTsToolkit.Library
