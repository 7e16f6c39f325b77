import Mathlib.Algebra.GroupWithZero.Nat
import Mathlib.Data.List.Forall2
import WebTsToolkit.Library.Outcome

set_option autoImplicit false

namespace WebTsToolkit.Library

variable {ε α β γ : Type}

/-- Converts items in order. Each step gets the item's position and the count reached before
it, and gives the count reached after it. -/
def traverse (step : Nat → Nat → α → Except ε (β × Nat)) :
    Nat → Nat → List α → Except ε (List β × Nat)
  | _, count, [] => .ok ([], count)
  | position, count, item :: items => do
    let first ← step position count item
    let rest ← traverse step (position + 1) first.2 items
    return (first.1 :: rest.1, rest.2)

variable {items : List α} {results : List β}

/-- What a finished traversal converted, and what it charged. -/
theorem traverse_sound {step : Nat → Nat → α → Except ε (β × Nat)} {limit : Nat}
    {Reads : α → γ → Prop} {convert : γ → β} {cost : γ → Nat}
    (each : ∀ item ∈ items, ∀ position count result count', count ≤ limit →
      step position count item = .ok (result, count') →
      ∃ source, Reads item source ∧ result = convert source ∧ count' = count + cost source ∧
        count' ≤ limit) {position count count' : Nat} (within : count ≤ limit)
    (run : traverse step position count items = .ok (results, count')) :
    ∃ sources, List.Forall₂ Reads items sources ∧ results = sources.map convert ∧
      count' = count + (sources.map cost).sum ∧ count' ≤ limit := by
  induction items generalizing position count count' results with
  | nil =>
    have done := Prod.mk.inj (Except.ok.inj run)
    exact ⟨[], List.Forall₂.nil, done.1.symm, done.2.symm, by omega⟩
  | cons item items ih =>
    obtain ⟨⟨result, middle⟩, here, later⟩ := bind_eq_ok run
    obtain ⟨⟨rest, final⟩, there, same⟩ := bind_eq_ok later
    have done := Prod.mk.inj (Except.ok.inj same)
    obtain ⟨source, reads, converted, charged, bounded⟩ :=
      each item List.mem_cons_self position count result middle within here
    obtain ⟨sources, readsRest, convertedRest, chargedRest, boundedRest⟩ :=
      ih (fun other member => each other (List.mem_cons_of_mem item member)) bounded there
    refine ⟨source :: sources, List.Forall₂.cons reads readsRest, ?_, ?_, ?_⟩
    · rw [← done.1, converted, convertedRest, List.map_cons]
    · rw [← done.2, List.map_cons, List.sum_cons]
      omega
    · rw [← done.2]
      exact boundedRest

/-- A traversal whose charges fit finishes. -/
theorem traverse_complete {step : Nat → Nat → α → Except ε (β × Nat)} {limit : Nat}
    {convert : γ → β} {cost : γ → Nat} {sources : List γ}
    (each : List.Forall₂ (fun item source => ∀ position count, count + cost source ≤ limit →
      step position count item = .ok (convert source, count + cost source)) items sources)
    (position count : Nat) (within : count + (sources.map cost).sum ≤ limit) :
    traverse step position count items =
      .ok (sources.map convert, count + (sources.map cost).sum) := by
  induction each generalizing position count with
  | nil => rfl
  | @cons item source items sources here _ ih =>
    rw [List.map_cons, List.sum_cons] at within
    have first := here position count (by omega)
    have rest := ih (position + 1) (count + cost source) (by omega)
    rw [traverse, first]
    show (traverse step (position + 1) (count + cost source) items >>= fun _ => _) = _
    rw [rest, List.map_cons, List.map_cons, List.sum_cons, ← Nat.add_assoc]
    rfl

/-- Two relations met in turn. -/
theorem forall₂_exists {first : α → β → Prop} {second : β → γ → Prop} {results : List γ}
    (related : List.Forall₂
      (fun item result => ∃ middle, first item middle ∧ second middle result) items results) :
    ∃ middles, List.Forall₂ first items middles ∧ List.Forall₂ second middles results := by
  induction related with
  | nil => exact ⟨[], List.Forall₂.nil, List.Forall₂.nil⟩
  | cons here _ ih =>
    obtain ⟨middle, before, after⟩ := here
    obtain ⟨middles, befores, afters⟩ := ih
    exact ⟨middle :: middles, befores.cons before, afters.cons after⟩

theorem exists_of_mem_right {related : α → β → Prop} (all : List.Forall₂ related items results)
    {result : β} (member : result ∈ results) : ∃ item ∈ items, related item result := by
  induction all with
  | nil => exact absurd member List.not_mem_nil
  | @cons first _ _ _ here _ ih =>
    rcases List.mem_cons.mp member with same | member
    · exact ⟨first, List.mem_cons_self, same ▸ here⟩
    · obtain ⟨item, listed, reads⟩ := ih member
      exact ⟨item, List.mem_cons_of_mem first listed, reads⟩

/-- Results known from their items. -/
theorem eq_map_of_forall₂ {convert : α → β}
    (all : List.Forall₂ (fun item result => result = convert item) items results) :
    results = items.map convert := by
  induction all with
  | nil => rfl
  | cons here _ ih => rw [here, ih, List.map_cons]

theorem map_eq_of_forall₂ {read : α → γ} {read' : β → γ}
    (all : List.Forall₂ (fun item result => read item = read' result) items results) :
    items.map read = results.map read' := by
  induction all with
  | nil => rfl
  | cons here _ ih => rw [List.map_cons, List.map_cons, here, ih]

/-- Two readings of the same items, side by side. -/
theorem forall₂_meet {first : α → β → Prop} {second : α → γ → Prop} {both : β → γ → Prop}
    {others : List γ}
    (each : ∀ item ∈ items, ∀ result, ∀ other ∈ others, first item result → second item other →
      both result other) (here : List.Forall₂ first items results)
    (there : List.Forall₂ second items others) : List.Forall₂ both results others := by
  induction here generalizing others with
  | nil =>
    rw [List.forall₂_nil_left_iff.mp there]
    exact List.Forall₂.nil
  | cons reads _ ih =>
    cases there with
    | cons reads' there' =>
      have head := each _ List.mem_cons_self _ _ List.mem_cons_self reads reads'
      refine List.Forall₂.cons head (ih (fun item listed result other member => ?_) there')
      exact each item (List.mem_cons_of_mem _ listed) result other
        (List.mem_cons_of_mem _ member)

/-- Where each result has one source, so have all results together. -/
theorem forall₂_unique {related : α → β → Prop} {items others : List α}
    (each : ∀ item ∈ items, ∀ other result, related item result → related other result →
      item = other) (first : List.Forall₂ related items results)
    (second : List.Forall₂ related others results) : items = others := by
  induction first generalizing others with
  | nil => exact (List.forall₂_nil_right_iff.mp second).symm
  | cons here _ ih =>
    cases second with
    | cons here' there' =>
      have head := each _ List.mem_cons_self _ _ here here'
      have rest := ih (fun item member => each item (List.mem_cons_of_mem _ member)) there'
      rw [head, rest]

theorem mapM_eq_some_iff {convert : α → Option β} :
    items.mapM convert = some results ↔
      List.Forall₂ (fun item result => convert item = some result) items results := by
  induction items generalizing results with
  | nil =>
    rw [List.forall₂_nil_left_iff]
    constructor
    · intro done
      exact (Option.some.inj done).symm
    · intro empty
      rw [empty]
      rfl
  | cons item items ih =>
    rw [List.mapM_cons, List.forall₂_cons_left_iff]
    constructor
    · intro converted
      obtain ⟨result, here, later⟩ := Option.bind_eq_some_iff.mp converted
      obtain ⟨rest, there, same⟩ := Option.bind_eq_some_iff.mp later
      exact ⟨result, rest, here, ih.mp there, (Option.some.inj same).symm⟩
    · rintro ⟨result, rest, here, there, same⟩
      rw [here, ih.mpr there, same]
      rfl

end WebTsToolkit.Library
