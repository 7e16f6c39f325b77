import Mathlib.Data.List.Basic

set_option autoImplicit false

namespace WebTsToolkit.Library

variable {ε α β : Type} {result : Except ε α} {convert : α → Except ε β} {items : List α}
  {results : List β}

theorem map_eq_ok {f : α → β} {value : β} (same : result.map f = .ok value) :
    ∃ source, result = .ok source ∧ f source = value := by
  cases result with
  | ok source => exact ⟨source, rfl, by simpa [Except.map] using same⟩
  | error reason => contradiction

theorem exists_of_isOk (succeeds : result.isOk = true) : ∃ value, result = .ok value := by
  cases result with
  | ok value => exact ⟨value, rfl⟩
  | error reason => contradiction

theorem bind_eq_ok {next : α → Except ε β} {value : β} (same : (result >>= next) = .ok value) :
    ∃ source, result = .ok source ∧
      next source = .ok value := by
  cases result with
  | ok source => exact ⟨source, rfl, same⟩
  | error reason => contradiction

/-- All items have a result. -/
theorem mapM_eq_ok {result : α → β} (each : ∀ item ∈ items, convert item = .ok (result item)) :
    items.mapM convert = .ok (items.map result) := by
  induction items with
  | nil => rfl
  | cons item items ih =>
    have rest := ih fun other member => each other (List.mem_cons_of_mem item member)
    rw [List.mapM_cons, each item List.mem_cons_self, rest]
    rfl

theorem mapError_eq_ok {ε' : Type} {change : ε → ε'} {value : α}
    (same : result.mapError change = .ok value) : result = .ok value := by
  cases result with
  | ok source => rw [Except.ok.inj same]
  | error reason => contradiction

/-- Every result comes from an item. -/
theorem mem_of_mapM (converted : items.mapM convert = .ok results) {result : β}
    (member : result ∈ results) : ∃ item ∈ items, convert item = .ok result := by
  induction items generalizing results with
  | nil =>
    rw [← Except.ok.inj converted] at member
    exact absurd member List.not_mem_nil
  | cons item items ih =>
    rw [List.mapM_cons] at converted
    obtain ⟨first, here, later⟩ := bind_eq_ok converted
    obtain ⟨rest, there, same⟩ := bind_eq_ok later
    rw [← Except.ok.inj same] at member
    rcases List.mem_cons.mp member with rfl | member
    · exact ⟨item, List.mem_cons_self, here⟩
    · obtain ⟨source, listed, found⟩ := ih there member
      exact ⟨source, List.mem_cons_of_mem item listed, found⟩

theorem forM_eq_ok {check : α → Except ε Unit} :
    items.forM check = .ok () ↔ ∀ item ∈ items, check item = .ok () := by
  induction items with
  | nil => exact ⟨fun _ _ member => absurd member List.not_mem_nil, fun _ => rfl⟩
  | cons item items ih =>
    rw [List.forall_mem_cons, ← ih]
    show (check item >>= fun _ => items.forM check) = .ok () ↔ _
    constructor
    · intro checked
      obtain ⟨_, here, rest⟩ := bind_eq_ok checked
      exact ⟨here, rest⟩
    · intro checked
      rw [checked.1]
      exact checked.2

theorem mem_of_filterAuxM {test : α → Except ε Bool} {items kept passed : List α}
    (filtered : items.filterAuxM test kept = .ok passed) {item : α} (member : item ∈ passed) :
    item ∈ items ∨ item ∈ kept := by
  induction items generalizing kept with
  | nil =>
    rw [← Except.ok.inj filtered] at member
    exact Or.inr member
  | cons first items ih =>
    obtain ⟨accepted, _, later⟩ := bind_eq_ok filtered
    rcases ih later with listed | before
    · exact Or.inl (List.mem_cons_of_mem first listed)
    · cases accepted with
      | false => exact Or.inr before
      | true =>
        rcases List.mem_cons.mp before with rfl | before
        · exact Or.inl List.mem_cons_self
        · exact Or.inr before

/-- A filter keeps items only. -/
theorem mem_of_filterM {test : α → Except ε Bool} {items passed : List α}
    (filtered : items.filterM test = .ok passed) {item : α} (member : item ∈ passed) :
    item ∈ items := by
  obtain ⟨kept, aux, same⟩ := bind_eq_ok filtered
  rw [← Except.ok.inj same, List.mem_reverse] at member
  rcases mem_of_filterAuxM aux member with listed | before
  · exact listed
  · exact absurd before List.not_mem_nil

/-- Where each result can only be one value, all results are known. -/
theorem mapM_eq_map {value : α → β} (converted : items.mapM convert = .ok results)
    (each : ∀ item ∈ items, ∀ result, convert item = .ok result → result = value item) :
    results = items.map value := by
  induction items generalizing results with
  | nil => exact (Except.ok.inj converted).symm
  | cons item items ih =>
    rw [List.mapM_cons] at converted
    obtain ⟨first, here, later⟩ := bind_eq_ok converted
    obtain ⟨rest, there, same⟩ := bind_eq_ok later
    have others := ih there fun other member => each other (List.mem_cons_of_mem item member)
    rw [← Except.ok.inj same, others, each item List.mem_cons_self first here, List.map_cons]

/-- Results come from their items one by one. -/
theorem mapM_eq_ok_iff :
    items.mapM convert = .ok results ↔
      List.Forall₂ (fun item result => convert item = .ok result) items results := by
  induction items generalizing results with
  | nil =>
    constructor
    · intro done
      rw [← Except.ok.inj done]
      exact List.Forall₂.nil
    · intro empty
      cases empty
      rfl
  | cons item items ih =>
    rw [List.mapM_cons]
    constructor
    · intro converted
      obtain ⟨result, here, later⟩ := bind_eq_ok converted
      obtain ⟨rest, there, same⟩ := bind_eq_ok later
      rw [← Except.ok.inj same]
      exact List.Forall₂.cons here (ih.mp there)
    · intro converted
      cases converted with
      | cons here there =>
        rw [here, ih.mpr there]
        rfl

end WebTsToolkit.Library
