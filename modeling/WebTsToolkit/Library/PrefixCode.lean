import Mathlib.Data.List.Basic

set_option autoImplicit false

/- Texts that mark their own end. Nothing here depends on what is encoded. -/
namespace WebTsToolkit.PrefixCode

variable {α β γ : Type}

/-- The front of any text determines the encoded value and what follows it. -/
def SelfDelimiting (encode : α → List β) : Prop :=
  ∀ first second rest tail, encode first ++ rest = encode second ++ tail →
    first = second ∧ rest = tail

variable {encode : α → List β}

theorem SelfDelimiting.injective (delimited : SelfDelimiting encode) {first second : α}
    (same : encode first = encode second) : first = second :=
  (delimited first second [] [] (by rw [same])).1

/-- A reader that undoes the encoding in front of every tail delimits it. -/
theorem SelfDelimiting.of_decode (decode : List β → Option (α × List β))
    (undone : ∀ value tail, decode (encode value ++ tail) = some (value, tail)) :
    SelfDelimiting encode := by
  intro first second rest tail same
  have read := undone first rest
  rw [same, undone second tail] at read
  simp only [Option.some.injEq, Prod.mk.injEq] at read
  exact ⟨read.1.symm, read.2.symm⟩

theorem SelfDelimiting.cons (delimited : SelfDelimiting encode) (mark : β) :
    SelfDelimiting (fun value => mark :: encode value) := by
  intro first second rest tail same
  exact delimited first second rest tail (List.cons.inj same).2

theorem SelfDelimiting.comap (delimited : SelfDelimiting encode) (view : γ → α)
    (injective : Function.Injective view) : SelfDelimiting (fun value => encode (view value)) := by
  intro first second rest tail same
  obtain ⟨values, tails⟩ := delimited _ _ rest tail same
  exact ⟨injective values, tails⟩

/-- No encoding starts with the mark, and none is empty. -/
def Avoids (encode : α → List β) (mark : β) : Prop :=
  ∀ value, ∃ head tail, encode value = head :: tail ∧ head ≠ mark

/-- Concatenated encodings up to a closing mark. -/
def terminated (close : β) (encode : α → List β) : List α → List β
  | [] => [close]
  | value :: rest => encode value ++ terminated close encode rest

theorem SelfDelimiting.terminated (delimited : SelfDelimiting encode) {close : β}
    (avoids : Avoids encode close) : SelfDelimiting (PrefixCode.terminated close encode) := by
  intro first
  induction first with
  | nil =>
    intro second rest tail same
    cases second with
    | nil => exact ⟨rfl, (List.cons.inj same).2⟩
    | cons value values =>
      obtain ⟨head, body, shape, apart⟩ := avoids value
      simp only [PrefixCode.terminated, shape, List.cons_append, List.cons.injEq] at same
      exact absurd same.1.symm apart
  | cons value values ih =>
    intro second rest tail same
    cases second with
    | nil =>
      obtain ⟨head, body, shape, apart⟩ := avoids value
      simp only [PrefixCode.terminated, shape, List.cons_append, List.cons.injEq] at same
      exact absurd same.1 apart
    | cons other others =>
      simp only [PrefixCode.terminated, List.append_assoc] at same
      obtain ⟨heads, same⟩ := delimited _ _ _ _ same
      obtain ⟨values, tails⟩ := ih _ _ _ same
      exact ⟨by rw [heads, values], tails⟩

/-- Encodings with a separator between neighbours and a closing mark. -/
def separated (separator close : β) (encode : α → List β) : List α → List β
  | [] => [close]
  | value :: rest =>
    encode value ++ terminated close (fun value => separator :: encode value) rest

theorem SelfDelimiting.separated (delimited : SelfDelimiting encode) {separator close : β}
    (apart : separator ≠ close) (avoids : Avoids encode close) :
    SelfDelimiting (PrefixCode.separated separator close encode) := by
  have following := (delimited.cons separator).terminated
    (fun value => ⟨separator, encode value, rfl, apart⟩)
  intro first second rest tail same
  cases first with
  | nil =>
    cases second with
    | nil => exact ⟨rfl, (List.cons.inj same).2⟩
    | cons other others =>
      obtain ⟨head, body, shape, apart⟩ := avoids other
      simp only [PrefixCode.separated, shape, List.cons_append, List.cons.injEq] at same
      exact absurd same.1.symm apart
  | cons value values =>
    cases second with
    | nil =>
      obtain ⟨head, body, shape, apart⟩ := avoids value
      simp only [PrefixCode.separated, shape, List.cons_append, List.cons.injEq] at same
      exact absurd same.1 apart
    | cons other others =>
      simp only [PrefixCode.separated, List.append_assoc] at same
      obtain ⟨heads, same⟩ := delimited _ _ _ _ same
      obtain ⟨values, tails⟩ := following _ _ _ _ same
      exact ⟨by rw [heads, values], tails⟩

end WebTsToolkit.PrefixCode
