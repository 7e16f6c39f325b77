import WebTsToolkit.AccessRouter.LeafParents

set_option autoImplicit false

namespace WebTsToolkit.AccessRouter.Processors

open Js Library Utils Utils.PathTree Utils.PathTree.DataTree

variable {Leaf : Type}

/-- An operation may come with its own replacement. -/
structure ProcessMask (Leaf : Type) where
  src : String
  replacement : Option (DataTree Leaf)

/-- The replacement, by default the text `***`. -/
def ProcessMask.redaction (text : String → Leaf) (op : ProcessMask Leaf) : DataTree Leaf :=
  op.replacement.getD (.leaf (text "***"))

def maskParent (leaf : String) (replacement parent : DataTree Leaf) : Option (DataTree Leaf) :=
  if (parent.own leaf).isSome then PathTree.setPath parent (.text leaf) replacement
  else some parent

/-- One round of the loop of `maskPaths`. Nothing where it throws. -/
def maskOperation (text : String → Leaf) (doc : DataTree Leaf) (op : ProcessMask Leaf) :
    Option (DataTree Leaf) :=
  if op.src = "" then some doc
  else if assertSafePath op.src then
    forEachParent doc (resolveLeafParents doc op.src)
      (maskParent (leafOf op.src) (op.redaction text))
  else none

def maskPaths (text : String → Leaf) (doc : DataTree Leaf) (operations : List (ProcessMask Leaf)) :
    Option (DataTree Leaf) :=
  operations.foldlM (maskOperation text) doc

/-- The leaf is redacted in each object that owned it, and nothing else is changed. -/
structure Redacted (doc : DataTree Leaf) (src : String) (replacement result : DataTree Leaf) :
    Prop where
  masked : ∀ parent, Owner doc src parent →
    result.ownPath (parent.position ++ [leafOf src]) = some replacement
  frame : ∀ path, (∀ parent, Owner doc src parent →
      Unrelated (parent.position ++ [leafOf src]) path) →
    result.ownPath path = doc.ownPath path

/-- The grammar of paths reads the leaf as the one key that it is; or the leaf holds the
replacement already, and the write is rejected or finds the replacement where it leads. -/
def Redactable (leaf : String) (replacement parent : DataTree Leaf) : Prop :=
  toPath leaf = [leaf] ∨
    parent.own leaf = some replacement ∧
      (toPath leaf = [] ∨ (toPath leaf).any unsafePathParts.contains = true ∨
        parent.ownPath (toPath leaf) = some replacement)

section Texts

theorem length_bracketName {text name rest : List Char}
    (found : bracketName text = some (name, rest)) : name.length ≤ text.length := by
  rcases text with _ | ⟨quote, inner⟩
  · cases found
  · rw [bracketName] at found
    split at found
    · split at found
      · rename_i first tail _ _ taken _
        have same := Option.some.inj found
        have short := (List.takeWhile_sublist (p := (!isQuote ·)) (l := inner)).length_le
        rw [taken] at short
        rw [← (Prod.mk.inj same).1]
        exact Nat.le_succ_of_le short
      · cases found
    · split at found
      · rename_i first tail _ taken _
        have same := Option.some.inj found
        have short := (List.takeWhile_sublist (p := fun c => !isQuote c && !isBracket c)
          (l := quote :: inner)).length_le
        rw [taken] at short
        rw [← (Prod.mk.inj same).1]
        exact short
      · cases found

/-- A token that is as long as its text is the only one. -/
theorem length_first_token {fuel : Nat} {text : List Char} {first : String} {rest : List String}
    (tokens : pathTokens fuel text = first :: rest) :
    first.toList.length ≤ text.length ∧ (first.toList.length = text.length → rest = []) := by
  induction fuel generalizing text with
  | zero => cases tokens
  | succ fuel ih =>
    rcases text with _ | ⟨c, text⟩
    · cases tokens
    · rw [pathTokens] at tokens
      split at tokens
      · obtain ⟨rfl, rfl⟩ := List.cons.inj tokens
        rw [String.toList_ofList]
        refine ⟨(List.takeWhile_sublist _).length_le, ?_⟩
        intro whole
        have parts := congrArg List.length
          (List.takeWhile_append_dropWhile (p := isBareChar) (l := c :: text))
        rw [List.length_append, whole] at parts
        have none : (c :: text).dropWhile isBareChar = [] := by
          apply List.length_eq_zero_iff.mp
          omega
        rw [none]
        cases fuel <;> rfl
      · split at tokens
        · split at tokens
          · rename_i name rest' found
            obtain ⟨rfl, rfl⟩ := List.cons.inj tokens
            have short := length_bracketName found
            rw [String.toList_ofList, List.length_cons]
            exact ⟨by omega, by omega⟩
          · have short := (ih tokens).1
            rw [List.length_cons]
            exact ⟨by omega, by omega⟩
        · have short := (ih tokens).1
          rw [List.length_cons]
          exact ⟨by omega, by omega⟩

/-- A text that is no single key does not start with itself as a key. -/
theorem head_toPath_ne {text first : String} {rest : List String}
    (parts : toPath text = first :: rest) (several : toPath text ≠ [text]) : first ≠ text := by
  rintro rfl
  rw [toPath] at parts several
  split at parts
  · cases parts
  · rename_i nonempty
    rw [if_neg nonempty] at several
    rcases tokens : pathTokens first.length first.toList with _ | ⟨token, others⟩
    · rw [tokens] at several
      exact several rfl
    · rw [tokens] at parts several
      obtain ⟨rfl, rfl⟩ := List.cons.inj parts
      have alone := (length_first_token tokens).2 rfl
      rw [alone] at several
      exact several rfl

end Texts

section Parent

variable {parent : DataTree Leaf} {leaf : String}

theorem setParts_one (plain : parent.isPlainObject = true) (key : String) (value : DataTree Leaf) :
    ∃ changed, parent.setParts [key] value = some changed := by
  rcases parent with _ | _ | _ | ⟨_ | length, members⟩
  · cases plain
  · cases plain
  · cases plain
  · exact ⟨_, rfl⟩
  · cases plain

/-- An object is redacted as it should be exactly where its leaf is redactable. -/
theorem maskParent_iff (replacement : DataTree Leaf) (plain : parent.isPlainObject = true)
    (owned : (parent.own leaf).isSome = true)
    (safe : unsafePathParts.contains leaf = false) :
    (∃ changed, maskParent leaf replacement parent = some changed ∧
        changed.own leaf = some replacement ∧
          ∀ other, other ≠ leaf → changed.own other = parent.own other) ↔
      Redactable leaf replacement parent := by
  have object := isObject_of_isPlainObject plain
  rw [maskParent, if_pos owned, setPath_text object]
  constructor
  · rintro ⟨changed, set, masked, same⟩
    by_cases one : toPath leaf = [leaf]
    · exact Or.inl one
    · right
      split at set
      · rename_i rejected
        rw [← Option.some.inj set] at masked
        exact ⟨masked, by tauto⟩
      · rename_i accepted
        obtain ⟨nonempty, -⟩ := not_or.mp accepted
        obtain ⟨first, rest, parts⟩ := List.exists_cons_of_ne_nil nonempty
        have apart := head_toPath_ne parts one
        have reads := ownPath_setParts nonempty object set
        rw [parts] at set reads ⊢
        have others := (changedAt_setParts object set).own leaf apart.symm
        refine ⟨others.symm.trans masked, Or.inr (Or.inr ?_)⟩
        rw [DataTree.ownPath, ← same first apart]
        exact reads
  · rintro (one | ⟨masked, keeps⟩)
    · have accepted : ¬ (toPath leaf = [] ∨ (toPath leaf).any unsafePathParts.contains = true) := by
        rw [one]
        simpa using safe
      rw [if_neg accepted, one]
      obtain ⟨changed, set⟩ := setParts_one plain leaf replacement
      have reads := ownPath_setParts (by simp) object set
      refine ⟨changed, set, ?_, (changedAt_setParts object set).own⟩
      simpa [DataTree.ownPath] using reads
    · refine ⟨parent, ?_, masked, fun _ _ => rfl⟩
      split
      · rfl
      · rename_i accepted
        obtain ⟨nonempty, checked⟩ := not_or.mp accepted
        have reads : parent.ownPath (toPath leaf) = some replacement := by tauto
        exact setParts_same nonempty reads

end Parent

section Document

variable {doc result replacement : DataTree Leaf} {src : String}

/-- An empty source is ignored, and nothing would be written for it. -/
theorem maskPaths_singleton {text : String → Leaf} {op : ProcessMask Leaf}
    (safe : assertSafePath op.src = true) (doc : DataTree Leaf) :
    maskPaths text doc [op] =
      forEachParent doc (resolveLeafParents doc op.src)
        (maskParent (leafOf op.src) (op.redaction text)) := by
  have one : maskPaths text doc [op] = maskOperation text doc op := by
    simp [maskPaths]
  rw [one, maskOperation]
  by_cases empty : op.src = ""
  · have placed := placed_resolveLeafParents doc ""
    have idle (parent : Target Leaf) (member : parent ∈ resolveLeafParents doc "") :
        maskParent (leafOf "") (op.redaction text) parent.value = some parent.value := by
      have object := isObject_of_isPlainObject (isPlainObject_of_mem member)
      have nothing : toPath (leafOf "") = [] := by decide
      rw [maskParent, setPath_text object, nothing]
      simp
    rw [if_pos empty, empty, forEachParent_filter (fun _ => false)
      (fun parent member => placed.found parent member (isPlainObject_of_mem member)) placed.apart
      (fun parent member _ => idle parent member), List.filter_false]
    rfl
  · rw [if_neg empty, if_pos safe]

/-- What is below one owner and is not its leaf is not below the leaf of another one either. -/
theorem unrelated_leaves {parent other : Target Leaf} (owner : Owner doc src parent)
    (owner' : Owner doc src other) {key : String} (apart : key ≠ leafOf src) :
    Unrelated (other.position ++ [leafOf src]) (parent.position ++ [key]) := by
  by_cases same : other = parent
  · subst same
    exact unrelated_append _ (unrelated_of_ne apart.symm [] [])
  · have outside := unrelated_owners owner owner' same
    exact outside.below (List.prefix_append _ _) (List.prefix_append _ _)

theorem Redacted.own {parent : Target Leaf} {changed : DataTree Leaf}
    (redacted : Redacted doc src replacement result) (owner : Owner doc src parent)
    (there : result.ownPath parent.position = some changed) :
    changed.own (leafOf src) = some replacement ∧
      ∀ other, other ≠ leafOf src → changed.own other = parent.value.own other := by
  have below (key : String) : result.ownPath (parent.position ++ [key]) = changed.own key := by
    rw [ownPath_append, there]
    simp [DataTree.ownPath]
  constructor
  · rw [← below]
    exact redacted.masked parent owner
  · intro other apart
    rw [← below, redacted.frame _ fun _ owner' => unrelated_leaves owner owner' apart,
      ownPath_owner owner]
    simp [DataTree.ownPath]

/-- What leaves the leaves of all owners alone passes by an owner, or through another key. -/
theorem unrelated_or_through {parent : Target Leaf} {leaf : String} {path : List String}
    (apart : Unrelated (parent.position ++ [leaf]) path) :
    Unrelated parent.position path ∨
      ∃ key rest, key ≠ leaf ∧ path = parent.position ++ key :: rest := by
  by_cases below : parent.position <+: path
  · right
    obtain ⟨rest, rfl⟩ := below
    rcases rest with _ | ⟨key, rest⟩
    · exact absurd (List.append_nil _ ▸ List.prefix_append _ _) apart.2
    · refine ⟨key, rest, ?_, rfl⟩
      rintro rfl
      apply apart.1
      rw [List.prefix_append_right_inj]
      exact List.prefix_append [key] rest
  · left
    exact ⟨below, fun above => apart.2 (above.trans (List.prefix_append _ _))⟩

/-- For every document and every operation with a source without an unsafe segment. -/
theorem maskPaths_redacted_iff (text : String → Leaf) {op : ProcessMask Leaf}
    (safe : assertSafePath op.src = true) (doc : DataTree Leaf) :
    (∃ result, maskPaths text doc [op] = some result ∧
        Redacted doc op.src (op.redaction text) result) ↔
      ∀ parent, Owner doc op.src parent →
        Redactable (leafOf op.src) (op.redaction text) parent.value := by
  have idle (parent : DataTree Leaf) (missing : parent.own (leafOf op.src) = none) :
      maskParent (leafOf op.src) (op.redaction text) parent = some parent := by
    simp [maskParent, missing]
  have each (parent : Target Leaf) (owner : Owner doc op.src parent) :=
    maskParent_iff (op.redaction text) owner.plain owner.owns (leafOf_safe safe)
  obtain ⟨runs, sound⟩ := forEachOwner_spec idle
  rw [maskPaths_singleton safe]
  constructor
  · rintro ⟨result, ran, redacted⟩ parent owner
    obtain ⟨changed, masked, there⟩ := (sound result ran).1 parent owner
    apply (each parent owner).mp
    exact ⟨changed, masked, redacted.own owner there⟩
  · intro redactable
    have masked (parent : Target Leaf) (owner : Owner doc op.src parent) :=
      (each parent owner).mpr (redactable parent owner)
    obtain ⟨result, ran⟩ := runs fun parent owner => (masked parent owner).imp fun _ => And.left
    obtain ⟨changes, frame⟩ := sound result ran
    -- what an owner has become is what its change made of it
    have through (parent : Target Leaf) (owner : Owner doc op.src parent) (key : String)
        (rest : List String) : ∃ changed : DataTree Leaf,
          result.ownPath (parent.position ++ key :: rest) =
              (changed.own key).bind (·.ownPath rest) ∧
            changed.own (leafOf op.src) = some (op.redaction text) ∧
              ∀ other, other ≠ leafOf op.src → changed.own other = parent.value.own other := by
      obtain ⟨changed, made, leaf, others⟩ := masked parent owner
      obtain ⟨changed', made', there⟩ := changes parent owner
      have same := Option.some.inj (made'.symm.trans made)
      subst same
      refine ⟨changed', ?_, leaf, others⟩
      rw [ownPath_append, there]
      rfl
    refine ⟨result, ran, ?_, ?_⟩
    · intro parent owner
      obtain ⟨changed, reads, leaf, -⟩ := through parent owner (leafOf op.src) []
      rw [reads, leaf]
      rfl
    · intro path apart
      by_cases outside : ∀ parent, Owner doc op.src parent → Unrelated parent.position path
      · exact frame path outside
      · simp only [not_forall] at outside
        obtain ⟨parent, owner, inside⟩ := outside
        obtain ⟨key, rest, other, rfl⟩ :=
          (unrelated_or_through (apart parent owner)).resolve_left inside
        obtain ⟨changed, reads, -, others⟩ := through parent owner key rest
        rw [reads, others key other, ownPath_owner owner]
        rfl

end Document

/-- Two users in a list. -/
def accounts : DataTree String :=
  .object .plain [("users", .object (.array 2)
    [("0", .object .plain [("email", .leaf "a@x"), ("age", .leaf "7")]),
      ("1", .object .plain [("age", .leaf "8")])])]

def maskEmails : ProcessMask String where
  src := "users.email"
  replacement := none

theorem maskPaths_accounts :
    (∃ result, maskPaths id accounts [maskEmails] = some result ∧
        Redacted accounts "users.email" (.leaf "***") result) ↔
      ∀ parent, Owner accounts "users.email" parent →
        Redactable (leafOf "users.email") (.leaf "***") parent.value :=
  maskPaths_redacted_iff id (show assertSafePath maskEmails.src = true by decide) accounts

def bracketed : DataTree String :=
  .object .plain [("a[0]", .leaf "secret")]

def maskBracketed : ProcessMask String where
  src := "a[0]"
  replacement := none

/-- The key `a[0]` is owned and keeps its value, and a list `a` appears beside it. -/
theorem maskPaths_bracketed :
    assertSafePath "a[0]" = true ∧ Owner bracketed "a[0]" { position := [], value := bracketed } ∧
      maskPaths id bracketed [maskBracketed] =
          some (.object .plain
            [("a[0]", .leaf "secret"), ("a", .object (.array 1) [("0", .leaf "***")])]) ∧
        ¬ ∃ result, maskPaths id bracketed [maskBracketed] = some result ∧
          Redacted bracketed "a[0]" (.leaf "***") result := by
  have owner : Owner bracketed "a[0]" { position := [], value := bracketed } :=
    ⟨rfl, rfl, rfl⟩
  have ran : maskPaths id bracketed [maskBracketed] =
      some (.object .plain
        [("a[0]", .leaf "secret"), ("a", .object (.array 1) [("0", .leaf "***")])]) := rfl
  refine ⟨by decide, owner, ran, ?_⟩
  rintro ⟨result, ran', redacted⟩
  rw [ran] at ran'
  have kept := redacted.masked _ owner
  rw [← Option.some.inj ran'] at kept
  exact absurd (DataTree.leaf.inj (Option.some.inj kept)) (by decide)

end WebTsToolkit.AccessRouter.Processors
