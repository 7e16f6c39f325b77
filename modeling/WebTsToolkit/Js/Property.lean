import WebTsToolkit.Js.Text
import WebTsToolkit.Js.Value

set_option autoImplicit false

namespace WebTsToolkit.Js

/-- `Object.hasOwn` and the read that follows it. -/
def getOwn (entries : Entries) (key : String) : Option Value :=
  entries.lookup key

theorem getOwn_cons (entry : String × Value) (rest : Entries) (key : String) :
    getOwn (entry :: rest) key = if key = entry.1 then some entry.2 else getOwn rest key := by
  by_cases here : key = entry.1
  · rw [if_pos here, here, getOwn, List.lookup_cons_self]
  · rw [if_neg here, getOwn, List.lookup_cons, beq_eq_false_iff_ne.mpr here]
    rfl

theorem mem_of_getOwn {entries : Entries} {key : String} {value : Value}
    (found : getOwn entries key = some value) : (key, value) ∈ entries := by
  obtain ⟨before, after, same, _⟩ := List.lookup_eq_some_iff.mp found
  simp [same]

theorem getOwn_eq_some_of_mem {entries : Entries} {key : String} {value : Value}
    (distinct : (entries.map Prod.fst).Nodup) (member : (key, value) ∈ entries) :
    getOwn entries key = some value := by
  obtain ⟨before, after, same⟩ := List.append_of_mem member
  subst same
  rw [List.map_append, List.map_cons, List.nodup_append] at distinct
  refine List.lookup_eq_some_iff.mpr ⟨before, after, rfl, fun entry member => ?_⟩
  have apart := distinct.2.2 entry.1 (List.mem_map_of_mem member) key List.mem_cons_self
  exact bne_iff_ne.mpr apart.symm

mutual

/-- `isDeepStrictEqual` of node:util: own keys are compared without regard to their order,
numbers by `Object.is`, and a hole only equals a hole. -/
def isDeepStrictEqual : Value → Value → Bool
  | .undefined, .undefined | .null, .null | .hole, .hole => true
  | .bool value, .bool other => value == other
  | .number text, .number other => text == other
  | .bigint value, .bigint other => value == other
  | .string value, .string other => value == other
  | .symbol id, .symbol other => id == other
  | .callable id, .callable other => id == other
  | .date time, .date other => time == other
  | .regexp source flags, .regexp source' flags' => source == source' && flags == flags'
  | .array items, .array others => isDeepStrictEqualItems items others
  | .object entries, .object others =>
    entries.length == others.length && isDeepStrictEqualEntries entries others
  | .classed kind fields, .classed other others =>
    kind == other && fields.length == others.length && isDeepStrictEqualEntries fields others
  | _, _ => false

def isDeepStrictEqualItems : List Value → List Value → Bool
  | [], [] => true
  | item :: rest, other :: others =>
    isDeepStrictEqual item other && isDeepStrictEqualItems rest others
  | _, _ => false

def isDeepStrictEqualEntries : List (String × Value) → List (String × Value) → Bool
  | [], _ => true
  | (key, value) :: rest, others =>
    (match getOwn others key with
      | some other => isDeepStrictEqual value other
      | none => false) &&
    isDeepStrictEqualEntries rest others

end

/-- An own property of an array: `length`, or an item that is not a hole. -/
def ownItem (items : List Value) (key : String) : Option Value :=
  if key = "length" then some (.number items.length.repr)
  else
    match (arrayIndex key).bind (items[·]?) with
    | some .hole => none
    | item => item

/-- `Object.prototype.hasOwnProperty.call(value, key)` and the read that follows, `none` also
where `value` is no object. Maps, sets and documents keep their content off their own
properties. -/
def ownProperty (value : Value) (key : String) : Option Value :=
  match value with
  | .object entries => getOwn entries key
  | .array items => ownItem items key
  | .classed (.custom _) fields => getOwn fields key
  | .regexp _ _ => if key = "lastIndex" then some (.number "0") else none
  | _ => none

end WebTsToolkit.Js
