/-
  LoggingOperator.StringMap — FINITE MAPS FROM STRINGS TO STRINGS.

  Labels, annotations, node selectors and resource amounts are maps from
  strings to strings.  A map holds its pairs in key order, so that equal maps
  are the same value.
-/
import LoggingOperator.Json.Basic

namespace LoggingOperator

/-- A finite map from strings to strings. -/
structure StringMap where
  entries : List (String × String)
  sorted : Keyed.Sorted entries
deriving DecidableEq

namespace StringMap

/-- The map with these pairs; of two pairs with one key the first wins. -/
def ofList (pairs : List (String × String)) : StringMap :=
  ⟨Keyed.ofList pairs, Keyed.sorted_ofList pairs⟩

/-- The map without pairs. -/
def empty : StringMap := ⟨[], List.Pairwise.nil⟩

instance : Inhabited StringMap := ⟨empty⟩

/-- The value under a key. -/
def get? (key : String) (m : StringMap) : Option String :=
  Keyed.get? key m.entries

/-- The map as a JSON object. -/
def toJson (m : StringMap) : Json :=
  .object (m.entries.map fun (k, v) => (k, .string v))

/-- One pair of a map. -/
def pair? : String × Json → Option (String × String)
  | (k, .string v) => some (k, v)
  | _ => none

/-- The map written as a JSON object of strings. -/
def ofJson? (v : Json) : Option StringMap := do
  let fields ← v.fields?
  let pairs ← fields.mapM pair?
  return ofList pairs

theorem ofList_entries (m : StringMap) : ofList m.entries = m := by
  cases m with
  | mk entries sorted => simp [ofList, Keyed.ofList_eq_self sorted]

theorem mapM_pair?_map (pairs : List (String × String)) :
    (pairs.map fun (k, v) => (k, Json.string v)).mapM pair? = some pairs := by
  induction pairs with
  | nil => rfl
  | cons p rest ih =>
    obtain ⟨k, v⟩ := p
    simp [List.mapM_cons, pair?, ih]

/-- A map written as an object reads back. -/
@[simp] theorem ofJson?_toJson (m : StringMap) : ofJson? m.toJson = some m := by
  simp only [ofJson?, toJson, Json.fields?, Option.bind_eq_bind, Option.bind_some]
  rw [mapM_pair?_map]
  simp [ofList_entries]

end StringMap

end LoggingOperator
