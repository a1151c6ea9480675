/-
  LoggingOperator.Proofs.Json.Record — RECORDS ARE WRITTEN AS JSON VALUES.

  A record is written by putting its fields together.  What comes out is
  canonical as soon as every field is, whatever order the fields are put
  together in and whatever fields are left out.
-/
import LoggingOperator.Json.Record
import LoggingOperator.Proofs.Json.Canonical
import LoggingOperator.StringMap

namespace LoggingOperator

namespace Json

open Record

variable {α : Type}

@[simp] theorem canonicalFields_nil : CanonicalFields [] := trivial

@[simp] theorem canonicalFields_cons {k : String} {v : Json} {rest : List (String × Json)} :
    CanonicalFields ((k, v) :: rest) ↔ v.Canonical ∧ CanonicalFields rest :=
  Iff.rfl

@[simp] theorem canonicalFields_append {xs ys : List (String × Json)} :
    CanonicalFields (xs ++ ys) ↔ CanonicalFields xs ∧ CanonicalFields ys := by
  simp only [canonicalFields_iff, List.forall_mem_append]

@[simp] theorem canonicalFields_always {k : String} {v : Json} :
    CanonicalFields (always k v) ↔ v.Canonical :=
  and_iff_left trivial

@[simp] theorem canonicalFields_ifSome {k : String} {write : α → Json} {o : Option α} :
    CanonicalFields (ifSome k write o) ↔ ∀ a, o = some a → (write a).Canonical := by
  cases o with
  | none => simp [ifSome]
  | some a => simp [ifSome]

/-- Fields put together are an object. -/
@[simp] theorem canonical_ofCanonicalFields {fields : List (String × Json)}
    (h : CanonicalFields fields) : (ofFields fields).Canonical :=
  canonical_ofFields (canonicalFields_iff.1 h)

@[simp] theorem canonical_int32 (n : Int32) : (int32 n).Canonical := trivial

@[simp] theorem canonical_int64 (n : Int64) : (int64 n).Canonical := trivial

@[simp] theorem canonical_writeList {write : α → Json} {items : List α}
    (h : ∀ a ∈ items, (write a).Canonical) : (writeList write items).Canonical := by
  refine canonical_array.2 fun x hx => ?_
  obtain ⟨a, ha, rfl⟩ := List.mem_map.1 hx
  exact h a ha

@[simp] theorem canonical_strings (items : List String) : (strings items).Canonical :=
  canonical_writeList fun _ _ => trivial

end Json

/-- The pairs of a map are in order already. -/
@[simp] theorem StringMap.canonical_toJson (m : StringMap) : m.toJson.Canonical := by
  refine Json.canonical_object.2 ⟨?_, fun f hf => ?_⟩
  · exact m.sorted.map_values fun _ => rfl
  · obtain ⟨pair, -, rfl⟩ := List.mem_map.1 hf
    trivial

end LoggingOperator
