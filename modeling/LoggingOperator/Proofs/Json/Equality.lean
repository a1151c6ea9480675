/-
  LoggingOperator.Proofs.Json.Equality — EQUALITY UP TO THE SIGN OF ZERO.

  Two values are equal (`==`) if they are one tree, except that a float zero may
  have another sign.  So every value has a form in which no zero has a sign
  (`unsigned`), and two values are equal exactly if they have one form
  (`beq_iff`).

  The form of a value is made place by place (`walk_unsigned`), so equal values
  have equal values at the same places, and two sorted objects are equal
  exactly if they have equal fields under the same keys (`beq_object_iff`).
-/
import LoggingOperator.Proofs.Json.Path

namespace LoggingOperator

/-! ## §1. Values without signed zeros -/

namespace Number

/-- The number, without the sign of a zero. -/
def unsigned : Number → Number
  | .integer n => .integer n
  | .double x => .double (if x.isZero then .zero false else x)

theorem same_iff {m n : Number} : m.same n = true ↔ m.unsigned = n.unsigned := by
  cases m with
  | integer a => cases n <;> simp [same, unsigned]
  | double x =>
    cases n with
    | integer b => simp [same, unsigned]
    | double y =>
      have hzero : (Binary64.zero false).isZero = true := rfl
      simp only [same, Binary64.agrees, unsigned, double.injEq, Bool.or_eq_true,
        Bool.and_eq_true, decide_eq_true_eq]
      split <;> split <;> grind

end Number

namespace Json

mutual

/-- The value, without the signs of its zeros. -/
def unsigned : Json → Json
  | .number n => .number n.unsigned
  | .array items => .array (unsignedItems items)
  | .object fields => .object (unsignedFields fields)
  | v => v

/-- The same for every item. -/
def unsignedItems : List Json → List Json
  | [] => []
  | x :: xs => unsigned x :: unsignedItems xs

/-- The same for every field. -/
def unsignedFields : List (String × Json) → List (String × Json)
  | [] => []
  | (k, v) :: rest => (k, unsigned v) :: unsignedFields rest

end

theorem unsignedItems_eq_map (items : List Json) : unsignedItems items = items.map unsigned := by
  induction items with
  | nil => rfl
  | cons x xs ih => rw [unsignedItems, ih, List.map_cons]

theorem unsignedFields_eq_map (fields : List (String × Json)) :
    unsignedFields fields = fields.map fun f => (f.1, unsigned f.2) := by
  induction fields with
  | nil => rfl
  | cons f fs ih => rw [unsignedFields, ih, List.map_cons]

/-- Lists of items are equal if their forms are. -/
theorem alikeItems_iff {xs ys : List Json}
    (h : ∀ x ∈ xs, ∀ y : Json, alikeWith Number.same x y = true ↔ x.unsigned = y.unsigned) :
    alikeItems Number.same xs ys = true ↔ unsignedItems xs = unsignedItems ys := by
  induction xs generalizing ys with
  | nil => cases ys <;> simp [alikeItems, unsignedItems]
  | cons x xs ih =>
    cases ys with
    | nil => simp [alikeItems, unsignedItems]
    | cons y ys =>
      rw [alikeItems, unsignedItems, unsignedItems, Bool.and_eq_true, List.cons.injEq,
        h x List.mem_cons_self, ih fun z hz => h z (List.mem_cons_of_mem _ hz)]

/-- Lists of fields are equal if their forms are. -/
theorem alikeFields_iff {xs ys : List (String × Json)}
    (h : ∀ f ∈ xs, ∀ y : Json, alikeWith Number.same f.2 y = true ↔ f.2.unsigned = y.unsigned) :
    alikeFields Number.same xs ys = true ↔ unsignedFields xs = unsignedFields ys := by
  induction xs generalizing ys with
  | nil => cases ys <;> simp [alikeFields, unsignedFields]
  | cons f xs ih =>
    obtain ⟨k, x⟩ := f
    cases ys with
    | nil => simp [alikeFields, unsignedFields]
    | cons g ys =>
      obtain ⟨l, y⟩ := g
      rw [alikeFields, unsignedFields, unsignedFields, Bool.and_eq_true, Bool.and_eq_true,
        decide_eq_true_eq, List.cons.injEq, Prod.mk.injEq, h (k, x) List.mem_cons_self,
        ih fun z hz => h z (List.mem_cons_of_mem _ hz)]

/-- **Values are equal exactly if they are one value without signed zeros.** -/
theorem beq_iff {v w : Json} : (v == w) = true ↔ v.unsigned = w.unsigned := by
  show alikeWith Number.same v w = true ↔ _
  induction v using cases_on_parts generalizing w with
  | null | bool | string => cases w <;> simp [alikeWith, unsigned]
  | number n => cases w <;> simp [alikeWith, unsigned, Number.same_iff]
  | array items ih =>
    cases w with
    | array items' =>
      rw [alikeWith, unsigned, unsigned, array.injEq]
      exact alikeItems_iff fun x hx y => ih x hx
    | _ => simp [alikeWith, unsigned]
  | object fields ih =>
    cases w with
    | object fields' =>
      rw [alikeWith, unsigned, unsigned, object.injEq]
      exact alikeFields_iff fun f hf y => ih f hf
    | _ => simp [alikeWith, unsigned]

theorem beq_comm (v w : Json) : (v == w) = (w == v) := by
  rw [Bool.eq_iff_iff, beq_iff, beq_iff]
  exact eq_comm

/-! ## §2. Place by place -/

theorem get?_unsigned (k : String) (v : Json) : v.unsigned.get? k = (v.get? k).map unsigned := by
  cases v with
  | object fields =>
    rw [unsigned, unsignedFields_eq_map, get?_object, get?_object, Keyed.get?_mapValues]
  | _ => rfl

/-- **The form of a value is made place by place.** -/
theorem walk_unsigned (p : Path) (v : Json) : v.unsigned.walk p = (v.walk p).map unsigned := by
  induction p generalizing v with
  | nil => rfl
  | cons step p ih =>
    have hchild : v.unsigned.child? step = (v.child? step).map unsigned := by
      cases step with
      | key k => exact get?_unsigned k v
      | item i =>
        cases v with
        | array items =>
          show (unsignedItems items)[i]? = (items[i]?).map unsigned
          rw [unsignedItems_eq_map, List.getElem?_map]
        | _ => rfl
    rw [walk, walk, hchild]
    cases v.child? step with
    | none => rfl
    | some x => exact ih x

/-- Equal values have equal values at the same places. -/
theorem walk_of_beq {v w x : Json} {p : Path} (h : (v == w) = true) (hx : v.walk p = some x) :
    ∃ y, w.walk p = some y ∧ (x == y) = true := by
  have hwalk := walk_unsigned p v
  rw [beq_iff.1 h, walk_unsigned, hx, Option.map_some] at hwalk
  obtain ⟨y, hy, hform⟩ := Option.map_eq_some_iff.1 hwalk
  exact ⟨y, hy, beq_iff.2 hform.symm⟩

/-- **Sorted objects are equal exactly if they have equal fields under the same
    keys.** -/
theorem beq_object_iff {xs ys : List (String × Json)} (hx : Keyed.Sorted xs)
    (hy : Keyed.Sorted ys) :
    (object xs == object ys) = true
      ↔ ∀ k, (Keyed.get? k xs).map unsigned = (Keyed.get? k ys).map unsigned := by
  rw [beq_iff, unsigned, unsigned, object.injEq, unsignedFields_eq_map, unsignedFields_eq_map]
  constructor
  · intro h k
    rw [← Keyed.get?_mapValues, ← Keyed.get?_mapValues, h]
  · intro h
    refine Keyed.eq_of_get? (hx.map_values fun _ => rfl) (hy.map_values fun _ => rfl) fun k => ?_
    rw [Keyed.get?_mapValues, Keyed.get?_mapValues, h k]

end Json

end LoggingOperator
