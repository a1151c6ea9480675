/-
  LoggingOperator.Json.Basic — JSON VALUES.

  Declarations, generated objects, stored objects and bodies of requests are
  all JSON values.  Three decisions are made here once:

    * an object is the list of its fields in key order (`Canonical`), so that
      two objects with the same fields are the same value, and `get?` is its
      view;
    * a number is an integer that fits 64 bits, signed or not, or else a
      finite float; the integer `1` and the float `1.0` are different numbers;
    * equality of values (`==`, that is `same`) is equality of the trees,
      except that the two float zeros are equal.

  `Json.cases_on_parts` is the induction principle: a property of all values
  follows from each array's items and each object's field values.
-/
import LoggingOperator.Decimal.Binary64
import LoggingOperator.Keyed

namespace LoggingOperator

/-! ## §1. Numbers and values -/

/-- An integer that fits 64 bits, signed or unsigned. -/
structure Integer where
  val : Int
  ge_min : -9223372036854775808 ≤ val := by decide
  lt_max : val < 18446744073709551616 := by decide
deriving DecidableEq

instance : Inhabited Integer := ⟨{ val := 0 }⟩

namespace Integer

/-- The integer, if it fits. -/
def ofInt? (n : Int) : Option Integer :=
  if h : -9223372036854775808 ≤ n ∧ n < 18446744073709551616 then some ⟨n, h.1, h.2⟩ else none

/-- A signed 32-bit integer. -/
def ofInt32 (n : Int32) : Integer where
  val := n.toInt
  ge_min := by have := n.le_toInt; omega
  lt_max := by have := n.toInt_lt; omega

/-- A signed 64-bit integer. -/
def ofInt64 (n : Int64) : Integer where
  val := n.toInt
  ge_min := by have := n.le_toInt; omega
  lt_max := by have := n.toInt_lt; omega

end Integer

/-- A number of a JSON document. -/
inductive Number where
  | integer (n : Integer)
  | double (x : Binary64)
deriving DecidableEq, Inhabited

namespace Number

/-- Equality of numbers.  An integer never equals a float. -/
def same : Number → Number → Bool
  | .integer m, .integer n => decide (m = n)
  | .double x, .double y => x.agrees y
  | _, _ => false

/-- Zero in any form. -/
def isZero : Number → Bool
  | .integer n => n.val == 0
  | .double x => x.isZero

@[simp] theorem same_self (n : Number) : n.same n = true := by
  cases n <;> simp [same]

end Number

/-- A JSON value.  The fields of an object are in increasing key order. -/
inductive Json where
  | null
  | bool (b : Bool)
  | number (n : Number)
  | string (s : String)
  | array (items : List Json)
  | object (fields : List (String × Json))

namespace Json

instance : Inhabited Json := ⟨.null⟩

/-- The object with these fields, whatever their order. -/
def ofFields (fields : List (String × Json)) : Json :=
  .object (Keyed.ofList fields)

/-- The empty object. -/
def empty : Json := .object []

/-- A signed 32-bit integer as a JSON number. -/
def int32 (n : Int32) : Json := .number (.integer (.ofInt32 n))

/-- A signed 64-bit integer as a JSON number. -/
def int64 (n : Int64) : Json := .number (.integer (.ofInt64 n))

/-- A list of strings. -/
def strings (items : List String) : Json := .array (items.map .string)

/-! ## §2. Looking inside -/

/-- The fields of an object. -/
def fields? : Json → Option (List (String × Json))
  | .object fields => some fields
  | _ => none

/-- The items of an array. -/
def items? : Json → Option (List Json)
  | .array items => some items
  | _ => none

/-- The text of a string. -/
def string? : Json → Option String
  | .string s => some s
  | _ => none

/-- The value of an integer. -/
def integer? : Json → Option Int
  | .number (.integer n) => some n.val
  | _ => none

/-- The value of a boolean. -/
def bool? : Json → Option Bool
  | .bool b => some b
  | _ => none

/-- Is the value an object? -/
def isObject : Json → Bool
  | .object _ => true
  | _ => false

/-- The field `key` of an object. -/
def get? (key : String) : Json → Option Json
  | .object fields => Keyed.get? key fields
  | _ => none

/-- The value reached by following the keys of `path`. -/
def at? : List String → Json → Option Json
  | [], v => some v
  | key :: path, v => (v.get? key).bind (at? path)

/-! ## §3. Changing a field -/

/-- Set the field `key` of an object; any other value stays as it is. -/
def set (target : Json) (key : String) (value : Json) : Json :=
  match target with
  | .object fields => .object (Keyed.insert key value fields)
  | v => v

/-- Remove the field `key` of an object. -/
def remove (key : String) : Json → Json
  | .object fields => .object (Keyed.erase key fields)
  | v => v

/-- Change the field `key` of an object if it is there. -/
def modify (key : String) (change : Json → Json) : Json → Json
  | .object fields => .object (Keyed.modify key change fields)
  | v => v

/-- Set the field `key` of an object unless it is there. -/
def setIfNew (target : Json) (key : String) (value : Json) : Json :=
  match target with
  | .object fields => .object (Keyed.insertIfNew key value fields)
  | v => v

/-- Remove several fields of an object. -/
def removeAll (keys : List String) (v : Json) : Json :=
  keys.foldl (fun v key => v.remove key) v

/-- Change the value reached by following the keys of `path`, if it is there. -/
def modifyAt : List String → (Json → Json) → Json → Json
  | [], change => change
  | key :: path, change => modify key (modifyAt path change)

/-- Change every item of an array. -/
def mapItems (change : Json → Json) : Json → Json
  | .array items => .array (items.map change)
  | v => v

/-! ## §4. Equality -/

mutual

/-- Equality of trees, with numbers compared by `alike`. -/
def alikeWith (alike : Number → Number → Bool) : Json → Json → Bool
  | .null, .null => true
  | .bool a, .bool b => a == b
  | .number m, .number n => alike m n
  | .string s, .string t => decide (s = t)
  | .array xs, .array ys => alikeItems alike xs ys
  | .object xs, .object ys => alikeFields alike xs ys
  | _, _ => false

/-- Equality of lists of items. -/
def alikeItems (alike : Number → Number → Bool) : List Json → List Json → Bool
  | [], [] => true
  | x :: xs, y :: ys => alikeWith alike x y && alikeItems alike xs ys
  | _, _ => false

/-- Equality of lists of fields. -/
def alikeFields (alike : Number → Number → Bool) :
    List (String × Json) → List (String × Json) → Bool
  | [], [] => true
  | (k, x) :: xs, (l, y) :: ys => decide (k = l) && alikeWith alike x y && alikeFields alike xs ys
  | _, _ => false

end

/-- Equality of JSON values. -/
def same : Json → Json → Bool :=
  alikeWith Number.same

instance : BEq Json := ⟨same⟩

/-! ## §5. Induction over the parts of a value -/

/-- To prove a property of every value, prove it of every array whose items
    have it and of every object whose field values have it. -/
theorem cases_on_parts {motive : Json → Prop}
    (null : motive .null) (bool : ∀ b, motive (.bool b)) (number : ∀ n, motive (.number n))
    (string : ∀ s, motive (.string s))
    (array : ∀ items, (∀ x ∈ items, motive x) → motive (.array items))
    (object : ∀ fields, (∀ f ∈ fields, motive f.2) → motive (.object fields)) :
    ∀ v, motive v := by
  intro v
  refine Json.rec (motive_1 := motive) (motive_2 := fun items => ∀ x ∈ items, motive x)
    (motive_3 := fun fields => ∀ f ∈ fields, motive f.2) (motive_4 := fun f => motive f.2)
    null bool number string array object ?_ ?_ ?_ ?_ ?_ v
  · simp
  · intro head tail hHead hTail x hx
    rcases List.mem_cons.1 hx with rfl | hx
    · exact hHead
    · exact hTail x hx
  · simp
  · intro head tail hHead hTail f hf
    rcases List.mem_cons.1 hf with rfl | hf
    · exact hHead
    · exact hTail f hf
  · intro _ v hv
    exact hv

/-! ## §6. The tree equality is decidable -/

theorem alikeWith_self {alike : Number → Number → Bool} (h : ∀ n, alike n n = true) :
    ∀ v, alikeWith alike v v = true := by
  refine cases_on_parts ?_ ?_ ?_ ?_ ?_ ?_
  · simp [alikeWith]
  · simp [alikeWith]
  · simpa [alikeWith] using h
  · simp [alikeWith]
  · intro items ih
    rw [alikeWith]
    induction items with
    | nil => simp [alikeItems]
    | cons x xs hxs =>
      simp only [alikeItems, Bool.and_eq_true]
      exact ⟨ih x (by simp), hxs fun y hy => ih y (by simp [hy])⟩
  · intro fields ih
    rw [alikeWith]
    induction fields with
    | nil => simp [alikeFields]
    | cons f fs hfs =>
      obtain ⟨k, x⟩ := f
      simp only [alikeFields, decide_true, Bool.true_and, Bool.and_eq_true]
      exact ⟨ih (k, x) (by simp), hfs fun y hy => ih y (by simp [hy])⟩

@[simp] theorem same_self (v : Json) : same v v = true :=
  alikeWith_self Number.same_self v

@[simp] theorem beq_self (v : Json) : (v == v) = true :=
  same_self v

/-- Comparing numbers as trees compares values as trees. -/
theorem eq_of_alikeWith {alike : Number → Number → Bool} (h : ∀ m n, alike m n = true → m = n) :
    ∀ v w, alikeWith alike v w = true → v = w := by
  refine cases_on_parts ?_ ?_ ?_ ?_ ?_ ?_
  · intro w; cases w <;> simp [alikeWith]
  · intro b w; cases w <;> simp [alikeWith]
  · intro n w; cases w <;> simp [alikeWith]; exact h n _
  · intro s w; cases w <;> simp [alikeWith]
  · intro items ih w
    cases w <;> simp only [alikeWith, Bool.false_eq_true, false_implies]
    rename_i ys
    intro hys
    congr 1
    induction items generalizing ys with
    | nil => cases ys <;> simp_all [alikeItems]
    | cons x xs hxs =>
      cases ys with
      | nil => simp [alikeItems] at hys
      | cons y ys =>
        simp only [alikeItems, Bool.and_eq_true] at hys
        rw [ih x (by simp) y hys.1, hxs (fun z hz => ih z (by simp [hz])) ys hys.2]
  · intro fields ih w
    cases w <;> simp only [alikeWith, Bool.false_eq_true, false_implies]
    rename_i ys
    intro hys
    congr 1
    induction fields generalizing ys with
    | nil => cases ys <;> simp_all [alikeFields]
    | cons f fs hfs =>
      obtain ⟨k, x⟩ := f
      cases ys with
      | nil => simp [alikeFields] at hys
      | cons y ys =>
        obtain ⟨l, y⟩ := y
        simp only [alikeFields, Bool.and_eq_true, decide_eq_true_eq] at hys
        have hx : x = y := ih (k, x) (by simp) y hys.1.2
        rw [hys.1.1, hx, hfs (fun z hz => ih z (by simp [hz])) ys hys.2]

instance : DecidableEq Json := fun v w =>
  if h : alikeWith (fun m n => decide (m = n)) v w = true then
    isTrue (eq_of_alikeWith (fun _ _ => of_decide_eq_true) v w h)
  else
    isFalse fun hvw => h (hvw ▸ alikeWith_self (fun n => decide_eq_true (Eq.refl n)) v)

/-! ## §7. Canonical values -/

mutual

/-- In every object the keys increase strictly. -/
def Canonical : Json → Prop
  | .array items => CanonicalItems items
  | .object fields => fields.Pairwise (fun f g => f.1 < g.1) ∧ CanonicalFields fields
  | _ => True

/-- Every item is canonical. -/
def CanonicalItems : List Json → Prop
  | [] => True
  | x :: xs => x.Canonical ∧ CanonicalItems xs

/-- Every field value is canonical. -/
def CanonicalFields : List (String × Json) → Prop
  | [] => True
  | (_, v) :: rest => v.Canonical ∧ CanonicalFields rest

end

/-! ## §8. The view of a field -/

@[simp] theorem get?_object (key : String) (fields : List (String × Json)) :
    get? key (.object fields) = Keyed.get? key fields := rfl

theorem get?_set (key k : String) (value : Json) (fields : List (String × Json)) :
    get? key (set (.object fields) k value)
      = if k = key then some value else get? key (.object fields) :=
  Keyed.get?_insert key k value fields

theorem get?_remove (key k : String) (v : Json) :
    get? key (remove k v) = if k = key then none else get? key v := by
  cases v <;> simp [remove, get?, Keyed.get?_erase]

theorem get?_modify (key k : String) (change : Json → Json) (v : Json) :
    get? key (modify k change v)
      = if k = key then (get? key v).map change else get? key v := by
  cases v <;> simp [modify, get?, Keyed.get?_modify]

end Json

end LoggingOperator
