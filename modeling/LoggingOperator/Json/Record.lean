/-
  LoggingOperator.Json.Record — FIELDS OF DECLARED TYPES.

  A declared type is written as an object with one field per component and is
  read back field by field; fields of other names are ignored.  It is also read
  from an array, whose items are the components in their order (`record?`).  How
  a component is treated is one of five ways:

    * `required`   — the field has to be there;
    * `defaulted`  — an absent field means the default, `null` is an error;
    * `optional`   — an absent field and `null` both mean nothing, and nothing
                     is not written;
    * `zeroed`     — an absent field and `null` both mean the zero value, and
                     it is always written;
    * `unlessEmpty` — an absent list means the empty list, which is not written.

  Each way of reading is beside its way of writing, and reading what was
  written gives the component back.
-/
import LoggingOperator.Json.Basic

namespace LoggingOperator.Json.Record

variable {α : Type}

/-! ## §1. Reading a field -/

/-- The object that a record is read from. -/
def object? (v : Json) : Option Json :=
  if v.isObject then some v else none

/-- The object that a record with fields of these names is read from.  An array
    holds the fields without their names; it may leave out the last ones, but
    none of the first `least`. -/
def record? (names : List String) (least : Nat) : Json → Option Json
  | .object fields => some (.object fields)
  | .array items =>
    if least ≤ items.length ∧ items.length ≤ names.length then some (ofFields (names.zip items))
    else none
  | _ => none

/-- The word for a choice between words: a text, or an object that has the word
    as its only key and nothing under it. -/
def word? : Json → Option String
  | .string word => some word
  | .object [(word, .null)] => some word
  | _ => none

/-- The value of a field that has to be there. -/
def required (v : Json) (key : String) (read : Json → Option α) : Option α :=
  (v.get? key).bind read

/-- The value of a field, or a default if there is no such field. -/
def defaulted (v : Json) (key : String) (default : α) (read : Json → Option α) : Option α :=
  match v.get? key with
  | some field => read field
  | none => some default

/-- The value of a field that may be absent or `null`. -/
def optional (v : Json) (key : String) (read : Json → Option α) : Option (Option α) :=
  match v.get? key with
  | none | some .null => some none
  | some field => (read field).map some

/-- The value of a field, or the zero value if it is absent or `null`. -/
def zeroed (v : Json) (key : String) (zero : α) (read : Json → Option α) : Option α :=
  match v.get? key with
  | none | some .null => some zero
  | some field => read field

/-! ## §2. Writing a field -/

/-- A field that is always written. -/
def always (key : String) (value : Json) : List (String × Json) :=
  [(key, value)]

/-- A field that is written if there is a value. -/
def ifSome (key : String) (write : α → Json) : Option α → List (String × Json)
  | none => []
  | some a => [(key, write a)]

/-- A list that is written if it has items. -/
def unlessEmpty (key : String) (write : α → Json) (items : List α) : List (String × Json) :=
  match items with
  | [] => []
  | items => [(key, .array (items.map write))]

/-! ## §3. Lists and numbers -/

/-- An array whose items are all of one type. -/
def listOf (read : Json → Option α) (v : Json) : Option (List α) := do
  (← v.items?).mapM read

/-- An array of values written item by item. -/
def writeList (write : α → Json) (items : List α) : Json :=
  .array (items.map write)

/-- A list of strings. -/
def textList : Json → Option (List String) :=
  listOf string?

/-- A signed 32-bit integer. -/
def int32? (v : Json) : Option Int32 :=
  match v.integer? with
  | some n => if -2147483648 ≤ n ∧ n < 2147483648 then some (Int32.ofInt n) else none
  | none => none

/-- A signed 64-bit integer. -/
def int64? (v : Json) : Option Int64 :=
  match v.integer? with
  | some n => if -9223372036854775808 ≤ n ∧ n < 9223372036854775808 then some (Int64.ofInt n) else none
  | none => none

/-! ## §4. Reading what was written -/

@[simp] theorem object?_ofFields (fields : List (String × Json)) :
    object? (ofFields fields) = some (ofFields fields) := rfl

@[simp] theorem record?_ofFields (names : List String) (least : Nat)
    (fields : List (String × Json)) :
    record? names least (ofFields fields) = some (ofFields fields) := rfl

@[simp] theorem get?_ofFields (key : String) (fields : List (String × Json)) :
    (ofFields fields).get? key = Keyed.get? key fields := by
  simp [ofFields]

@[simp] theorem get?_always (key k : String) (value : Json) :
    Keyed.get? key (always k value) = if k = key then some value else none := rfl

@[simp] theorem get?_ifSome (key k : String) (write : α → Json) (o : Option α) :
    Keyed.get? key (ifSome k write o) = if k = key then o.map write else none := by
  cases o <;> simp [ifSome, Keyed.get?_cons]

/-- A required field reads back. -/
theorem required_eq {v : Json} {key : String} {read : Json → Option α} {field : Json} {a : α}
    (hget : v.get? key = some field) (hread : read field = some a) :
    required v key read = some a := by
  simp [required, hget, hread]

/-- A field with a default reads back. -/
theorem defaulted_eq {v : Json} {key : String} {default : α} {read : Json → Option α}
    {field : Json} {a : α} (hget : v.get? key = some field) (hread : read field = some a) :
    defaulted v key default read = some a := by
  simp [defaulted, hget, hread]

/-- An optional field reads back if no value is written as `null`. -/
theorem optional_eq {v : Json} {key : String} {read : Json → Option α} {write : α → Json}
    {o : Option α} (hget : v.get? key = o.map write) (hread : ∀ a, read (write a) = some a)
    (hnull : ∀ a, write a ≠ .null) : optional v key read = some o := by
  cases o with
  | none => simp [optional, hget]
  | some a =>
    have hread := hread a
    have hnull := hnull a
    simp only [optional, hget, Option.map_some]
    generalize write a = field at hread hnull
    cases field <;> simp_all

@[simp] theorem int32?_int32 (n : Int32) : int32? (int32 n) = some n := by
  have hle := n.le_toInt
  have hlt := n.toInt_lt
  simp only [int32?, int32, integer?, Integer.ofInt32, Int32.ofInt_toInt, ite_eq_left_iff]
  omega

@[simp] theorem int64?_int64 (n : Int64) : int64? (int64 n) = some n := by
  have hle := n.le_toInt
  have hlt := n.toInt_lt
  simp only [int64?, int64, integer?, Integer.ofInt64, Int64.ofInt_toInt, ite_eq_left_iff]
  omega

/-- A list reads back if its items do. -/
theorem listOf_writeList {read : Json → Option α} {write : α → Json}
    (h : ∀ a, read (write a) = some a) (items : List α) :
    listOf read (writeList write items) = some items := by
  simp only [listOf, writeList, items?, Option.bind_eq_bind, Option.bind_some]
  induction items with
  | nil => rfl
  | cons a rest ih => simp [h, ih]

end LoggingOperator.Json.Record
