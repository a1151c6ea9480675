/-
  LoggingOperator.Proofs.Json.RoundTrip — RECORDS SURVIVE BEING WRITTEN AND READ.

  A declared type is written field by field and read field by field.  Whether
  it reads back is therefore a matter of its fields: each is looked up under
  its own name in what was written, and each of the five treatments gives the
  component back that it was written from (`required_always`,
  `optional_ifSome` and so on), as long as no value is written as `null`.

  The text of what was written can be read as well.  It has no floats, and a
  type of fixed depth is never nested too deep for the reader (`Printable`).

  Main results:
    * `RoundTrips.of_survives` — what reads back from JSON reads back from
      text, and writing what was read settles at once.
-/
import LoggingOperator.Proofs.Json.Exact
import LoggingOperator.Proofs.Json.Record

namespace LoggingOperator.Json

namespace Record

variable {α : Type} {write : α → Json} {read : Json → Option α}

/-! ## §1. Values that read back -/

/-- What is written of a type is read back, and none of it is written as `null`. -/
class Survives (write : α → Json) (read : Json → Option α) : Prop where
  readBack : ∀ a, read (write a) = some a
  notNull : ∀ a, write a ≠ .null

instance survives_string : Survives .string string? := ⟨fun _ => rfl, fun _ => Json.noConfusion⟩

instance survives_bool : Survives .bool bool? := ⟨fun _ => rfl, fun _ => Json.noConfusion⟩

instance survives_int32 : Survives int32 int32? := ⟨int32?_int32, fun _ => Json.noConfusion⟩

instance survives_int64 : Survives int64 int64? := ⟨int64?_int64, fun _ => Json.noConfusion⟩

instance survives_map : Survives StringMap.toJson StringMap.ofJson? :=
  ⟨StringMap.ofJson?_toJson, fun _ => Json.noConfusion⟩

instance survives_list [Survives write read] : Survives (writeList write) (listOf read) :=
  ⟨listOf_writeList Survives.readBack, fun _ => Json.noConfusion⟩

instance survives_strings : Survives strings textList :=
  inferInstanceAs (Survives (writeList Json.string) (listOf string?))

/-- A record is never written as `null`. -/
theorem Survives.record {fields : α → List (String × Json)}
    (hwrite : ∀ a, write a = .ofFields (fields a)) (hread : ∀ a, read (write a) = some a) :
    Survives write read where
  readBack := hread
  notNull := fun a => by
    rw [hwrite]
    exact Json.noConfusion

/-! ## §2. Fields that were looked up -/

/-- A required field, once it was looked up. -/
def requiredIn (read : Json → Option α) (field : Option Json) : Option α :=
  field.bind read

/-- A field with a default, once it was looked up. -/
def defaultedIn (default : α) (read : Json → Option α) : Option Json → Option α
  | some field => read field
  | none => some default

/-- An optional field, once it was looked up. -/
def optionalIn (read : Json → Option α) : Option Json → Option (Option α)
  | none | some .null => some none
  | some field => (read field).map some

/-- A field with a zero value, once it was looked up. -/
def zeroedIn (zero : α) (read : Json → Option α) : Option Json → Option α
  | none | some .null => some zero
  | some field => read field

section

variable (fields : List (String × Json)) (key : String)

@[simp] theorem required_ofFields :
    required (.ofFields fields) key read = requiredIn read (Keyed.get? key fields) := by
  rw [required, get?_ofFields, requiredIn]

@[simp] theorem defaulted_ofFields (default : α) :
    defaulted (.ofFields fields) key default read
      = defaultedIn default read (Keyed.get? key fields) := by
  rw [defaulted, get?_ofFields]
  rfl

@[simp] theorem optional_ofFields :
    optional (.ofFields fields) key read = optionalIn read (Keyed.get? key fields) := by
  rw [Record.optional, get?_ofFields]
  rfl

@[simp] theorem zeroed_ofFields (zero : α) :
    zeroed (.ofFields fields) key zero read = zeroedIn zero read (Keyed.get? key fields) := by
  rw [zeroed, get?_ofFields]
  rfl

end

@[simp] theorem get?_unlessEmpty (key k : String) (write : α → Json) (items : List α) :
    Keyed.get? key (unlessEmpty k write items)
      = if k = key ∧ items ≠ [] then some (writeList write items) else none := by
  cases items with
  | nil => simp [unlessEmpty]
  | cons a rest => simp [unlessEmpty, writeList, Keyed.get?_cons]

/-! ## §3. Fields that read back -/

section

variable [Survives write read]

@[simp] theorem requiredIn_always (a : α) : requiredIn read (some (write a)) = some a :=
  Survives.readBack a

@[simp] theorem defaultedIn_always (default a : α) :
    defaultedIn default read (some (write a)) = some a :=
  Survives.readBack a

/-- A value is not taken for a missing one. -/
theorem optionalIn_some (a : α) : optionalIn read (some (write a)) = some (some a) := by
  have hread : read (write a) = some a := Survives.readBack a
  have hnull : write a ≠ .null := Survives.notNull read a
  generalize write a = field at hread hnull
  cases field with
  | null => exact absurd rfl hnull
  | _ => exact congrArg (Option.map some) hread

@[simp] theorem optionalIn_ifSome (o : Option α) : optionalIn read (o.map write) = some o := by
  cases o with
  | none => rfl
  | some a => exact optionalIn_some a

@[simp] theorem zeroedIn_always (zero a : α) : zeroedIn zero read (some (write a)) = some a := by
  have hread : read (write a) = some a := Survives.readBack a
  have hnull : write a ≠ .null := Survives.notNull read a
  generalize write a = field at hread hnull
  cases field with
  | null => exact absurd rfl hnull
  | _ => exact hread

@[simp] theorem defaultedIn_unlessEmpty (items : List α) :
    defaultedIn [] (listOf read) (if items = [] then none else some (writeList write items))
      = some items := by
  split
  · next hitems => rw [hitems, defaultedIn]
  · exact defaultedIn_always [] items

end

end Record

open Record

/-! ## §4. Texts that are read -/

section

variable {α : Type} {write : α → Json} {read : Json → Option α} {n m : Nat} {k : String}

/-- What is written of a type has no floats, and is nested no deeper than this. -/
class Printable (write : α → Json) (height : outParam Nat) : Prop where
  canonical : ∀ a, (write a).Canonical
  exact : ∀ a depth, height ≤ depth → (write a).Exact depth

theorem exactItems_iff {depth : Nat} {items : List Json} :
    ExactItems depth items ↔ ∀ x ∈ items, x.Exact depth := by
  induction items with
  | nil => simp [ExactItems]
  | cons x rest ih => simp [ExactItems, ih]

theorem exactFields_iff {depth : Nat} {fields : List (String × Json)} :
    ExactFields depth fields ↔ ∀ f ∈ fields, f.2.Exact depth := by
  induction fields with
  | nil => simp [ExactFields]
  | cons f rest ih => simp [ExactFields, ih]

instance printable_string : Printable .string 0 := ⟨fun _ => trivial, fun _ _ _ => trivial⟩

instance printable_bool : Printable .bool 0 := ⟨fun _ => trivial, fun _ _ _ => trivial⟩

instance printable_int32 : Printable int32 0 := ⟨fun _ => trivial, fun _ _ _ => trivial⟩

instance printable_int64 : Printable int64 0 := ⟨fun _ => trivial, fun _ _ _ => trivial⟩

instance printable_list [Printable write n] : Printable (writeList write) (n + 1) where
  canonical := fun _ => canonical_writeList fun a _ => Printable.canonical a
  exact := fun items depth hdepth => by
    refine ⟨depth - 1, by omega, exactItems_iff.2 fun x hx => ?_⟩
    obtain ⟨a, -, rfl⟩ := List.mem_map.1 hx
    exact Printable.exact a _ (by omega)

instance printable_strings : Printable strings 1 :=
  inferInstanceAs (Printable (writeList Json.string) 1)

instance printable_map : Printable StringMap.toJson 1 where
  canonical := StringMap.canonical_toJson
  exact := fun m depth hdepth => by
    refine ⟨depth - 1, by omega, exactFields_iff.2 fun f hf => ?_⟩
    obtain ⟨pair, -, rfl⟩ := List.mem_map.1 hf
    trivial

/-- Fields that have no floats and are nested no deeper than this. -/
def PrintableFields (height : Nat) (fields : List (String × Json)) : Prop :=
  ∀ f ∈ fields, f.2.Canonical ∧ ∀ depth, height ≤ depth → f.2.Exact depth

@[simp] theorem printableFields_append {xs ys : List (String × Json)} :
    PrintableFields n (xs ++ ys) ↔ PrintableFields n xs ∧ PrintableFields n ys :=
  List.forall_mem_append

@[simp] theorem printableFields_always [Printable write m] (a : α) (h : m ≤ n) :
    PrintableFields n (always k (write a)) := by
  intro f hf
  obtain rfl := List.mem_singleton.1 hf
  exact ⟨Printable.canonical a, fun depth hdepth => Printable.exact a depth (by omega)⟩

@[simp] theorem printableFields_ifSome [Printable write m] (o : Option α) (h : m ≤ n) :
    PrintableFields n (ifSome k write o) := by
  cases o with
  | none => exact fun f hf => by cases hf
  | some a => exact printableFields_always a h

@[simp] theorem printableFields_unlessEmpty [Printable write m] (items : List α) (h : m < n) :
    PrintableFields n (unlessEmpty k write items) := by
  cases items with
  | nil => exact fun f hf => by cases hf
  | cons a rest =>
    show PrintableFields n (always k (writeList write (a :: rest)))
    exact printableFields_always _ h

/-- A record is one level above its fields. -/
theorem Printable.record {fields : α → List (String × Json)}
    (hwrite : ∀ a, write a = .ofFields (fields a)) (h : ∀ a, PrintableFields n (fields a)) :
    Printable write (n + 1) where
  canonical := fun a => by
    rw [hwrite]
    exact canonical_ofFields fun f hf => (h a f hf).1
  exact := fun a depth hdepth => by
    rw [hwrite]
    refine ⟨depth - 1, by omega, exactFields_iff.2 fun f hf => ?_⟩
    exact (h a f (Keyed.mem_of_mem_ofList hf)).2 _ (by omega)

end

/-! ## §5. There and back -/

section

variable {α : Type} {write : α → Json} {read : Json → Option α}

/-- A type that survives the way to JSON and to text and back. -/
structure RoundTrips (write : α → Json) (read : Json → Option α) : Prop where
  /-- Reading what was written gives the value back. -/
  readBack : ∀ a, read (write a) = some a
  /-- So does reading its text. -/
  textBack : ∀ a, (read? (write a).text).bind read = some a
  /-- What is read from anything is written as what reads the same, and is written
      as it is from then on. -/
  settles : ∀ v a, read v = some a →
    read (write a) = some a ∧ (read (write a)).map write = some (write a)

/-- **What reads back from JSON reads back from text, and settles at once.** -/
theorem RoundTrips.of_survives [Survives write read] {height : Nat} [Printable write height]
    (h : height ≤ Document.maxDepth) : RoundTrips write read := by
  have hback : ∀ a, read (write a) = some a := Survives.readBack
  refine ⟨hback, fun a => ?_, fun v a _ => ⟨hback a, by rw [hback a]; rfl⟩⟩
  rw [read?_text (Printable.canonical a) (Printable.exact a _ h)]
  exact hback a

end

end LoggingOperator.Json
