/-
  LoggingOperator.Keyed — LISTS OF PAIRS IN KEY ORDER.

  Objects of a JSON document, label maps and the contents of a store are all
  finite maps.  They are kept as lists of pairs in increasing key order, so
  that a map has one representation and walking it visits the keys in order.

  The view of a list of pairs is `get?`, the value under a key.  Every
  operation comes with one equation through that view, and none of these
  equations needs the order of the list:
    * `get?_insert` — the new value under the inserted key, else as before;
    * `get?_erase`  — nothing under the erased key, else as before;
    * `get?_modify` — the changed value under the key, else as before.
-/

namespace LoggingOperator

namespace Keyed

variable {κ α β : Type} [DecidableEq κ]

/-! ## §1. Looking up, changing and removing -/

/-- The first value under `key`. -/
def get? (key : κ) : List (κ × α) → Option α
  | [] => none
  | (k, v) :: rest => if k = key then some v else get? key rest

/-- Is there a value under `key`? -/
def has (key : κ) (entries : List (κ × α)) : Bool :=
  (get? key entries).isSome

/-- Put `value` under `key`, in place of the value already there, or else
    before the first greater key. -/
def insert [LT κ] [DecidableLT κ] (key : κ) (value : α) : List (κ × α) → List (κ × α)
  | [] => [(key, value)]
  | (k, v) :: rest =>
    if k = key then (key, value) :: rest
    else if key < k then (key, value) :: (k, v) :: rest
    else (k, v) :: insert key value rest

/-- Remove `key`. -/
def erase (key : κ) (entries : List (κ × α)) : List (κ × α) :=
  entries.filter fun entry => !decide (entry.1 = key)

/-- Change the value under `key`, if there is one. -/
def modify (key : κ) (change : α → α) (entries : List (κ × α)) : List (κ × α) :=
  entries.map fun entry => if entry.1 = key then (entry.1, change entry.2) else entry

/-- Put `value` under `key` unless something is there already. -/
def insertIfNew [LT κ] [DecidableLT κ] (key : κ) (value : α) (entries : List (κ × α)) :
    List (κ × α) :=
  if has key entries then entries else insert key value entries

/-- The list of pairs in key order; of two pairs with one key the first wins. -/
def ofList [LT κ] [DecidableLT κ] : List (κ × α) → List (κ × α)
  | [] => []
  | (k, v) :: rest => insert k v (ofList rest)

/-- The keys, in order. -/
def keys (entries : List (κ × α)) : List κ :=
  entries.map (·.1)

/-! ## §2. The view of each operation -/

@[simp] theorem get?_nil (key : κ) : get? key ([] : List (κ × α)) = none := rfl

theorem get?_cons (key k : κ) (v : α) (rest : List (κ × α)) :
    get? key ((k, v) :: rest) = if k = key then some v else get? key rest := rfl

theorem get?_insert [LT κ] [DecidableLT κ] (key k : κ) (v : α) (entries : List (κ × α)) :
    get? key (insert k v entries) = if k = key then some v else get? key entries := by
  induction entries with
  | nil => simp [insert, get?]
  | cons entry rest ih =>
    obtain ⟨a, b⟩ := entry
    simp only [insert]
    split
    · next h => subst h; simp only [get?_cons]; split <;> rfl
    · next h =>
      split
      · simp only [get?_cons]
      · simp only [get?_cons, ih]
        split
        · next ha => subst ha; simp [Ne.symm h]
        · rfl

theorem get?_erase (key k : κ) (entries : List (κ × α)) :
    get? key (erase k entries) = if k = key then none else get? key entries := by
  induction entries with
  | nil => simp [erase]
  | cons entry rest ih =>
    obtain ⟨a, b⟩ := entry
    simp only [erase] at ih ⊢
    by_cases ha : a = k
    · subst ha
      simp only [List.filter_cons, decide_true, Bool.not_true, Bool.false_eq_true, if_false, ih,
        get?_cons]
      split <;> simp_all
    · simp only [List.filter_cons, ha, decide_false, Bool.not_false, if_true, get?_cons, ih]
      split
      · next h => subst h; simp [Ne.symm ha]
      · rfl

theorem get?_modify (key k : κ) (change : α → α) (entries : List (κ × α)) :
    get? key (modify k change entries)
      = if k = key then (get? key entries).map change else get? key entries := by
  induction entries with
  | nil => simp [modify]
  | cons entry rest ih =>
    obtain ⟨a, b⟩ := entry
    simp only [modify, List.map_cons] at ih ⊢
    by_cases ha : a = k
    · subst ha
      simp only [if_true, get?_cons, ih]
      split <;> simp_all
    · simp only [if_neg ha, get?_cons, ih]
      split
      · next h => subst h; simp [Ne.symm ha]
      · rfl

theorem get?_append (key : κ) (xs ys : List (κ × α)) :
    get? key (xs ++ ys) = (get? key xs).or (get? key ys) := by
  induction xs with
  | nil => rfl
  | cons entry rest ih =>
    obtain ⟨a, b⟩ := entry
    simp only [List.cons_append, get?_cons, ih]
    split <;> rfl

/-- Sorting a list of pairs changes no value. -/
@[simp] theorem get?_ofList [LT κ] [DecidableLT κ] (key : κ) (pairs : List (κ × α)) :
    get? key (ofList pairs) = get? key pairs := by
  induction pairs with
  | nil => rfl
  | cons entry rest ih =>
    obtain ⟨a, b⟩ := entry
    simp only [ofList, get?_insert, get?_cons, ih]

/-! ## §3. Key order -/

/-- The keys increase strictly. -/
def Sorted [LT κ] (entries : List (κ × α)) : Prop :=
  entries.Pairwise fun a b => a.1 < b.1

theorem lt_of_not_lt_of_ne {a b : String} (h : ¬ a < b) (hne : b ≠ a) : b < a :=
  Decidable.byContradiction fun hba => hne (String.le_antisymm h hba)

theorem mem_insert {key k : String} {v : α} {entries : List (String × α)}
    (h : k ∈ (insert key v entries).map (·.1)) : k = key ∨ k ∈ entries.map (·.1) := by
  induction entries with
  | nil => simpa [insert] using h
  | cons entry rest ih =>
    obtain ⟨a, b⟩ := entry
    simp only [insert] at h
    split at h
    · simp only [List.map_cons, List.mem_cons] at h ⊢; grind
    · split at h
      · simp only [List.map_cons, List.mem_cons] at h ⊢; grind
      · simp only [List.map_cons, List.mem_cons] at h ⊢; grind

theorem sorted_insert (key : String) (v : α) {entries : List (String × α)}
    (h : Sorted entries) : Sorted (insert key v entries) := by
  induction entries with
  | nil => simp [insert, Sorted]
  | cons entry rest ih =>
    obtain ⟨a, b⟩ := entry
    simp only [Sorted, List.pairwise_cons] at h ⊢
    simp only [insert]
    split
    · next ha => subst ha; simpa [List.pairwise_cons] using h
    · next ha =>
      split
      · next hlt =>
        simp only [List.pairwise_cons, List.mem_cons]
        refine ⟨?_, h⟩
        rintro p (rfl | hp)
        · exact hlt
        · exact String.lt_trans hlt (h.1 p hp)
      · next hlt =>
        simp only [List.pairwise_cons]
        refine ⟨?_, ih h.2⟩
        intro p hp
        rcases mem_insert (List.mem_map_of_mem hp) with hk | hk
        · rw [hk]; exact lt_of_not_lt_of_ne hlt ha
        · obtain ⟨q, hq, hqk⟩ := List.mem_map.1 hk
          rw [← hqk]; exact h.1 q hq

theorem sorted_ofList (pairs : List (String × α)) : Sorted (ofList pairs) := by
  induction pairs with
  | nil => exact List.Pairwise.nil
  | cons entry rest ih => exact sorted_insert entry.1 entry.2 ih

/-- A sorted list is what its pairs are sorted to. -/
theorem ofList_eq_self {pairs : List (String × α)} (h : Sorted pairs) : ofList pairs = pairs := by
  induction pairs with
  | nil => rfl
  | cons entry rest ih =>
    obtain ⟨a, b⟩ := entry
    have hs : Sorted rest := (List.pairwise_cons.1 h).2
    rw [ofList, ih hs]
    cases rest with
    | nil => rfl
    | cons next rest =>
      obtain ⟨c, d⟩ := next
      have hlt : a < c := (List.pairwise_cons.1 h).1 (c, d) (by simp)
      have hne : c ≠ a := fun hc => String.lt_irrefl a (hc ▸ hlt)
      simp [insert, hne, hlt]

end Keyed

end LoggingOperator
