/-
  LoggingOperator.Proofs.Json.Canonical — ONE TREE FOR EACH VALUE.

  A JSON object is kept as the list of its fields in key order, so a value is
  represented by exactly one tree as long as every object in it is sorted
  (`Json.Canonical`).  This file has what makes that invariant usable:

    * a sorted list of pairs is settled by its view `get?`
      (`Keyed.eq_of_get?`), and `get?` finds exactly its members;
    * being canonical means being so part by part (`canonical_array`,
      `canonical_object`), and it is kept by everything that looks into an
      object or changes one of its fields.
-/
import LoggingOperator.Json.Basic

namespace LoggingOperator

namespace Keyed

variable {α : Type}

/-! ## §1. Sorted lists of pairs and their view -/

theorem get?_eq_none_of_forall_ne {k : String} {entries : List (String × α)}
    (h : ∀ e ∈ entries, e.1 ≠ k) : get? k entries = none := by
  induction entries with
  | nil => rfl
  | cons e rest ih =>
    obtain ⟨a, b⟩ := e
    rw [get?_cons, if_neg (h (a, b) List.mem_cons_self)]
    exact ih fun e he => h e (List.mem_cons_of_mem _ he)

theorem mem_of_get? {κ : Type} [DecidableEq κ] {k : κ} {v : α} {entries : List (κ × α)}
    (h : get? k entries = some v) : (k, v) ∈ entries := by
  induction entries with
  | nil => cases h
  | cons e rest ih =>
    obtain ⟨a, b⟩ := e
    rw [get?_cons] at h
    split at h
    · next ha =>
      cases h
      rw [ha]
      exact List.mem_cons_self
    · exact List.mem_cons_of_mem _ (ih h)

theorem Sorted.tail {e : String × α} {rest : List (String × α)} (h : Sorted (e :: rest)) :
    Sorted rest :=
  (List.pairwise_cons.1 h).2

/-- No key of a sorted list comes again after the first. -/
theorem Sorted.head_not_mem {a : String} {b : α} {rest : List (String × α)}
    (h : Sorted ((a, b) :: rest)) : get? a rest = none := by
  apply get?_eq_none_of_forall_ne
  intro e he hea
  have hlt : a < e.1 := (List.pairwise_cons.1 h).1 e he
  rw [hea] at hlt
  exact String.lt_irrefl a hlt

/-- In a sorted list every pair is found under its key. -/
theorem Sorted.get?_of_mem {k : String} {v : α} {entries : List (String × α)}
    (h : Sorted entries) (hm : (k, v) ∈ entries) : get? k entries = some v := by
  induction entries with
  | nil => cases hm
  | cons e rest ih =>
    obtain ⟨a, b⟩ := e
    rw [get?_cons]
    rcases List.mem_cons.1 hm with hhead | htail
    · cases hhead
      rw [if_pos rfl]
    · have hlt : a < k := (List.pairwise_cons.1 h).1 (k, v) htail
      have hne : a ≠ k := fun hak => String.lt_irrefl k (hak ▸ hlt)
      rw [if_neg hne]
      exact ih h.tail htail

/-- The keys below the first one of a sorted list are not in it. -/
theorem Sorted.get?_of_lt {k a : String} {b : α} {rest : List (String × α)}
    (h : Sorted ((a, b) :: rest)) (hlt : k < a) : get? k ((a, b) :: rest) = none := by
  apply get?_eq_none_of_forall_ne
  intro e he hek
  rcases List.mem_cons.1 he with hhead | htail
  · rw [hhead] at hek
    exact String.lt_irrefl k (hek ▸ hlt)
  · have hae : a < e.1 := (List.pairwise_cons.1 h).1 e htail
    rw [hek] at hae
    exact String.lt_irrefl k (String.lt_trans hlt hae)

/-- **A sorted list is settled by its view.** -/
theorem eq_of_get? {xs ys : List (String × α)} (hx : Sorted xs) (hy : Sorted ys)
    (h : ∀ k, get? k xs = get? k ys) : xs = ys := by
  induction xs generalizing ys with
  | nil =>
    cases ys with
    | nil => rfl
    | cons e rest =>
      have he := h e.1
      rw [hy.get?_of_mem (k := e.1) (v := e.2) List.mem_cons_self] at he
      cases he
  | cons e xs ih =>
    obtain ⟨a, b⟩ := e
    have hab : get? a ys = some b := by
      rw [← h a, get?_cons, if_pos rfl]
    cases ys with
    | nil => cases hab
    | cons e' ys =>
      obtain ⟨c, d⟩ := e'
      have hcd : get? c ((a, b) :: xs) = some d := by
        rw [h c, get?_cons, if_pos rfl]
      -- The lesser of two different first keys would be in one list and not in the other.
      have hac : a = c := by
        by_cases hlt : a < c
        · rw [hy.get?_of_lt hlt] at hab
          cases hab
        · by_cases hne : c = a
          · exact hne.symm
          · have hgt : c < a := lt_of_not_lt_of_ne hlt hne
            rw [hx.get?_of_lt hgt] at hcd
            cases hcd
      subst hac
      rw [get?_cons, if_pos rfl] at hab
      cases hab
      congr 1
      apply ih hx.tail hy.tail
      intro k
      by_cases hk : a = k
      · rw [← hk, hx.head_not_mem, hy.head_not_mem]
      · have hk' := h k
        rwa [get?_cons, get?_cons, if_neg hk, if_neg hk] at hk'

/-- A value under a key of a list whose values are changed. -/
theorem get?_mapValues {β : Type} (change : α → β) (k : String) (entries : List (String × α)) :
    get? k (entries.map fun e => (e.1, change e.2)) = (get? k entries).map change := by
  induction entries with
  | nil => rfl
  | cons e rest ih =>
    obtain ⟨a, b⟩ := e
    rw [List.map_cons, get?_cons, get?_cons, ih]
    split <;> rfl

theorem Sorted.erase {k : String} {entries : List (String × α)} (h : Sorted entries) :
    Sorted (erase k entries) :=
  List.Pairwise.filter _ h

theorem Sorted.map_values {β : Type} {f : String × α → String × β} {entries : List (String × α)}
    (hf : ∀ e, (f e).1 = e.1) (h : Sorted entries) : Sorted (entries.map f) := by
  refine List.Pairwise.map f ?_ h
  intro e e' hlt
  rw [hf e, hf e']
  exact hlt

theorem Sorted.modify {k : String} {change : α → α} {entries : List (String × α)}
    (h : Sorted entries) : Sorted (modify k change entries) := by
  refine h.map_values ?_
  intro e
  split <;> rfl

theorem mem_values_insert {k : String} {v : α} {entries : List (String × α)} {e : String × α}
    (h : e ∈ insert k v entries) : e = (k, v) ∨ e ∈ entries := by
  induction entries with
  | nil => exact Or.inl (List.mem_singleton.1 h)
  | cons head rest ih =>
    obtain ⟨a, b⟩ := head
    rw [insert] at h
    split at h
    · rcases List.mem_cons.1 h with hk | hr
      · exact Or.inl hk
      · exact Or.inr (List.mem_cons_of_mem _ hr)
    · split at h
      · rcases List.mem_cons.1 h with hk | hr
        · exact Or.inl hk
        · exact Or.inr hr
      · rcases List.mem_cons.1 h with hk | hr
        · rw [hk]
          exact Or.inr List.mem_cons_self
        · rcases ih hr with hk | hr
          · exact Or.inl hk
          · exact Or.inr (List.mem_cons_of_mem _ hr)

theorem mem_of_mem_ofList {pairs : List (String × α)} {e : String × α} (h : e ∈ ofList pairs) :
    e ∈ pairs := by
  induction pairs with
  | nil => exact h
  | cons head rest ih =>
    rcases mem_values_insert h with hk | hr
    · rw [hk]
      exact List.mem_cons_self
    · exact List.mem_cons_of_mem _ (ih hr)

end Keyed

namespace Json

/-! ## §2. Canonical part by part -/

theorem canonicalItems_iff {items : List Json} :
    CanonicalItems items ↔ ∀ x ∈ items, x.Canonical := by
  induction items with
  | nil => simp [CanonicalItems]
  | cons x xs ih => simp [CanonicalItems, ih]

theorem canonicalFields_iff {fields : List (String × Json)} :
    CanonicalFields fields ↔ ∀ f ∈ fields, f.2.Canonical := by
  induction fields with
  | nil => simp [CanonicalFields]
  | cons f fs ih =>
    obtain ⟨k, v⟩ := f
    simp [CanonicalFields, ih]

@[simp] theorem canonical_null : Canonical .null := trivial

@[simp] theorem canonical_bool (b : Bool) : Canonical (.bool b) := trivial

@[simp] theorem canonical_number (n : Number) : Canonical (.number n) := trivial

@[simp] theorem canonical_string (s : String) : Canonical (.string s) := trivial

theorem canonical_array {items : List Json} :
    Canonical (.array items) ↔ ∀ x ∈ items, x.Canonical := by
  rw [Canonical, canonicalItems_iff]

theorem canonical_object {fields : List (String × Json)} :
    Canonical (.object fields) ↔ Keyed.Sorted fields ∧ ∀ f ∈ fields, f.2.Canonical := by
  rw [Canonical, canonicalFields_iff]
  rfl

theorem Canonical.sorted {fields : List (String × Json)} (h : Canonical (.object fields)) :
    Keyed.Sorted fields :=
  (canonical_object.1 h).1

theorem Canonical.get? {v x : Json} {k : String} (h : v.Canonical) (hx : v.get? k = some x) :
    x.Canonical := by
  cases v with
  | object fields => exact (canonical_object.1 h).2 (k, x) (Keyed.mem_of_get? hx)
  | _ => cases hx

@[simp] theorem canonical_empty : Canonical empty :=
  canonical_object.2 ⟨List.Pairwise.nil, by simp⟩

/-! ## §3. What keeps a value canonical -/

theorem Canonical.insert {fields : List (String × Json)} {k : String} {x : Json}
    (h : Canonical (.object fields)) (hx : x.Canonical) :
    Canonical (.object (Keyed.insert k x fields)) := by
  obtain ⟨hs, hv⟩ := canonical_object.1 h
  refine canonical_object.2 ⟨Keyed.sorted_insert k x hs, ?_⟩
  intro f hf
  rcases Keyed.mem_values_insert hf with hk | hr
  · rw [hk]
    exact hx
  · exact hv f hr

theorem Canonical.set {v x : Json} {k : String} (h : v.Canonical) (hx : x.Canonical) :
    (v.set k x).Canonical := by
  cases v with
  | object fields => exact Canonical.insert h hx
  | _ => exact h

theorem Canonical.setIfNew {v x : Json} {k : String} (h : v.Canonical) (hx : x.Canonical) :
    (v.setIfNew k x).Canonical := by
  cases v with
  | object fields =>
    simp only [Json.setIfNew, Keyed.insertIfNew]
    split
    · exact h
    · exact Canonical.insert h hx
  | _ => exact h

theorem Canonical.remove {v : Json} {k : String} (h : v.Canonical) :
    (v.remove k).Canonical := by
  cases v with
  | object fields =>
    obtain ⟨hs, hv⟩ := canonical_object.1 h
    refine canonical_object.2 ⟨hs.erase, ?_⟩
    intro f hf
    exact hv f (List.mem_filter.1 hf).1
  | _ => exact h

theorem Canonical.removeAll {keys : List String} {v : Json} (h : v.Canonical) :
    (v.removeAll keys).Canonical := by
  induction keys generalizing v with
  | nil => exact h
  | cons k keys ih => exact ih h.remove

theorem Canonical.modify {v : Json} {k : String} {change : Json → Json} (h : v.Canonical)
    (hc : ∀ x, x.Canonical → (change x).Canonical) : (v.modify k change).Canonical := by
  cases v with
  | object fields =>
    obtain ⟨hs, hv⟩ := canonical_object.1 h
    refine canonical_object.2 ⟨hs.modify, ?_⟩
    intro f hf
    obtain ⟨e, he, hef⟩ := List.mem_map.1 hf
    rw [← hef]
    split
    · exact hc e.2 (hv e he)
    · exact hv e he
  | _ => exact h

theorem Canonical.mapItems {v : Json} {change : Json → Json} (h : v.Canonical)
    (hc : ∀ x, x.Canonical → (change x).Canonical) : (v.mapItems change).Canonical := by
  cases v with
  | array items =>
    refine canonical_array.2 ?_
    intro y hy
    obtain ⟨x, hx, hxy⟩ := List.mem_map.1 hy
    rw [← hxy]
    exact hc x (canonical_array.1 h x hx)
  | _ => exact h

/-- The object with given fields is canonical, in whatever order they are given. -/
theorem canonical_ofFields {fields : List (String × Json)} (h : ∀ f ∈ fields, f.2.Canonical) :
    (ofFields fields).Canonical := by
  refine canonical_object.2 ⟨Keyed.sorted_ofList fields, ?_⟩
  intro f hf
  exact h f (Keyed.mem_of_mem_ofList hf)

end Json

end LoggingOperator
