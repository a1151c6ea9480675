/-
  LoggingOperator.Proofs.Convergence.Containment — CONTAINMENT PLACE BY PLACE.

  `contains` walks two values side by side.  Here its answer is said without
  the walk: a stored value contains a desired one exactly if at every place
  of the desired value the head that is stored there is admitted
  (`contains_iff`).  What is stored anywhere else plays no part, and inside
  the stored value only heads count.

  In the same way `dropped` is true exactly if at some place, reached by
  object keys alone, a field was last written, is no longer desired and still
  holds a value other than zero (`dropped_iff`).
-/
import LoggingOperator.Convergence.Containment
import LoggingOperator.Proofs.Json.Path

namespace LoggingOperator.Json

/-! ## §1. What is admitted at one place -/

/-- May this head be stored where `desired` is declared?  Nothing and `null`
    may if the declared value is a zero value. -/
def admits (desired : Json) : Option Head → Bool
  | none | some .null => desired.isZero
  | some h =>
    match desired, h with
    | .null, _ => true
    | .number n, .number m => n.same m
    | .number _, _ => false
    | d, h => decide (d.head = h)

/-- A value is admitted in its own place. -/
theorem admits_head (v : Json) : v.admits (some v.head) = true := by
  cases v <;> simp [admits, head, isZero]

/-- A list is admitted only where a list of its length is stored, unless it is
    empty. -/
theorem admits_array {items : List Json} {h : Head}
    (ha : (array items).admits (some h) = true) (hne : items ≠ []) :
    h = .array items.length := by
  cases h <;> simp_all [admits, head, isZero]

/-! ## §2. Zero values -/

/-- There is nothing inside a zero value. -/
theorem walk_of_isZero {v : Json} (h : v.isZero = true) (step : PathStep) (p : Path) :
    v.walk (step :: p) = none := by
  cases v with
  | array items =>
    have hnil : items = [] := by simpa [isZero] using h
    subst hnil
    cases step <;> rfl
  | object fields =>
    have hnil : fields = [] := by simpa [isZero] using h
    subst hnil
    cases step <;> rfl
  | _ => cases step <;> rfl

/-- A value is zero if its head is that of a zero value and, for an object, it
    has no field. -/
theorem isZero_of_head {v w : Json} (hz : v.isZero = true) (hh : w.head = v.head)
    (hnone : ∀ k, w.get? k = none) : w.isZero = true := by
  cases w with
  | object fields =>
    cases fields with
    | nil => rfl
    | cons f rest =>
      have hf := hnone f.1
      rw [get?_object, Keyed.get?_cons, if_pos rfl] at hf
      cases hf
  | null => rfl
  | array items => cases v <;> cases items <;> simp_all [head, isZero]
  | _ => cases v <;> simp_all [head, isZero]

/-! ## §3. Containment -/

theorem containsItems_iff {stored desired : List Json} :
    containsItems stored desired = true ↔
      stored.length = desired.length ∧
        ∀ (i : Nat) (d s : Json), desired[i]? = some d → stored[i]? = some s →
          s.contains d = true := by
  induction desired generalizing stored with
  | nil =>
    cases stored with
    | nil => simp [containsItems]
    | cons s ss => simp [containsItems]
  | cons d ds ih =>
    cases stored with
    | nil => simp [containsItems]
    | cons s ss =>
      rw [containsItems, Bool.and_eq_true, ih]
      constructor
      · rintro ⟨hhead, hlen, htail⟩
        refine ⟨by simp [hlen], ?_⟩
        intro i d' s' hd hs
        cases i with
        | zero =>
          simp only [List.getElem?_cons_zero, Option.some.injEq] at hd hs
          rw [← hd, ← hs]
          exact hhead
        | succ i => exact htail i d' s' hd hs
      · rintro ⟨hlen, hall⟩
        refine ⟨hall 0 d s rfl rfl, by simpa using hlen, ?_⟩
        intro i d' s' hd hs
        exact hall (i + 1) d' s' hd hs

theorem containsFields_iff {stored desired : List (String × Json)} :
    containsFields stored desired = true ↔
      ∀ f ∈ desired, (match Keyed.get? f.1 stored with
        | some s => s.contains f.2
        | none => f.2.isZero) = true := by
  induction desired with
  | nil => simp [containsFields]
  | cons f fs ih =>
    obtain ⟨k, d⟩ := f
    rw [containsFields, Bool.and_eq_true, ih]
    constructor
    · rintro ⟨hfirst, hrest⟩ f hf
      rcases List.mem_cons.1 hf with rfl | hf
      · exact hfirst
      · exact hrest f hf
    · intro h
      exact ⟨h _ List.mem_cons_self, fun f hf => h f (List.mem_cons_of_mem _ hf)⟩

theorem null_contains (d : Json) : null.contains d = d.isZero := by
  cases d <;> rfl

/-- `null` contains zero values and nothing else. -/
theorem null_contains_iff {d : Json} :
    null.contains d = true ↔ ∀ p x, d.walk p = some x → x.admits (null.head? p) = true := by
  rw [null_contains]
  constructor
  · intro hz p x hp
    match p with
    | [] =>
      cases hp
      exact hz
    | step :: p =>
      rw [walk_of_isZero hz] at hp
      cases hp
  · intro h
    exact h [] d rfl

theorem contains_scalar {d : Json} (hd : ∀ step p, d.walk (step :: p) = none)
    (hc : ∀ s : Json, s.contains d = d.admits (some s.head)) {s : Json} :
    s.contains d = true ↔ ∀ p x, d.walk p = some x → x.admits (s.head? p) = true := by
  rw [hc s]
  constructor
  · intro h p x hx
    match p with
    | [] =>
      cases hx
      exact h
    | step :: p =>
      rw [hd step p] at hx
      cases hx
  · intro h
    exact h [] d rfl

/-- A list contains another one if they have one length and each item contains the
    one in its place.  The place of the list itself carries its length, all others
    lie in one item. -/
theorem array_contains_iff {xs ys : List Json}
    (ih : ∀ d ∈ xs, ∀ s : Json,
      s.contains d = true ↔ ∀ p x, d.walk p = some x → x.admits (s.head? p) = true) :
    (array ys).contains (array xs) = true
      ↔ ∀ p x, (array xs).walk p = some x → x.admits ((array ys).head? p) = true := by
  rw [contains, containsItems_iff]
  constructor
  · rintro ⟨hlen, hall⟩ p x hp
    cases p with
    | nil =>
      cases hp
      simp [admits, head, hlen]
    | cons step p =>
      cases step with
      | key k => cases hp
      | item i =>
        obtain ⟨d, hdi, hp⟩ := Option.bind_eq_some_iff.1 hp
        have hdi : xs[i]? = some d := hdi
        have hi : i < ys.length := by
          rw [hlen]
          exact (List.getElem?_eq_some_iff.1 hdi).1
        have hyi : ys[i]? = some ys[i] := List.getElem?_eq_getElem hi
        rw [head?_item, hyi]
        exact (ih d (List.mem_of_getElem? hdi) _).1 (hall i d _ hdi hyi) p x hp
  · intro h
    have hroot : (array xs).admits (some (.array ys.length)) = true := h [] _ rfl
    have hlen : ys.length = xs.length := by
      have heq : xs.length = ys.length := by simpa [admits, head] using hroot
      exact heq.symm
    refine ⟨hlen, ?_⟩
    intro i d t hdi hyi
    refine (ih d (List.mem_of_getElem? hdi) t).2 ?_
    intro p x hp
    have hplace := h (.item i :: p) x (Option.bind_eq_some_iff.2 ⟨d, hdi, hp⟩)
    rwa [head?_item, hyi] at hplace

/-- An object contains another one if it does so field by field, where an absent
    field contains zero values. -/
theorem object_contains_iff {fs gs : List (String × Json)} (hd : (object fs).Canonical)
    (ih : ∀ f ∈ fs, ∀ s : Json,
      s.contains f.2 = true ↔ ∀ p x, f.2.walk p = some x → x.admits (s.head? p) = true) :
    (object gs).contains (object fs) = true
      ↔ ∀ p x, (object fs).walk p = some x → x.admits ((object gs).head? p) = true := by
  rw [contains, containsFields_iff]
  constructor
  · intro hall p x hp
    cases p with
    | nil =>
      cases hp
      simp [admits, head]
    | cons step p =>
      cases step with
      | item i => cases hp
      | key k =>
        obtain ⟨d, hdk, hp⟩ := Option.bind_eq_some_iff.1 hp
        have hmem := Keyed.mem_of_get? hdk
        have hk := hall (k, d) hmem
        rw [head?_key, get?_object]
        cases hg : Keyed.get? k gs with
        | some t =>
          simp only [hg] at hk
          exact (ih (k, d) hmem t).1 hk p x hp
        | none =>
          simp only [hg] at hk
          -- A zero value has no places but its own, so an absent field is enough.
          cases p with
          | nil =>
            cases hp
            exact hk
          | cons step p =>
            rw [walk_of_isZero hk] at hp
            cases hp
  · intro h f hmem
    obtain ⟨k, d⟩ := f
    have hdk : Keyed.get? k fs = some d := hd.sorted.get?_of_mem hmem
    have hplace : ∀ p x, d.walk p = some x →
        x.admits ((Keyed.get? k gs).bind (head? p)) = true := by
      intro p x hp
      have hpx := h (.key k :: p) x (Option.bind_eq_some_iff.2 ⟨d, hdk, hp⟩)
      rwa [head?_key] at hpx
    cases hg : Keyed.get? k gs with
    | some t =>
      rw [hg] at hplace
      exact (ih (k, d) hmem t).2 hplace
    | none =>
      rw [hg] at hplace
      exact hplace [] d rfl

/-- **Containment is decided place by place.** -/
theorem contains_iff {d s : Json} (hd : d.Canonical) :
    s.contains d = true ↔ ∀ p x, d.walk p = some x → x.admits (s.head? p) = true := by
  induction d using cases_on_parts generalizing s with
  | null =>
    refine contains_scalar (fun step p => by cases step <;> rfl) ?_
    intro s
    cases s <;> simp [contains, admits, head, isZero]
  | bool b =>
    refine contains_scalar (fun step p => by cases step <;> rfl) ?_
    intro s
    cases s <;> simp [contains, admits, head, isZero, BEq.beq, same, alikeWith]
  | number n =>
    refine contains_scalar (fun step p => by cases step <;> rfl) ?_
    intro s
    cases s <;> simp [contains, admits, head, isZero, BEq.beq, same, alikeWith]
  | string t =>
    refine contains_scalar (fun step p => by cases step <;> rfl) ?_
    intro s
    cases s <;> simp [contains, admits, head, isZero, BEq.beq, same, alikeWith]
  | array xs ih =>
    cases s with
    | array ys => exact array_contains_iff fun d hmem _ => ih d hmem (canonical_array.1 hd d hmem)
    | null => exact null_contains_iff
    | _ =>
      refine iff_of_false (by simp [contains, BEq.beq, same, alikeWith]) ?_
      intro h
      have hroot := h [] _ rfl
      simp [admits, head] at hroot
  | object fs ih =>
    cases s with
    | object gs =>
      exact object_contains_iff hd fun f hmem _ => ih f hmem ((canonical_object.1 hd).2 f hmem)
    | null => exact null_contains_iff
    | _ =>
      refine iff_of_false (by simp [contains, BEq.beq, same, alikeWith]) ?_
      intro h
      have hroot := h [] _ rfl
      simp [admits, head] at hroot

/-! ## §4. Dropped fields -/

/-- At the place `p` the field `k` was last written, is no longer desired and
    still holds a value other than zero. -/
def Gone (last desired stored : Json) (p : Path) (k : String) : Prop :=
  (∃ fields, last.walk p = some (.object fields) ∧ Keyed.has k fields = true)
    ∧ (∃ fields, desired.walk p = some (.object fields) ∧ Keyed.has k fields = false)
    ∧ ∃ fields v, stored.walk p = some (.object fields) ∧ Keyed.get? k fields = some v
      ∧ v.isZero = false

theorem droppedFields_iff {last desired stored : List (String × Json)} :
    droppedFields last desired stored = true ↔
      ∃ f ∈ last, ∃ s, Keyed.get? f.1 stored = some s ∧
        (match Keyed.get? f.1 desired with
          | none => s.isZero = false
          | some d => f.2.dropped d s = true) := by
  induction last with
  | nil => simp [droppedFields]
  | cons f fs ih =>
    obtain ⟨k, l⟩ := f
    rw [droppedFields, Bool.or_eq_true, ih]
    simp only [List.mem_cons, exists_eq_or_imp]
    refine or_congr ?_ Iff.rfl
    cases hd : Keyed.get? k desired <;> cases hs : Keyed.get? k stored <;> simp

/-- Only in objects can a field be dropped. -/
theorem not_dropped {last desired stored : Json}
    (h : ∀ l d s, ¬(last = .object l ∧ desired = .object d ∧ stored = .object s)) :
    last.dropped desired stored = false := by
  cases last with
  | object l =>
    cases desired with
    | object d =>
      cases stored with
      | object s => exact absurd ⟨rfl, rfl, rfl⟩ (h l d s)
      | _ => rfl
    | _ => rfl
  | _ => rfl

/-- All three values are objects along the whole path to a field that is gone. -/
theorem Gone.objects {last desired stored : Json} {keys : List String} {k : String}
    (h : Gone last desired stored (keys.map .key) k) :
    ∃ l d s, last = .object l ∧ desired = .object d ∧ stored = .object s := by
  -- A walk along keys starts at an object, however long it is.
  have hobject : ∀ {v : Json} {fields : List (String × Json)},
      v.walk (keys.map .key) = some (.object fields) → ∃ fs, v = .object fs := by
    intro v fields hv
    cases keys with
    | nil =>
      cases hv
      exact ⟨_, rfl⟩
    | cons key keys =>
      cases v with
      | object fs => exact ⟨fs, rfl⟩
      | _ => cases hv
  obtain ⟨⟨_, hl, _⟩, ⟨_, hd, _⟩, ⟨_, _, hs, _⟩⟩ := h
  obtain ⟨l, rfl⟩ := hobject hl
  obtain ⟨d, rfl⟩ := hobject hd
  obtain ⟨s, rfl⟩ := hobject hs
  exact ⟨l, d, s, rfl, rfl, rfl⟩

/-- One key further out, a gone field is still gone. -/
theorem gone_cons {l d s : List (String × Json)} {key : String} {p : Path} {k : String} :
    Gone (.object l) (.object d) (.object s) (.key key :: p) k ↔
      ∃ lv dv sv, Keyed.get? key l = some lv ∧ Keyed.get? key d = some dv
        ∧ Keyed.get? key s = some sv ∧ Gone lv dv sv p k := by
  simp only [Gone, walk_key, get?_object, Option.bind_eq_some_iff]
  constructor
  · rintro ⟨⟨lf, ⟨lv, hl, hlw⟩, hlk⟩, ⟨df, ⟨dv, hd, hdw⟩, hdk⟩, ⟨sf, v, ⟨sv, hs, hsw⟩, hsk, hz⟩⟩
    exact ⟨lv, dv, sv, hl, hd, hs, ⟨lf, hlw, hlk⟩, ⟨df, hdw, hdk⟩, ⟨sf, v, hsw, hsk, hz⟩⟩
  · rintro ⟨lv, dv, sv, hl, hd, hs, ⟨lf, hlw, hlk⟩, ⟨df, hdw, hdk⟩, ⟨sf, v, hsw, hsk, hz⟩⟩
    exact ⟨⟨lf, ⟨lv, hl, hlw⟩, hlk⟩, ⟨df, ⟨dv, hd, hdw⟩, hdk⟩, ⟨sf, v, ⟨sv, hs, hsw⟩, hsk, hz⟩⟩

/-- **A field counts as dropped exactly if it is gone at the end of a path of
    object keys.**  A path through an array never counts. -/
theorem dropped_iff {last desired stored : Json} (hl : last.Canonical) :
    last.dropped desired stored = true ↔
      ∃ (keys : List String) (k : String), Gone last desired stored (keys.map .key) k := by
  induction last using cases_on_parts generalizing desired stored with
  | null | bool | number | string | array =>
    refine iff_of_false (by rw [not_dropped (by simp)]; simp) ?_
    rintro ⟨keys, k, hgone⟩
    obtain ⟨l, d, s, hobj, -⟩ := hgone.objects
    cases hobj
  | object l ih =>
    by_cases hobjects : ∃ d s, desired = .object d ∧ stored = .object s
    · obtain ⟨d, s, rfl, rfl⟩ := hobjects
      rw [dropped, droppedFields_iff]
      constructor
      · rintro ⟨⟨key, lv⟩, hmem, sv, hs, hcase⟩
        have hl' : Keyed.get? key l = some lv := hl.sorted.get?_of_mem hmem
        -- The field is gone here, or it is still desired and one below it is gone.
        cases hd : Keyed.get? key d with
        | none =>
          simp only [hd] at hcase
          refine ⟨[], key, ⟨l, rfl, ?_⟩, ⟨d, rfl, ?_⟩, ⟨s, sv, rfl, hs, hcase⟩⟩
          · simp [Keyed.has, hl']
          · simp [Keyed.has, hd]
        | some dv =>
          simp only [hd] at hcase
          obtain ⟨keys, k, hgone⟩ := (ih (key, lv) hmem (hl.get? hl')).1 hcase
          exact ⟨key :: keys, k, gone_cons.2 ⟨lv, dv, sv, hl', hd, hs, hgone⟩⟩
      · rintro ⟨keys, k, hgone⟩
        -- The path ends here, or it goes on through a field that all three have.
        cases keys with
        | nil =>
          obtain ⟨⟨lf, hlw, hlk⟩, ⟨df, hdw, hdk⟩, ⟨sf, v, hsw, hsk, hz⟩⟩ := hgone
          cases hlw
          cases hdw
          cases hsw
          obtain ⟨lv, hlv⟩ := Option.isSome_iff_exists.1 hlk
          refine ⟨(k, lv), Keyed.mem_of_get? hlv, v, hsk, ?_⟩
          have hdk : Keyed.get? k d = none := by simpa [Keyed.has] using hdk
          simp only [hdk]
          exact hz
        | cons key keys =>
          obtain ⟨lv, dv, sv, hl', hd, hs, hgone⟩ := gone_cons.1 hgone
          have hmem := Keyed.mem_of_get? hl'
          refine ⟨(key, lv), hmem, sv, hs, ?_⟩
          simp only [hd]
          exact (ih (key, lv) hmem (hl.get? hl')).2 ⟨keys, k, hgone⟩
    -- Where one of the three is no object, both sides are false.
    · refine iff_of_false ?_ ?_
      · rw [not_dropped (fun _ d s h => hobjects ⟨d, s, h.2.1, h.2.2⟩)]
        simp
      · rintro ⟨keys, k, hgone⟩
        obtain ⟨_, d, s, -, hd, hs⟩ := hgone.objects
        exact hobjects ⟨d, s, hd, hs⟩

end LoggingOperator.Json
