/-
  LoggingOperator.Proofs.Json.Path — A VALUE SEEN PLACE BY PLACE.

  A place in a value is reached by a path of object keys and array positions.
  What is at a place, without what is inside, is its head: the scalar itself,
  the length of an array, or just "an object".  The heads at all places make
  up the whole value (`eq_of_head?`), so everything that happens to a value
  can be said by saying which places it touches.

  Main definitions:
    * `walk`, `head?`   — the value and the head at a path;
    * `Region`          — a set of paths, built from keys like a path;
    * `AgreeOutside`    — two values with the same heads outside a region;
    * `Kept`            — everything outside a region is still there;
    * `Strips`          — a function that empties a region and does no more.

  These relations come with one rule for each way to change a value: `set`,
  `setIfNew`, `remove`, `modify` and `mapItems`.
-/
import LoggingOperator.Proofs.Json.Canonical

namespace LoggingOperator.Json

/-! ## §1. Paths and heads -/

/-- One step into a value. -/
inductive PathStep where
  | key (k : String)
  | item (i : Nat)
deriving DecidableEq, Repr

/-- A way into a value, from the outside. -/
abbrev Path := List PathStep

/-- The part of a value that one step leads to. -/
def child? (v : Json) : PathStep → Option Json
  | .key k => v.get? k
  | .item i => v.items?.bind (·[i]?)

/-- The value at a path. -/
def walk : Path → Json → Option Json
  | [], v => some v
  | step :: p, v => (v.child? step).bind (walk p)

/-- What a value is, without what is inside it. -/
inductive Head where
  | null
  | bool (b : Bool)
  | number (n : Number)
  | string (s : String)
  | array (length : Nat)
  | object
deriving DecidableEq

/-- The head of a value. -/
def head : Json → Head
  | .null => .null
  | .bool b => .bool b
  | .number n => .number n
  | .string s => .string s
  | .array items => .array items.length
  | .object _ => .object

/-- The head at a path. -/
def head? (p : Path) (v : Json) : Option Head :=
  (v.walk p).map head

@[simp] theorem walk_nil (v : Json) : v.walk [] = some v := rfl

theorem walk_key (k : String) (p : Path) (v : Json) :
    v.walk (.key k :: p) = (v.get? k).bind (walk p) := rfl

theorem walk_append (p q : Path) (v : Json) :
    v.walk (p ++ q) = (v.walk p).bind (walk q) := by
  induction p generalizing v with
  | nil => rfl
  | cons step p ih =>
    rw [List.cons_append, walk, walk, Option.bind_assoc]
    congr 1
    funext x
    exact ih x

@[simp] theorem head?_nil (v : Json) : v.head? [] = some v.head := rfl

theorem head?_cons (step : PathStep) (p : Path) (v : Json) :
    v.head? (step :: p) = (v.child? step).bind (head? p) := by
  rw [head?, walk, Option.map_bind]
  rfl

theorem head?_key (k : String) (p : Path) (v : Json) :
    v.head? (.key k :: p) = (v.get? k).bind (head? p) :=
  head?_cons _ _ _

theorem head?_item (i : Nat) (p : Path) (items : List Json) :
    head? (.item i :: p) (.array items) = (items[i]?).bind (head? p) :=
  head?_cons _ _ _

theorem head?_append (p q : Path) (v : Json) :
    v.head? (p ++ q) = (v.walk p).bind (head? q) := by
  rw [head?, walk_append, Option.map_bind]
  rfl

theorem head?_eq_some {p : Path} {v : Json} {h : Head} :
    v.head? p = some h ↔ ∃ x, v.walk p = some x ∧ x.head = h := by
  rw [head?, Option.map_eq_some_iff]

theorem head?_eq_none {p : Path} {v : Json} : v.head? p = none ↔ v.walk p = none := by
  rw [head?, Option.map_eq_none_iff]

/-- A way through objects alone. -/
theorem at?_eq_walk (keys : List String) (v : Json) : v.at? keys = v.walk (keys.map .key) := by
  induction keys generalizing v with
  | nil => rfl
  | cons k keys ih =>
    rw [at?, List.map_cons, walk_key]
    congr 1
    funext x
    exact ih x

/-- A text is known by its head. -/
theorem string?_walk (p : Path) (v : Json) :
    (v.walk p).bind string? = (v.head? p).bind fun
      | .string s => some s
      | _ => none := by
  rw [head?]
  cases v.walk p with
  | none => rfl
  | some x => cases x <;> rfl

/-- Nothing is below a place where there is nothing. -/
theorem head?_append_of_none {p : Path} {v : Json} (h : v.head? p = none) (q : Path) :
    v.head? (p ++ q) = none := by
  rw [head?_append, head?_eq_none.1 h]
  rfl

theorem head_eq_object {v : Json} : v.head = .object ↔ ∃ fields, v = .object fields := by
  cases v <;> simp [head]

theorem head_eq_array {v : Json} {n : Nat} :
    v.head = .array n ↔ ∃ items, v = .array items ∧ items.length = n := by
  cases v <;> simp [head]

/-- A field is there if there is a head at its place. -/
theorem isSome_head?_key (k : String) (v : Json) :
    (v.head? [.key k]).isSome = (v.get? k).isSome := by
  rw [head?_key]
  cases v.get? k <;> rfl

/-! ## §2. The heads make up the value -/

theorem Canonical.walk {p : Path} {v x : Json} (h : v.Canonical) (hx : v.walk p = some x) :
    x.Canonical := by
  induction p generalizing v with
  | nil =>
    cases hx
    exact h
  | cons step p ih =>
    rw [Json.walk] at hx
    obtain ⟨y, hy, hx⟩ := Option.bind_eq_some_iff.1 hx
    refine ih ?_ hx
    cases step with
    | key k => exact h.get? hy
    | item i =>
      cases v with
      | array items => exact canonical_array.1 h y (List.mem_of_getElem? hy)
      | _ => cases hy

/-- **Canonical values with the same head everywhere are equal.** -/
theorem eq_of_head? : ∀ {v w : Json}, v.Canonical → w.Canonical →
    (∀ p, v.head? p = w.head? p) → v = w := by
  intro v
  induction v using cases_on_parts with
  | null | bool | number | string =>
    intro w _ _ h
    have hroot := Option.some.inj (h [])
    clear h
    cases w <;> simp_all [head]
  | array xs ih =>
    intro w hv hw h
    have hroot : Head.array xs.length = w.head := Option.some.inj (h [])
    obtain ⟨ys, rfl, hlen⟩ := head_eq_array.1 hroot.symm
    congr 1
    apply List.ext_getElem hlen.symm
    intro i hi hi'
    have hx : xs[i] ∈ xs := List.getElem_mem hi
    have hy : ys[i] ∈ ys := List.getElem_mem hi'
    refine ih _ hx (canonical_array.1 hv _ hx) (canonical_array.1 hw _ hy) ?_
    intro p
    have hp := h (.item i :: p)
    rwa [head?_item, head?_item, List.getElem?_eq_getElem hi, List.getElem?_eq_getElem hi'] at hp
  | object fs ih =>
    intro w hv hw h
    have hroot : Head.object = w.head := Option.some.inj (h [])
    obtain ⟨gs, rfl⟩ := head_eq_object.1 hroot.symm
    -- Keys of canonical objects are sorted, so what is under each of them settles the fields.
    congr 1
    apply Keyed.eq_of_get? hv.sorted hw.sorted
    intro k
    have hkey : ∀ p, (Keyed.get? k fs).bind (head? p) = (Keyed.get? k gs).bind (head? p) := by
      intro p
      have hp := h (.key k :: p)
      rwa [head?_key, head?_key] at hp
    cases hf : Keyed.get? k fs with
    | none =>
      cases hg : Keyed.get? k gs with
      | none => rfl
      | some y =>
        have hp := hkey []
        rw [hf, hg] at hp
        cases hp
    | some x =>
      cases hg : Keyed.get? k gs with
      | none =>
        have hp := hkey []
        rw [hf, hg] at hp
        cases hp
      | some y =>
        rw [hf, hg] at hkey
        have hxy : x = y := ih (k, x) (Keyed.mem_of_get? hf) (hv.get? hf) (hw.get? hg) hkey
        rw [hxy]

/-! ## §3. Regions -/

/-- A set of paths. -/
abbrev Region := Path → Bool

namespace Region

/-- No path. -/
def empty : Region := fun _ => false

/-- At or below one of these fields. -/
def fields (keys : List String) : Region
  | .key k :: _ => decide (k ∈ keys)
  | _ => false

/-- In a region of the field `k`. -/
def within (k : String) (r : Region) : Region
  | .key k' :: p => decide (k' = k) && r p
  | _ => false

/-- In a region of some item. -/
def withinItems (r : Region) : Region
  | .item _ :: p => r p
  | _ => false

/-- In one of two regions. -/
def or (r s : Region) : Region :=
  fun p => r p || s p

@[simp] theorem fields_nil (keys : List String) : fields keys [] = false := rfl

@[simp] theorem fields_key (keys : List String) (k : String) (p : Path) :
    fields keys (.key k :: p) = decide (k ∈ keys) := rfl

@[simp] theorem fields_item (keys : List String) (i : Nat) (p : Path) :
    fields keys (.item i :: p) = false := rfl

@[simp] theorem within_nil (k : String) (r : Region) : within k r [] = false := rfl

@[simp] theorem within_key (k : String) (r : Region) (k' : String) (p : Path) :
    within k r (.key k' :: p) = (decide (k' = k) && r p) := rfl

@[simp] theorem within_item (k : String) (r : Region) (i : Nat) (p : Path) :
    within k r (.item i :: p) = false := rfl

@[simp] theorem withinItems_nil (r : Region) : withinItems r [] = false := rfl

@[simp] theorem withinItems_key (r : Region) (k : String) (p : Path) :
    withinItems r (.key k :: p) = false := rfl

@[simp] theorem withinItems_item (r : Region) (i : Nat) (p : Path) :
    withinItems r (.item i :: p) = r p := rfl

@[simp] theorem or_apply (r s : Region) (p : Path) : (r.or s) p = (r p || s p) := rfl

@[simp] theorem empty_apply (p : Path) : empty p = false := rfl

/-- With a path, everything below it is in the region. -/
def Closed (r : Region) : Prop :=
  ∀ p q, r p = true → r (p ++ q) = true

theorem closed_fields (keys : List String) : Closed (fields keys) := by
  intro p q h
  match p with
  | .key k :: p => exact h

theorem Closed.within {k : String} {r : Region} (h : Closed r) : Closed (within k r) := by
  intro p q hp
  match p with
  | .key k' :: p =>
    rw [List.cons_append, within_key, Bool.and_eq_true] at *
    exact ⟨hp.1, h p q hp.2⟩

theorem Closed.withinItems {r : Region} (h : Closed r) : Closed (withinItems r) := by
  intro p q hp
  match p with
  | .item i :: p => exact h p q hp

theorem Closed.or {r s : Region} (hr : Closed r) (hs : Closed s) : Closed (r.or s) := by
  intro p q hp
  rw [or_apply, Bool.or_eq_true] at *
  exact hp.imp (hr p q) (hs p q)

theorem fields_mono {ks ls : List String} (h : ∀ k ∈ ks, k ∈ ls) {p : Path}
    (hp : fields ks p = true) : fields ls p = true := by
  match p with
  | .key k :: p =>
    simp only [fields_key, decide_eq_true_eq] at hp ⊢
    exact h k hp

theorem within_mono {k : String} {r s : Region} (h : ∀ p, r p = true → s p = true) {p : Path}
    (hp : within k r p = true) : within k s p = true := by
  match p with
  | .key k' :: p =>
    rw [within_key, Bool.and_eq_true] at hp ⊢
    exact ⟨hp.1, h p hp.2⟩

/-- A place in one field. -/
theorem exists_of_fields {k : String} {p : Path} (hp : fields [k] p = true) :
    ∃ q, p = .key k :: q := by
  match p with
  | .key k' :: p =>
    have heq : k' = k := by simpa using hp
    exact ⟨p, by rw [heq]⟩

/-- A place inside one field. -/
theorem exists_of_within {k : String} {r : Region} {p : Path} (hp : within k r p = true) :
    ∃ q, p = .key k :: q ∧ r q = true := by
  match p with
  | .key k' :: p =>
    simp only [within_key, Bool.and_eq_true, decide_eq_true_eq] at hp
    exact ⟨p, by rw [hp.1], hp.2⟩

end Region

/-! ## §4. Changes confined to a region -/

/-- Outside the region both values have the same heads. -/
def AgreeOutside (r : Region) (v w : Json) : Prop :=
  ∀ p, r p = false → w.head? p = v.head? p

namespace AgreeOutside

variable {r s : Region} {u v w : Json}

theorem refl (r : Region) (v : Json) : AgreeOutside r v v :=
  fun _ _ => rfl

theorem symm (h : AgreeOutside r v w) : AgreeOutside r w v :=
  fun p hp => (h p hp).symm

theorem trans (h : AgreeOutside r u v) (h' : AgreeOutside r v w) : AgreeOutside r u w :=
  fun p hp => (h' p hp).trans (h p hp)

theorem mono (h : AgreeOutside r v w) (hrs : ∀ p, r p = true → s p = true) :
    AgreeOutside s v w := by
  intro p hp
  apply h p
  cases hr : r p with
  | false => rfl
  | true => rw [hrs p hr] at hp; cases hp

/-- Two objects agree if their fields do. -/
theorem of_fields {fs gs : List (String × Json)}
    (h : ∀ k p, r (.key k :: p) = false →
      (Keyed.get? k gs).bind (head? p) = (Keyed.get? k fs).bind (head? p)) :
    AgreeOutside r (.object fs) (.object gs) := by
  intro p hp
  match p with
  | [] => rfl
  | .key k :: p =>
    rw [head?_key, head?_key]
    exact h k p hp
  | .item i :: p => rfl

theorem set (v : Json) (k : String) (x : Json) :
    AgreeOutside (Region.fields [k]) v (v.set k x) := by
  cases v with
  | object fs =>
    apply of_fields
    intro k' p hp
    have hne : k ≠ k' := by
      intro heq
      simp [heq] at hp
    rw [Keyed.get?_insert, if_neg hne]
  | _ => exact refl _ _

theorem remove (v : Json) (k : String) :
    AgreeOutside (Region.fields [k]) v (v.remove k) := by
  cases v with
  | object fs =>
    apply of_fields
    intro k' p hp
    have hne : k ≠ k' := by
      intro heq
      simp [heq] at hp
    rw [Keyed.get?_erase, if_neg hne]
  | _ => exact refl _ _

/-- A field that is there is not set anew. -/
theorem setIfNew (v : Json) (k : String) (x : Json) :
    AgreeOutside (fun p => Region.fields [k] p && (v.get? k).isNone) v (v.setIfNew k x) := by
  cases v with
  | object fs =>
    rw [Json.setIfNew, Keyed.insertIfNew, Keyed.has]
    split
    · exact refl _ _
    · next hnone =>
      have hnone : (get? k (.object fs)).isNone = true := by
        simpa using hnone
      refine mono (set (.object fs) k x) ?_
      intro p hp
      rw [hp, hnone]
      rfl
  | _ => exact refl _ _

theorem modify {k : String} {change : Json → Json}
    (h : ∀ x, v.get? k = some x → AgreeOutside r x (change x)) :
    AgreeOutside (Region.within k r) v (v.modify k change) := by
  cases v with
  | object fs =>
    apply of_fields
    intro k' p hp
    rw [Keyed.get?_modify]
    split
    · next heq =>
      subst heq
      have hp : r p = false := by simpa using hp
      cases hx : Keyed.get? k fs with
      | none => rfl
      | some x => exact h x hx p hp
    · rfl
  | _ => exact refl _ _

theorem mapItems {change : Json → Json} (h : ∀ x, AgreeOutside r x (change x)) :
    AgreeOutside (Region.withinItems r) v (v.mapItems change) := by
  cases v with
  | array items =>
    intro p hp
    match p with
    | [] => simp [Json.mapItems, head]
    | .key k :: p => rfl
    | .item i :: p =>
      rw [Json.mapItems, head?_item, head?_item, List.getElem?_map]
      cases items[i]? with
      | none => rfl
      | some x => exact h x p hp
  | _ => exact refl _ _

end AgreeOutside

/-! ## §5. The same change on both sides -/

/-- The part of a region inside the field `k`. -/
def Region.below (k : String) (r : Region) : Region :=
  fun p => r (.key k :: p)

namespace AgreeOutside

variable {r : Region} {v w : Json}

theorem head_eq (h : AgreeOutside r v w) (hr : r [] = false) : w.head = v.head :=
  Option.some.inj (h [] hr)

/-- Fields of values that agree agree inside. -/
theorem get? (h : AgreeOutside r v w) {k : String} {x y : Json} (hx : v.get? k = some x)
    (hy : w.get? k = some y) : AgreeOutside (r.below k) x y := by
  intro p hp
  have hkey := h (.key k :: p) hp
  rwa [head?_key, head?_key, hx, hy] at hkey

/-- Outside the region both values have the same texts. -/
theorem string?_at? (h : AgreeOutside r v w) {keys : List String}
    (hr : r (keys.map .key) = false) :
    (w.at? keys).bind string? = (v.at? keys).bind string? := by
  rw [at?_eq_walk, at?_eq_walk, string?_walk, string?_walk, h _ hr]

theorem isSome_get? (h : AgreeOutside r v w) {k : String} (hr : r [.key k] = false) :
    (w.get? k).isSome = (v.get? k).isSome := by
  rw [← isSome_head?_key, ← isSome_head?_key, h _ hr]

/-- **A field that the region leaves alone is the same in canonical values.** -/
theorem get?_eq (h : AgreeOutside r v w) (hv : v.Canonical) (hw : w.Canonical) {k : String}
    (hr : ∀ p, r (.key k :: p) = false) : w.get? k = v.get? k := by
  have hsome := h.isSome_get? (hr [])
  cases hx : v.get? k with
  | none => rwa [hx, Option.isSome_none, Option.isSome_eq_false_iff, Option.isNone_iff_eq_none]
      at hsome
  | some x =>
    rw [hx, Option.isSome_some, Option.isSome_iff_exists] at hsome
    obtain ⟨y, hy⟩ := hsome
    rw [hy, eq_of_head? (hw.get? hy) (hv.get? hx) fun p => h.get? hx hy p (hr p)]

theorem congr_modify (h : AgreeOutside r v w) {k : String} {f : Json → Json}
    (hr : r [.key k] = false)
    (hf : ∀ x y, AgreeOutside (r.below k) x y → AgreeOutside (r.below k) (f x) (f y)) :
    AgreeOutside r (v.modify k f) (w.modify k f) := by
  intro p hp
  match p with
  | [] =>
    have hroot : w.head = v.head := h.head_eq hp
    cases v <;> cases w <;> simp_all [Json.modify, head]
  | .item i :: p =>
    have hpath := h (.item i :: p) hp
    have hmodify : ∀ u : Json, (u.modify k f).head? (.item i :: p) = u.head? (.item i :: p) := by
      intro u
      cases u <;> rfl
    rw [hmodify, hmodify, hpath]
  | .key k' :: p =>
    have hpath := h (.key k' :: p) hp
    rw [head?_key, head?_key] at hpath ⊢
    rw [get?_modify, get?_modify]
    split
    · next heq =>
      subst heq
      -- The field itself lies outside the region, so it is there on both sides or on neither.
      have hsome := h.isSome_get? hr
      cases hv : v.get? k with
      | none =>
        rw [hv] at hsome
        cases hw : w.get? k with
        | none => rfl
        | some y => rw [hw] at hsome; cases hsome
      | some x =>
        rw [hv] at hsome
        cases hw : w.get? k with
        | none => rw [hw] at hsome; cases hsome
        | some y => exact hf x y (h.get? hv hw) p hp
    · exact hpath

theorem congr_setIfNew (h : AgreeOutside r v w) (hroot : r [] = false) {k : String}
    (hr : r [.key k] = false) (x : Json) :
    AgreeOutside r (v.setIfNew k x) (w.setIfNew k x) := by
  have hsome := h.isSome_get? hr
  have hhead := h.head_eq hroot
  cases v with
  | object fs =>
    obtain ⟨gs, rfl⟩ := head_eq_object.1 hhead
    rw [Json.setIfNew, Json.setIfNew, Keyed.insertIfNew, Keyed.insertIfNew, Keyed.has, Keyed.has]
    have hsome' : (Keyed.get? k gs).isSome = (Keyed.get? k fs).isSome := hsome
    rw [hsome']
    split
    · exact h
    · apply of_fields
      intro k' p hp
      rw [Keyed.get?_insert, Keyed.get?_insert]
      split
      · rfl
      · have hpath := h (.key k' :: p) hp
        rwa [head?_key, head?_key] at hpath
  | _ => cases w <;> simp_all [head, Json.setIfNew]

/-- Items of lists that agree everywhere may all be changed in the same way. -/
theorem congr_mapItems (h : AgreeOutside Region.empty v w) {f : Json → Json}
    (hf : ∀ x y, AgreeOutside Region.empty x y → AgreeOutside Region.empty (f x) (f y)) :
    AgreeOutside Region.empty (v.mapItems f) (w.mapItems f) := by
  have hhead := h.head_eq rfl
  cases v with
  | array xs =>
    obtain ⟨ys, rfl, hlen⟩ := head_eq_array.1 hhead
    intro p _
    match p with
    | [] => simp [Json.mapItems, head, hlen]
    | .key k :: p => rfl
    | .item i :: p =>
      rw [Json.mapItems, Json.mapItems, head?_item, head?_item, List.getElem?_map,
        List.getElem?_map]
      by_cases hi : i < xs.length
      · have hi' : i < ys.length := by omega
        rw [List.getElem?_eq_getElem hi, List.getElem?_eq_getElem hi']
        refine hf _ _ (fun q _ => ?_) p rfl
        have hpath := h (.item i :: q) rfl
        rwa [head?_item, head?_item, List.getElem?_eq_getElem hi,
          List.getElem?_eq_getElem hi'] at hpath
      · rw [List.getElem?_eq_none (by omega), List.getElem?_eq_none (by omega)]
  | _ => cases w <;> simp_all [head, Json.mapItems]

end AgreeOutside

/-! ## §6. What is kept -/

/-- Every head outside the region is still there.  More may be there now. -/
def Kept (r : Region) (v w : Json) : Prop :=
  ∀ p h, r p = false → v.head? p = some h → w.head? p = some h

namespace Kept

variable {r s : Region} {u v w : Json}

theorem refl (r : Region) (v : Json) : Kept r v v :=
  fun _ _ _ h => h

theorem trans (h : Kept r u v) (h' : Kept r v w) : Kept r u w :=
  fun p x hp hx => h' p x hp (h p x hp hx)

theorem mono (h : Kept r v w) (hrs : ∀ p, r p = true → s p = true) : Kept s v w := by
  intro p x hp hx
  refine h p x ?_ hx
  cases hr : r p with
  | false => rfl
  | true => rw [hrs p hr] at hp; cases hp

/-- Where nothing was, something may have been put. -/
theorem of_agreeOutside (h : AgreeOutside s v w)
    (hs : ∀ p, s p = true → r p = true ∨ v.head? p = none) : Kept r v w := by
  intro p x hp hx
  cases hsp : s p with
  | false => rw [h p hsp, hx]
  | true =>
    rcases hs p hsp with hr | hnone
    · rw [hr] at hp
      cases hp
    · rw [hnone] at hx
      cases hx

theorem setIfNew (v : Json) (k : String) (x : Json) : Kept r v (v.setIfNew k x) := by
  refine of_agreeOutside (AgreeOutside.setIfNew v k x) ?_
  intro p hp
  rw [Bool.and_eq_true, Option.isNone_iff_eq_none] at hp
  obtain ⟨q, rfl⟩ := Region.exists_of_fields hp.1
  right
  rw [head?_key, hp.2]
  rfl

theorem set (v : Json) (k : String) (x : Json) (hr : ∀ p, r (.key k :: p) = true) :
    Kept r v (v.set k x) := by
  refine of_agreeOutside (AgreeOutside.set v k x) ?_
  intro p hp
  obtain ⟨q, rfl⟩ := Region.exists_of_fields hp
  exact Or.inl (hr q)

theorem remove (v : Json) (k : String) (hr : ∀ p, r (.key k :: p) = true) :
    Kept r v (v.remove k) := by
  refine of_agreeOutside (AgreeOutside.remove v k) ?_
  intro p hp
  obtain ⟨q, rfl⟩ := Region.exists_of_fields hp
  exact Or.inl (hr q)

theorem modify {k : String} {f : Json → Json} (hf : ∀ x, Kept (r.below k) x (f x)) (v : Json) :
    Kept r v (v.modify k f) := by
  cases v with
  | object fs =>
    intro p h hp hx
    match p with
    | [] => exact hx
    | .item i :: p => cases hx
    | .key k' :: p =>
      rw [head?_key] at hx ⊢
      rw [get?_modify]
      split
      · next heq =>
        subst heq
        obtain ⟨x, hget, hx⟩ := Option.bind_eq_some_iff.1 hx
        rw [hget]
        exact hf x p h hp hx
      · exact hx
  | _ => exact refl _ _

theorem mapItems {f : Json → Json} (hf : ∀ x, Kept Region.empty x (f x)) (v : Json) :
    Kept r v (v.mapItems f) := by
  cases v with
  | array items =>
    intro p h _ hx
    match p with
    | [] => simpa [Json.mapItems, head] using hx
    | .key k :: p => cases hx
    | .item i :: p =>
      rw [head?_item] at hx
      rw [Json.mapItems, head?_item, List.getElem?_map]
      obtain ⟨x, hget, hx⟩ := Option.bind_eq_some_iff.1 hx
      rw [hget]
      exact hf x p h rfl hx
  | _ => exact refl _ _

end Kept

/-! ## §7. Functions that empty a region -/

/-- The function empties the region and leaves everything else as it is. -/
def Strips (f : Json → Json) (r : Region) : Prop :=
  ∀ v p, (f v).head? p = if r p then none else v.head? p

namespace Strips

variable {f g : Json → Json} {r s : Region}

theorem agreeOutside (h : Strips f r) (v : Json) : AgreeOutside r v (f v) := by
  intro p hp
  rw [h v p, if_neg (by simp [hp])]

theorem id : Strips id Region.empty :=
  fun _ _ => rfl

theorem comp (hf : Strips f r) (hg : Strips g s) : Strips (fun v => g (f v)) (r.or s) := by
  intro v p
  rw [hg (f v) p, hf v p]
  cases hr : r p <;> cases hs : s p <;> simp [hr, hs]

/-- Functions that are equal at every value strip the same region. -/
theorem congr (h : Strips f r) (hfg : ∀ v, f v = g v) : Strips g r := by
  intro v p
  rw [← hfg v]
  exact h v p

theorem remove (k : String) : Strips (Json.remove k) (Region.fields [k]) := by
  intro v p
  cases hp : Region.fields [k] p with
  | false => exact AgreeOutside.remove v k p hp
  | true =>
    obtain ⟨q, rfl⟩ := Region.exists_of_fields hp
    rw [head?_key, get?_remove, if_pos rfl]
    rfl

theorem removeAll (keys : List String) : Strips (Json.removeAll keys) (Region.fields keys) := by
  induction keys with
  | nil =>
    intro v p
    rw [if_neg]
    · rfl
    · match p with
      | [] => simp
      | .key k :: p => simp
      | .item i :: p => simp
  | cons k keys ih =>
    intro v p
    refine (comp (remove k) ih v p).trans ?_
    match p with
    | [] => rfl
    | .key k' :: p => simp
    | .item i :: p => rfl

theorem modify (k : String) (h : Strips f r) : Strips (Json.modify k f) (Region.within k r) := by
  intro v p
  cases hp : Region.within k r p with
  | false => exact AgreeOutside.modify (fun x _ => h.agreeOutside x) p hp
  | true =>
    obtain ⟨q, rfl, hr⟩ := Region.exists_of_within hp
    rw [head?_key, get?_modify, if_pos rfl, if_pos rfl]
    cases v.get? k with
    | none => rfl
    | some x => exact (h x q).trans (if_pos hr)

theorem mapItems (h : Strips f r) : Strips (Json.mapItems f) (Region.withinItems r) := by
  intro v p
  cases hp : Region.withinItems r p with
  | false => exact AgreeOutside.mapItems (fun x => h.agreeOutside x) p hp
  | true =>
    match p with
    | .item i :: p =>
      cases v with
      | array items =>
        rw [Json.mapItems, head?_item, List.getElem?_map, if_pos rfl]
        cases items[i]? with
        | none => rfl
        | some x => exact (h x p).trans (if_pos hp)
      | _ => rfl

end Strips

end LoggingOperator.Json
