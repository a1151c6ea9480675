/-
  LoggingOperator.Proofs.Json.Seen — WHAT A TYPE SEES OF A WRITTEN VALUE.

  The platform sends an object as its text, and the reader keeps only what the
  type at hand looks at.  `Seen layout depth v w` says that a type with this
  layout sees `w` of the text of `v`.  Of an object it sees each field that it
  knows, with what the layout of the field sees of the value there
  (`Seen.known`), and none that is not there (`Seen.absent`).  A text and an
  integer are seen as they are, whatever the layout.

  So one field can be read back without knowing anything of the others.
-/
import LoggingOperator.Proofs.Json.Exact

namespace LoggingOperator.Json

/-- Of the text of `v`, a type with this layout sees `w`. -/
def Seen (layout : Layout) (depth : Nat) (v w : Json) : Prop :=
  ∃ d, document? v = some d ∧ layout.settle? depth d = some w

/-- What is read from a document of the text of `v` is read from what is seen of it. -/
theorem exists_seen_of_readAs? {α : Type} {layout : Layout} {read : Json → Option α} {v : Json}
    {d : Document} {a : α} (hd : Document.ofText? v.text = some d)
    (h : Document.readAs? layout read d = some a) :
    ∃ w, Seen layout Document.maxDepth v w ∧ read w = some a := by
  rw [ofText?_text] at hd
  obtain ⟨w, hw, ha⟩ := Option.bind_eq_some_iff.1 h
  exact ⟨w, ⟨d, hd, hw⟩, ha⟩

namespace Seen

variable {layout inner : Layout} {depth : Nat} {v w : Json} {k : String}

/-! ## §1. Scalars -/

/-- A text is seen as it is. -/
theorem string_iff {s : String} : Seen layout depth (.string s) w ↔ w = .string s := by
  have hsettle : layout.settle? depth (.string (Reader.pieces s)) = some (.string s) := by
    rw [Layout.settle?, text?_pieces]
    rfl
  constructor
  · rintro ⟨d, hd, hw⟩
    cases hd
    exact Option.some.inj (hw.symm.trans hsettle)
  · rintro rfl
    exact ⟨_, rfl, hsettle⟩

/-- An integer is seen as it is. -/
theorem eq_of_integer {n : Integer} (h : Seen layout depth (.number (.integer n)) w) :
    w = .number (.integer n) := by
  obtain ⟨d, hd, hw⟩ := h
  obtain ⟨m, hread, hvalue⟩ := number_of_integer n
  rw [document?, hread] at hd
  cases hd
  rw [Layout.settle?, hvalue] at hw
  exact (Option.some.inj hw).symm

theorem of_integer {n : Integer} :
    Seen layout depth (.number (.integer n)) (.number (.integer n)) := by
  obtain ⟨m, hread, hvalue⟩ := number_of_integer n
  refine ⟨.number m, by rw [document?, hread]; rfl, ?_⟩
  rw [Layout.settle?, hvalue]
  rfl

/-! ## §2. Objects -/

/-- What is seen of the first of some fields, and of the others. -/
theorem settleFields?_cons {x : Json} {rest : List (String × Json)}
    {ds : List (List Piece × Document)} {seen : List (String × Json)}
    (hds : documentFields? ((k, x) :: rest) = some ds)
    (hseen : layout.settleFields? depth ds = some seen) :
    ∃ ds' others, documentFields? rest = some ds' ∧ layout.settleFields? depth ds' = some others
      ∧ (layout.known? k = none ∧ seen = others
        ∨ ∃ inner y, layout.known? k = some inner ∧ Seen inner depth x y
          ∧ seen = (k, y) :: others) := by
  obtain ⟨d, hd, hds⟩ := Option.bind_eq_some_iff.1 hds
  obtain ⟨ds', hds', rfl⟩ := Option.map_eq_some_iff.1 hds
  rw [Layout.settleFields?, text?_pieces] at hseen
  obtain ⟨key, hkey, hseen⟩ := Option.bind_eq_some_iff.1 hseen
  cases hkey
  obtain ⟨others, hothers, hseen⟩ := Option.bind_eq_some_iff.1 hseen
  refine ⟨ds', others, hds', hothers, ?_⟩
  cases hknown : layout.known? k with
  | none =>
    rw [hknown] at hseen
    exact Or.inl ⟨rfl, (Option.some.inj hseen).symm⟩
  | some inner =>
    rw [hknown] at hseen
    obtain ⟨y, hy, hseen⟩ := Option.bind_eq_some_iff.1 hseen
    split at hseen
    · exact Or.inr ⟨inner, y, rfl, ⟨d, hd, hy⟩, (Option.some.inj hseen).symm⟩
    · cases hseen

/-- No field is seen twice or out of order. -/
theorem sublist_settleFields? {fields : List (String × Json)}
    {ds : List (List Piece × Document)} {seen : List (String × Json)}
    (hds : documentFields? fields = some ds)
    (hseen : layout.settleFields? depth ds = some seen) :
    (seen.map (·.1)).Sublist (fields.map (·.1)) := by
  induction fields generalizing ds seen with
  | nil =>
    cases hds
    rw [Layout.settleFields?] at hseen
    cases hseen
    exact List.Sublist.refl _
  | cons f rest ih =>
    obtain ⟨ds', others, hds', hothers, ⟨-, rfl⟩ | ⟨_, y, -, -, rfl⟩⟩ :=
      settleFields?_cons hds hseen
    · exact (ih hds' hothers).cons _
    · exact (ih hds' hothers).cons_cons _

/-- What is seen of some fields under one key. -/
theorem get?_settleFields? {fields : List (String × Json)}
    {ds : List (List Piece × Document)} {seen : List (String × Json)}
    (hds : documentFields? fields = some ds)
    (hseen : layout.settleFields? depth ds = some seen) (k : String) :
    (Keyed.get? k fields = none → Keyed.get? k seen = none)
      ∧ ∀ inner x, layout.known? k = some inner → Keyed.get? k fields = some x →
          ∃ y, Keyed.get? k seen = some y ∧ Seen inner depth x y := by
  induction fields generalizing ds seen with
  | nil =>
    cases hds
    rw [Layout.settleFields?] at hseen
    cases hseen
    exact ⟨fun _ => rfl, fun _ _ _ h => by cases h⟩
  | cons f rest ih =>
    obtain ⟨key, x⟩ := f
    obtain ⟨ds', others, hds', hothers, hcases⟩ := settleFields?_cons hds hseen
    obtain ⟨habsent, hknown⟩ := ih hds' hothers
    rw [Keyed.get?_cons]
    by_cases hkey : key = k
    · subst hkey
      rw [if_pos rfl]
      rcases hcases with ⟨hnone, rfl⟩ | ⟨inner, y, hsome, hy, rfl⟩
      · refine ⟨fun h => (by cases h), fun inner _ h => ?_⟩
        rw [hnone] at h
        cases h
      · rw [Keyed.get?_cons, if_pos rfl]
        refine ⟨fun h => (by cases h), ?_⟩
        rintro inner' x' hinner ⟨⟩
        rw [hsome] at hinner
        cases hinner
        exact ⟨y, rfl, hy⟩
    · rw [if_neg hkey]
      rcases hcases with ⟨-, rfl⟩ | ⟨_, y, -, -, rfl⟩
      · exact ⟨habsent, hknown⟩
      · rw [Keyed.get?_cons, if_neg hkey]
        exact ⟨habsent, hknown⟩

/-- What is seen of an object is an object, with what is seen of its fields. -/
theorem get?_of_object {fields : List (String × Json)} (hv : (Json.object fields).Canonical)
    (h : Seen layout (depth + 1) (.object fields) w) :
    w.isObject = true ∧ ∃ ds seen, documentFields? fields = some ds
      ∧ layout.settleFields? depth ds = some seen ∧ ∀ k, w.get? k = Keyed.get? k seen := by
  obtain ⟨d, hd, hw⟩ := h
  obtain ⟨ds, hds, rfl⟩ := Option.map_eq_some_iff.1 hd
  rw [Layout.settle?] at hw
  obtain ⟨seen, hseen, rfl⟩ := Option.map_eq_some_iff.1 hw
  refine ⟨rfl, ds, seen, hds, hseen, fun k => ?_⟩
  have hkeys : (fields.map (·.1)).Pairwise (· < ·) := List.pairwise_map.2 hv.sorted
  have hsorted : Keyed.Sorted seen :=
    List.pairwise_map.1 (hkeys.sublist (sublist_settleFields? hds hseen))
  rw [Json.ofFields, get?_object, Keyed.get?_ofList, get?_reverse hsorted]

variable {fields : List (String × Json)}

/-- **A field that the type knows is seen by the layout of the field.** -/
theorem known {x : Json} (hv : (Json.object fields).Canonical)
    (h : Seen layout (depth + 1) (.object fields) w) (hknown : layout.known? k = some inner)
    (hx : Keyed.get? k fields = some x) : ∃ y, w.get? k = some y ∧ Seen inner depth x y := by
  obtain ⟨-, ds, seen, hds, hseen, hget⟩ := get?_of_object hv h
  rw [hget]
  exact (get?_settleFields? hds hseen k).2 inner x hknown hx

/-- **A field that is not there is not seen.** -/
theorem absent (hv : (Json.object fields).Canonical)
    (h : Seen layout (depth + 1) (.object fields) w) (hx : Keyed.get? k fields = none) :
    w.get? k = none := by
  obtain ⟨-, ds, seen, hds, hseen, hget⟩ := get?_of_object hv h
  rw [hget]
  exact (get?_settleFields? hds hseen k).1 hx

/-! ## §3. Records whose fields are not repeated -/

/-- The fields that such a type knows are seen if each of them can be. -/
theorem exists_settleFields? {known : List (String × Layout)} {ds : List (List Piece × Document)}
    (hsorted : Keyed.Sorted fields) (hds : documentFields? fields = some ds)
    (h : ∀ key x inner, Keyed.get? key fields = some x → Keyed.get? key known = some inner →
      ∃ y, Seen inner depth x y) :
    ∃ seen, (Layout.strict known).settleFields? depth ds = some seen := by
  induction fields generalizing ds with
  | nil =>
    cases hds
    exact ⟨[], by rw [Layout.settleFields?]⟩
  | cons f rest ih =>
    obtain ⟨key, x⟩ := f
    obtain ⟨d, hd, hmap⟩ := Option.bind_eq_some_iff.1 hds
    obtain ⟨ds', hds', rfl⟩ := Option.map_eq_some_iff.1 hmap
    obtain ⟨hfirst, hrest⟩ := List.pairwise_cons.1 hsorted
    obtain ⟨others, hothers⟩ := ih hrest hds' fun k y inner hy => h k y inner (by
      have hlt : key < k := hfirst (k, y) (Keyed.mem_of_get? hy)
      rwa [Keyed.get?_cons, if_neg (by rintro rfl; exact String.lt_irrefl key hlt)])
    rw [Layout.settleFields?, text?_pieces, hothers]
    cases hknown : (Layout.strict known).known? key with
    | none => exact ⟨others, by simp [hknown]⟩
    | some inner =>
      obtain ⟨y, d', hd', hy⟩ := h key x inner (by rw [Keyed.get?_cons, if_pos rfl]) hknown
      cases hd.symm.trans hd'
      -- Keys come in order, so that none of the later ones is this one.
      have hfresh : Keyed.get? key others = none :=
        (get?_settleFields? hds' hothers key).1 (Keyed.get?_eq_none_of_forall_ne fun g hg heq =>
          String.lt_irrefl key (heq ▸ hfirst g hg))
      have haccepts : (Layout.strict known).accepts key y others = true := by
        show (!(Keyed.get? key others).isSome) = true
        rw [hfresh]
        rfl
      exact ⟨(key, y) :: others, by simp [hknown, hy, haccepts]⟩

/-- **Of an object, such a type sees an object**, if it can see the fields that it knows. -/
theorem exists_of_strict (known : List (String × Layout)) (depth : Nat) {d : Document}
    (hv : (Json.object fields).Canonical) (hd : document? (.object fields) = some d)
    (h : ∀ key x inner, Keyed.get? key fields = some x → Keyed.get? key known = some inner →
      ∃ y, Seen inner depth x y) :
    ∃ w, (Layout.strict known).settle? (depth + 1) d = some w ∧ w.isObject = true := by
  obtain ⟨ds, hds, rfl⟩ := Option.map_eq_some_iff.1 hd
  obtain ⟨seen, hseen⟩ := exists_settleFields? hv.sorted hds h
  exact ⟨.ofFields seen.reverse, by rw [Layout.settle?, hseen]; rfl, rfl⟩

end Seen

end LoggingOperator.Json
