/-
  LoggingOperator.Proofs.Json.Exact — WITHOUT FLOATS, A VALUE IS READ BACK.

  Reading the text of a value gives a value of the same shape; what may differ
  are its numbers, since a float is read with roundings of its own.  Integers
  are not rounded: their digits are counted up as long as they fit 64 bits,
  and they always do (`number_of_integer`).

  So a value without floats is read back from its text exactly, as long as it
  is not nested deeper than the reader allows (`read?_text`).
-/
import LoggingOperator.Proofs.Json.Rereading
import LoggingOperator.Proofs.Text.Numeral

namespace LoggingOperator.Json

/-! ## §1. Integers -/

theorem le_foldl_digits (significand : Nat) (ds : List Nat) :
    significand ≤ ds.foldl (fun n d => n * 10 + d) significand := by
  induction ds generalizing significand with
  | nil => exact Nat.le_refl _
  | cons d ds ih =>
    refine Nat.le_trans ?_ (ih (significand * 10 + d))
    omega

/-- All digits are counted as long as their number fits. -/
theorem gather_of_lt {significand : Nat} {ds : List Nat}
    (h : ds.foldl (fun n d => n * 10 + d) significand < 18446744073709551616) :
    Numeral.gather significand ds = (ds.foldl (fun n d => n * 10 + d) significand, []) := by
  induction ds generalizing significand with
  | nil => rfl
  | cons d ds ih =>
    have hfits : significand * 10 + d < 18446744073709551616 :=
      Nat.lt_of_le_of_lt (le_foldl_digits (significand * 10 + d) ds) h
    rw [Numeral.gather, if_pos hfits]
    exact ih h

/-- The digits of a natural number are a number without a point. -/
theorem magnitude?_decimal (negative : Bool) (n : Nat) :
    ∃ ds, Reader.magnitude? negative (Text.decimal n) = some ⟨negative, ds, [], none⟩
      ∧ Text.numeral ds = n := by
  obtain ⟨ds, hspells, hnumeral, hzero⟩ := Text.spells_decimal n
  refine ⟨ds, ?_, hnumeral⟩
  rw [Reader.magnitude?, hspells.spanDigits_self]
  -- There is a digit, and a zero stands alone.
  match ds with
  | [] =>
    have hlength := hspells.length_eq
    exact absurd (List.length_eq_zero_iff.1 hlength.symm) (Text.decimal_ne_nil n)
  | [d] => cases d <;> rfl
  | 0 :: d :: ds => cases hzero rfl
  | (d + 1) :: d' :: ds => rfl

theorem numeral?_decimal (n : Nat) :
    Reader.numeral? (Text.decimal n) = Reader.magnitude? false (Text.decimal n) := by
  unfold Reader.numeral?
  split
  · next cs hminus =>
    have hdigit : Text.isDigit '-' = true :=
      Text.isDigit_of_mem_decimal (n := n) (by rw [hminus]; exact List.mem_cons_self)
    exact absurd hdigit (by decide)
  · rfl

/-- The value of a number without a point that fits. -/
theorem number?_whole {negative : Bool} {ds : List Nat}
    (h : Text.numeral ds < 18446744073709551616) :
    Numeral.number? ⟨negative, ds, [], none⟩ = Numeral.integer? negative (Text.numeral ds) := by
  have hgather : Numeral.gather 0 ds = (Text.numeral ds, []) := gather_of_lt h
  simp only [Numeral.number?, hgather, and_self, if_true]

/-- **An integer is read back from its text.** -/
theorem number_of_integer (n : Integer) :
    ∃ m, Reader.numeral? (Number.text (.integer n)) = some m
      ∧ m.number? = some (.integer n) := by
  obtain ⟨n, hmin, hmax⟩ := n
  show ∃ m, Reader.numeral? (Text.signed n) = some m ∧ _
  by_cases hn : n < 0
  · obtain ⟨ds, hread, hnumeral⟩ := magnitude?_decimal true n.natAbs
    refine ⟨_, by rw [Text.signed, if_pos hn]; exact hread, ?_⟩
    have hvalue : -((Text.numeral ds : Nat) : Int) = n := by omega
    rw [number?_whole (by omega), Numeral.integer?, if_pos rfl, if_neg (by omega), hvalue,
      Integer.ofInt?, dif_pos ⟨hmin, hmax⟩]
  · obtain ⟨ds, hread, hnumeral⟩ := magnitude?_decimal false n.natAbs
    refine ⟨_, by rw [Text.signed, if_neg hn, numeral?_decimal]; exact hread, ?_⟩
    have hvalue : ((Text.numeral ds : Nat) : Int) = n := by omega
    rw [number?_whole (by omega), Numeral.integer?, if_neg (by decide), hvalue,
      Integer.ofInt?, dif_pos ⟨hmin, hmax⟩]
    rfl

/-! ## §2. Values that are read exactly -/

mutual

/-- The value has no float, and its arrays and objects are nested no deeper than
    `depth`. -/
def Exact (depth : Nat) : Json → Prop
  | .number (.double _) => False
  | .array items => ∃ inner, depth = inner + 1 ∧ ExactItems inner items
  | .object fields => ∃ inner, depth = inner + 1 ∧ ExactFields inner fields
  | _ => True

/-- So have these items. -/
def ExactItems (depth : Nat) : List Json → Prop
  | [] => True
  | x :: xs => Exact depth x ∧ ExactItems depth xs

/-- So have these fields. -/
def ExactFields (depth : Nat) : List (String × Json) → Prop
  | [] => True
  | (_, v) :: rest => Exact depth v ∧ ExactFields depth rest

end

/-! ## §3. Reading them -/

/-- Fields in key order are put in that order again. -/
theorem ofFields_reverse {fields : List (String × Json)} (h : Keyed.Sorted fields) :
    Json.ofFields fields.reverse = .object fields := by
  rw [Json.ofFields, Keyed.eq_of_get? (Keyed.sorted_ofList _) h fun k => ?_]
  rw [Keyed.get?_ofList, get?_reverse h]

mutual

/-- The document of a value without floats is settled to that value. -/
theorem settle?_document : ∀ (v : Json) (depth : Nat), v.Canonical → Exact depth v →
    ∃ d, document? v = some d ∧ Layout.whole.settle? depth d = some v
  | .null, _, _, _ => ⟨_, rfl, rfl⟩
  | .bool _, _, _, _ => ⟨_, rfl, rfl⟩
  | .number (.integer n), _, _, _ => by
    obtain ⟨m, hread, hvalue⟩ := number_of_integer n
    refine ⟨.number m, by rw [document?, hread]; rfl, ?_⟩
    rw [Layout.settle?, hvalue]
    rfl
  | .number (.double _), _, _, h => h.elim
  | .string s, _, _, _ => by
    refine ⟨_, rfl, ?_⟩
    rw [Layout.settle?, text?_pieces]
    rfl
  | .array items, _, hv, ⟨inner, hdepth, hitems⟩ => by
    subst hdepth
    obtain ⟨ds, hds, hsettled⟩ := settleItems?_document items inner (canonical_array.1 hv) hitems
    refine ⟨.array ds, by rw [document?, hds]; rfl, ?_⟩
    rw [Layout.settle?]
    · show (Layout.settleItems? .whole inner ds).map Json.array = _
      rw [hsettled]
      rfl
    · intro fields h
      cases h
  | .object fields, _, hv, ⟨inner, hdepth, hfields⟩ => by
    subst hdepth
    obtain ⟨hsorted, hcanonical⟩ := canonical_object.1 hv
    obtain ⟨ds, hds, hsettled⟩ := settleFields?_document fields inner hcanonical hfields
    refine ⟨.object ds, by rw [document?, hds]; rfl, ?_⟩
    rw [Layout.settle?, hsettled]
    exact congrArg some (ofFields_reverse hsorted)

/-- So are the items of a list. -/
theorem settleItems?_document : ∀ (items : List Json) (depth : Nat),
    (∀ x ∈ items, x.Canonical) → ExactItems depth items →
    ∃ ds, documentItems? items = some ds ∧ Layout.settleItems? .whole depth ds = some items
  | [], _, _, _ => ⟨[], rfl, rfl⟩
  | x :: xs, depth, hcanonical, ⟨hx, hxs⟩ => by
    obtain ⟨d, hd, hsettled⟩ := settle?_document x depth (hcanonical x List.mem_cons_self) hx
    obtain ⟨ds, hds, hrest⟩ := settleItems?_document xs depth
      (fun y hy => hcanonical y (List.mem_cons_of_mem x hy)) hxs
    refine ⟨d :: ds, by rw [documentItems?, hd, hds]; rfl, ?_⟩
    rw [Layout.settleItems?, hsettled, hrest]
    rfl

/-- And the fields of an object. -/
theorem settleFields?_document : ∀ (fields : List (String × Json)) (depth : Nat),
    (∀ f ∈ fields, f.2.Canonical) → ExactFields depth fields →
    ∃ ds, documentFields? fields = some ds ∧ Layout.settleFields? .whole depth ds = some fields
  | [], _, _, _ => ⟨[], rfl, rfl⟩
  | (k, v) :: rest, depth, hcanonical, ⟨hv, hrest⟩ => by
    obtain ⟨d, hd, hsettled⟩ := settle?_document v depth (hcanonical (k, v) List.mem_cons_self) hv
    obtain ⟨ds, hds, hothers⟩ := settleFields?_document rest depth
      (fun f hf => hcanonical f (List.mem_cons_of_mem (k, v) hf)) hrest
    refine ⟨(Reader.pieces k, d) :: ds, by rw [documentFields?, hd, hds]; rfl, ?_⟩
    rw [Layout.settleFields?, text?_pieces, hothers]
    show (Layout.settle? .whole depth d).bind _ = _
    rw [hsettled]
    rfl

end

/-- **A value without floats is read back from its text**, if it is not nested too
    deep for the reader. -/
theorem read?_text {v : Json} (hv : v.Canonical) (h : v.Exact Document.maxDepth) :
    read? v.text = some v := by
  obtain ⟨d, hd, hsettled⟩ := settle?_document v Document.maxDepth hv h
  rw [read?, ofText?_text, hd]
  exact hsettled

end LoggingOperator.Json
