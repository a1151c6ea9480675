/-
  LoggingOperator.Proofs.Quantity.Canonical — ONE SPELLING FOR EACH VALUE.

  Two quantities are compared by their canonical spellings.  That is right for
  two reasons.  A value that was read is spelled as a decimal that is read as
  the same value again (`parseNanos?_formatNanos`), so different values have
  different spellings.  And a text that is no quantity keeps its own spelling,
  which no value has, since every spelling of a value can be read
  (`canonicalText_eq_iff`).

  In a JSON value only the entries of resource maps are respelled
  (`quantityAt_iff`), and respelling them again changes nothing.
-/
import LoggingOperator.Proofs.Convergence.Comparable
import LoggingOperator.Proofs.Json.Record
import LoggingOperator.Proofs.Quantity
import Mathlib.Data.List.TakeWhile

namespace LoggingOperator

open Json

namespace Text

/-! ## §1. Digits without the zeros at their end -/

/-- A digit that is written `0` is zero. -/
theorem eq_zero_of_digitChar : ∀ d, d < 10 → Nat.digitChar d = '0' → d = 0 := by
  decide

/-- **Zeros at the end are places only**: without them the other digits count
    up to as much, each moved up by the places that are gone. -/
theorem Spells.trimmed {cs : List Char} {ds : List Nat} (h : Spells cs ds) :
    ∃ front k, Spells (cs.reverse.dropWhile (· == '0')).reverse front
      ∧ front.length + k = ds.length ∧ numeral front * 10 ^ k = numeral ds := by
  have hsplit : (cs.reverse.dropWhile (· == '0')).reverse
      ++ (cs.reverse.takeWhile (· == '0')).reverse = cs := by
    rw [← List.reverse_append, List.takeWhile_append_dropWhile, List.reverse_reverse]
  have hback : ∀ c ∈ (cs.reverse.takeWhile (· == '0')).reverse, c = '0' := by
    intro c hc
    have hzero := List.mem_takeWhile_imp (p := (· == '0')) (List.mem_reverse.1 hc)
    exact beq_iff_eq.1 hzero
  generalize (cs.reverse.takeWhile (· == '0')).reverse = back at hsplit hback
  obtain ⟨front, zeros, rfl, hfront, hzeros⟩ := (hsplit.symm ▸ h :).of_append
  have hzero : zeros = List.replicate zeros.length 0 := by
    refine List.eq_replicate_iff.2 ⟨rfl, fun d hd => ?_⟩
    refine eq_zero_of_digitChar d (hzeros.lt_ten d hd) (hback _ ?_)
    rw [hzeros.eq]
    exact List.mem_map_of_mem hd
  have hnone : numeral zeros = 0 := by
    rw [hzero, ← List.append_nil (List.replicate _ 0), numeral_zeros]
    rfl
  refine ⟨front, zeros.length, hfront, List.length_append.symm, ?_⟩
  rw [numeral_append_digits, hnone, Nat.add_zero]
  rfl

/-- A text without blanks is not trimmed. -/
theorem trim_of_forall {cs : List Char} (h : ∀ c ∈ cs, isBlank c = false) : trim cs = cs := by
  have hkeep : ∀ l : List Char, (∀ c ∈ l, isBlank c = false) → l.dropWhile isBlank = l := by
    intro l hl
    cases l with
    | nil => rfl
    | cons c l => exact List.dropWhile_cons_of_neg (by simp [hl c List.mem_cons_self])
  rw [trim, trimEnd, hkeep cs h, hkeep cs.reverse fun c hc => h c (List.mem_reverse.1 hc),
    List.reverse_reverse]

end Text

namespace Quantity

open Text (Spells numeral)

/-! ## §2. Values that are read -/

/-- A value that is found fits. -/
theorem lt_of_nanos? {mantissa places n : Nat} {m : Multiple} (hbinary : m.binary < 127)
    (h : nanos? mantissa places m = some n) : n < 2 ^ 127 := by
  obtain ⟨-, -, -, h⟩ := (nanos?_steps hbinary).1 h
  split at h
  · obtain ⟨hlt, rfl⟩ := h
    exact hlt
  · obtain ⟨hlt, rfl⟩ := h
    exact (Nat.div_le_self _ _).trans_lt hlt

theorem natAbs_lt_of_parseNanos? {s : String} {v : Int} (h : parseNanos? s = some v) :
    v.natAbs < 2 ^ 127 := by
  obtain ⟨q, hq⟩ := exists_spelling h
  rw [q.parseNanos?_eq hq] at h
  obtain ⟨n, hn, rfl⟩ := Option.map_eq_some_iff.1 h
  have habs : (q.sign.factor * (n : Int)).natAbs = n := by
    cases q.sign <;> simp [Sign.factor]
  rw [habs]
  exact lt_of_nanos? q.is_suffix.binary_lt hn

/-! ## §3. The canonical spelling is read back -/

/-- The sign of a value. -/
def signOf (v : Int) : Sign :=
  if v < 0 then .minus else .none

theorem signOf_mul_natAbs (v : Int) : (signOf v).factor * (v.natAbs : Int) = v := by
  unfold signOf
  split <;> simp only [Sign.factor] <;> omega

/-- What is in a text of a sign, digits and a point is not blank. -/
theorem Spelling.isBlank_of_mem {q : Spelling} (hsuffix : q.suffix = []) {c : Char}
    (h : c ∈ q.text) : Text.isBlank c = false := by
  have hnumber : ∀ c, isNumberChar c = true → Text.isBlank c = false := by
    intro c hc
    rcases Bool.or_eq_true _ _ ▸ hc with hdigit | hpoint
    · obtain ⟨d, hd⟩ := Option.isSome_iff_exists.1 hdigit
      obtain ⟨rfl, hlt⟩ := Text.digit?_eq_some_iff.1 hd
      revert d
      decide
    · rw [beq_iff_eq.1 hpoint]
      decide
  rw [Spelling.text, hsuffix, List.append_nil] at h
  rcases List.mem_append.1 h with h | h
  · revert h
    cases q.sign <;> simp only [Sign.text, List.not_mem_nil, List.mem_singleton, false_imp_iff]
    · rintro rfl
      decide
    · rintro rfl
      decide
  · exact hnumber c (q.isNumberChar_of_mem h)

/-- **The digits of a magnitude**: a spelling without a suffix, whose digits
    count up to the magnitude once the places left of nine are filled up. -/
theorem exists_spelling_magnitude (sign : Sign) (n : Nat) :
    ∃ q : Spelling, q.text = sign.text ++ magnitudeText n ∧ q.sign = sign ∧ q.suffix = []
      ∧ q.multiple = ⟨0, 0⟩ ∧ ∃ k, q.fraction.length + k = 9 ∧ q.mantissa * 10 ^ k = n := by
  obtain ⟨whole, hwhole, hvalue, -⟩ := Text.spells_decimal (n / nano)
  have hne : whole ≠ [] := by
    rintro rfl
    exact absurd (List.length_eq_zero_iff.1 hwhole.length_eq.symm) Nat.toDigits_ne_nil
  have hnano : nano * (n / nano) + n % nano = n := Nat.div_add_mod n nano
  unfold magnitudeText
  split
  · next hfraction =>
    refine ⟨⟨sign, whole, false, [], [], ⟨0, 0⟩, hwhole.lt_ten, by simp, by simpa using hne,
      fun _ => rfl, .none⟩, ?_, rfl, rfl, rfl, 9, rfl, ?_⟩
    · simp [Spelling.text, Spelling.number, hwhole.eq]
    · rw [Spelling.mantissa, List.append_nil, hvalue]
      rw [hfraction, Nat.add_zero, Nat.mul_comm] at hnano
      exact hnano
  · next hfraction =>
    have hlt : n % nano < Nat.pow 10 9 := Nat.mod_lt n (by decide)
    obtain ⟨ds, hds, hnumeral⟩ := Text.spells_padded 9 (n % nano)
    have hlength : ds.length = 9 := by
      rw [hds.length_eq, Text.length_padded (by decide) hlt]
    obtain ⟨front, k, hfront, hplaces, hmoved⟩ := hds.trimmed
    refine ⟨⟨sign, whole, true, front, [], ⟨0, 0⟩, hwhole.lt_ten, hfront.lt_ten, by simp [hne],
      by simp, .none⟩, ?_, rfl, rfl, rfl, k, hplaces.trans hlength, ?_⟩
    · simp [Spelling.text, Spelling.number, fractionDigits, hwhole.eq, hfront.eq]
    · have hpower : Nat.pow 10 front.length * 10 ^ k = nano := by
        show 10 ^ front.length * 10 ^ k = nano
        rw [← Nat.pow_add, hplaces, hlength]
        rfl
      rw [Spelling.mantissa, Text.numeral_append_digits, Nat.add_mul, Nat.mul_assoc, hpower,
        hvalue, hmoved, hnumeral, Nat.mul_comm]
      exact hnano

/-- **A value that fits is read back from its canonical spelling.** -/
theorem parseNanos?_formatNanos {v : Int} (h : v.natAbs < 2 ^ 127) :
    parseNanos? (formatNanos v) = some v := by
  obtain ⟨q, htext, hsign, hsuffix, hmultiple, k, hplaces, hmantissa⟩ :=
    exists_spelling_magnitude (signOf v) v.natAbs
  have hformat : (formatNanos v).toList = q.text := by
    rw [htext, formatNanos, String.toList_ofList, signOf]
    split <;> rfl
  have htrim : Text.trim (formatNanos v).toList = q.text := by
    rw [hformat]
    exact Text.trim_of_forall fun c => Spelling.isBlank_of_mem hsuffix
  -- The places of the fraction and the zeros left out make up the nine of a nano-unit.
  have hscale : scale q.fraction.length ⟨0, 0⟩ = k := by
    show (0 : Int) + 9 - q.fraction.length = k
    omega
  have hk : (10 : Nat) ^ k ≤ 10 ^ 9 := Nat.pow_le_pow_right (by decide) (by omega)
  have hpos : 0 < (10 : Nat) ^ k := Nat.pow_pos (by decide)
  have hle : q.mantissa ≤ v.natAbs := hmantissa ▸ Nat.le_mul_of_pos_right _ hpos
  have hnanos : nanos? q.mantissa q.fraction.length ⟨0, 0⟩ = some v.natAbs := by
    refine (nanos?_steps (by decide)).2 ?_
    simp only [hscale, Nat.pow_zero, Nat.mul_one, Int.natAbs_natCast, hmantissa,
      if_pos (Int.natCast_nonneg k)]
    exact ⟨by omega, by omega, by omega, h, trivial⟩
  rw [q.parseNanos?_eq htrim, hmultiple, hnanos, hsign]
  exact congrArg some (signOf_mul_natAbs v)

/-! ## §4. Texts with one canonical spelling -/

theorem canonicalText_of_some {s : String} {v : Int} (h : parseNanos? s = some v) :
    canonicalText s = formatNanos v := by
  rw [canonicalText, h]

theorem canonicalText_of_none {s : String} (h : parseNanos? s = none) : canonicalText s = s := by
  rw [canonicalText, h]

/-- **A canonical spelling has the value of the text**, and none if the text has
    none. -/
theorem parseNanos?_canonicalText (s : String) : parseNanos? (canonicalText s) = parseNanos? s := by
  cases h : parseNanos? s with
  | none => rw [canonicalText_of_none h, h]
  | some v =>
    rw [canonicalText_of_some h, parseNanos?_formatNanos (natAbs_lt_of_parseNanos? h)]

theorem canonicalText_canonicalText (s : String) :
    canonicalText (canonicalText s) = canonicalText s := by
  cases h : parseNanos? s with
  | none => rw [canonicalText_of_none ((parseNanos?_canonicalText s).trans h)]
  | some v => exact canonicalText_congr ((parseNanos?_canonicalText s).trans h) h

/-- **Two texts are spelled alike exactly if they have the same value**, or have
    none and are the same text. -/
theorem canonicalText_eq_iff (s t : String) :
    canonicalText s = canonicalText t ↔
      (∃ v, parseNanos? s = some v ∧ parseNanos? t = some v)
        ∨ (parseNanos? s = none ∧ parseNanos? t = none ∧ s = t) := by
  constructor
  · intro h
    have hvalue : parseNanos? s = parseNanos? t := by
      rw [← parseNanos?_canonicalText s, h, parseNanos?_canonicalText]
    cases hs : parseNanos? s with
    | some v => exact Or.inl ⟨v, rfl, hvalue.symm.trans hs⟩
    | none =>
      have ht : parseNanos? t = none := hvalue.symm.trans hs
      rw [canonicalText_of_none hs, canonicalText_of_none ht] at h
      exact Or.inr ⟨rfl, ht, h⟩
  · rintro (⟨v, hs, ht⟩ | ⟨-, -, rfl⟩)
    · exact canonicalText_congr hs ht
    · rfl

/-! ## §5. Entries of resource maps -/

/-- The place of an entry of a `limits` or `requests` map of a `resources`
    value, however deep it lies. -/
def EntryPlace (p : Path) : Prop :=
  ∃ (outer : Path) (bucket name : String), (bucket = "limits" ∨ bucket = "requests")
    ∧ p = outer ++ [.key "resources", .key bucket, .key name]

theorem entryAt_iff {p : Path} : entryAt p = true ↔ ∃ name, p = [.key name] := by
  match p with
  | [.key name] => simp [entryAt]
  | [] | .item _ :: _ | .key _ :: _ :: _ => simp [entryAt]

theorem bucketAt_iff {p : Path} :
    bucketAt p = true ↔ ∃ bucket name, (bucket = "limits" ∨ bucket = "requests")
      ∧ p = [.key bucket, .key name] := by
  match p with
  | [] => simp [bucketAt]
  | .item i :: p => simp [bucketAt]
  | .key bucket :: p =>
    rw [bucketAt, Bool.and_eq_true, Bool.or_eq_true, decide_eq_true_eq, decide_eq_true_eq,
      entryAt_iff]
    constructor
    · rintro ⟨hbucket, name, rfl⟩
      exact ⟨bucket, name, hbucket, rfl⟩
    · rintro ⟨_, name, hbucket, ⟨⟩⟩
      exact ⟨hbucket, name, rfl⟩

/-- **Quantities are expected at the entries of resource maps**, and nowhere
    else. -/
theorem quantityAt_iff {p : Path} : quantityAt p = true ↔ EntryPlace p := by
  have hempty : ¬ EntryPlace [] := by
    rintro ⟨outer, bucket, name, -, hp⟩
    exact absurd hp.symm (by simp)
  -- One step in, an entry either starts here or lies in the rest.
  have hcons : ∀ (step : PathStep) (p : Path), EntryPlace (step :: p) ↔
      (step = .key "resources" ∧ bucketAt p = true) ∨ EntryPlace p := by
    intro step p
    constructor
    · rintro ⟨_ | ⟨step', outer⟩, bucket, name, hbucket, hp⟩
      · obtain ⟨rfl, rfl⟩ := List.cons.inj hp
        exact Or.inl ⟨rfl, bucketAt_iff.2 ⟨bucket, name, hbucket, rfl⟩⟩
      · obtain ⟨rfl, rfl⟩ := List.cons.inj hp
        exact Or.inr ⟨outer, bucket, name, hbucket, rfl⟩
    · rintro (⟨rfl, hp⟩ | ⟨outer, bucket, name, hbucket, rfl⟩)
      · obtain ⟨bucket, name, hbucket, rfl⟩ := bucketAt_iff.1 hp
        exact ⟨[], bucket, name, hbucket, rfl⟩
      · exact ⟨step :: outer, bucket, name, hbucket, rfl⟩
  induction p with
  | nil => exact iff_of_false nofun hempty
  | cons step p ih =>
    refine Iff.trans ?_ ((or_congr_right ih).trans (hcons step p).symm)
    cases step <;> simp [quantityAt]

/-- A text at an entry is replaced by its canonical spelling. -/
theorem walk_canonicalize_entry {v : Json} {p : Path} {s : String} (hp : EntryPlace p)
    (hs : v.walk p = some (.string s)) :
    (canonicalize v).walk p = some (.string (canonicalText s)) := by
  have hhead : (canonicalize v).head? p = some (.string (canonicalText s)) := by
    rw [head?_canonicalize, quantityAt_iff.2 hp, head?, hs]
    rfl
  obtain ⟨x, hx, hx'⟩ := head?_eq_some.1 hhead
  rw [hx]
  cases x <;> cases hx'
  rfl

theorem respellIf_respellIf (quantity : Bool) (h : Head) :
    respellIf quantity (respellIf quantity h) = respellIf quantity h := by
  cases quantity with
  | false => rfl
  | true =>
    cases h with
    | string s => exact congrArg Head.string (canonicalText_canonicalText s)
    | _ => rfl

/-- **Canonical form stays as it is.** -/
theorem canonicalize_canonicalize {v : Json} (h : v.Canonical) :
    canonicalize (canonicalize v) = canonicalize v := by
  have hv := canonical_canonicalize h
  refine eq_of_head? (canonical_canonicalize hv) hv fun p => ?_
  rw [head?_canonicalize, head?_canonicalize, Option.map_map]
  congr 1
  funext x
  exact respellIf_respellIf (quantityAt p) x

/-- Any place but a text at an entry looks as before. -/
theorem head?_canonicalize_of_not_entry {v : Json} {p : Path}
    (h : ∀ s, EntryPlace p → v.head? p ≠ some (.string s)) :
    (canonicalize v).head? p = v.head? p := by
  rw [head?_canonicalize]
  by_cases hp : EntryPlace p
  · rw [quantityAt_iff.2 hp]
    cases hv : v.head? p with
    | none => rfl
    | some x =>
      cases x with
      | string s => exact absurd hv (h s hp)
      | _ => rfl
  · rw [Bool.eq_false_iff.2 (mt quantityAt_iff.1 hp), respellIf_false, Option.map_id_fun, id]

/-! ## §6. Quantities compare by value -/

/-- **Quantities compare exactly by value.**  Texts at entries of resource maps,
    in whatever values and however deep, are replaced by texts that are equal
    exactly if both are quantities of one value, or neither is a quantity and
    they were equal.  Every value that can be read is read back from its
    canonical spelling.  Canonical form stays as it is; and it has every other
    place as before, with the length of every array and every key. -/
theorem canonicalize_by_value :
    (∀ (v w : Json) (p q : Path) (s t : String), EntryPlace p → EntryPlace q →
      v.walk p = some (.string s) → w.walk q = some (.string t) →
      ∃ s' t', (canonicalize v).walk p = some (.string s')
        ∧ (canonicalize w).walk q = some (.string t')
        ∧ (s' = t' ↔ (∃ n, parseNanos? s = some n ∧ parseNanos? t = some n)
            ∨ (parseNanos? s = none ∧ parseNanos? t = none ∧ s = t)))
      ∧ (∀ (s : String) (n : Int), parseNanos? s = some n →
          parseNanos? (formatNanos n) = some n)
      ∧ (∀ v : Json, v.Canonical → canonicalize (canonicalize v) = canonicalize v)
      ∧ ∀ (v : Json) (p : Path), (∀ s, EntryPlace p → v.head? p ≠ some (.string s)) →
          (canonicalize v).head? p = v.head? p := by
  refine ⟨?_, ?_, ?_, ?_⟩
  · intro v w p q s t hp hq hs ht
    exact ⟨canonicalText s, canonicalText t, walk_canonicalize_entry hp hs,
      walk_canonicalize_entry hq ht, canonicalText_eq_iff s t⟩
  · exact fun s n h => parseNanos?_formatNanos (natAbs_lt_of_parseNanos? h)
  · exact fun v => canonicalize_canonicalize
  · exact fun v p => head?_canonicalize_of_not_entry

/-- Half a core as it was asked for. -/
def halfAsked : Json :=
  .object [("resources", .object [("limits", .object [("cpu", .string "0.5")])])]

/-- Half a core as the server respells it, here in the place of a request. -/
def halfStored : Json :=
  .array [.object [("resources", .object [("requests", .object [("cpu", .string "500m")])])]]

/-- Half a core is the same value in both, and survives a second pass. -/
theorem canonicalize_by_value_half :
    (∃ s t, (canonicalize halfAsked).walk [.key "resources", .key "limits", .key "cpu"]
          = some (.string s)
        ∧ (canonicalize halfStored).walk
            [.item 0, .key "resources", .key "requests", .key "cpu"] = some (.string t)
        ∧ s = t)
      ∧ parseNanos? (formatNanos 500000000) = some 500000000
      ∧ canonicalize (canonicalize halfAsked) = canonicalize halfAsked
      ∧ (canonicalize halfStored).head? [] = some (.array 1) := by
  obtain ⟨hcompare, hread, hagain, helse⟩ := canonicalize_by_value
  have hasked : parseNanos? "0.5" = some 500000000 := by decide +kernel
  have hstored : parseNanos? "500m" = some 500000000 := by decide +kernel
  obtain ⟨s, t, hs, ht, heq⟩ := hcompare halfAsked halfStored
    [.key "resources", .key "limits", .key "cpu"]
    [.item 0, .key "resources", .key "requests", .key "cpu"] "0.5" "500m"
    ⟨[], "limits", "cpu", Or.inl rfl, rfl⟩ ⟨[.item 0], "requests", "cpu", Or.inr rfl, rfl⟩ rfl rfl
  refine ⟨⟨s, t, hs, ht, heq.2 (Or.inl ⟨_, hasked, hstored⟩)⟩, hread "0.5" _ hasked,
    hagain halfAsked ?_, ?_⟩
  · simp [halfAsked, canonical_object, Keyed.Sorted]
  · refine helse halfStored [] fun s _ h => ?_
    cases h

end Quantity

end LoggingOperator
