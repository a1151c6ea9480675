/-
  LoggingOperator.Proofs.Quantity — QUANTITIES DENOTE EXACT VALUES.

  A `Spelling` is a quantity taken apart: an optional sign, digits with at most
  one point, and a suffix that stands for a multiple (`Suffix`).  It denotes an
  exact rational number, whatever its size.

  The computation goes through integers of 128 bits.  Where every step fits
  (`Fits`), it ends with the exact value in nano-units, rounded away from zero
  (`nanos?_eq_some_iff`); where one does not, it ends with nothing.  Reading
  takes apart what is spelled, and nothing else (`Spelling.parseNanos?_eq`,
  `exists_spelling`), so the value of a text is that of its spelling
  (`value_iff_spelled`).
-/
import LoggingOperator.Proofs.Text.Numeral
import LoggingOperator.Quantity
import Mathlib.Data.Rat.Floor
import Mathlib.Tactic.Linarith
import Mathlib.Tactic.NormNum
import Mathlib.Tactic.Positivity
import Mathlib.Tactic.Ring

namespace LoggingOperator.Quantity

open Text (Spells numeral)

/-! ## §1. The value in nano-units -/

/-- The value of a multiple. -/
def Multiple.value (m : Multiple) : ℚ :=
  2 ^ m.binary * 10 ^ m.decimal

theorem Multiple.value_pos (m : Multiple) : 0 < m.value := by
  have hten : (0 : ℚ) < 10 := by norm_num
  exact mul_pos (pow_pos two_pos _) (zpow_pos hten _)

/-- The power of ten that a number with these places is scaled by to count
    nano-units. -/
def scale (places : Nat) (m : Multiple) : Int :=
  m.decimal + 9 - places

/-- Every step of the computation fits a signed 128-bit integer. -/
structure Fits (mantissa places : Nat) (m : Multiple) : Prop where
  mantissa_lt : mantissa < 2 ^ 127
  numerator_lt : mantissa * 2 ^ m.binary < 2 ^ 127
  power_lt : 10 ^ (scale places m).natAbs < 2 ^ 127
  product_lt : 0 ≤ scale places m →
    mantissa * 2 ^ m.binary * 10 ^ (scale places m).natAbs < 2 ^ 127
  sum_lt : scale places m < 0 →
    mantissa * 2 ^ m.binary + (10 ^ (scale places m).natAbs - 1) < 2 ^ 127

theorem fit?_eq_some_iff {n m : Nat} : fit? n = some m ↔ n < 2 ^ 127 ∧ n = m := by
  unfold fit?
  split
  · next h => exact ⟨fun hm => ⟨h, Option.some.inj hm⟩, fun hm => congrArg some hm.2⟩
  · next h => exact iff_of_false nofun fun hm => h hm.1

theorem fit?_of_lt {n : Nat} (h : n < 2 ^ 127) : fit? n = some n :=
  fit?_eq_some_iff.2 ⟨h, rfl⟩

section

variable {mantissa places n : Nat} {m : Multiple}

/-- The value in nano-units is scaled by a power of ten. -/
theorem value_mul_nano :
    (mantissa / 10 ^ places : ℚ) * m.value * 10 ^ 9
      = ((mantissa * 2 ^ m.binary : Nat) : ℚ) * 10 ^ scale places m := by
  have hten : (10 : ℚ) ≠ 0 := by norm_num
  rw [scale, zpow_sub₀ hten, zpow_add₀ hten, Multiple.value, zpow_natCast]
  push_cast
  norm_num
  ring

/-- Scaled up, the value is a whole number. -/
theorem ceil_value_up (hscale : 0 ≤ scale places m) :
    ⌈(mantissa / 10 ^ places : ℚ) * m.value * 10 ^ 9⌉
      = ((mantissa * 2 ^ m.binary * 10 ^ (scale places m).natAbs : Nat) : ℤ) := by
  have hpower : (10 : ℚ) ^ scale places m = ((10 ^ (scale places m).natAbs : Nat) : ℚ) := by
    rw [← Int.natAbs_of_nonneg hscale, zpow_natCast, Int.natAbs_natCast]
    push_cast
    rfl
  rw [value_mul_nano, hpower, ← Nat.cast_mul, Int.ceil_natCast]

/-- Scaled down, it is rounded up by a division. -/
theorem ceil_value_down (hscale : scale places m < 0) :
    ⌈(mantissa / 10 ^ places : ℚ) * m.value * 10 ^ 9⌉
      = (((mantissa * 2 ^ m.binary + (10 ^ (scale places m).natAbs - 1))
          / 10 ^ (scale places m).natAbs : Nat) : ℤ) := by
  have hpower : (10 : ℚ) ^ scale places m = (((10 ^ (scale places m).natAbs : Nat) : ℚ))⁻¹ := by
    obtain ⟨k, hk⟩ := Int.exists_eq_neg_ofNat hscale.le
    rw [hk, zpow_neg, zpow_natCast, Int.natAbs_neg, Int.natAbs_natCast]
    push_cast
    rfl
  rw [value_mul_nano, hpower]
  generalize mantissa * 2 ^ m.binary = numerator
  have hpos : 0 < 10 ^ (scale places m).natAbs := by positivity
  generalize 10 ^ (scale places m).natAbs = ten at hpos
  have hlow : ten * ((numerator + (ten - 1)) / ten) ≤ numerator + (ten - 1) :=
    Nat.mul_div_le _ _
  have hhigh : numerator + (ten - 1) < ten * ((numerator + (ten - 1)) / ten) + ten :=
    Nat.lt_mul_div_succ _ hpos
  generalize (numerator + (ten - 1)) / ten = quotient at hlow hhigh
  have hten : (0 : ℚ) < ten := by exact_mod_cast hpos
  have hlow : ten * quotient < numerator + ten := by omega
  have hhigh : numerator ≤ ten * quotient := by omega
  rw [Int.ceil_eq_iff, ← div_eq_mul_inv, lt_div_iff₀ hten, div_le_iff₀ hten]
  constructor
  · have hlow : (ten * quotient : ℚ) < numerator + ten := by exact_mod_cast hlow
    push_cast
    linarith
  · have hhigh : (numerator : ℚ) ≤ ten * quotient := by exact_mod_cast hhigh
    push_cast
    linarith

/-- The computation in nano-units, step by step. -/
theorem nanos?_steps (hbinary : m.binary < 127) :
    nanos? mantissa places m = some n ↔
      mantissa < 2 ^ 127 ∧ mantissa * 2 ^ m.binary < 2 ^ 127
        ∧ 10 ^ (scale places m).natAbs < 2 ^ 127
        ∧ if 0 ≤ scale places m then
            mantissa * 2 ^ m.binary * 10 ^ (scale places m).natAbs < 2 ^ 127
              ∧ mantissa * 2 ^ m.binary * 10 ^ (scale places m).natAbs = n
          else
            mantissa * 2 ^ m.binary + (10 ^ (scale places m).natAbs - 1) < 2 ^ 127
              ∧ (mantissa * 2 ^ m.binary + (10 ^ (scale places m).natAbs - 1))
                  / 10 ^ (scale places m).natAbs = n := by
  have hpower : (2 : Nat) ^ m.binary < 2 ^ 127 := Nat.pow_lt_pow_right (by decide) hbinary
  simp only [nanos?, Nat.pow_eq, fit?_of_lt hpower, Option.bind_eq_bind, Option.bind_some,
    Option.bind_eq_some_iff, fit?_eq_some_iff, and_assoc, exists_eq_left', exists_and_left]
  refine and_congr_right fun _ => and_congr_right fun _ => and_congr_right fun _ => ?_
  show (if 0 ≤ scale places m then _ else _) = some n ↔ _
  split
  · exact fit?_eq_some_iff
  · simp only [Option.bind_eq_some_iff, fit?_eq_some_iff, and_assoc, exists_eq_left',
      exists_and_left, Option.some.injEq]
    rfl

/-- **The value in nano-units is the exact value rounded up**, and it is found
    exactly if every step fits. -/
theorem nanos?_eq_some_iff (hbinary : m.binary < 127) :
    nanos? mantissa places m = some n ↔ Fits mantissa places m
      ∧ ⌈(mantissa / 10 ^ places : ℚ) * m.value * 10 ^ 9⌉ = n := by
  rw [nanos?_steps hbinary]
  by_cases hscale : 0 ≤ scale places m
  · rw [if_pos hscale, ceil_value_up hscale, Nat.cast_inj]
    constructor
    · rintro ⟨hmantissa, hnumerator, hten, hproduct, hn⟩
      exact ⟨⟨hmantissa, hnumerator, hten, fun _ => hproduct, fun h => absurd hscale h.not_ge⟩, hn⟩
    · rintro ⟨hfits, hn⟩
      exact ⟨hfits.mantissa_lt, hfits.numerator_lt, hfits.power_lt, hfits.product_lt hscale, hn⟩
  · have hdown : scale places m < 0 := not_le.1 hscale
    rw [if_neg hscale, ceil_value_down hdown, Nat.cast_inj]
    constructor
    · rintro ⟨hmantissa, hnumerator, hten, hsum, hn⟩
      exact ⟨⟨hmantissa, hnumerator, hten, fun h => absurd h hscale, fun _ => hsum⟩, hn⟩
    · rintro ⟨hfits, hn⟩
      exact ⟨hfits.mantissa_lt, hfits.numerator_lt, hfits.power_lt, hfits.sum_lt hdown, hn⟩

end

/-! ## §2. Signs -/

/-- What may stand in front of digits. -/
inductive Sign where
  | none
  | plus
  | minus
deriving DecidableEq

namespace Sign

def text : Sign → List Char
  | .none => []
  | .plus => ['+']
  | .minus => ['-']

def factor : Sign → Int
  | .minus => -1
  | _ => 1

theorem negated_eq (sign : Sign) (n : Nat) :
    (if decide (sign = .minus) then -(n : Int) else (n : Int)) = sign.factor * n := by
  cases sign <;> simp [factor]

end Sign

/-- Does the text start with a sign? -/
def Signed (cs : List Char) : Prop :=
  ∃ rest, cs = '-' :: rest ∨ cs = '+' :: rest

/-- A sign is split off. -/
theorem splitSign_append (sign : Sign) {cs : List Char} (h : ¬ Signed cs) :
    splitSign (sign.text ++ cs) = (decide (sign = .minus), cs) := by
  cases sign with
  | plus => rfl
  | minus => rfl
  | none =>
    show splitSign cs = (false, cs)
    unfold splitSign
    split
    · next rest => exact absurd ⟨rest, Or.inl rfl⟩ h
    · next rest => exact absurd ⟨rest, Or.inr rfl⟩ h
    · rfl

/-- Whatever is split off is a sign. -/
theorem exists_sign (cs : List Char) :
    ∃ sign : Sign, ∃ body,
      cs = sign.text ++ body ∧ splitSign cs = (decide (sign = .minus), body) := by
  unfold splitSign
  split
  · next rest => exact ⟨.minus, rest, rfl, rfl⟩
  · next rest => exact ⟨.plus, rest, rfl, rfl⟩
  · exact ⟨.none, cs, rfl, rfl⟩

theorem isNumberChar_digitChar : ∀ d, d < 10 → isNumberChar (Nat.digitChar d) = true := by
  decide

/-- A number does not start with a sign. -/
theorem not_signed {cs : List Char} (hne : cs ≠ []) (h : ∀ c ∈ cs, isNumberChar c = true)
    (rest : List Char) : ¬ Signed (cs ++ rest) := by
  cases cs with
  | nil => exact absurd rfl hne
  | cons c cs =>
    have hc := h c List.mem_cons_self
    rintro ⟨_, hsign | hsign⟩
    · rw [(List.cons.inj hsign).1] at hc
      cases hc
    · rw [(List.cons.inj hsign).1] at hc
      cases hc

/-- An integer is read as a sign and digits. -/
theorem integer?_eq (cs : List Char) :
    Text.integer? cs = (Text.natural? (splitSign cs).2).map fun n : Nat =>
      if (splitSign cs).1 then -(n : Int) else (n : Int) := by
  unfold Text.integer?
  split
  · next rest => cases hrest : Text.natural? rest <;> simp [splitSign, hrest]
  · next rest => cases hrest : Text.natural? rest <;> simp [splitSign, hrest]
  · next hminus hplus =>
    have hbare : splitSign cs = (false, cs) := splitSign_append .none <| by
      rintro ⟨rest, h | h⟩
      · exact hminus rest h
      · exact hplus rest h
    cases hcs : Text.natural? cs <;> simp [hbare, hcs]

theorem integer?_eq_some_iff {cs : List Char} {n : Int} :
    Text.integer? cs = some n ↔ ∃ (sign : Sign) (ds : List Nat), ds ≠ [] ∧ (∀ d ∈ ds, d < 10)
      ∧ cs = sign.text ++ ds.map Nat.digitChar ∧ n = sign.factor * numeral ds := by
  rw [integer?_eq]
  simp only [Option.map_eq_some_iff, Text.natural?_eq_some_iff]
  constructor
  · rintro ⟨k, ⟨ds, hne, ⟨hcs, hlt⟩, rfl⟩, rfl⟩
    obtain ⟨sign, body, rfl, hsplit⟩ := exists_sign cs
    rw [hsplit] at hcs ⊢
    exact ⟨sign, ds, hne, hlt, by rw [← hcs], sign.negated_eq _⟩
  · rintro ⟨sign, ds, hne, hlt, rfl, rfl⟩
    have hbare : ¬ Signed (ds.map Nat.digitChar ++ []) := by
      refine not_signed (by simpa using hne) (fun c hc => ?_) []
      obtain ⟨d, hd, rfl⟩ := List.mem_map.1 hc
      exact isNumberChar_digitChar d (hlt d hd)
    rw [List.append_nil] at hbare
    rw [splitSign_append sign hbare]
    exact ⟨numeral ds, ⟨ds, hne, ⟨rfl, hlt⟩, rfl⟩, sign.negated_eq _⟩

/-! ## §3. Suffixes -/

/-- The letters of binary multiples, with their powers of two. -/
def binaryLetters : List (Char × Nat) :=
  [('K', 10), ('M', 20), ('G', 30), ('T', 40), ('P', 50), ('E', 60)]

/-- The letters of decimal multiples, with their powers of ten. -/
def decimalLetters : List (Char × Int) :=
  [('n', -9), ('u', -6), ('m', -3), ('k', 3), ('M', 6), ('G', 9), ('T', 12), ('P', 15), ('E', 18)]

/-- The suffixes, and the multiples that they stand for. -/
inductive Suffix : List Char → Multiple → Prop
  | none : Suffix [] ⟨0, 0⟩
  | binary {c : Char} {k : Nat} (h : (c, k) ∈ binaryLetters) : Suffix [c, 'i'] ⟨k, 0⟩
  | decimal {c : Char} {k : Int} (h : (c, k) ∈ decimalLetters) : Suffix [c] ⟨0, k⟩
  | exponent {e : Char} {sign : Sign} {ds : List Nat} {k : Int} (he : e = 'e' ∨ e = 'E')
      (hne : ds ≠ []) (hlt : ∀ d ∈ ds, d < 10) (hvalue : k = sign.factor * numeral ds)
      (hrange : -30 ≤ k ∧ k ≤ 30) : Suffix (e :: (sign.text ++ ds.map Nat.digitChar)) ⟨0, k⟩

theorem exponentMultiple?_eq_some_iff {cs : List Char} {m : Multiple} :
    exponentMultiple? cs = some m ↔ ∃ k, Text.integer? cs = some k ∧ (-30 ≤ k ∧ k ≤ 30)
      ∧ m = ⟨0, k⟩ := by
  simp only [exponentMultiple?, Option.bind_eq_bind, Option.bind_eq_some_iff]
  refine exists_congr fun k => and_congr_right fun _ => ?_
  split
  · next h => exact ⟨fun hm => ⟨h, (Option.some.inj hm).symm⟩, fun hm => congrArg some hm.2.symm⟩
  · next h => exact iff_of_false nofun fun hm => h hm.1

/-- What an exponent is. -/
theorem suffix_of_exponentMultiple? {e : Char} {cs : List Char} {m : Multiple}
    (he : e = 'e' ∨ e = 'E') (h : exponentMultiple? cs = some m) : Suffix (e :: cs) m := by
  obtain ⟨k, hk, hrange, rfl⟩ := exponentMultiple?_eq_some_iff.1 h
  obtain ⟨sign, ds, hne, hlt, rfl, hvalue⟩ := integer?_eq_some_iff.1 hk
  exact .exponent he hne hlt hvalue hrange

/-- **A text has a multiple exactly if it is a suffix.** -/
theorem multiple?_eq_some_iff {cs : List Char} {m : Multiple} :
    multiple? cs = some m ↔ Suffix cs m := by
  constructor
  · intro h
    unfold multiple? at h
    split at h
    -- One case for each suffix of letters, then the two letters of exponents.
    case h_1 => cases h; exact .none
    case h_17 => exact suffix_of_exponentMultiple? (Or.inl rfl) h
    case h_18 => exact suffix_of_exponentMultiple? (Or.inr rfl) h
    case h_19 => cases h
    all_goals
      cases h
      first
        | exact .binary (by decide)
        | exact .decimal (by decide)
  · intro h
    cases h with
    | none => rfl
    | binary h =>
      simp only [binaryLetters, List.mem_cons, List.not_mem_nil, Prod.mk.injEq, or_false] at h
      rcases h with h | h | h | h | h | h <;> (obtain ⟨rfl, rfl⟩ := h; rfl)
    | decimal h =>
      simp only [decimalLetters, List.mem_cons, List.not_mem_nil, Prod.mk.injEq, or_false] at h
      rcases h with h | h | h | h | h | h | h | h | h <;> (obtain ⟨rfl, rfl⟩ := h; rfl)
    | @exponent e sign ds k he hne hlt hvalue hrange =>
      have hread : exponentMultiple? (sign.text ++ ds.map Nat.digitChar) = some ⟨0, k⟩ :=
        exponentMultiple?_eq_some_iff.2
          ⟨k, integer?_eq_some_iff.2 ⟨sign, ds, hne, hlt, rfl, hvalue⟩, hrange, rfl⟩
      generalize htext : sign.text ++ ds.map Nat.digitChar = cs at hread
      -- An exponent is neither empty nor the `i` of a binary multiple.
      rcases he with rfl | rfl
      · exact hread
      · rw [multiple?]
        · exact hread
        · rintro rfl
          cases hread
        · rintro rfl
          cases hread

/-- A multiple of a suffix has a power of two that is small. -/
theorem Suffix.binary_lt {cs : List Char} {m : Multiple} (h : Suffix cs m) : m.binary < 127 := by
  cases h with
  | binary h =>
    have hsmall : ∀ p ∈ binaryLetters, p.2 < 127 := by decide
    exact hsmall _ h
  | _ => exact (by decide : 0 < 127)

/-- A suffix does not go on with the number. -/
theorem Suffix.takeWhile_eq_nil {cs : List Char} {m : Multiple} (h : Suffix cs m) :
    cs.takeWhile isNumberChar = [] := by
  have hbinary : ∀ p ∈ binaryLetters, isNumberChar p.1 = false := by decide
  have hdecimal : ∀ p ∈ decimalLetters, isNumberChar p.1 = false := by decide
  cases h with
  | none => rfl
  | binary h => exact List.takeWhile_cons_of_neg (by simp [hbinary _ h])
  | decimal h => exact List.takeWhile_cons_of_neg (by simp [hdecimal _ h])
  | exponent he =>
    refine List.takeWhile_cons_of_neg ?_
    rcases he with rfl | rfl <;> decide

/-! ## §4. Spellings -/

/-- A quantity as it is spelled: an optional sign, digits with at most one point,
    and a suffix. -/
structure Spelling where
  sign : Sign
  whole : List Nat
  point : Bool
  fraction : List Nat
  suffix : List Char
  multiple : Multiple
  whole_lt : ∀ d ∈ whole, d < 10
  fraction_lt : ∀ d ∈ fraction, d < 10
  has_digit : whole ++ fraction ≠ []
  fraction_eq_nil : point = false → fraction = []
  is_suffix : Suffix suffix multiple

namespace Spelling

variable (q : Spelling)

/-- The digits and the point. -/
def number : List Char :=
  q.whole.map Nat.digitChar ++ if q.point then '.' :: q.fraction.map Nat.digitChar else []

def text : List Char :=
  q.sign.text ++ (q.number ++ q.suffix)

/-- The digits read as one integer. -/
def mantissa : Nat :=
  numeral (q.whole ++ q.fraction)

/-- The exact value without its sign. -/
def magnitude : ℚ :=
  (numeral q.whole + numeral q.fraction / 10 ^ q.fraction.length) * q.multiple.value

theorem magnitude_eq :
    q.magnitude = (q.mantissa / 10 ^ q.fraction.length) * q.multiple.value := by
  have hpower : (10 : ℚ) ^ q.fraction.length ≠ 0 := by positivity
  have hplaces : Nat.pow 10 q.fraction.length = 10 ^ q.fraction.length := rfl
  rw [magnitude, mantissa, Text.numeral_append_digits, hplaces]
  push_cast
  rw [add_div, mul_div_cancel_right₀ _ hpower]

theorem splitPoint_number :
    splitPoint q.number = (q.whole.map Nat.digitChar, q.fraction.map Nat.digitChar) := by
  have hdigit : ∀ d, d < 10 → Nat.digitChar d ≠ '.' := by decide
  have hwhole : ∀ c ∈ q.whole.map Nat.digitChar, decide (c ≠ '.') = true := by
    intro c hc
    obtain ⟨d, hd, rfl⟩ := List.mem_map.1 hc
    exact decide_eq_true (hdigit d (q.whole_lt d hd))
  rw [splitPoint, number, List.takeWhile_append_of_pos hwhole, List.dropWhile_append_of_pos hwhole]
  cases hpoint : q.point with
  | true => simp
  | false => simp [q.fraction_eq_nil hpoint]

theorem isNumberChar_of_mem {c : Char} (h : c ∈ q.number) : isNumberChar c = true := by
  rcases List.mem_append.1 h with h | h
  · obtain ⟨d, hd, rfl⟩ := List.mem_map.1 h
    exact isNumberChar_digitChar d (q.whole_lt d hd)
  · split at h
    · rcases List.mem_cons.1 h with rfl | h
      · decide
      · obtain ⟨d, hd, rfl⟩ := List.mem_map.1 h
        exact isNumberChar_digitChar d (q.fraction_lt d hd)
    · cases h

theorem number_ne_nil : q.number ≠ [] := by
  have hdigit := q.has_digit
  intro hnil
  obtain ⟨hwhole, hrest⟩ := List.append_eq_nil_iff.1 hnil
  cases hpoint : q.point with
  | true =>
    rw [hpoint] at hrest
    cases hrest
  | false =>
    rw [List.map_eq_nil_iff.1 hwhole, q.fraction_eq_nil hpoint] at hdigit
    exact hdigit rfl

/-- The number ends where the suffix starts. -/
theorem span_body :
    (q.number ++ q.suffix).takeWhile isNumberChar = q.number
      ∧ (q.number ++ q.suffix).dropWhile isNumberChar = q.suffix := by
  have hsuffix := q.is_suffix.takeWhile_eq_nil
  have hrest : q.suffix.dropWhile isNumberChar = q.suffix := by
    have hsplit := List.takeWhile_append_dropWhile (p := isNumberChar) (l := q.suffix)
    rwa [hsuffix, List.nil_append] at hsplit
  rw [List.takeWhile_append_of_pos fun c => q.isNumberChar_of_mem,
    List.dropWhile_append_of_pos fun c => q.isNumberChar_of_mem, hsuffix, hrest, List.append_nil]
  exact ⟨rfl, rfl⟩

/-- **What is spelled is taken apart again**, and its value is computed. -/
theorem parseNanos?_eq {s : String} (h : Text.trim s.toList = q.text) :
    parseNanos? s = (nanos? q.mantissa q.fraction.length q.multiple).map fun n : Nat =>
      q.sign.factor * (n : Int) := by
  obtain ⟨hnumber, hsuffix⟩ := q.span_body
  have hdigits : (q.whole.map Nat.digitChar ++ q.fraction.map Nat.digitChar).mapM Text.digit?
      = some (q.whole ++ q.fraction) :=
    Text.mapM_digit?_eq_some_iff.2 (Spells.append ⟨rfl, q.whole_lt⟩ ⟨rfl, q.fraction_lt⟩)
  have hne : ¬ (q.whole.map Nat.digitChar = [] ∧ q.fraction.map Nat.digitChar = []) := by
    have hdigit := q.has_digit
    simp only [List.map_eq_nil_iff]
    rintro ⟨hwhole, hfraction⟩
    rw [hwhole, hfraction] at hdigit
    exact hdigit rfl
  have hsign : splitSign q.text = (decide (q.sign = .minus), q.number ++ q.suffix) :=
    splitSign_append q.sign (not_signed q.number_ne_nil (fun c => q.isNumberChar_of_mem) _)
  rw [parseNanos?, h, hsign]
  dsimp only
  rw [hnumber, hsuffix, q.splitPoint_number]
  dsimp only
  rw [if_neg hne, hdigits, multiple?_eq_some_iff.2 q.is_suffix, List.length_map]
  show ((nanos? q.mantissa q.fraction.length q.multiple).bind fun n : Nat =>
    some (if decide (q.sign = .minus) then -(n : Int) else (n : Int))) = _
  simp only [q.sign.negated_eq, Option.map_eq_bind]
  rfl

end Spelling

/-! ## §5. Reading -/

/-- What a point splits is put together with it. -/
theorem exists_point (cs : List Char) :
    ∃ point : Bool, cs = (splitPoint cs).1 ++ (if point then '.' :: (splitPoint cs).2 else [])
      ∧ (point = false → (splitPoint cs).2 = []) := by
  have hsplit := List.takeWhile_append_dropWhile (p := fun c => decide (c ≠ '.')) (l := cs)
  cases hrest : cs.dropWhile (fun c => decide (c ≠ '.')) with
  | nil =>
    rw [hrest] at hsplit
    exact ⟨false, hsplit.symm, fun _ => by rw [splitPoint, hrest]; rfl⟩
  | cons c rest =>
    have hc : c = '.' := by
      have hhead := List.head?_dropWhile_not (fun c => decide (c ≠ '.')) cs
      rw [hrest] at hhead
      simpa using hhead
    subst hc
    refine ⟨true, ?_, nofun⟩
    rw [splitPoint, hrest]
    rw [hrest] at hsplit
    exact hsplit.symm

/-- **Whatever is taken apart was spelled.** -/
theorem exists_spelling {s : String} {v : Int} (h : parseNanos? s = some v) :
    ∃ q : Spelling, Text.trim s.toList = q.text := by
  obtain ⟨sign, body, htext, hsplit⟩ := exists_sign (Text.trim s.toList)
  rw [parseNanos?, hsplit] at h
  dsimp only at h
  obtain ⟨point, hnumber, hpoint⟩ := exists_point (body.takeWhile isNumberChar)
  generalize splitPoint (body.takeWhile isNumberChar) = parts at h hnumber hpoint
  obtain ⟨whole, fraction⟩ := parts
  dsimp only at h hnumber hpoint
  split at h
  · cases h
  · next hne =>
    obtain ⟨ds, hds, h⟩ := Option.bind_eq_some_iff.1 h
    obtain ⟨m, hm, -⟩ := Option.bind_eq_some_iff.1 h
    obtain ⟨ds₁, ds₂, -, hwhole, hfraction⟩ := (Text.mapM_digit?_eq_some_iff.1 hds).of_append
    obtain ⟨rfl, hwhole⟩ := hwhole
    obtain ⟨rfl, hfraction⟩ := hfraction
    refine ⟨⟨sign, ds₁, point, ds₂, body.dropWhile isNumberChar, m, hwhole, hfraction, ?_, ?_,
      multiple?_eq_some_iff.1 hm⟩, ?_⟩
    · intro hnil
      obtain ⟨rfl, rfl⟩ := List.append_eq_nil_iff.1 hnil
      exact hne ⟨rfl, rfl⟩
    · exact fun h => List.map_eq_nil_iff.1 (hpoint h)
    · rw [htext, Spelling.text, Spelling.number, ← hnumber, List.takeWhile_append_dropWhile]

/-- **A quantity denotes its exact value in nano-units, rounded away from zero.** -/
theorem value_iff_spelled {s : String} {v : Int} :
    parseNanos? s = some v ↔ ∃ q : Spelling, Text.trim s.toList = q.text
      ∧ Fits q.mantissa q.fraction.length q.multiple
      ∧ v = q.sign.factor * ⌈q.magnitude * 10 ^ 9⌉ := by
  have hvalue : ∀ q : Spelling, Text.trim s.toList = q.text → (parseNanos? s = some v ↔
      Fits q.mantissa q.fraction.length q.multiple
        ∧ v = q.sign.factor * ⌈q.magnitude * 10 ^ 9⌉) := by
    intro q hq
    rw [q.parseNanos?_eq hq, q.magnitude_eq]
    simp only [Option.map_eq_some_iff, nanos?_eq_some_iff q.is_suffix.binary_lt]
    constructor
    · rintro ⟨n, ⟨hfits, hn⟩, rfl⟩
      exact ⟨hfits, by rw [hn]⟩
    · rintro ⟨hfits, rfl⟩
      have hnonneg :
          0 ≤ ⌈(q.mantissa / 10 ^ q.fraction.length : ℚ) * q.multiple.value * 10 ^ 9⌉ := by
        have hpos := q.multiple.value_pos
        exact Int.ceil_nonneg (by positivity)
      obtain ⟨n, hn⟩ := Int.eq_ofNat_of_zero_le hnonneg
      exact ⟨n, ⟨hfits, hn⟩, by rw [hn]⟩
  constructor
  · intro h
    obtain ⟨q, hq⟩ := exists_spelling h
    exact ⟨q, hq, (hvalue q hq).1 h⟩
  · rintro ⟨q, hq, h⟩
    exact (hvalue q hq).2 h

example : parseNanos? "-0.1n" = some (-1) := by decide +kernel

end LoggingOperator.Quantity
