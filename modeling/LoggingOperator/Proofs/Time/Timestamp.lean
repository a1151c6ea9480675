/-
  LoggingOperator.Proofs.Time.Timestamp — A WRITTEN TIMESTAMP IS READ BACK.

  A lease records times to the microsecond.  An instant that is a whole number
  of microseconds, lies in no leap second and has a date (`OnMicrosecond`) is
  read back from its text without loss (`ofText?_microText`).

  The proof goes through the text part by part: each part is written with as
  many digits as its reader takes, and where the number of digits is not fixed,
  in the year and in the fraction, the next character is no digit.
-/
import LoggingOperator.Proofs.Text.Numeral
import LoggingOperator.Proofs.Time.Calendar

namespace LoggingOperator

namespace Text

/-- A padded number has a first digit. -/
theorem exists_spells_padded (width n : Nat) :
    ∃ d ds, Spells (padded width n) (d :: ds) ∧ numeral (d :: ds) = n := by
  obtain ⟨ds, hspells, hnumeral⟩ := spells_padded width n
  cases ds with
  | nil =>
    have hnil : padded width n = [] := List.length_eq_zero_iff.1 hspells.length_eq.symm
    exact absurd (List.append_eq_nil_iff.1 hnil).2 Nat.toDigits_ne_nil
  | cons d ds => exact ⟨d, ds, hspells, hnumeral⟩

theorem isBlank_digitChar : ∀ d, d < 10 → isBlank (Nat.digitChar d) = false := by
  decide

theorem digitChar_ne_sign : ∀ d, d < 10 → Nat.digitChar d ≠ '-' ∧ Nat.digitChar d ≠ '+' := by
  decide

/-- No blanks are in front of a digit. -/
theorem Spells.dropWhile_isBlank {cs rest : List Char} {d : Nat} {ds : List Nat}
    (h : Spells cs (d :: ds)) : (cs ++ rest).dropWhile isBlank = cs ++ rest := by
  rw [h.eq]
  refine List.dropWhile_cons_of_neg ?_
  rw [isBlank_digitChar d (h.lt_ten d List.mem_cons_self)]
  decide

end Text

namespace Instant

/-! ## §1. The parts of a timestamp -/

/-- **A number of a fixed width is read back**, whatever follows. -/
theorem number?_padded {width n : Nat} (hwidth : 0 < width) (h : n < 10 ^ width)
    (rest : List Char) : number? width (Text.padded width n ++ rest) = some (n, rest) := by
  obtain ⟨d, ds, hspells, hnumeral⟩ := Text.exists_spells_padded width n
  have hlength := Text.length_padded hwidth h
  rw [number?, hspells.dropWhile_isBlank]
  simp only [List.take_left' hlength, hspells.spanDigits_self, hnumeral, hspells.length_eq,
    List.drop_left]

/-- A number with all its digits is read back if no digit follows. -/
theorem digits?_padded (width n : Nat) {c : Char} (h : Text.digit? c = none) (rest : List Char) :
    digits? (Text.padded width n ++ c :: rest) = some (n, c :: rest) := by
  obtain ⟨d, ds, hspells, hnumeral⟩ := Text.exists_spells_padded width n
  have hnext : ∀ c' cs', c :: rest = c' :: cs' → Text.digit? c' = none := by
    rintro _ _ ⟨⟩
    exact h
  rw [digits?, hspells.spanDigits_eq hnext]
  simp only [hnumeral]

/-- A mark is read back. -/
theorem mark?_cons {mark : Char} (h : Text.isBlank mark = false) (rest : List Char) :
    mark? mark (mark :: rest) = some rest := by
  rw [mark?, List.dropWhile_cons_of_neg (by rw [h]; decide)]
  exact if_pos rfl

/-- **A year is read back.** -/
theorem year?_yearText (year : Int) (rest : List Char) :
    year? (yearText year ++ '-' :: rest) = some (year, '-' :: rest) := by
  rw [yearText]
  split
  · -- Four digits without a sign.
    next hyear =>
    obtain ⟨d, ds, hspells, -⟩ := Text.exists_spells_padded 4 year.natAbs
    have hread : number? 4 (Text.padded 4 year.natAbs ++ '-' :: rest)
        = some (year.natAbs, '-' :: rest) :=
      number?_padded (by decide) (by omega) ('-' :: rest)
    have hsign := Text.digitChar_ne_sign d (hspells.lt_ten d List.mem_cons_self)
    rw [year?, hspells.dropWhile_isBlank]
    split
    · next cs hcs =>
      rw [hspells.eq] at hcs
      exact absurd (List.cons.inj hcs).1 hsign.1
    · next cs hcs =>
      rw [hspells.eq] at hcs
      exact absurd (List.cons.inj hcs).1 hsign.2
    · rw [hread]
      exact congrArg (fun n => some (n, '-' :: rest)) (Int.natAbs_of_nonneg hyear.1)
  · have hread := digits?_padded 4 year.natAbs (c := '-') rfl rest
    split
    · next hneg =>
      show (digits? (Text.padded 4 year.natAbs ++ '-' :: rest)).map _ = _
      rw [hread]
      exact congrArg (fun n => some (n, '-' :: rest))
        (show -(year.natAbs : Int) = year by omega)
    · next hpos =>
      show (digits? (Text.padded 4 year.natAbs ++ '-' :: rest)).map _ = _
      rw [hread]
      exact congrArg (fun n => some (n, '-' :: rest)) (show (year.natAbs : Int) = year by omega)

/-- A fraction of six digits is so many thousands of nanoseconds. -/
theorem fraction?_padded {micros : Nat} (h : micros < 1000000) {c : Char}
    (hc : Text.digit? c = none) (rest : List Char) :
    fraction? ('.' :: (Text.padded 6 micros ++ c :: rest)) = some (micros * 1000, c :: rest) := by
  obtain ⟨d, ds, hspells, hnumeral⟩ := Text.exists_spells_padded 6 micros
  have hnext : ∀ c' cs', c :: rest = c' :: cs' → Text.digit? c' = none := by
    rintro _ _ ⟨⟩
    exact hc
  have hlength : (d :: ds).length = 6 :=
    hspells.length_eq.trans (Text.length_padded (by decide) h)
  rw [fraction?, hspells.spanDigits_eq hnext]
  simp only [List.take_of_length_le (show (d :: ds).length ≤ 9 by omega), hlength, hnumeral]
  rfl

/-! ## §2. Instants that a lease records exactly -/

/-- A whole number of microseconds, on a day that has a date and in no leap second. -/
structure OnMicrosecond (t : Instant) : Prop where
  whole : t.nanos % 1000 = 0
  noLeap : t.nanos < 1000000000
  first : dayNumber (-262143) 1 1 ≤ t.seconds.fdiv 86400
  last : t.seconds.fdiv 86400 ≤ dayNumber 262142 12 31

theorem OnMicrosecond.isLeap_eq {t : Instant} (h : t.OnMicrosecond) : t.isLeap = false := by
  simpa [isLeap] using h.noLeap

/-- The text of such an instant, part by part. -/
theorem microText_eq {t : Instant} (h : t.OnMicrosecond) :
    ∃ (year : Int) (month day hour minute second micros : Nat),
      t.microText.toList = yearText year ++ '-' :: (Text.padded 2 month
        ++ '-' :: (Text.padded 2 day ++ 'T' :: (Text.padded 2 hour ++ ':' :: (Text.padded 2 minute
        ++ ':' :: (Text.padded 2 second ++ '.' :: (Text.padded 6 micros ++ ['Z']))))))
      ∧ isDate year month day = true ∧ hour < 24 ∧ minute < 60 ∧ second < 60 ∧ micros < 1000000
      ∧ t.seconds = dayNumber year month day * 86400 + hour * 3600 + minute * 60 + second
      ∧ t.nanos = micros * 1000 := by
  obtain ⟨year, month, day, hdate, hvalid, hnumber⟩ := isDate_dateOf h.first h.last
  have hleap := h.isLeap_eq
  have hwhole := h.whole
  have hmodulo := h.noLeap
  refine ⟨year, month, day, (t.seconds - t.seconds.fdiv 86400 * 86400).toNat / 3600,
    (t.seconds - t.seconds.fdiv 86400 * 86400).toNat / 60 % 60,
    (t.seconds - t.seconds.fdiv 86400 * 86400).toNat % 60, t.nanos / 1000, ?_, hvalid, ?_⟩
  · rw [microText, String.toList_ofList, secondsText, hdate]
    simp only [hleap, Bool.false_eq_true, if_false, Int.toNat_natCast, List.append_assoc,
      List.cons_append, Nat.mod_eq_of_lt h.noLeap]
  · rw [hnumber, Int.fdiv_eq_ediv_of_nonneg _ (by decide : (0 : Int) ≤ 86400)]
    omega

/-- **Such an instant is read back from its text.** -/
theorem ofText?_microText {t : Instant} (h : t.OnMicrosecond) : ofText? t.microText = some t := by
  obtain ⟨year, month, day, hour, minute, second, micros, htext, hdate, hhour, hminute, hsecond,
    hmicros, hseconds, hnanos⟩ := microText_eq h
  have hbounds : month < 100 ∧ day < 100 := by
    simp only [isDate, Bool.and_eq_true, decide_eq_true_eq] at hdate
    have hthirtyone := daysIn_le year month
    omega
  have htwo : ∀ {n : Nat} (rest : List Char), n < 100 →
      number? 2 (Text.padded 2 n ++ rest) = some (n, rest) :=
    fun rest hn => number?_padded (by decide) hn rest
  have hlocal :
      ofLocal? (dayNumber year month day) hour minute second (micros * 1000) 0 = some t := by
    have hnoleap : second ≠ 60 := by omega
    have hfirst := h.first
    have hlast := h.last
    rw [hseconds] at hfirst hlast
    simp only [ofLocal?, hnoleap, if_false, Int.sub_zero]
    rw [dif_pos (by omega), if_pos ⟨hhour, hminute, by omega, hfirst, hlast⟩]
    obtain ⟨seconds, nanos, hnanosLt⟩ := t
    subst hseconds hnanos
    rfl
  -- The readers take the parts one by one, each with its mark before it.
  rw [ofText?, htext]
  refine Option.bind_eq_some_iff.2 ⟨_, year?_yearText year _, ?_⟩
  refine Option.bind_eq_some_iff.2 ⟨_, mark?_cons rfl _, ?_⟩
  refine Option.bind_eq_some_iff.2 ⟨_, htwo _ hbounds.1, ?_⟩
  refine Option.bind_eq_some_iff.2 ⟨_, mark?_cons rfl _, ?_⟩
  refine Option.bind_eq_some_iff.2 ⟨_, htwo _ hbounds.2, ?_⟩
  refine Option.bind_eq_some_iff.2 ⟨_, rfl, ?_⟩
  refine Option.bind_eq_some_iff.2 ⟨_, htwo _ (by omega), ?_⟩
  refine Option.bind_eq_some_iff.2 ⟨_, mark?_cons rfl _, ?_⟩
  refine Option.bind_eq_some_iff.2 ⟨_, htwo _ (by omega), ?_⟩
  refine Option.bind_eq_some_iff.2 ⟨_, mark?_cons rfl _, ?_⟩
  refine Option.bind_eq_some_iff.2 ⟨_, htwo _ (by omega), ?_⟩
  refine Option.bind_eq_some_iff.2 ⟨_, fraction?_padded hmicros rfl _, ?_⟩
  refine Option.bind_eq_some_iff.2 ⟨(0, []), rfl, ?_⟩
  exact (if_pos ⟨hdate, rfl⟩).trans hlocal

/-! ## §3. Seconds later -/

theorem le_iff {a b : Instant} : a ≤ b ↔ a.rank ≤ b.rank := Iff.rfl

theorem lt_iff {a b : Instant} : a < b ↔ a.rank < b.rank := Iff.rfl

/-- Outside leap seconds every second counts the same. -/
theorem rank_addSeconds {t : Instant} (h : t.OnMicrosecond) (n : Int) :
    (t.addSeconds n).rank = t.rank + n * 2000000000 := by
  simp only [addSeconds, h.isLeap_eq, Bool.false_and, Bool.false_eq_true, if_false, rank]
  omega

end Instant

end LoggingOperator
