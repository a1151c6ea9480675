/-
  LoggingOperator.Proofs.Text.Numeral — NUMERALS ARE READ BACK.

  A natural number is written with its decimal digits, the most significant
  one first and no zero before them; fields of a timestamp are filled up with
  zeros on the left.  Readers take a run of digits and count it up again.

  Both meet in the list of digits: `Spells cs ds` says that the characters
  `cs` are the digits `ds`.  A written number spells digits that count up to
  it (`spells_decimal`, `spells_padded`), and a reader of digits finds exactly
  those that are spelled (`Spells.spanDigits_eq`, `natural?_eq_some_iff`).
-/
import LoggingOperator.Text.Numeral

namespace LoggingOperator.Text

/-! ## §1. Counting up digits -/

theorem numeral_append (ds : List Nat) (d : Nat) :
    numeral (ds ++ [d]) = numeral ds * 10 + d := by
  rw [numeral, List.foldl_append]
  rfl

theorem foldl_digits (n : Nat) (ds : List Nat) :
    ds.foldl (fun n d => n * 10 + d) n = n * Nat.pow 10 ds.length + numeral ds := by
  induction ds generalizing n with
  | nil => exact (Nat.mul_one n).symm
  | cons d ds ih =>
    have hrest : numeral (d :: ds) = (0 * 10 + d) * Nat.pow 10 ds.length + numeral ds :=
      ih (0 * 10 + d)
    have hplace : Nat.pow 10 (d :: ds).length = Nat.pow 10 ds.length * 10 := rfl
    rw [List.foldl_cons, ih, hrest, hplace]
    simp only [Nat.add_mul, Nat.mul_assoc, Nat.zero_mul, Nat.zero_add, Nat.add_assoc,
      Nat.mul_comm (Nat.pow 10 ds.length)]

/-- Digits move up by as many places as digits follow. -/
theorem numeral_append_digits (ds ds' : List Nat) :
    numeral (ds ++ ds') = numeral ds * Nat.pow 10 ds'.length + numeral ds' := by
  rw [numeral, List.foldl_append]
  exact foldl_digits _ ds'

/-- Zeros in front count for nothing. -/
theorem numeral_zeros (k : Nat) (ds : List Nat) :
    numeral (List.replicate k 0 ++ ds) = numeral ds := by
  rw [numeral, List.foldl_append]
  congr 1
  induction k with
  | zero => rfl
  | succ k ih => exact ih

/-! ## §2. Spelled digits -/

/-- The characters are these digits. -/
structure Spells (cs : List Char) (ds : List Nat) : Prop where
  eq : cs = ds.map Nat.digitChar
  lt_ten : ∀ d ∈ ds, d < 10

theorem digit?_digitChar : ∀ d, d < 10 → digit? (Nat.digitChar d) = some d := by
  decide

namespace Spells

variable {cs cs' : List Char} {ds ds' : List Nat}

theorem append (h : Spells cs ds) (h' : Spells cs' ds') : Spells (cs ++ cs') (ds ++ ds') := by
  refine ⟨by rw [h.eq, h'.eq, List.map_append], fun d hd => ?_⟩
  exact (List.mem_append.1 hd).elim (h.lt_ten d) (h'.lt_ten d)

/-- Digits spelled one after the other are spelled apart. -/
theorem of_append (h : Spells (cs ++ cs') ds) :
    ∃ ds₁ ds₂, ds = ds₁ ++ ds₂ ∧ Spells cs ds₁ ∧ Spells cs' ds₂ := by
  obtain ⟨heq, hlt⟩ := h
  obtain ⟨ds₁, ds₂, rfl, rfl, rfl⟩ := List.map_eq_append_iff.1 heq.symm
  exact ⟨ds₁, ds₂, rfl, ⟨rfl, fun d hd => hlt d (List.mem_append_left _ hd)⟩,
    ⟨rfl, fun d hd => hlt d (List.mem_append_right _ hd)⟩⟩

theorem length_eq (h : Spells cs ds) : ds.length = cs.length := by
  rw [h.eq, List.length_map]

theorem zeros (k : Nat) : Spells (List.replicate k '0') (List.replicate k 0) := by
  refine ⟨by rw [List.map_replicate]; rfl, fun d hd => ?_⟩
  rw [(List.mem_replicate.1 hd).2]
  omega

/-- **A reader of digits finds exactly those that are spelled**, if no digit
    follows. -/
theorem spanDigits_eq (h : Spells cs ds) {rest : List Char}
    (hrest : ∀ c cs', rest = c :: cs' → digit? c = none) :
    spanDigits (cs ++ rest) = (ds, rest) := by
  obtain ⟨rfl, hlt⟩ := h
  induction ds with
  | nil =>
    cases rest with
    | nil => rfl
    | cons c rest =>
      show spanDigits (c :: rest) = _
      rw [spanDigits, hrest c rest rfl]
  | cons d ds ih =>
    show spanDigits (Nat.digitChar d :: (ds.map Nat.digitChar ++ rest)) = _
    rw [spanDigits, digit?_digitChar d (hlt d List.mem_cons_self),
      ih fun d' hd' => hlt d' (List.mem_cons_of_mem d hd')]

theorem spanDigits_self (h : Spells cs ds) : spanDigits cs = (ds, []) := by
  have hspan : spanDigits (cs ++ []) = (ds, []) := h.spanDigits_eq nofun
  rwa [List.append_nil] at hspan

end Spells

/-! ## §3. Read digits -/

theorem digit?_eq_some_iff {c : Char} {d : Nat} :
    digit? c = some d ↔ c = Nat.digitChar d ∧ d < 10 := by
  constructor
  · intro h
    have hchars : ∀ d, d < 10 → Char.ofNat ('0'.toNat + d) = Nat.digitChar d := by decide
    unfold digit? at h
    split at h
    · next hrange =>
      have hlow : '0'.toNat ≤ c.toNat := hrange.1
      have hhigh : c.toNat ≤ '9'.toNat := hrange.2
      have hnine : '9'.toNat = '0'.toNat + 9 := rfl
      obtain rfl : c.toNat - '0'.toNat = d := Option.some.inj h
      refine ⟨?_, by omega⟩
      rw [← hchars _ (by omega), Nat.add_sub_cancel' hlow, Char.ofNat_toNat]
    · cases h
  · rintro ⟨rfl, hd⟩
    exact digit?_digitChar d hd

/-- Digits are read one by one exactly if they are spelled. -/
theorem mapM_digit?_eq_some_iff {cs : List Char} {ds : List Nat} :
    cs.mapM digit? = some ds ↔ Spells cs ds := by
  induction cs generalizing ds with
  | nil =>
    constructor
    · intro h
      cases h
      exact ⟨rfl, nofun⟩
    · rintro ⟨heq, -⟩
      rw [List.map_eq_nil_iff.1 heq.symm]
      rfl
  | cons c cs ih =>
    rw [List.mapM_cons]
    simp only [Option.bind_eq_bind, Option.bind_eq_some_iff, digit?_eq_some_iff, ih]
    constructor
    · rintro ⟨d, ⟨rfl, hd⟩, ds', ⟨rfl, hlt⟩, heq⟩
      cases heq
      exact ⟨rfl, by simpa [hd] using hlt⟩
    · rintro ⟨heq, hlt⟩
      match ds with
      | [] => cases heq
      | d :: ds' =>
        obtain ⟨rfl, rfl⟩ := List.cons.inj heq
        exact ⟨d, ⟨rfl, hlt d List.mem_cons_self⟩, ds',
          ⟨rfl, fun x hx => hlt x (List.mem_cons_of_mem d hx)⟩, rfl⟩

/-- **A natural number is read from digits that count up to it**, at least one. -/
theorem natural?_eq_some_iff {cs : List Char} {n : Nat} :
    natural? cs = some n ↔ ∃ ds, ds ≠ [] ∧ Spells cs ds ∧ numeral ds = n := by
  unfold natural?
  split
  · next hempty =>
    refine iff_of_false nofun ?_
    rintro ⟨ds, hds, hspells, -⟩
    have hlength := hspells.length_eq
    rw [List.isEmpty_iff.1 hempty] at hlength
    exact hds (List.length_eq_zero_iff.1 hlength)
  · next hne =>
    simp only [Option.map_eq_some_iff, mapM_digit?_eq_some_iff]
    refine exists_congr fun ds => ⟨fun ⟨hspells, hn⟩ => ⟨?_, hspells, hn⟩, And.right⟩
    rintro rfl
    exact hne (List.isEmpty_iff.2 hspells.eq)

/-! ## §4. Written numbers -/

/-- **A number is written with digits that count up to it.**  Only zero starts
    with a zero. -/
theorem spells_decimal (n : Nat) :
    ∃ ds, Spells (decimal n) ds ∧ numeral ds = n ∧ (ds.head? = some 0 → ds = [0]) := by
  induction n using Nat.strongRecOn with
  | ind n ih =>
    rw [decimal, Nat.toDigits_eq_if (by decide)]
    split
    · next hlt =>
      refine ⟨[n], ⟨rfl, by simpa using hlt⟩, Nat.zero_add n, ?_⟩
      intro h
      rw [Option.some.inj h]
    · next hge =>
      -- The last digit goes behind those of a tenth, which is not zero.
      obtain ⟨ds, hspells, hnumeral, hzero⟩ := ih (n / 10) (by omega)
      have hlast : Spells [Nat.digitChar (n % 10)] [n % 10] :=
        ⟨rfl, by simpa using Nat.mod_lt n (by decide)⟩
      refine ⟨ds ++ [n % 10], hspells.append hlast, ?_, ?_⟩
      · rw [numeral_append, hnumeral]
        omega
      · intro h
        cases ds with
        | nil =>
          have htenth : n / 10 = 0 := hnumeral.symm
          omega
        | cons d ds =>
          have hds := hzero h
          rw [hds] at hnumeral
          have htenth : n / 10 = 0 := hnumeral.symm
          omega

/-- **A number with zeros in front of it** has digits that count up to it. -/
theorem spells_padded (width n : Nat) :
    ∃ ds, Spells (padded width n) ds ∧ numeral ds = n := by
  obtain ⟨ds, hspells, hnumeral, -⟩ := spells_decimal n
  exact ⟨_, (Spells.zeros _).append hspells, (numeral_zeros _ ds).trans hnumeral⟩

/-- It has the length asked for, if the number is not too great. -/
theorem length_padded {width n : Nat} (hwidth : 0 < width) (h : n < Nat.pow 10 width) :
    (padded width n).length = width := by
  have hle : (decimal n).length ≤ width := (Nat.length_toDigits_le_iff (by decide) hwidth).2 h
  rw [padded, List.length_append, List.length_replicate]
  omega

end LoggingOperator.Text
