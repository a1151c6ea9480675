/-
  LoggingOperator.Proofs.Json.Rereading — A WRITTEN VALUE IS READ BACK.

  The last-applied annotation holds the text of a value, and a later pass
  reads it again.  What it reads is the same value, but for its numbers: a
  float is read with roundings of its own (`sameShape_of_read?_text`).

  The proof follows the machine of the reader over the printed text.  Read
  from any stack, the text of a value completes one document there
  (`feed_render`), by induction over the value; and that document becomes a
  value with the same head at every place.

  Main definitions:
    * `document?`      — the document that the text of a value is;
    * `Head.skeleton`  — a head without the value of a number.
-/
import LoggingOperator.Json.Printer
import LoggingOperator.Json.Reader
import LoggingOperator.Proofs.Json.Path

namespace LoggingOperator

/-! ## §1. The texts of numbers -/

namespace Text

theorem isDigit_of_char {c : Char} (h : c.isDigit = true) : isDigit c = true := by
  have hrange : '0' ≤ c ∧ c ≤ '9' := by
    simp only [Char.isDigit, Bool.and_eq_true, decide_eq_true_eq] at h
    exact h
  rw [isDigit, digit?, if_pos hrange]
  rfl

theorem isDigit_of_mem_decimal {c : Char} {n : Nat} (h : c ∈ decimal n) : isDigit c = true :=
  isDigit_of_char (Nat.isDigit_of_mem_toDigits (by decide) (by decide) h)

theorem decimal_ne_nil (n : Nat) : decimal n ≠ [] :=
  Nat.toDigits_ne_nil

end Text

namespace Json

namespace Reader

/-- A minus sign or a digit, and after it only characters of numbers. -/
def NumberText (cs : List Char) : Prop :=
  (∃ c rest, cs = c :: rest ∧ (c = '-' ∨ Text.isDigit c = true))
    ∧ ∀ c ∈ cs, isNumberChar c = true

theorem isNumberChar_of_isDigit {c : Char} (h : Text.isDigit c = true) :
    isNumberChar c = true := by
  simp [isNumberChar, h]

/-- Digits followed by characters of numbers. -/
theorem NumberText.of_digits {digits rest : List Char} (hne : digits ≠ [])
    (hd : ∀ c ∈ digits, Text.isDigit c = true) (hr : ∀ c ∈ rest, isNumberChar c = true) :
    NumberText (digits ++ rest) := by
  constructor
  · cases digits with
    | nil => exact absurd rfl hne
    | cons c cs => exact ⟨c, cs ++ rest, rfl, Or.inr (hd c List.mem_cons_self)⟩
  · intro c hc
    rcases List.mem_append.1 hc with h | h
    · exact isNumberChar_of_isDigit (hd c h)
    · exact hr c h

theorem NumberText.neg {cs : List Char} (h : NumberText cs) : NumberText ('-' :: cs) := by
  refine ⟨⟨'-', cs, rfl, Or.inl rfl⟩, ?_⟩
  intro c hc
  rcases List.mem_cons.1 hc with rfl | hc
  · decide
  · exact h.2 c hc

theorem numberText_decimal (n : Nat) : NumberText (Text.decimal n) := by
  have h : NumberText (Text.decimal n ++ []) := NumberText.of_digits (Text.decimal_ne_nil n)
    (fun _ hc => Text.isDigit_of_mem_decimal hc) (by simp)
  rwa [List.append_nil] at h

theorem numberText_positional {digits : List Char} (hne : digits ≠ [])
    (hd : ∀ c ∈ digits, Text.isDigit c = true) (point : Int) :
    NumberText (Binary64.positional digits point) := by
  have hnumber : ∀ c ∈ digits, isNumberChar c = true :=
    fun c hc => isNumberChar_of_isDigit (hd c hc)
  unfold Binary64.positional
  split
  -- The point comes before, after or among the digits.
  · have hzero : ∀ c ∈ ['0'], Text.isDigit c = true := List.forall_mem_singleton.2 rfl
    refine NumberText.of_digits (by simp) hzero ?_
    intro c hc
    simp only [List.mem_cons, List.mem_append, List.mem_replicate] at hc
    rcases hc with rfl | ⟨-, rfl⟩ | hc
    · decide
    · decide
    · exact hnumber c hc
  · next hpoint =>
    split
    · rw [List.append_assoc]
      refine NumberText.of_digits hne hd ?_
      intro c hc
      simp only [List.mem_append, List.mem_replicate, List.mem_cons, List.not_mem_nil] at hc
      rcases hc with ⟨-, rfl⟩ | rfl | rfl | hc
      · decide
      · decide
      · decide
      · exact hc.elim
    · refine NumberText.of_digits ?_ ?_ ?_
      · simp only [ne_eq, List.take_eq_nil_iff, not_or]
        exact ⟨by omega, hne⟩
      · intro c hc
        exact hd c (List.mem_of_mem_take hc)
      · intro c hc
        rcases List.mem_cons.1 hc with rfl | hc
        · decide
        · exact hnumber c (List.mem_of_mem_drop hc)

theorem numberText_scientific {digits : List Char} (hne : digits ≠ [])
    (hd : ∀ c ∈ digits, Text.isDigit c = true) (exponent : Int) :
    NumberText (Binary64.scientific digits exponent) := by
  unfold Binary64.scientific
  rw [List.append_assoc]
  -- The first digit, the fraction if there is one, and the exponent with its sign.
  refine NumberText.of_digits ?_ ?_ ?_
  · simpa using hne
  · intro c hc
    exact hd c (List.mem_of_mem_take hc)
  · intro c hc
    simp only [List.mem_append, List.mem_cons] at hc
    rcases hc with hc | rfl | hsign | hc
    · split at hc
      · cases hc
      · rcases List.mem_cons.1 hc with rfl | hc
        · decide
        · exact isNumberChar_of_isDigit (hd c (List.mem_of_mem_drop hc))
    · decide
    · split at hsign
      · rw [hsign]; decide
      · rw [hsign]; decide
    · exact isNumberChar_of_isDigit (Text.isDigit_of_mem_decimal hc)

theorem numberText_magnitude (x : Binary64) : NumberText x.magnitudeText := by
  have hne := Text.decimal_ne_nil x.shortest.digits
  have hd : ∀ c ∈ Text.decimal x.shortest.digits, Text.isDigit c = true :=
    fun _ hc => Text.isDigit_of_mem_decimal hc
  unfold Binary64.magnitudeText
  split
  · have hzero : ∀ c ∈ ['0'], Text.isDigit c = true := List.forall_mem_singleton.2 rfl
    have hrest : ∀ c ∈ ['.', '0'], isNumberChar c = true :=
      List.forall_mem_cons.2 ⟨rfl, List.forall_mem_singleton.2 rfl⟩
    exact NumberText.of_digits (by simp) hzero hrest
  · simp only
    split
    · exact numberText_positional hne hd _
    · exact numberText_scientific hne hd _

/-- The text of a number looks like one. -/
theorem numberText (n : Number) : NumberText n.text := by
  cases n with
  | integer n =>
    show NumberText (Text.signed n.val)
    unfold Text.signed
    split
    · exact (numberText_decimal _).neg
    · exact numberText_decimal _
  | double x =>
    show NumberText x.text
    unfold Binary64.text
    split
    · exact (numberText_magnitude x).neg
    · exact numberText_magnitude x

/-! ## §2. The machine on tokens -/

/-- The machine takes some characters. -/
def feed (m : Machine) (cs : List Char) : Option Machine :=
  cs.foldlM step m

@[simp] theorem feed_nil (m : Machine) : feed m [] = some m := rfl

theorem feed_cons (m : Machine) (c : Char) (cs : List Char) :
    feed m (c :: cs) = (step m c).bind (feed · cs) :=
  List.foldlM_cons

theorem feed_cons_of_step {m t : Machine} {c : Char} (h : step m c = some t) (cs : List Char) :
    feed m (c :: cs) = feed t cs := by
  rw [feed_cons, h]
  rfl

/-- How a character of a string is written: as a code unit if it is a control
    character without a short escape. -/
def piece (c : Char) : Piece :=
  if c.toNat < 32 ∧ c ∉ ['\n', '\r', '\t', '\x08', '\x0c'] then .unit c.toNat else .char c

theorem hexValue?_hexDigit {n : Nat} (h : n < 16) : hexValue? (hexDigit n) = some n := by
  have hall : ∀ i : Fin 16, hexValue? (hexDigit i.val) = some i.val := by decide
  exact hall ⟨n, h⟩

/-- An escape with four digits, two of them zero. -/
theorem feed_unit {stack : List Frame} {isKey : Bool} {read : List Piece} {n : Nat} (h : n < 32)
    (rest : List Char) :
    feed ⟨stack, .string isKey read .none⟩
        ('\\' :: 'u' :: '0' :: '0' :: hexDigit (n / 16) :: hexDigit (n % 16) :: rest)
      = feed ⟨stack, .string isKey (.unit n :: read) .none⟩ rest := by
  have hhigh : hexValue? (hexDigit (n / 16)) = some (n / 16) := hexValue?_hexDigit (by omega)
  have hlow : hexValue? (hexDigit (n % 16)) = some (n % 16) := hexValue?_hexDigit (by omega)
  have hquote : ∀ k, k < 16 → hexDigit k ≠ '"' := by decide
  have hstep : ∀ {c : Char} {d count unit : Nat}, hexValue? c = some d → c ≠ '"' →
      step ⟨stack, .string isKey read (.unit count unit)⟩ c
        = if count = 3 then some ⟨stack, .string isKey (.unit (unit * 16 + d) :: read) .none⟩
          else some ⟨stack, .string isKey read (.unit (count + 1) (unit * 16 + d))⟩ := by
    intro c d count unit hd hc
    simp only [step, inString, hd]
    split <;> rfl
  -- The backslash and the letter, and then the four digits one by one.
  rw [feed_cons_of_step (t := ⟨stack, .string isKey read .backslash⟩) rfl,
    feed_cons_of_step (t := ⟨stack, .string isKey read (.unit 0 0)⟩) rfl,
    feed_cons_of_step (hstep (d := 0) rfl (by decide)),
    feed_cons_of_step (hstep (d := 0) rfl (by decide)),
    feed_cons_of_step (hstep hhigh (hquote _ (by omega))),
    feed_cons_of_step (hstep hlow (hquote _ (by omega)))]
  have hn : ((0 * 16 + 0) * 16 + n / 16) * 16 + n % 16 = n := by omega
  simp only [hn]

/-- One character of a string. -/
theorem feed_escaped (stack : List Frame) (isKey : Bool) (read : List Piece) (c : Char)
    (rest : List Char) :
    feed ⟨stack, .string isKey read .none⟩ (escaped c ++ rest)
      = feed ⟨stack, .string isKey (piece c :: read) .none⟩ rest := by
  unfold escaped
  split
  · rfl
  · rfl
  · rfl
  · rfl
  · rfl
  · rfl
  · rfl
  -- No short escape: a control character is written by its digits, any other as it is.
  · next _ hquote hslash hn hr ht hb hf =>
    split
    · next hlt =>
      have hlong : c ∉ ['\n', '\r', '\t', '\x08', '\x0c'] := by
        simp only [List.mem_cons, List.not_mem_nil, or_false, not_or]
        exact ⟨hn, hr, ht, hb, hf⟩
      have hpiece : piece c = .unit c.toNat := by
        rw [piece, if_pos ⟨hlt, hlong⟩]
      rw [hpiece]
      exact feed_unit hlt rest
    · next hge =>
      have hpiece : piece c = .char c := by
        rw [piece, if_neg (fun h => hge h.1)]
      rw [hpiece]
      have hin : inString c read .none = some (.char c :: read, .none) := by
        simp only [inString]
        rw [if_neg hslash, if_neg hge]
      refine feed_cons_of_step ?_ rest
      simp only [step]
      split
      · exact absurd rfl hquote
      · rw [hin]
        rfl

/-- The characters of a string. -/
theorem feed_escapes (stack : List Frame) (isKey : Bool) (cs : List Char) (read : List Piece)
    (rest : List Char) :
    feed ⟨stack, .string isKey read .none⟩ (cs.flatMap escaped ++ rest)
      = feed ⟨stack, .string isKey ((cs.map piece).reverse ++ read) .none⟩ rest := by
  induction cs generalizing read with
  | nil => rfl
  | cons c cs ih =>
    rw [List.flatMap_cons, List.append_assoc, feed_escaped, ih]
    simp

/-- The pieces of a text as it is written. -/
def pieces (s : String) : List Piece :=
  s.toList.map piece

/-- A string up to its closing quote. -/
theorem feed_string (stack : List Frame) (isKey : Bool) (s : String) (rest : List Char) :
    feed ⟨stack, .string isKey [] .none⟩ (s.toList.flatMap escaped ++ '"' :: rest)
      = (endString isKey (pieces s) stack).bind (feed · rest) := by
  rw [feed_escapes, feed_cons]
  congr 1
  show endString isKey ((s.toList.map piece).reverse ++ []).reverse stack = _
  rw [List.append_nil, List.reverse_reverse]
  rfl

/-- A key and its colon. -/
theorem feed_key {mode : Mode} (hmode : mode = .key ∨ mode = .firstKey)
    (stack : List Frame) (fields : List (List Piece × Document)) (k : String)
    (rest : List Char) :
    feed ⟨.object fields :: stack, mode⟩ (quoted k ++ ':' :: rest)
      = feed ⟨.member fields (pieces k) :: stack, .value⟩ rest := by
  have hquote : step ⟨.object fields :: stack, mode⟩ '"'
      = some ⟨.object fields :: stack, .string true [] .none⟩ := by
    rcases hmode with rfl | rfl <;> rfl
  rw [quoted, List.cons_append, feed_cons_of_step hquote, List.append_assoc]
  refine (feed_string _ true k (':' :: rest)).trans ?_
  exact feed_cons_of_step rfl rest

/-- The characters of a number after the first. -/
theorem feed_numberChars (stack : List Frame) (read cs rest : List Char)
    (h : ∀ c ∈ cs, isNumberChar c = true) :
    feed ⟨stack, .number read⟩ (cs ++ rest) = feed ⟨stack, .number (cs.reverse ++ read)⟩ rest := by
  induction cs generalizing read with
  | nil => rfl
  | cons c cs ih =>
    have hstep : step ⟨stack, .number read⟩ c = some ⟨stack, .number (c :: read)⟩ := by
      simp only [step, if_pos (h c List.mem_cons_self)]
    rw [List.cons_append, feed_cons_of_step hstep,
      ih (c :: read) fun d hd => h d (List.mem_cons_of_mem _ hd)]
    simp

/-- A digit or a minus sign starts a number. -/
theorem start_number {c : Char} (h : c = '-' ∨ Text.isDigit c = true) (stack : List Frame) :
    step ⟨stack, .value⟩ c = some ⟨stack, .number [c]⟩ := by
  -- No other branch of the machine starts with a digit or a minus sign.
  have hne : ∀ d, Text.isDigit d = false → d ≠ '-' → c ≠ d := by
    rintro d hd hminus rfl
    rcases h with h | h
    · exact hminus h
    · rw [hd] at h
      cases h
  have hblank : isBlank c = false := by
    simp only [isBlank, Bool.or_eq_false_iff, beq_eq_false_iff_ne]
    exact ⟨⟨⟨hne _ (by decide) (by decide), hne _ (by decide) (by decide)⟩,
      hne _ (by decide) (by decide)⟩, hne _ (by decide) (by decide)⟩
  simp only [step, hblank, Bool.false_eq_true, if_false, start]
  split
  · exact absurd rfl (hne '[' (by decide) (by decide))
  · exact absurd rfl (hne '\x7b' (by decide) (by decide))
  · exact absurd rfl (hne '"' (by decide) (by decide))
  · exact absurd rfl (hne 'n' (by decide) (by decide))
  · exact absurd rfl (hne 't' (by decide) (by decide))
  · exact absurd rfl (hne 'f' (by decide) (by decide))
  · rw [if_pos h]

/-- A number, up to the character after it. -/
theorem feed_number (stack : List Frame) (n : Number) (rest : List Char) :
    feed ⟨stack, .value⟩ (n.text ++ rest) = feed ⟨stack, .number n.text.reverse⟩ rest := by
  obtain ⟨⟨c, cs, htext, hfirst⟩, hall⟩ := numberText n
  rw [htext, List.cons_append, feed_cons_of_step (start_number hfirst stack),
    feed_numberChars stack [c] cs rest ?_]
  · simp
  · intro d hd
    rw [htext] at hall
    exact hall d (List.mem_cons_of_mem _ hd)

end Reader

/-! ## §3. The machine on the text of a value -/

mutual

/-- The document that the text of a value is; `none` if one of its numbers is
    not read as one. -/
def document? : Json → Option Document
  | .null => some .null
  | .bool b => some (.bool b)
  | .number n => (Reader.numeral? n.text).map .number
  | .string s => some (.string (Reader.pieces s))
  | .array items => (documentItems? items).map .array
  | .object fields => (documentFields? fields).map .object

/-- The documents of some items. -/
def documentItems? : List Json → Option (List Document)
  | [] => some []
  | x :: xs => (document? x).bind fun d => (documentItems? xs).map (d :: ·)

/-- The documents of some fields. -/
def documentFields? : List (String × Json) → Option (List (List Piece × Document))
  | [] => some []
  | (k, v) :: rest =>
    (document? v).bind fun d => (documentFields? rest).map ((Reader.pieces k, d) :: ·)

end

namespace Reader

/-- Does the text after a value end it?  A number goes on as long as it can. -/
def Ended (v : Json) (rest : List Char) : Prop :=
  ∀ n, v = .number n → ∃ c cs, rest = c :: cs ∧ isNumberChar c = false

theorem ended_renderItems (v : Json) (xs : List Json) (rest : List Char) :
    Ended v (renderItems xs ++ rest) := by
  intro n _
  cases xs with
  | nil => exact ⟨']', rest, rfl, by decide⟩
  | cons x xs => exact ⟨',', _, rfl, by decide⟩

theorem ended_renderFields (v : Json) (fs : List (String × Json)) (rest : List Char) :
    Ended v (renderFields fs ++ rest) := by
  intro n _
  cases fs with
  | nil => exact ⟨'\x7d', rest, rfl, by decide⟩
  | cons f fs => exact ⟨',', _, rfl, by decide⟩

/-- A value starts with a character that is neither blank nor a bracket that
    closes. -/
theorem render_cons (v : Json) :
    ∃ c cs, v.render = c :: cs ∧ isBlank c = false ∧ c ≠ ']' := by
  match v with
  | .null => exact ⟨'n', _, rfl, by decide, by decide⟩
  | .bool true => exact ⟨'t', _, rfl, by decide, by decide⟩
  | .bool false => exact ⟨'f', _, rfl, by decide, by decide⟩
  | .string s => exact ⟨'"', _, rfl, by decide, by decide⟩
  | .array [] | .array (_ :: _) => exact ⟨'[', _, rfl, by decide, by decide⟩
  | .object [] | .object (_ :: _) => exact ⟨'\x7b', _, rfl, by decide, by decide⟩
  | .number n =>
    obtain ⟨⟨c, cs, htext, -⟩, hall⟩ := numberText n
    have hc : isNumberChar c = true := hall c (by rw [htext]; exact List.mem_cons_self)
    -- No blank and no bracket is a character of a number.
    have hne : ∀ d, isNumberChar d = false → c ≠ d := by
      rintro d hd rfl
      rw [hd] at hc
      cases hc
    refine ⟨c, cs, htext, ?_, hne _ (by decide)⟩
    simp only [isBlank, Bool.or_eq_false_iff, beq_eq_false_iff_ne]
    exact ⟨⟨⟨hne _ (by decide), hne _ (by decide)⟩, hne _ (by decide)⟩, hne _ (by decide)⟩

/-- The first item of an array is read as any other value. -/
theorem feed_firstItem (v : Json) (stack : List Frame) (rest : List Char) :
    feed ⟨stack, .firstItem⟩ (v.render ++ rest) = feed ⟨stack, .value⟩ (v.render ++ rest) := by
  obtain ⟨c, cs, hrender, hblank, hbracket⟩ := render_cons v
  have hstep : step ⟨stack, .firstItem⟩ c = step ⟨stack, .value⟩ c := by
    simp only [step, hblank, Bool.false_eq_true, if_false]
    split
    · exact absurd rfl hbracket
    · rfl
  rw [hrender, List.cons_append, feed_cons, feed_cons, hstep]

/-- A finished document is followed by what may follow it. -/
theorem step_of_complete {d : Document} {stack : List Frame} {m : Machine}
    (h : complete d stack = some m) (c : Char) : step m c = follow c m := by
  cases stack with
  | nil => cases h; rfl
  | cons frame stack =>
    cases frame with
    | array items => cases h; rfl
    | object fields => cases h
    | member fields key => cases h; rfl

/-- A number ends at a character that cannot be part of it. -/
theorem feed_endNumber (stack : List Frame) (n : Number) {rest : List Char}
    (h : Ended (.number n) rest) :
    feed ⟨stack, .value⟩ (n.text ++ rest)
      = (document? (.number n)).bind fun d => (complete d stack).bind (feed · rest) := by
  obtain ⟨c, cs, rfl, hc⟩ := h n rfl
  -- The number is finished first, and then the character is taken as what follows it.
  have hstep : step ⟨stack, .number n.text.reverse⟩ c
      = (numeral? n.text).bind fun m => (complete (.number m) stack).bind (follow c) := by
    simp only [step, hc, Bool.false_eq_true, if_false, List.reverse_reverse]
    rfl
  rw [feed_number, feed_cons, hstep, document?, Option.bind_assoc, Option.bind_map]
  congr 1
  funext m
  rw [Option.bind_assoc]
  show _ = (complete (.number m) stack).bind (feed · (c :: cs))
  cases hm : complete (.number m) stack with
  | none => rfl
  | some machine =>
    show (follow c machine).bind (feed · cs) = feed machine (c :: cs)
    rw [feed_cons, step_of_complete hm]

mutual

/-- **Read from any stack, the text of a value completes its document there.** -/
theorem feed_render : ∀ (v : Json) (stack : List Frame) (rest : List Char), Ended v rest →
    feed ⟨stack, .value⟩ (v.render ++ rest)
      = (document? v).bind fun d => (complete d stack).bind (feed · rest)
  | .null, stack, rest, _ => feed_cons _ _ _
  | .bool true, stack, rest, _ => feed_cons _ _ _
  | .bool false, stack, rest, _ => feed_cons _ _ _
  | .number n, stack, rest, h => feed_endNumber stack n h
  | .string s, stack, rest, _ => by
    show feed ⟨stack, .value⟩ (quoted s ++ rest) = _
    rw [quoted, List.cons_append, List.append_assoc]
    exact feed_string stack false s rest
  | .array [], stack, rest, _ => feed_cons _ _ _
  | .array (x :: xs), stack, rest, _ => by
    show feed ⟨stack, .value⟩ ('[' :: (x.render ++ renderItems xs) ++ rest) = _
    rw [List.cons_append, feed_cons_of_step (t := ⟨.array [] :: stack, .firstItem⟩) rfl,
      List.append_assoc, feed_firstItem,
      feed_render x _ _ (ended_renderItems x xs rest), document?, documentItems?]
    cases document? x with
    | none => rfl
    | some d =>
      show feed ⟨.array [d] :: stack, .after⟩ (renderItems xs ++ rest) = _
      rw [feed_renderItems xs [d] stack rest]
      cases documentItems? xs <;> rfl
  | .object [], stack, rest, _ => feed_cons _ _ _
  | .object ((k, v) :: fs), stack, rest, _ => by
    show feed ⟨stack, .value⟩
      ('\x7b' :: (quoted k ++ ':' :: (v.render ++ renderFields fs)) ++ rest) = _
    rw [List.cons_append, feed_cons_of_step (t := ⟨.object [] :: stack, .firstKey⟩) rfl,
      List.append_assoc, List.cons_append, feed_key (Or.inr rfl), List.append_assoc,
      feed_render v _ _ (ended_renderFields v fs rest), document?, documentFields?]
    cases document? v with
    | none => rfl
    | some d =>
      show feed ⟨.object [(pieces k, d)] :: stack, .after⟩ (renderFields fs ++ rest) = _
      rw [feed_renderFields fs [(pieces k, d)] stack rest]
      cases documentFields? fs <;> rfl

/-- The items after the first, and the closing bracket. -/
theorem feed_renderItems : ∀ (xs : List Json) (read : List Document) (stack : List Frame)
    (rest : List Char),
    feed ⟨.array read :: stack, .after⟩ (renderItems xs ++ rest)
      = (documentItems? xs).bind fun ds =>
        (complete (.array (read.reverse ++ ds)) stack).bind (feed · rest)
  | [], read, stack, rest => by
    show feed _ (']' :: rest) = (complete (.array (read.reverse ++ [])) stack).bind (feed · rest)
    rw [List.append_nil]
    exact feed_cons _ _ _
  | x :: xs, read, stack, rest => by
    show feed _ (',' :: (x.render ++ renderItems xs) ++ rest) = _
    rw [List.cons_append, feed_cons_of_step (t := ⟨.array read :: stack, .value⟩) rfl,
      List.append_assoc, feed_render x _ _ (ended_renderItems x xs rest), documentItems?]
    cases document? x with
    | none => rfl
    | some d =>
      show feed ⟨.array (d :: read) :: stack, .after⟩ (renderItems xs ++ rest) = _
      rw [feed_renderItems xs (d :: read) stack rest]
      cases documentItems? xs with
      | none => rfl
      | some ds =>
        show (complete (.array ((d :: read).reverse ++ ds)) stack).bind _
          = (complete (.array (read.reverse ++ d :: ds)) stack).bind _
        rw [List.reverse_cons, List.append_assoc]
        rfl

/-- The fields after the first, and the closing brace. -/
theorem feed_renderFields : ∀ (fs : List (String × Json)) (read : List (List Piece × Document))
    (stack : List Frame) (rest : List Char),
    feed ⟨.object read :: stack, .after⟩ (renderFields fs ++ rest)
      = (documentFields? fs).bind fun ds =>
        (complete (.object (read.reverse ++ ds)) stack).bind (feed · rest)
  | [], read, stack, rest => by
    show feed _ ('\x7d' :: rest)
      = (complete (.object (read.reverse ++ [])) stack).bind (feed · rest)
    rw [List.append_nil]
    exact feed_cons _ _ _
  | (k, v) :: fs, read, stack, rest => by
    show feed _ (',' :: (quoted k ++ ':' :: (v.render ++ renderFields fs)) ++ rest) = _
    rw [List.cons_append, feed_cons_of_step (t := ⟨.object read :: stack, .key⟩) rfl,
      List.append_assoc, List.cons_append, feed_key (Or.inl rfl), List.append_assoc,
      feed_render v _ _ (ended_renderFields v fs rest), documentFields?]
    cases document? v with
    | none => rfl
    | some d =>
      show feed ⟨.object ((pieces k, d) :: read) :: stack, .after⟩ (renderFields fs ++ rest) = _
      rw [feed_renderFields fs ((pieces k, d) :: read) stack rest]
      cases documentFields? fs with
      | none => rfl
      | some ds =>
        show (complete (.object (((pieces k, d) :: read).reverse ++ ds)) stack).bind _
          = (complete (.object (read.reverse ++ (pieces k, d) :: ds)) stack).bind _
        rw [List.reverse_cons, List.append_assoc]
        rfl

end

end Reader

/-- **The text of a value is read as its document.** -/
theorem ofText?_text (v : Json) : Document.ofText? v.text = document? v := by
  rw [Document.ofText?, text, String.toList_ofList]
  show (Reader.feed {} v.render).bind Reader.finish = _
  -- A number at the end of a text is ended by the text, not by a character.
  by_cases hnumber : ∃ n, v = .number n
  · obtain ⟨n, rfl⟩ := hnumber
    have hfeed := Reader.feed_number [] n []
    rw [List.append_nil] at hfeed
    show (Reader.feed ⟨[], .value⟩ n.text).bind Reader.finish = _
    rw [hfeed]
    show (Reader.numeral? n.text.reverse.reverse).map Document.number = _
    rw [List.reverse_reverse]
    rfl
  · have hfeed := Reader.feed_render v [] [] fun n hn => absurd ⟨n, hn⟩ hnumber
    rw [List.append_nil] at hfeed
    show (Reader.feed ⟨[], .value⟩ v.render).bind Reader.finish = _
    rw [hfeed]
    cases document? v <;> rfl

/-! ## §4. What is read is canonical -/

namespace Layout

mutual

theorem canonical_settle? : ∀ (layout : Layout) (depth : Nat) (d : Document) {w : Json},
    settle? layout depth d = some w → w.Canonical
  | _, _, .null, _, h => by
    rw [settle?] at h
    cases h
    trivial
  | _, _, .bool b, _, h => by
    rw [settle?] at h
    cases h
    trivial
  | _, _, .number n, _, h => by
    rw [settle?] at h
    obtain ⟨m, -, rfl⟩ := Option.map_eq_some_iff.1 h
    trivial
  | _, _, .string pieces, _, h => by
    rw [settle?] at h
    obtain ⟨s, -, rfl⟩ := Option.map_eq_some_iff.1 h
    trivial
  | layout, depth, .array items, _, h => by
    simp only [settle?] at h
    split at h
    · cases h
    · obtain ⟨seen, hseen, rfl⟩ := Option.map_eq_some_iff.1 h
      exact canonical_ofFields (canonical_settlePlaces? _ _ items hseen)
    · obtain ⟨seen, hseen, rfl⟩ := Option.map_eq_some_iff.1 h
      exact canonical_array.2 (canonical_settleItems? _ _ items hseen)
  | layout, depth, .object fields, _, h => by
    simp only [settle?] at h
    split at h
    · cases h
    · obtain ⟨seen, hseen, rfl⟩ := Option.map_eq_some_iff.1 h
      refine canonical_ofFields fun f hf => ?_
      exact canonical_settleFields? _ _ fields hseen f (List.mem_reverse.1 hf)

theorem canonical_settleItems? : ∀ (layout : Layout) (depth : Nat) (items : List Document)
    {ws : List Json}, settleItems? layout depth items = some ws → ∀ w ∈ ws, w.Canonical
  | _, _, [], _, h, w, hw => by
    rw [settleItems?] at h
    cases h
    cases hw
  | layout, depth, d :: rest, _, h, w, hw => by
    rw [settleItems?] at h
    obtain ⟨x, hx, h⟩ := Option.bind_eq_some_iff.1 h
    obtain ⟨xs, hxs, h⟩ := Option.bind_eq_some_iff.1 h
    cases h
    rcases List.mem_cons.1 hw with rfl | hw
    · exact canonical_settle? layout depth d hx
    · exact canonical_settleItems? layout depth rest hxs w hw

theorem canonical_settlePlaces? : ∀ (fields : List (String × Layout)) (depth : Nat)
    (items : List Document) {seen : List (String × Json)},
    settlePlaces? fields depth items = some seen → ∀ f ∈ seen, f.2.Canonical
  | _, _, [], _, h, f, hf => by
    rw [settlePlaces?] at h
    cases h
    cases hf
  | [], _, _ :: _, _, h, _, _ => by
    rw [settlePlaces?] at h
    cases h
  | (key, layout) :: fields, depth, d :: rest, _, h, f, hf => by
    rw [settlePlaces?] at h
    obtain ⟨x, hx, h⟩ := Option.bind_eq_some_iff.1 h
    obtain ⟨xs, hxs, h⟩ := Option.bind_eq_some_iff.1 h
    cases h
    rcases List.mem_cons.1 hf with rfl | hf
    · exact canonical_settle? layout depth d hx
    · exact canonical_settlePlaces? fields depth rest hxs f hf

theorem canonical_settleFields? : ∀ (layout : Layout) (depth : Nat)
    (fields : List (List Piece × Document)) {seen : List (String × Json)},
    settleFields? layout depth fields = some seen → ∀ f ∈ seen, f.2.Canonical
  | _, _, [], _, h, f, hf => by
    rw [settleFields?] at h
    cases h
    cases hf
  | layout, depth, (pieces, d) :: rest, _, h, f, hf => by
    rw [settleFields?] at h
    obtain ⟨key, -, h⟩ := Option.bind_eq_some_iff.1 h
    obtain ⟨others, hothers, h⟩ := Option.bind_eq_some_iff.1 h
    have hrest := canonical_settleFields? layout depth rest hothers
    split at h
    · cases h
      exact hrest f hf
    · next inner _ =>
      obtain ⟨x, hx, h⟩ := Option.bind_eq_some_iff.1 h
      split at h
      · cases h
        rcases List.mem_cons.1 hf with rfl | hf
        · exact canonical_settle? inner depth d hx
        · exact hrest f hf
      · cases h

end

end Layout

/-- Whatever is read from a text is canonical. -/
theorem canonical_of_read? {s : String} {v : Json} (h : read? s = some v) : v.Canonical := by
  obtain ⟨d, -, hd⟩ := Option.bind_eq_some_iff.1 h
  exact Layout.canonical_settle? _ _ d hd

/-! ## §5. What is read has the shape of what was written -/

/-- A head without the value of a number. -/
def Head.skeleton : Head → Head
  | .number _ => .number default
  | h => h

/-- Two values that differ in the values of numbers at most. -/
def SameShape (w v : Json) : Prop :=
  ∀ p, (w.head? p).map Head.skeleton = (v.head? p).map Head.skeleton

theorem SameShape.isSome {w v : Json} (h : SameShape w v) (p : Path) :
    (w.head? p).isSome = (v.head? p).isSome := by
  rw [← Option.isSome_map (f := Head.skeleton), h p, Option.isSome_map]

/-- Values without parts have one shape if their heads do. -/
theorem SameShape.of_head {w v : Json} (hh : w.head.skeleton = v.head.skeleton)
    (hw : ∀ step, w.child? step = none) (hv : ∀ step, v.child? step = none) : SameShape w v := by
  intro p
  match p with
  | [] => exact congrArg some hh
  | step :: p => rw [head?_cons, head?_cons, hw step, hv step]

/-- Lists of one length have one shape if their items do. -/
theorem SameShape.array {ws vs : List Json} (hlen : ws.length = vs.length)
    (h : ∀ (i : Nat) (w v : Json), ws[i]? = some w → vs[i]? = some v → SameShape w v) :
    SameShape (.array ws) (.array vs) := by
  intro p
  match p with
  | [] => simp [head, hlen]
  | .key k :: p => rfl
  | .item i :: p =>
    rw [head?_item, head?_item]
    by_cases hi : i < vs.length
    · have hi' : i < ws.length := by omega
      rw [List.getElem?_eq_getElem hi, List.getElem?_eq_getElem hi']
      exact h i _ _ (List.getElem?_eq_getElem hi') (List.getElem?_eq_getElem hi) p
    · have hi' : ¬ i < ws.length := by omega
      rw [List.getElem?_eq_none (by omega), List.getElem?_eq_none (by omega)]

/-- What is under one key on both sides: nothing, or values of one shape. -/
def SameField (w v : Option Json) : Prop :=
  (w = none ∧ v = none) ∨ ∃ x y, w = some x ∧ v = some y ∧ SameShape x y

theorem SameShape.object {ws vs : List (String × Json)}
    (h : ∀ k, SameField (Keyed.get? k ws) (Keyed.get? k vs)) :
    SameShape (.object ws) (.object vs) := by
  intro p
  match p with
  | [] => rfl
  | .item i :: p => rfl
  | .key k :: p =>
    rw [head?_key, head?_key, get?_object, get?_object]
    rcases h k with ⟨hw, hv⟩ | ⟨x, y, hw, hv, hxy⟩
    · rw [hw, hv]
    · rw [hw, hv]
      exact hxy p

/-- Code units below the surrogates are characters. -/
theorem chars?_unit {n : Nat} (h : n < 0xD800) (rest : List Piece) :
    Piece.chars? (.unit n :: rest) = (Piece.chars? rest).map (Char.ofNat n :: ·) := by
  have hhigh : Piece.isHigh n = false := by
    simp [Piece.isHigh]
    omega
  have hlow : Piece.isLow n = false := by
    simp [Piece.isLow]
    omega
  cases rest with
  | nil => simp [Piece.chars?, hhigh, hlow]
  | cons piece rest =>
    cases piece with
    | char c => simp [Piece.chars?, hhigh, hlow]
    | unit low => simp [Piece.chars?, hhigh, hlow]

/-- A text is read back from its pieces. -/
theorem text?_pieces (s : String) : Piece.text? (Reader.pieces s) = some s := by
  have hchars : ∀ cs : List Char, Piece.chars? (cs.map Reader.piece) = some cs := by
    intro cs
    induction cs with
    | nil => rfl
    | cons c cs ih =>
      rw [List.map_cons, Reader.piece]
      split
      · next h =>
        rw [chars?_unit (by omega), ih, Char.ofNat_toNat]
        rfl
      · rw [Piece.chars?, ih]
        rfl
  rw [Piece.text?, Reader.pieces, hchars, Option.map_some, String.ofList_toList]

/-- The items that are read, one by one. -/
theorem sameShape_settleItems? {depth : Nat} {vs : List Json}
    (ih : ∀ v ∈ vs, ∀ {d w}, document? v = some d → Layout.whole.settle? depth d = some w →
      SameShape w v)
    {ds : List Document} {ws : List Json} (hd : documentItems? vs = some ds)
    (hw : Layout.settleItems? .whole depth ds = some ws) :
    ws.length = vs.length ∧ ∀ (i : Nat) (w v : Json), ws[i]? = some w → vs[i]? = some v →
      SameShape w v := by
  induction vs generalizing ds ws with
  | nil =>
    cases hd
    cases hw
    exact ⟨rfl, fun i w v _ hv => by simp at hv⟩
  | cons v vs ihs =>
    obtain ⟨d, hdv, hds⟩ := Option.bind_eq_some_iff.1 hd
    obtain ⟨ds', hds', rfl⟩ := Option.map_eq_some_iff.1 hds
    rw [Layout.settleItems?] at hw
    obtain ⟨w, hwd, hw⟩ := Option.bind_eq_some_iff.1 hw
    obtain ⟨ws', hws', hw⟩ := Option.bind_eq_some_iff.1 hw
    cases hw
    obtain ⟨hlen, hall⟩ := ihs (fun x hx => ih x (List.mem_cons_of_mem _ hx)) hds' hws'
    refine ⟨by simp [hlen], ?_⟩
    intro i x y hx hy
    cases i with
    | zero =>
      cases hx
      cases hy
      exact ih v List.mem_cons_self hdv hwd
    | succ i => exact hall i x y hx hy

/-- The fields that are read, one by one and under the same keys. -/
theorem sameShape_settleFields? {depth : Nat} {vs : List (String × Json)}
    (ih : ∀ f ∈ vs, ∀ {d w}, document? f.2 = some d → Layout.whole.settle? depth d = some w →
      SameShape w f.2)
    {ds : List (List Piece × Document)} {ws : List (String × Json)}
    (hd : documentFields? vs = some ds)
    (hw : Layout.settleFields? .whole depth ds = some ws) :
    ws.map (·.1) = vs.map (·.1) ∧ ∀ k, SameField (Keyed.get? k ws) (Keyed.get? k vs) := by
  induction vs generalizing ds ws with
  | nil =>
    cases hd
    cases hw
    exact ⟨rfl, fun k => Or.inl ⟨rfl, rfl⟩⟩
  | cons f vs ihs =>
    obtain ⟨key, v⟩ := f
    obtain ⟨d, hdv, hds⟩ := Option.bind_eq_some_iff.1 hd
    obtain ⟨ds', hds', rfl⟩ := Option.map_eq_some_iff.1 hds
    rw [Layout.settleFields?, text?_pieces] at hw
    obtain ⟨key', hkey', hw⟩ := Option.bind_eq_some_iff.1 hw
    cases hkey'
    obtain ⟨ws', hws', hw⟩ := Option.bind_eq_some_iff.1 hw
    obtain ⟨w, hwd, hw⟩ := Option.bind_eq_some_iff.1 hw
    cases hw
    obtain ⟨hkeys, hall⟩ := ihs (fun x hx => ih x (List.mem_cons_of_mem _ hx)) hds' hws'
    refine ⟨by simp [hkeys], ?_⟩
    intro k
    rw [Keyed.get?_cons, Keyed.get?_cons]
    split
    · exact Or.inr ⟨w, v, rfl, rfl, ih (key, v) List.mem_cons_self hdv hwd⟩
    · exact hall k

theorem get?_reverse {entries : List (String × Json)} (h : Keyed.Sorted entries) (k : String) :
    Keyed.get? k entries.reverse = Keyed.get? k entries := by
  induction entries with
  | nil => rfl
  | cons e rest ih =>
    obtain ⟨a, b⟩ := e
    rw [List.reverse_cons, Keyed.get?_append, ih h.tail, Keyed.get?_cons, Keyed.get?_cons]
    split
    · next hak =>
      rw [← hak, h.head_not_mem]
      rfl
    · simp

/-- A document becomes a value of the shape that was written. -/
theorem sameShape_settle? {v : Json} (hv : v.Canonical) {depth : Nat} {d : Document} {w : Json}
    (hd : document? v = some d) (hw : Layout.whole.settle? depth d = some w) : SameShape w v := by
  -- At depth zero lists and objects are refused, so there is nothing to show of them.
  induction v using cases_on_parts generalizing depth d w with
  | null | bool | string =>
    cases hd
    simp only [Layout.settle?, text?_pieces] at hw
    cases hw
    exact fun p => rfl
  | number n =>
    obtain ⟨m, -, rfl⟩ := Option.map_eq_some_iff.1 hd
    rw [Layout.settle?] at hw
    obtain ⟨x, -, rfl⟩ := Option.map_eq_some_iff.1 hw
    exact SameShape.of_head rfl (fun step => by cases step <;> rfl) fun step => by cases step <;> rfl
  | array vs ih =>
    obtain ⟨ds, hds, rfl⟩ := Option.map_eq_some_iff.1 hd
    cases depth with
    | zero =>
      rw [Layout.settle?] at hw
      cases hw
    | succ depth =>
      rw [Layout.settle?] at hw
      · obtain ⟨ws, hws, rfl⟩ := Option.map_eq_some_iff.1 hw
        have hcanonical := canonical_array.1 hv
        obtain ⟨hlen, hall⟩ := sameShape_settleItems?
          (fun v hvm d w => ih v hvm (hcanonical v hvm)) hds hws
        exact SameShape.array hlen hall
      · intro fields h
        cases h
  | object vs ih =>
    obtain ⟨ds, hds, rfl⟩ := Option.map_eq_some_iff.1 hd
    cases depth with
    | zero =>
      rw [Layout.settle?] at hw
      cases hw
    | succ depth =>
      rw [Layout.settle?] at hw
      obtain ⟨ws, hws, rfl⟩ := Option.map_eq_some_iff.1 hw
      obtain ⟨hsorted, hcanonical⟩ := canonical_object.1 hv
      obtain ⟨hkeys, hall⟩ := sameShape_settleFields?
        (fun f hf d w => ih f hf (hcanonical f hf)) hds hws
      -- The keys are read in the order they were written in, so none of them is lost.
      have hws : Keyed.Sorted ws := by
        have hkeysSorted : (vs.map (·.1)).Pairwise (· < ·) := List.pairwise_map.2 hsorted
        rw [← hkeys] at hkeysSorted
        exact List.pairwise_map.1 hkeysSorted
      refine SameShape.object fun k => ?_
      rw [Keyed.get?_ofList, get?_reverse hws]
      exact hall k

/-- **A value is read back from its text, but for its numbers.** -/
theorem sameShape_of_read?_text {v w : Json} (hv : v.Canonical) (h : read? v.text = some w) :
    SameShape w v := by
  rw [read?, ofText?_text] at h
  obtain ⟨d, hd, hw⟩ := Option.bind_eq_some_iff.1 h
  exact sameShape_settle? hv hd hw

end Json

end LoggingOperator
