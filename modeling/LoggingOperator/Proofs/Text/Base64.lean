/-
  LoggingOperator.Proofs.Text.Base64 — BASE64 READS BACK.

  The proof follows the groups of the encoder: a last group of one or two
  bytes, and full groups of three.  The characters of a group are values
  below 64, none of which is written as the padding.
-/
import LoggingOperator.Text.Base64

namespace LoggingOperator.Text.Base64

/-- A six-bit value is written as a character that reads back and is no padding. -/
theorem value?_char : ∀ n < 64, value? (char n) = some n ∧ char n ≠ '=' := by
  decide +kernel

theorem value?_char_of_lt {n : Nat} (h : n < 64) : value? (char n) = some n :=
  (value?_char n h).1

theorem char_ne_padding {n : Nat} (h : n < 64) : char n ≠ '=' :=
  (value?_char n h).2

theorem toUInt8_eq {n : Nat} {a : UInt8} (h : n = a.toNat) : n.toUInt8 = a := by
  subst h
  exact UInt8.ofNat_toNat

/-- A number is put together from its six-bit values. -/
theorem sextets (n : Nat) :
    n / 262144 * 262144 + n / 4096 % 64 * 4096 + n / 64 % 64 * 64 + n % 64 = n := by
  have hlow : n / 64 % 64 * 64 + n % 64 = n % 4096 := by omega
  have hmiddle : n / 4096 % 64 * 4096 + n % 4096 = n % 262144 := by omega
  rw [Nat.add_assoc, hlow, Nat.add_assoc, hmiddle]
  exact Nat.div_add_mod' n 262144

/-- **What was encoded is decoded again.** -/
theorem decode?_encode (bytes : List UInt8) : decode? (encode bytes) = some bytes := by
  induction bytes using encode.induct with
  | case1 => rfl
  | case2 a =>
    have ha := a.toNat_lt
    simp only [encode, decode?]
    generalize hn : a.toNat * 16 = n
    have hhigh := value?_char_of_lt (n := n / 64) (by omega)
    have hlow := value?_char_of_lt (n := n % 64) (by omega)
    have hbyte : (n / 64 * 4 + n % 64 / 16).toUInt8 = a := toUInt8_eq (by omega)
    rw [hhigh, hlow]
    simp only [Option.bind_eq_bind, Option.bind_some, if_true]
    rw [if_pos ⟨trivial, trivial, by omega⟩, hbyte]
  | case3 a b =>
    have ha := a.toNat_lt
    have hb := b.toNat_lt
    simp only [encode, decode?]
    generalize hn : (a.toNat * 256 + b.toNat) * 4 = n
    have hfirst := value?_char_of_lt (n := n / 4096) (by omega)
    have hsecond := value?_char_of_lt (n := n / 64 % 64) (by omega)
    have hthird := value?_char_of_lt (n := n % 64) (by omega)
    have hpadding : char (n % 64) ≠ '=' := char_ne_padding (by omega)
    rw [hfirst, hsecond, hthird]
    simp only [Option.bind_eq_bind, Option.bind_some, if_neg hpadding, if_true]
    rw [if_pos ⟨trivial, by omega⟩]
    have ha' : ((n / 4096 * 1024 + n / 64 % 64 * 16 + n % 64 / 4) / 256).toUInt8 = a :=
      toUInt8_eq (by omega)
    have hb' : ((n / 4096 * 1024 + n / 64 % 64 * 16 + n % 64 / 4) % 256).toUInt8 = b :=
      toUInt8_eq (by omega)
    rw [ha', hb']
  | case4 a b c rest ih =>
    have ha := a.toNat_lt
    have hb := b.toNat_lt
    have hc := c.toNat_lt
    simp only [encode, decode?]
    generalize hn : a.toNat * 65536 + b.toNat * 256 + c.toNat = n
    have hfirst := value?_char_of_lt (n := n / 262144) (by omega)
    have hsecond := value?_char_of_lt (n := n / 4096 % 64) (by omega)
    have hthird := value?_char_of_lt (n := n / 64 % 64) (by omega)
    have hfourth := value?_char_of_lt (n := n % 64) (by omega)
    have hpadding : char (n / 64 % 64) ≠ '=' := char_ne_padding (by omega)
    have hpadding' : char (n % 64) ≠ '=' := char_ne_padding (by omega)
    rw [hfirst, hsecond, hthird, hfourth, ih]
    simp only [Option.bind_eq_bind, Option.bind_some, if_neg hpadding, if_neg hpadding', sextets]
    have ha' : (n / 65536).toUInt8 = a := toUInt8_eq (by omega)
    have hb' : (n / 256 % 256).toUInt8 = b := toUInt8_eq (by omega)
    have hc' : (n % 256).toUInt8 = c := toUInt8_eq (by omega)
    rw [ha', hb', hc']

/-- The bytes of a text are a text. -/
theorem text?_bytes (s : String) : text? (bytes s) = some s := by
  have hvalid : s.toUTF8.IsValidUTF8 := s.isValidUTF8
  show String.fromUTF8? s.toUTF8 = some s
  rw [String.fromUTF8?, dif_pos hvalid]
  rfl

/-- A text has one list of bytes, and these are only its own. -/
theorem text?_eq_some_iff {encoded : List UInt8} {s : String} :
    text? encoded = some s ↔ encoded = bytes s := by
  constructor
  · intro h
    rw [text?, String.fromUTF8?] at h
    split at h
    · cases h
      rfl
    · cases h
  · rintro rfl
    exact text?_bytes s

end LoggingOperator.Text.Base64
