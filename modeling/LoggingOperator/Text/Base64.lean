/-
  LoggingOperator.Text.Base64 — BASE64 WITH PADDING.

  The values of a Secret are bytes written in the standard alphabet: three
  bytes become four characters, and a last group of one or two bytes is
  padded with `=`.  Reading accepts exactly what writing produces: the length
  is a multiple of four, only the last group is padded, and the bits that the
  padding leaves over are zero.
-/

namespace LoggingOperator.Text.Base64

/-! ## §1. The alphabet -/

/-- The 64 characters in the order of their values. -/
def alphabet : List Char :=
  "ABCDEFGHIJKLMNOPQRSTUVWXYZabcdefghijklmnopqrstuvwxyz0123456789+/".toList

/-- The character of a six-bit value. -/
def char (n : Nat) : Char :=
  alphabet.getD n 'A'

/-- The six-bit value of a character. -/
def value? (c : Char) : Option Nat :=
  let n := c.toNat
  if 'A' ≤ c ∧ c ≤ 'Z' then some (n - 65)
  else if 'a' ≤ c ∧ c ≤ 'z' then some (n - 97 + 26)
  else if '0' ≤ c ∧ c ≤ '9' then some (n - 48 + 52)
  else if c = '+' then some 62
  else if c = '/' then some 63
  else none

/-! ## §2. Writing and reading -/

/-- The text of a list of bytes. -/
def encode : List UInt8 → List Char
  | [] => []
  | [a] =>
    let n := a.toNat * 16
    [char (n / 64), char (n % 64), '=', '=']
  | [a, b] =>
    let n := (a.toNat * 256 + b.toNat) * 4
    [char (n / 4096), char (n / 64 % 64), char (n % 64), '=']
  | a :: b :: c :: rest =>
    let n := a.toNat * 65536 + b.toNat * 256 + c.toNat
    char (n / 262144) :: char (n / 4096 % 64) :: char (n / 64 % 64) :: char (n % 64) :: encode rest

/-- The bytes written in a text; `none` if no list of bytes is written so. -/
def decode? : List Char → Option (List UInt8)
  | [] => some []
  | a :: b :: c :: d :: rest => do
    let va ← value? a
    let vb ← value? b
    if c = '=' then
      if d = '=' ∧ rest = [] ∧ vb % 16 = 0 then some [(va * 4 + vb / 16).toUInt8] else none
    else
      let vc ← value? c
      if d = '=' then
        if rest = [] ∧ vc % 4 = 0 then
          let n := va * 1024 + vb * 16 + vc / 4
          some [(n / 256).toUInt8, (n % 256).toUInt8]
        else none
      else
        let vd ← value? d
        let n := va * 262144 + vb * 4096 + vc * 64 + vd
        let bytes ← decode? rest
        some ((n / 65536).toUInt8 :: (n / 256 % 256).toUInt8 :: (n % 256).toUInt8 :: bytes)
  | _ => none

/-! ## §3. Text as bytes -/

/-- The UTF-8 bytes of a text. -/
def bytes (s : String) : List UInt8 :=
  s.toUTF8.data.toList

/-- The text with these UTF-8 bytes. -/
def text? (bytes : List UInt8) : Option String :=
  String.fromUTF8? ⟨bytes.toArray⟩

/-- The base64 text of a list of bytes, as a string. -/
def encoded (bytes : List UInt8) : String :=
  String.ofList (encode bytes)

end LoggingOperator.Text.Base64
