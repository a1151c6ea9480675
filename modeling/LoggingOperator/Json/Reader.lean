/-
  LoggingOperator.Json.Reader — READING JSON TEXT.

  The reader accepts the texts of the grammar of RFC 8259 and nothing else: no
  byte order mark, no trailing data, blanks only from the four of the grammar.
  What it reads is a document; a text is a value (`Json.read?`) if its document
  is one, so half of a surrogate pair, a number beyond the greatest float or
  more than 127 levels of nesting are refused.  Of two fields with one key the
  later one counts.

  The reader is a machine that takes one character at a time.  What is still
  open is a stack of frames; what the next character may be is a mode.  Reading
  a text is then a fold over its characters, and a document is finished in one
  place (`complete`), whatever it is part of.
-/
import LoggingOperator.Json.Document

namespace LoggingOperator.Json.Reader

/-! ## §1. Numbers -/

/-- The exponent at the end of a number: `none` if there is an `e` without
    digits or anything else. -/
def exponent? : List Char → Option (Option Int)
  | [] => some none
  | e :: cs =>
    if e = 'e' ∨ e = 'E' then
      let (negative, cs) := match cs with
        | '-' :: cs => (true, cs)
        | '+' :: cs => (false, cs)
        | cs => (false, cs)
      match Text.spanDigits cs with
      | (d :: ds, []) =>
        let n : Int := Text.numeral (d :: ds)
        some (some (if negative then -n else n))
      | _ => none
    else none

/-- The number without its minus sign.  There is no zero before other digits. -/
def magnitude? (negative : Bool) (cs : List Char) : Option Numeral :=
  match Text.spanDigits cs with
  | ([], _) | (0 :: _ :: _, _) => none
  | (whole, '.' :: rest) =>
    match Text.spanDigits rest with
    | ([], _) => none
    | (fraction, rest) =>
      (exponent? rest).map fun exponent => { negative, whole, fraction, exponent }
  | (whole, rest) =>
    (exponent? rest).map fun exponent => { negative, whole, fraction := [], exponent }

/-- The number written in a text. -/
def numeral? : List Char → Option Numeral
  | '-' :: cs => magnitude? true cs
  | cs => magnitude? false cs

/-! ## §2. The machine -/

/-- Something open around the place where the machine reads. -/
inductive Frame where
  /-- An array with the items read so far, the last one first. -/
  | array (items : List Document)
  /-- An object with the fields read so far, the last one first. -/
  | object (fields : List (List Piece × Document))
  /-- An object whose field `key` is being read. -/
  | member (fields : List (List Piece × Document)) (key : List Piece)

/-- How far the machine is in an escape sequence. -/
inductive Escape where
  | none
  /-- After a backslash. -/
  | backslash
  /-- After `\u` and `count` hexadecimal digits of value `unit`. -/
  | unit (count unit : Nat)

/-- What the machine is reading. -/
inductive Mode where
  /-- A value must start. -/
  | value
  /-- A value must start, or the array ends. -/
  | firstItem
  /-- A key must start, or the object ends. -/
  | firstKey
  /-- A key must start. -/
  | key
  /-- A key was read. -/
  | colon
  /-- In a string, with its pieces so far, the last one first. -/
  | string (isKey : Bool) (read : List Piece) (escape : Escape)
  /-- In a number, with its characters so far, the last one first. -/
  | number (read : List Char)
  /-- In one of the three words, with the characters still to come. -/
  | word (rest : List Char) (document : Document)
  /-- A value inside an array or an object was read. -/
  | after
  /-- The whole document was read. -/
  | done (document : Document)

/-- The machine: what is open and what is being read. -/
structure Machine where
  stack : List Frame := []
  mode : Mode := .value

/-- Blanks between tokens. -/
def isBlank (c : Char) : Bool :=
  c == ' ' || c == '\n' || c == '\t' || c == '\r'

/-- A document is finished: it goes into whatever is open around it. -/
def complete (d : Document) : List Frame → Option Machine
  | [] => some ⟨[], .done d⟩
  | .array items :: stack => some ⟨.array (d :: items) :: stack, .after⟩
  | .member fields key :: stack => some ⟨.object ((key, d) :: fields) :: stack, .after⟩
  | .object _ :: _ => none

/-- A character that starts a value. -/
def start (c : Char) (stack : List Frame) : Option Machine :=
  match c with
  | '[' => some ⟨.array [] :: stack, .firstItem⟩
  | '\x7b' => some ⟨.object [] :: stack, .firstKey⟩
  | '"' => some ⟨stack, .string false [] .none⟩
  | 'n' => some ⟨stack, .word ['u', 'l', 'l'] .null⟩
  | 't' => some ⟨stack, .word ['r', 'u', 'e'] (.bool true)⟩
  | 'f' => some ⟨stack, .word ['a', 'l', 's', 'e'] (.bool false)⟩
  | c => if c = '-' ∨ Text.isDigit c then some ⟨stack, .number [c]⟩ else none

/-- A character after a value inside an array or an object. -/
def next (c : Char) (stack : List Frame) : Option Machine :=
  if isBlank c then some ⟨stack, .after⟩
  else match c, stack with
    | ',', .array items :: stack => some ⟨.array items :: stack, .value⟩
    | ']', .array items :: stack => complete (.array items.reverse) stack
    | ',', .object fields :: stack => some ⟨.object fields :: stack, .key⟩
    | '\x7d', .object fields :: stack => complete (.object fields.reverse) stack
    | _, _ => none

/-- The character of a short escape. -/
def shortEscape? : Char → Option Char
  | '"' => some '"'
  | '\\' => some '\\'
  | '/' => some '/'
  | 'b' => some '\x08'
  | 'f' => some '\x0c'
  | 'n' => some '\n'
  | 'r' => some '\r'
  | 't' => some '\t'
  | _ => none

/-- The value of a hexadecimal digit. -/
def hexValue? (c : Char) : Option Nat :=
  if '0' ≤ c ∧ c ≤ '9' then some (c.toNat - '0'.toNat)
  else if 'a' ≤ c ∧ c ≤ 'f' then some (c.toNat - 'a'.toNat + 10)
  else if 'A' ≤ c ∧ c ≤ 'F' then some (c.toNat - 'A'.toNat + 10)
  else none

/-- A character inside a string that does not end it. -/
def inString (c : Char) (read : List Piece) : Escape → Option (List Piece × Escape)
  | .none =>
    if c = '\\' then some (read, .backslash)
    else if c.toNat < 32 then none
    else some (.char c :: read, .none)
  | .backslash =>
    if c = 'u' then some (read, .unit 0 0)
    else (shortEscape? c).map fun e => (.char e :: read, .none)
  | .unit count unit => do
    let unit := unit * 16 + (← hexValue? c)
    if count = 3 then some (.unit unit :: read, .none)
    else some (read, .unit (count + 1) unit)

/-- Can the character be part of a number? -/
def isNumberChar (c : Char) : Bool :=
  Text.isDigit c || c == '-' || c == '+' || c == '.' || c == 'e' || c == 'E'

/-- A character once a value is finished. -/
def follow (c : Char) (m : Machine) : Option Machine :=
  match m.mode with
  | .after => next c m.stack
  | .done d => if isBlank c then some ⟨m.stack, .done d⟩ else none
  | _ => none

/-- A string is finished: it is a key or a value. -/
def endString (isKey : Bool) (pieces : List Piece) (stack : List Frame) : Option Machine :=
  if isKey then
    match stack with
    | .object fields :: stack => some ⟨.member fields pieces :: stack, .colon⟩
    | _ => none
  else complete (.string pieces) stack

/-- The machine takes one character. -/
def step (m : Machine) (c : Char) : Option Machine :=
  match m.mode with
  | .value => if isBlank c then some m else start c m.stack
  | .firstItem =>
    if isBlank c then some m
    else match c, m.stack with
      | ']', .array _ :: stack => complete (.array []) stack
      | c, stack => start c stack
  | .firstKey =>
    if isBlank c then some m
    else match c, m.stack with
      | '\x7d', .object _ :: stack => complete (.object []) stack
      | '"', stack => some ⟨stack, .string true [] .none⟩
      | _, _ => none
  | .key =>
    if isBlank c then some m
    else if c = '"' then some ⟨m.stack, .string true [] .none⟩ else none
  | .colon =>
    if isBlank c then some m
    else if c = ':' then some ⟨m.stack, .value⟩ else none
  | .string isKey read escape =>
    match c, escape with
    | '"', .none => endString isKey read.reverse m.stack
    | c, escape =>
      (inString c read escape).map fun (read, escape) => ⟨m.stack, .string isKey read escape⟩
  | .number read =>
    if isNumberChar c then some ⟨m.stack, .number (c :: read)⟩
    else do
      let n ← numeral? read.reverse
      follow c (← complete (.number n) m.stack)
  | .word [] _ => none
  | .word (w :: rest) d =>
    if c ≠ w then none
    else if rest = [] then complete d m.stack
    else some ⟨m.stack, .word rest d⟩
  | .after => next c m.stack
  | .done d => if isBlank c then some ⟨m.stack, .done d⟩ else none

/-- The document read when the text ends. -/
def finish (m : Machine) : Option Document :=
  match m.mode, m.stack with
  | .done d, _ => some d
  | .number read, [] => (numeral? read.reverse).map .number
  | _, _ => none

end LoggingOperator.Json.Reader

namespace LoggingOperator.Json

/-- The document that a text is, if it is a JSON text. -/
def Document.ofText? (s : String) : Option Document :=
  (s.toList.foldlM Reader.step {}).bind Reader.finish

/-- The value written in a text, if the text is a JSON text. -/
def read? (s : String) : Option Json :=
  (Document.ofText? s).bind Document.value?

end LoggingOperator.Json
