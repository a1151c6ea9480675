/-
  LoggingOperator.Net.Ip — ADDRESSES OF HOSTS.

  A host has an address of four bytes, written as decimal numbers between dots,
  or one of eight groups of sixteen bits, written as hexadecimal numbers between
  colons.  In the second form one run of zero groups may be left out, and the
  last two groups may be written in the first form.

  Reading consumes as much of a text as it can and returns the rest.  Writing
  is canonical: numbers have no leading zeros, and the longest run of two or
  more zero groups, of several the first, is left out.
-/
import LoggingOperator.Text.Numeral

namespace LoggingOperator.Net

/-! ## §1. Numbers -/

/-- The value of a hexadecimal digit. -/
def hexDigit? (c : Char) : Option Nat :=
  if '0' ≤ c ∧ c ≤ '9' then some (c.toNat - '0'.toNat)
  else if 'a' ≤ c ∧ c ≤ 'f' then some (c.toNat - 'a'.toNat + 10)
  else if 'A' ≤ c ∧ c ≤ 'F' then some (c.toNat - 'A'.toNat + 10)
  else none

/-- The digits at the front of a text, and what follows them. -/
def spanHexDigits : List Char → List Nat × List Char
  | [] => ([], [])
  | c :: cs =>
    match hexDigit? c with
    | some d => let (ds, rest) := spanHexDigits cs; (d :: ds, rest)
    | none => ([], c :: cs)

/-- A decimal number below a bound; leading zeros are allowed. -/
def number? (bound : Nat) (cs : List Char) : Option (Nat × List Char) :=
  let (digits, rest) := Text.spanDigits cs
  if digits = [] then none
  else if Text.numeral digits < bound then some (Text.numeral digits, rest) else none

/-- A byte in decimal, without leading zeros. -/
def byte? (cs : List Char) : Option (UInt8 × List Char) :=
  let (digits, rest) := Text.spanDigits cs
  let n := Text.numeral digits
  if digits = [] ∨ 3 < digits.length ∨ 255 < n ∨ (1 < digits.length ∧ digits.head? = some 0) then none
  else some (n.toUInt8, rest)

/-- A group of sixteen bits in hexadecimal, with at most four digits. -/
def group? (cs : List Char) : Option (UInt16 × List Char) :=
  let (digits, rest) := spanHexDigits cs
  if digits = [] ∨ 4 < digits.length then none
  else some ((digits.foldl (fun n d => n * 16 + d) 0).toUInt16, rest)

/-- What follows this character. -/
def after? (c : Char) : List Char → Option (List Char)
  | d :: cs => if d = c then some cs else none
  | [] => none

/-! ## §2. Four bytes -/

/-- An address of four bytes. -/
structure Ipv4 where
  a : UInt8
  b : UInt8
  c : UInt8
  d : UInt8
deriving DecidableEq, Repr

namespace Ipv4

/-- The address at the front of a text, and what follows it. -/
def read? (cs : List Char) : Option (Ipv4 × List Char) := do
  let (a, cs) ← byte? cs
  let (b, cs) ← byte? (← after? '.' cs)
  let (c, cs) ← byte? (← after? '.' cs)
  let (d, cs) ← byte? (← after? '.' cs)
  return (⟨a, b, c, d⟩, cs)

/-- The address as it is written. -/
def text (ip : Ipv4) : String :=
  s!"{ip.a.toNat}.{ip.b.toNat}.{ip.c.toNat}.{ip.d.toNat}"

/-- The address as two groups of sixteen bits. -/
def groups (ip : Ipv4) : List UInt16 :=
  [ip.a.toUInt16 * 256 + ip.b.toUInt16, ip.c.toUInt16 * 256 + ip.d.toUInt16]

end Ipv4

/-! ## §3. Eight groups -/

/-- An address of eight groups. -/
structure Ipv6 where
  groups : List UInt16
  length_groups : groups.length = 8
deriving DecidableEq

namespace Ipv6

/-- The address with these groups in front and behind and zeros between. -/
def of? (front back : List UInt16) : Option Ipv6 :=
  let groups := front ++ List.replicate (8 - front.length - back.length) 0 ++ back
  if h : groups.length = 8 then some ⟨groups, h⟩ else none

/-- What stands before a group: a colon, unless it is the first one. -/
def separated? (isFirst : Bool) (cs : List Char) : Option (List Char) :=
  if isFirst then some cs else after? ':' cs

/-- At most `limit` groups at the front of a text, what follows them, and
    whether they end with an address of four bytes, which counts as two. -/
def readGroups (isFirst : Bool) : (limit : Nat) → List Char → List UInt16 × Bool × List Char
  | 0, cs => ([], false, cs)
  | limit + 1, cs =>
    match (if limit = 0 then none else (separated? isFirst cs).bind Ipv4.read?) with
    | some (ip, rest) => (ip.groups, true, rest)
    | none =>
      match (separated? isFirst cs).bind group? with
      | some (group, rest) =>
        let (groups, dotted, rest) := readGroups false limit rest
        (group :: groups, dotted, rest)
      | none => ([], false, cs)

/-- The address at the front of a text, and what follows it. -/
def read? (cs : List Char) : Option (Ipv6 × List Char) := do
  let (front, dotted, cs) := readGroups true 8 cs
  if front.length = 8 then return (← of? front [], cs)
  if dotted then none
  let cs ← after? ':' (← after? ':' cs)
  let (back, _, cs) := readGroups true (7 - front.length) cs
  return (← of? front back, cs)

/-- How many zero groups a list starts with. -/
def zeros (groups : List UInt16) : Nat :=
  (groups.takeWhile (· = 0)).length

/-- The start and the length of the longest run of zero groups; of several the
    first one.  `start` is the place of the first group of the list. -/
def longestRun (start : Nat) : List UInt16 → Nat × Nat
  | [] => (0, 0)
  | group :: groups =>
    let here := zeros (group :: groups)
    let (later, length) := longestRun (start + 1) groups
    if length ≤ here ∧ 0 < here then (start, here) else (later, length)

/-- Groups between colons. -/
def groupsText (groups : List UInt16) : String :=
  ":".intercalate (groups.map fun group => String.ofList (Nat.toDigits 16 group.toNat))

/-- The address of four bytes that the address stands for, if it stands for
    one. -/
def mapped? (ip : Ipv6) : Option Ipv4 :=
  match ip.groups with
  | [0, 0, 0, 0, 0, 0xFFFF, g, h] =>
    some ⟨(g / 256).toUInt8, (g % 256).toUInt8, (h / 256).toUInt8, (h % 256).toUInt8⟩
  | _ => none

/-- The address as it is written. -/
def text (ip : Ipv6) : String :=
  match ip.mapped? with
  | some four => s!"::ffff:{four.text}"
  | none =>
    let (start, length) := longestRun 0 ip.groups
    if 1 < length then
      s!"{groupsText (ip.groups.take start)}::{groupsText (ip.groups.drop (start + length))}"
    else groupsText ip.groups

end Ipv6

end LoggingOperator.Net
