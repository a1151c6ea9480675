/-
  LoggingOperator.Http.Url — ADDRESSES OF SERVERS AND WHAT IS SENT TO THEM.

  The address of a request is a text: a scheme, a server and a path.  Before it
  is sent, the path is brought into the form that goes over the wire.  Blanks,
  controls, quotes and brackets that would end an address, and everything
  outside ASCII, are written as `%` and two digits per byte; a backslash counts
  as a slash; segments of one or two dots are walked, not sent; what follows a
  number sign is dropped.  What is written with `%` already stays as it is.

  Before the server there may be a name and a password.  They do not go into the
  path but into a header (`Url.authorization`).  The server itself is a name, a
  number of four bytes, or a number of eight groups in brackets.  A name may be
  written with `%`, and a name that ends like a number has to be one.
-/
import LoggingOperator.Http.Message
import LoggingOperator.Net.Ip

namespace LoggingOperator.Http

/-- A name and, perhaps, a password in an address. -/
structure Credentials where
  username : String
  password : Option String
deriving DecidableEq, Repr

/-- The server that a request goes to, and as whom. -/
structure Authority where
  credentials : Option Credentials := none
  host : String
  port : Nat
deriving DecidableEq, Repr

/-- The parts of an address. -/
structure Url extends Authority where
  secure : Bool
  /-- Path and query as they are sent. -/
  target : String
deriving DecidableEq, Repr

namespace Url

/-! ## §1. Escapes -/

/-- One digit of a byte. -/
def hexDigit (n : Nat) : Char :=
  (Nat.digitChar n).toUpper

/-- A byte written with a percent sign. -/
def escapeByte (b : UInt8) : List Char :=
  ['%', hexDigit (b.toNat / 16), hexDigit (b.toNat % 16)]

/-- A character, escaped if it is in the set. -/
def escapeChar (escaped : Char → Bool) (c : Char) : List Char :=
  if escaped c then (Text.Base64.bytes (String.singleton c)).flatMap escapeByte else [c]

/-- Every character of the set is escaped. -/
def escape (escaped : Char → Bool) (cs : List Char) : List Char :=
  cs.flatMap (escapeChar escaped)

/-- The bytes of a text with escapes.  A percent sign without two digits stands for
    itself. -/
def unescaped : List Char → List UInt8
  | '%' :: a :: b :: cs =>
    match Net.hexDigit? a, Net.hexDigit? b with
    | some x, some y => (16 * x + y).toUInt8 :: unescaped cs
    | _, _ => '%'.toUInt8 :: unescaped (a :: b :: cs)
  | c :: cs => Text.Base64.bytes (String.singleton c) ++ unescaped cs
  | [] => []

/-- The text that is meant by a text with escapes, if it is one. -/
def meant? (cs : List Char) : Option String :=
  Text.Base64.text? (unescaped cs)

/-- Controls, and everything outside ASCII. -/
def isControl (c : Char) : Bool :=
  c < ' ' || '~' < c

/-- What cannot stand in a path. -/
def escapedInPath (c : Char) : Bool :=
  isControl c || [' ', '"', '#', '<', '>', '?', '`', '\x7b', '\x7d'].contains c

/-- What cannot stand in a query. -/
def escapedInQuery (c : Char) : Bool :=
  isControl c || [' ', '"', '#', '<', '>', '\x27'].contains c

/-! ## §2. Paths -/

/-- Does a character separate segments? -/
def isSlash (c : Char) : Bool :=
  c == '/' || c == '\\'

/-- The parts of a text between separators. -/
def partsBetween (separates : Char → Bool) : List Char → List (List Char)
  | [] => [[]]
  | c :: cs =>
    if separates c then [] :: partsBetween separates cs
    else
      match partsBetween separates cs with
      | part :: rest => (c :: part) :: rest
      | [] => [[c]]

/-- The segments of a path: the parts between its slashes. -/
def segments (cs : List Char) : List (List Char) :=
  partsBetween isSlash cs

/-- A segment with its escaped dots as dots. -/
def undotted : List Char → List Char
  | '%' :: '2' :: 'e' :: cs | '%' :: '2' :: 'E' :: cs => '.' :: undotted cs
  | c :: cs => c :: undotted cs
  | [] => []

/-- One dot: stay here. -/
def isHere (segment : List Char) : Bool :=
  undotted segment == ['.']

/-- Two dots: go up. -/
def isUp (segment : List Char) : Bool :=
  undotted segment == ['.', '.']

/-- Walk the segments; `done` are those so far, the last one first. -/
def walk (done : List (List Char)) : List (List Char) → List (List Char)
  | [] => done
  | [segment] =>
    if isUp segment then [] :: done.drop 1
    else if isHere segment then [] :: done
    else segment :: done
  | segment :: rest =>
    if isUp segment then walk (done.drop 1) rest
    else if isHere segment then walk done rest
    else walk (segment :: done) rest

/-- A path as it is sent; it starts with a slash. -/
def sentPath (path : List Char) : List Char :=
  let path := match path with
    | c :: cs => if isSlash c then cs else c :: cs
    | [] => []
  (walk [] (segments path)).reverse.flatMap fun segment => '/' :: escape escapedInPath segment

/-- A query as it is sent, with its question mark. -/
def sentQuery : List Char → List Char
  | '?' :: query => '?' :: escape escapedInQuery query
  | _ => []

/-! ## §3. Names and numbers of servers -/

/-- Can the character stand in the name of a server?  Beyond ASCII only controls
    cannot. -/
def isHostChar (c : Char) : Bool :=
  !(c < ' ' || ('~' < c && c < Char.ofNat 0xA0)
    || " \"#%/:<>?@[\\]^`\x7b|\x7d".toList.contains c)

/-- The number with these digits, if they are digits to the base. -/
def numeral? (base : Nat) (digits : List Char) : Option Nat := do
  let digits ← digits.mapM Net.hexDigit?
  if digits.all (· < base) then some (digits.foldl (fun n d => n * base + d) 0) else none

/-- A part of a number of four bytes: decimal, hexadecimal behind `0x`, or octal
    behind `0`. -/
def part? : List Char → Option Nat
  | [] => none
  | '0' :: 'x' :: digits => numeral? 16 digits
  | '0' :: d :: digits => numeral? 8 (d :: digits)
  | digits => numeral? 10 digits

/-- The parts of a name between its dots; a dot at its end does not count. -/
def nameParts (name : List Char) : List (List Char) :=
  let parts := partsBetween (· == '.') name
  if parts.getLast? = some [] then parts.dropLast else parts

/-- Does a name end like a number? -/
def endsInNumber (name : List Char) : Bool :=
  match (nameParts name).getLast? with
  | some part => (part != [] && part.all Text.isDigit) || (part? part).isSome
  | none => false

/-- Is the name a number of four bytes?  The last part may stand for several of
    them. -/
def isFourBytes (name : List Char) : Bool :=
  ((nameParts name).mapM part?).any fun numbers =>
    numbers.length ≤ 4 && numbers.dropLast.all (· < 256)
      && numbers.getLast?.any (· < Nat.pow 256 (5 - numbers.length))

/-- The server that a name stands for: letters of ASCII become small. -/
def named? (cs : List Char) : Option String := do
  let name := (← meant? cs).toList.map Char.toLower
  if name = [] || !name.all isHostChar || (endsInNumber name && !isFourBytes name) then none
  else some (String.ofList name)

/-- The server that a number in brackets stands for. -/
def numbered? (cs : List Char) : Option String :=
  match Net.Ipv6.read? cs with
  | some (ip, []) => some ("[" ++ ip.text ++ "]")
  | _ => none

/-! ## §4. Servers -/

/-- The rest of a text that starts with these letters in either case. -/
def afterWord? : List Char → List Char → Option (List Char)
  | [], cs => some cs
  | w :: ws, c :: cs => if c.toLower = w then afterWord? ws cs else none
  | _ :: _, [] => none

/-- The scheme of an address, and what follows it. -/
def scheme? (cs : List Char) : Option (Bool × List Char) :=
  match afterWord? "http:".toList cs with
  | some rest => some (false, rest)
  | none => (afterWord? "https:".toList cs).map fun rest => (true, rest)

/-- The port of a server: none is the usual one. -/
def port? (secure : Bool) : List Char → Option Nat
  | [] | [':'] => some (if secure then 443 else 80)
  | ':' :: digits => do
    let n ← Text.natural? digits
    if n < 65536 then some n else none
  | _ => none

/-- The server without name and password: its name or its number in brackets, and
    its port. -/
def host? (secure : Bool) : List Char → Option Authority
  | '[' :: cs =>
    match cs.dropWhile (· ≠ ']') with
    | ']' :: port => do
      return { host := ← numbered? (cs.takeWhile (· ≠ ']')), port := ← port? secure port }
    | _ => none
  | cs => do
    return {
      host := ← named? (cs.takeWhile (· ≠ ':'))
      port := ← port? secure (cs.dropWhile (· ≠ ':')) }

/-- The name and the password in a text; there are none if the name is not a text or
    if both are empty. -/
def credentials? (cs : List Char) : Option Credentials := do
  let username ← meant? (cs.takeWhile (· ≠ ':'))
  let password :=
    match (cs.dropWhile (· ≠ ':')).drop 1 with
    | [] => none
    | password => meant? password
  if username = "" ∧ password = none then none else some { username, password }

/-- The authority of an address.  What stands before the last `@` says as whom it is
    asked. -/
def authority? (secure : Bool) (cs : List Char) : Option Authority :=
  if cs.contains '@' then
    let behind := (cs.reverse.takeWhile (· ≠ '@')).reverse
    let before := (cs.reverse.dropWhile (· ≠ '@')).reverse.dropLast
    (host? secure behind).map fun authority =>
      { authority with credentials := credentials? before }
  else host? secure cs

/-! ## §5. Addresses -/

/-- Does the character end the server of an address? -/
def endsServer (c : Char) : Bool :=
  isSlash c || c == '?' || c == '#'

/-- Blanks and controls around an address do not count. -/
def trimmed (cs : List Char) : List Char :=
  ((cs.dropWhile (· ≤ ' ')).reverse.dropWhile (· ≤ ' ')).reverse

/-- The address that a text is. -/
def ofText? (text : String) : Option Url := do
  let cs := (trimmed text.toList).filter fun c => c ≠ '\t' ∧ c ≠ '\n' ∧ c ≠ '\r'
  let (secure, rest) ← scheme? cs
  let rest := rest.dropWhile isSlash
  let authority ← authority? secure (rest.takeWhile fun c => !endsServer c)
  let tail := (rest.dropWhile fun c => !endsServer c).takeWhile (· ≠ '#')
  let path := sentPath (tail.takeWhile (· ≠ '?'))
  let query := sentQuery (tail.dropWhile (· ≠ '?'))
  return { toAuthority := authority, secure, target := String.ofList (path ++ query) }

/-- The header for the name and the password in an address. -/
def authorization (url : Url) : Option String :=
  url.credentials.map fun c => basicAuthorization c.username (c.password.getD "")

end Url

end LoggingOperator.Http
