/-
  LoggingOperator.Net.SocketAddress — WHERE A SERVICE LISTENS.

  A service listens at the address of a host and a port.  An address of eight
  groups stands in brackets and may have a scope.  A bare port means every
  interface.
-/
import LoggingOperator.Net.Ip
import LoggingOperator.Text.Quoted

namespace LoggingOperator.Net

/-- An address and a port. -/
inductive SocketAddress where
  | v4 (ip : Ipv4) (port : UInt16)
  | v6 (ip : Ipv6) (scope : UInt32) (port : UInt16)
deriving DecidableEq

namespace SocketAddress

/-! ## §1. Parts -/

/-- The port. -/
def port : SocketAddress → UInt16
  | .v4 _ port | .v6 _ _ port => port

/-- Is the address one of eight groups? -/
def isV6 : SocketAddress → Bool
  | .v4 .. => false
  | .v6 .. => true

/-! ## §2. Reading and writing -/

/-- A colon and a port, with nothing behind them. -/
def port? (cs : List Char) : Option UInt16 := do
  match ← number? 65536 (← after? ':' cs) with
  | (n, []) => some n.toUInt16
  | _ => none

/-- A scope after a percent sign; without one the scope is zero. -/
def scope (cs : List Char) : UInt32 × List Char :=
  match (after? '%' cs).bind (number? 4294967296) with
  | some (n, rest) => (n.toUInt32, rest)
  | none => (0, cs)

/-- An address of four bytes and a port. -/
def v4? (cs : List Char) : Option SocketAddress := do
  let (ip, cs) ← Ipv4.read? cs
  return .v4 ip (← port? cs)

/-- An address of eight groups in brackets and a port. -/
def v6? (cs : List Char) : Option SocketAddress := do
  let (ip, cs) ← Ipv6.read? (← after? '[' cs)
  let (scope, cs) := scope cs
  return .v6 ip scope (← port? (← after? ']' cs))

/-- The address that a text is. -/
def ofText? (text : String) : Option SocketAddress :=
  (v4? text.toList).or (v6? text.toList)

/-- The address as it is written. -/
def text : SocketAddress → String
  | .v4 ip port => s!"{ip.text}:{port.toNat}"
  | .v6 ip scope port =>
    let scope := if scope = 0 then "" else s!"%{scope.toNat}"
    s!"[{ip.text}{scope}]:{port.toNat}"

end SocketAddress

/-! ## §3. The address of the metrics -/

/-- A text that is no address. -/
structure InvalidAddress where
  text : String
deriving DecidableEq, Repr

namespace InvalidAddress

/-- The text of the error. -/
def message (e : InvalidAddress) : String :=
  s!"invalid metrics address {Text.shown e.text}; expected host:port"

end InvalidAddress

/-- Where the metrics are served.  A bare port is served on every interface. -/
def metricsAddress (text : String) : Except InvalidAddress SocketAddress :=
  let full := if text.startsWith ":" then "0.0.0.0" ++ text else text
  match SocketAddress.ofText? full with
  | some address => .ok address
  | none => .error ⟨text⟩

end LoggingOperator.Net
