/-
  LoggingOperator.Main — THE PROGRAM.

  Reads the command line and prints.  Everything that is decided is decided in
  the other modules.
-/
import LoggingOperator.Controller
import LoggingOperator.Declaration.Schema
import LoggingOperator.Net.SocketAddress
import LoggingOperator.Usage

open LoggingOperator

/-- The program ends with an exit code. -/
def main (words : List String) : IO UInt32 := do
  match CommandLine.read words with
  | .error e =>
    if e.isRequest then IO.print e.message else IO.eprint e.message
    return e.exitCode
  | .ok .crd =>
    IO.print definitions
    return 0
  | .ok (.run options) =>
    match Net.metricsAddress options.metricsAddress with
    | .error e => IO.eprintln e.message
    | .ok _ => IO.eprintln "connecting to the cluster: there is no connection to a cluster"
    return 1
