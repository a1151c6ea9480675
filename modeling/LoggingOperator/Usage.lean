/-
  LoggingOperator.Usage — WHAT IS SHOWN ABOUT THE COMMAND LINE.

  Help and version are asked for and are no failures; every other usage error
  is one.
-/
import LoggingOperator.CommandLine

namespace LoggingOperator

namespace Usage

/-- The version of the program. -/
def version : String := "0.1.0"

/-- The commands and options. -/
def help : String :=
  "Logging stack operator\n\n"
  ++ "Usage: lograft <COMMAND>\n\n"
  ++ "Commands:\n"
  ++ "  run   Run the controllers\n"
  ++ "  crd   Print the custom resource definitions as a YAML stream\n"
  ++ "  help  Print this message\n\n"
  ++ "Options of run:\n"
  ++ "      --metrics-addr <ADDRESS>          Prometheus listener, host:port or :port [:8080]\n"
  ++ "      --leader-elect                    Only reconcile while holding the leader lease\n"
  ++ "      --namespace <NAME>                Watch a single namespace (default: all)\n"
  ++ "      --requeue-secs <SECONDS>          Seconds between two passes [10]\n"
  ++ "      --elastic-timeout-secs <SECONDS>  Timeout for calls to a management API [10]\n"
  ++ "      --lease-namespace <NAME>          Namespace of the leader lease [default]\n"

end Usage

namespace UsageError

/-- Was the text asked for? -/
def isRequest : UsageError → Bool
  | .displayHelp | .displayVersion => true
  | _ => false

/-- What is shown. -/
def message : UsageError → String
  | .displayHelp | .missingCommand => Usage.help
  | .displayVersion => s!"lograft {Usage.version}\n"
  | .invalidCommand word => s!"error: unrecognized subcommand '{word}'\n"
  | .unknownArgument word => s!"error: unexpected argument '{word}' found\n"
  | .missingValue option => s!"error: a value is required for '--{option}' but none was supplied\n"
  | .invalidValue option value => s!"error: invalid value '{value}' for '--{option}'\n"
  | .repeated option => s!"error: the argument '--{option}' cannot be used multiple times\n"
  | .unexpectedValue option => s!"error: unexpected value for '--{option}'; no more were expected\n"

/-- The exit code of the program. -/
def exitCode (e : UsageError) : UInt32 :=
  if e.isRequest then 0 else 2

end UsageError

end LoggingOperator
