/-
  LoggingOperator.CommandLine — THE WORDS OF THE COMMAND LINE.

  The program has two commands: `run`, with its options, and `crd`.  The value
  of an option follows an equals sign or is the next word.  A word that starts
  with a dash is never a value.

  An option whose value is the next word is settled only when the next option
  comes or the words end: only then is it found that the value is missing, bad,
  or given for the second time.  A word that belongs to nothing is an error
  before that.

  Main definition:
    * `CommandLine.read` — the command that the words ask for.
-/
import LoggingOperator.Text.Numeral

namespace LoggingOperator

/-! ## §1. Commands and errors -/

/-- The options of `run`. -/
structure RunOptions where
  metricsAddress : String := ":8080"
  leaderElect : Bool := false
  ns : Option String := none
  requeueSeconds : Nat := 10
  managementTimeoutSeconds : Nat := 10
  leaseNamespace : String := "default"
deriving DecidableEq, Repr

/-- What the program is asked to do. -/
inductive Command where
  | run (options : RunOptions)
  | crd
deriving DecidableEq, Repr

/-- Why there is no command. -/
inductive UsageError where
  | displayHelp
  | displayVersion
  /-- No command is given, so help is shown instead. -/
  | missingCommand
  | invalidCommand (word : String)
  | unknownArgument (word : String)
  | missingValue (option : String)
  | invalidValue (option value : String)
  | repeated (option : String)
  /-- A value for an option that takes none. -/
  | unexpectedValue (option : String)
deriving DecidableEq, Repr

namespace CommandLine

/-! ## §2. Options -/

/-- The options of `run` that take a value. -/
inductive ValueOption where
  | metricsAddress
  | ns
  | requeueSeconds
  | managementTimeoutSeconds
  | leaseNamespace
deriving DecidableEq, Repr

namespace ValueOption

/-- Every option that takes a value. -/
def all : List ValueOption :=
  [.metricsAddress, .ns, .requeueSeconds, .managementTimeoutSeconds, .leaseNamespace]

/-- The option as it is written, without its dashes. -/
def word : ValueOption → String
  | .metricsAddress => "metrics-addr"
  | .ns => "namespace"
  | .requeueSeconds => "requeue-secs"
  | .managementTimeoutSeconds => "elastic-timeout-secs"
  | .leaseNamespace => "lease-namespace"

end ValueOption

/-- The flag of `run`. -/
def leaderElectWord : String := "leader-elect"

/-- A number of seconds: an unsigned 64-bit integer, perhaps with a plus
    sign. -/
def seconds? (text : String) : Option Nat :=
  let digits := match text.toList with
    | '+' :: cs => cs
    | cs => cs
  match Text.natural? digits with
  | some n => if n < 18446744073709551616 then some n else none
  | none => none

/-- The options with one more value. -/
def assign (options : RunOptions) (o : ValueOption) (value : String) :
    Except UsageError RunOptions :=
  let number (use : Nat → RunOptions) : Except UsageError RunOptions :=
    match seconds? value with
    | some n => .ok (use n)
    | none => .error (.invalidValue o.word value)
  match o with
  | .metricsAddress => .ok { options with metricsAddress := value }
  | .ns => .ok { options with ns := some value }
  | .requeueSeconds => number fun n => { options with requeueSeconds := n }
  | .managementTimeoutSeconds => number fun n => { options with managementTimeoutSeconds := n }
  | .leaseNamespace => .ok { options with leaseNamespace := value }

/-! ## §3. Words -/

/-- What a word looks like. -/
inductive Word where
  /-- Two dashes alone: no options follow. -/
  | stop
  /-- Two dashes and a name, perhaps with a value. -/
  | long (name : String) (value : Option String)
  /-- One dash and letters, of which the first counts. -/
  | short (letter : Char)
  | plain (text : String)
deriving DecidableEq, Repr

/-- Look at a word. -/
def Word.of (text : String) : Word :=
  match text.toList with
  | ['-', '-'] => .stop
  | '-' :: '-' :: cs =>
    let name := String.ofList (cs.takeWhile (· ≠ '='))
    match cs.dropWhile (· ≠ '=') with
    | _ :: value => .long name (some (String.ofList value))
    | [] => .long name none
  | '-' :: c :: _ => .short c
  | _ => .plain text

/-! ## §4. The words after a command -/

/-- What is known while the words of `run` are read. -/
structure Progress where
  options : RunOptions := {}
  /-- The options that were given. -/
  given : List String := []
  /-- An option that waits for its value or to be settled. -/
  pending : Option (ValueOption × Option String) := none
deriving DecidableEq, Repr

namespace Progress

/-- Note that an option is given; it is given only once. -/
def note (p : Progress) (option : String) : Except UsageError Progress :=
  if option ∈ p.given then .error (.repeated option)
  else .ok { p with given := option :: p.given }

/-- Give an option its value. -/
def give (p : Progress) (o : ValueOption) (value : String) : Except UsageError Progress := do
  let p ← p.note o.word
  return { p with options := ← assign p.options o value }

/-- Settle the option that waits. -/
def settle (p : Progress) : Except UsageError Progress :=
  match p.pending with
  | none => .ok p
  | some (o, none) => .error (.missingValue o.word)
  | some (o, some value) => ({ p with pending := none }).give o value

end Progress

/-- An option of two dashes among the words of `run`. -/
def readLong (p : Progress) (name : String) (value : Option String) :
    Except UsageError Progress :=
  match ValueOption.all.find? (·.word == name), value with
  | some o, some value => do (← p.settle).give o value
  | some o, none => do return { ← p.settle with pending := some (o, none) }
  | none, value =>
    if name = leaderElectWord then
      match value with
      | some _ => .error (.unexpectedValue name)
      | none => do
        let p ← (← p.settle).note name
        return { p with options := { p.options with leaderElect := true } }
    else if name = "help" then
      match value with
      | some _ => .error (.unexpectedValue name)
      | none => do
        let _ ← p.settle
        .error .displayHelp
    else .error (.unknownArgument s!"--{name}")

/-- The words after `run`. -/
def readRun (p : Progress) : List String → Except UsageError RunOptions
  | [] => do return (← p.settle).options
  | word :: rest =>
    match Word.of word with
    | .stop =>
      match rest with
      | [] => do return (← p.settle).options
      | stray :: _ => .error (.unknownArgument stray)
    | .long name value =>
      match readLong p name value with
      | .ok p => readRun p rest
      | .error e => .error e
    | .short 'h' =>
      match p.settle with
      | .ok _ => .error .displayHelp
      | .error e => .error e
    | .short _ => .error (.unknownArgument word)
    | .plain text =>
      match p.pending with
      | some (o, none) => readRun { p with pending := some (o, some text) } rest
      | _ => .error (.unknownArgument text)

/-- The words after `crd`, which has no options. -/
def readCrd : List String → Except UsageError Unit
  | [] => .ok ()
  | word :: rest =>
    match Word.of word with
    | .stop =>
      match rest with
      | [] => .ok ()
      | stray :: _ => .error (.unknownArgument stray)
    | .long "help" (some _) => .error (.unexpectedValue "help")
    | .long "help" none | .short 'h' => .error .displayHelp
    | _ => .error (.unknownArgument word)

/-! ## §5. The whole command line -/

/-- The words that start a command. -/
def commandWords : List String := ["run", "crd", "help"]

/-- What follows `help`: nothing, or the command that help is wanted on. -/
def readHelp : List String → UsageError
  | [] => .displayHelp
  | [word] => if word ∈ commandWords then .displayHelp else .invalidCommand word
  | word :: next :: _ =>
    if word ∈ commandWords then .invalidCommand next else .invalidCommand word

/-- The command that the words ask for. -/
def read : List String → Except UsageError Command
  | [] => .error .missingCommand
  | word :: rest =>
    match Word.of word with
    | .stop =>
      match rest with
      | [] => .error .missingCommand
      | stray :: _ =>
        if stray ∈ commandWords then .error (.unknownArgument stray)
        else .error (.invalidCommand stray)
    | .long "help" none | .short 'h' => .error .displayHelp
    | .long "version" none | .short 'V' => .error .displayVersion
    | .long "help" (some _) => .error (.unexpectedValue "help")
    | .long "version" (some _) => .error (.unexpectedValue "version")
    | .long .. | .short _ => .error (.unknownArgument word)
    | .plain "run" => (readRun {} rest).map .run
    | .plain "crd" => (readCrd rest).map fun () => .crd
    | .plain "help" => .error (readHelp rest)
    | .plain text => .error (.invalidCommand text)

end CommandLine

end LoggingOperator
