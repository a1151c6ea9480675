/-
  LoggingOperator.Manifest.Password — GENERATED PASSWORDS.

  A generated password is sixteen letters and digits, each chosen by one draw
  from a source of chance.
-/

namespace LoggingOperator.Manifest.Password

/-- The characters of a password. -/
def alphabet : List Char :=
  "ABCDEFGHIJKLMNOPQRSTUVWXYZabcdefghijklmnopqrstuvwxyz0123456789".toList

/-- How many characters a password has. -/
def length : Nat := 16

/-- The password that a sequence of draws gives. -/
def ofDraws (draw : Nat → Nat) : String :=
  String.ofList ((List.range length).map fun i => alphabet.getD (draw i % alphabet.length) 'A')

end LoggingOperator.Manifest.Password
