/-
  LoggingOperator.Convergence.Difference — COUNTING DIFFERENCES.

  Before an update the differences between two objects are counted for the
  log: fields and items only in the target, values that changed, and fields
  and items only in the base.  A field that is only on one side counts once,
  whatever it holds.
-/
import LoggingOperator.Json.Basic

namespace LoggingOperator

/-- How many leaves were added, changed and removed. -/
structure Difference where
  adds : Nat := 0
  updates : Nat := 0
  removes : Nat := 0
deriving DecidableEq, Repr

namespace Difference

instance : Add Difference :=
  ⟨fun a b => ⟨a.adds + b.adds, a.updates + b.updates, a.removes + b.removes⟩⟩

/-- No difference at all. -/
def none : Difference := {}

/-- How many places of two lists hold different items. -/
def changedItems : List Json → List Json → Nat
  | x :: xs, y :: ys => (if x == y then 0 else 1) + changedItems xs ys
  | _, _ => 0

mutual

/-- The differences between a target and a base. -/
def between (target base : Json) : Difference :=
  match target, base with
  | .object t, .object b =>
    betweenFields t b + { removes := (b.filter fun f => !Keyed.has f.1 t).length }
  | .array t, .array b =>
    { adds := t.length - b.length, updates := changedItems t b, removes := b.length - t.length }
  | t, b => if t == b then none else { updates := 1 }

/-- The differences in the fields of the target. -/
def betweenFields (target base : List (String × Json)) : Difference :=
  match target with
  | [] => none
  | (k, t) :: rest =>
    (match Keyed.get? k base with
      | some b => if t == b then none else between t b
      | Option.none => { adds := 1 })
      + betweenFields rest base

end

end Difference

end LoggingOperator
