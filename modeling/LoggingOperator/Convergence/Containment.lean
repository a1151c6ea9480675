/-
  LoggingOperator.Convergence.Containment — IS WHAT WAS DECLARED STORED?

  A stored object is in sync if it holds every declared field with an equal
  value (`contains`).  Fields that only the stored object has are defaults of
  the server and never count, and a declared zero value matches a field that
  is absent, because the server drops such fields.

  A field that was declared at the last write and no longer is has to be
  removed, though containment cannot see it (`dropped`).
-/
import LoggingOperator.Json.Basic

namespace LoggingOperator

namespace Json

/-- Values that the server drops on the way in. -/
def isZero : Json → Bool
  | .null => true
  | .bool b => !b
  | .number n => n.isZero
  | .string s => s == ""
  | .array items => items.isEmpty
  | .object fields => fields.isEmpty

mutual

/-- Every field set in `desired` is stored with an equal value.  Arrays are
    compared item by item and must have the same length. -/
def contains (stored desired : Json) : Bool :=
  match desired, stored with
  | .object d, .object s => containsFields s d
  | .array d, .array s => containsItems s d
  | d, .null => d.isZero
  | .null, _ => true
  | d, s => d == s

/-- Containment item by item. -/
def containsItems (stored desired : List Json) : Bool :=
  match desired, stored with
  | [], [] => true
  | d :: ds, s :: ss => contains s d && containsItems ss ds
  | _, _ => false

/-- Containment of every desired field. -/
def containsFields (stored desired : List (String × Json)) : Bool :=
  match desired with
  | [] => true
  | (k, d) :: ds =>
    (match Keyed.get? k stored with
      | some s => contains s d
      | none => d.isZero)
      && containsFields stored ds

end

mutual

/-- A field of the last written object is gone from the desired one and is
    still stored. -/
def dropped (last desired stored : Json) : Bool :=
  match last, desired, stored with
  | .object l, .object d, .object s => droppedFields l d s
  | _, _, _ => false

/-- One of the last written fields was dropped, or something inside it. -/
def droppedFields (last desired stored : List (String × Json)) : Bool :=
  match last with
  | [] => false
  | (k, l) :: ls =>
    (match Keyed.get? k desired, Keyed.get? k stored with
      | none, some s => !s.isZero
      | some d, some s => dropped l d s
      | _, none => false)
      || droppedFields ls desired stored

end

end Json

end LoggingOperator
